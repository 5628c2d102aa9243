import Mathlib.Data.Set.Insert
import Mathlib.Logic.Function.Basic

set_option autoImplicit false

structure Account (Owner Resource : Type) where
  used : Set Resource
  holds : Owner -> Option Resource

namespace Account

variable {Owner Resource : Type} {account following : Account Owner Resource}

def Apart (account : Account Owner Resource) : Prop :=
  ∀ (owner other : Owner) (resource : Resource),
    account.holds owner = some resource → account.holds other = some resource → owner = other

structure Sound (account : Account Owner Resource) : Prop where
  used : ∀ (owner : Owner) (resource : Resource),
    account.holds owner = some resource → resource ∈ account.used
  apart : account.Apart

-- Nothing is in use but what the owners hold, each its own.
structure Balanced (account : Account Owner Resource) : Prop where
  used_iff : ∀ resource, resource ∈ account.used ↔ ∃ owner, account.holds owner = some resource
  apart : account.Apart

def Lost (account : Account Owner Resource) (resource : Resource) : Prop :=
  resource ∈ account.used ∧ ∀ owner, account.holds owner ≠ some resource

theorem Balanced.sound (balanced : account.Balanced) : account.Sound :=
  ⟨fun owner resource held => (balanced.used_iff resource).mpr ⟨owner, held⟩, balanced.apart⟩

theorem Sound.balanced_iff (sound : account.Sound) :
    account.Balanced ↔ ∀ resource, ¬ account.Lost resource := by
  constructor
  · rintro balanced resource ⟨used, unheld⟩
    obtain ⟨owner, held⟩ := (balanced.used_iff resource).mp used
    exact unheld owner held
  · intro none
    refine ⟨fun resource => ⟨fun used => ?_, ?_⟩, sound.apart⟩
    · by_contra unheld
      exact none resource ⟨used, fun owner held => unheld ⟨owner, held⟩⟩
    · rintro ⟨owner, held⟩
      exact sound.used owner resource held

variable [DecidableEq Owner]

-- What can happen to an account. Only the proper moves give back what an owner lets go.
inductive Move (account following : Account Owner Resource) : Bool -> Prop where
  | stay (used : following.used = account.used)
      (holds : ∀ owner, following.holds owner = account.holds owner) : Move account following true
  | acquire (owner : Owner) (resource : Resource) (free : resource ∉ account.used)
      (used : following.used = insert resource account.used)
      (empty : account.holds owner = none)
      (holds : following.holds = Function.update account.holds owner (some resource)) :
      Move account following true
  -- A resource is taken and no owner holds it.
  | strand (resource : Resource) (free : resource ∉ account.used)
      (used : following.used = insert resource account.used)
      (holds : ∀ owner, following.holds owner = account.holds owner) : Move account following false
  -- An owner lets go of what it holds, which stays in use.
  | abandon (owner : Owner) (resource : Resource) (held : account.holds owner = some resource)
      (used : following.used = account.used)
      (holds : following.holds = Function.update account.holds owner none) :
      Move account following false

theorem Move.sound {proper : Bool} (move : Move account following proper) (sound : account.Sound) :
    following.Sound := by
  cases move with
  | stay used holds =>
    have same : following = account := by
      cases account
      cases following
      exact congrArg₂ Account.mk used (funext holds)
    exact same ▸ sound
  | strand resource free used holds =>
    refine ⟨?_, ?_⟩
    · intro owner held there
      rw [used]
      exact .inr (sound.used owner held (holds owner ▸ there))
    · intro owner other held there elsewhere
      exact sound.apart owner other held (holds owner ▸ there) (holds other ▸ elsewhere)
  | abandon owner resource held used holds =>
    have kept {someone : Owner} {found : Resource} (there : following.holds someone = some found) :
        account.holds someone = some found := by
      rw [holds, Function.update_apply] at there
      split at there
      · cases there
      · exact there
    exact ⟨fun someone found there => used ▸ sound.used someone found (kept there),
      fun someone other found there elsewhere =>
        sound.apart someone other found (kept there) (kept elsewhere)⟩
  | acquire owner resource free used empty holds =>
    have held {someone : Owner} {found : Resource} (there : following.holds someone = some found) :
        (someone = owner ∧ found = resource) ∨ account.holds someone = some found := by
      rw [holds, Function.update_apply] at there
      split at there
      next same => exact .inl ⟨same, (Option.some.inj there).symm⟩
      next => exact .inr there
    refine ⟨?_, ?_⟩
    · intro someone found there
      rw [used]
      exact (held there).imp (fun new => new.2) fun older => sound.used someone found older
    · intro someone other found there elsewhere
      rcases held there with ⟨rfl, rfl⟩ | older <;> rcases held elsewhere with ⟨rfl, new⟩ | known
      · rfl
      · exact absurd (sound.used other found known) free
      · exact absurd (sound.used someone found older) (new ▸ free)
      · exact sound.apart someone other found older known

theorem Move.balanced (move : Move account following true) (balanced : account.Balanced) :
    following.Balanced := by
  refine ⟨fun found => ?_, (move.sound balanced.sound).apart⟩
  cases move with
  | stay used holds =>
    rw [used, balanced.used_iff]
    exact exists_congr fun owner => by rw [holds owner]
  | acquire owner resource free used empty holds =>
    rw [used, holds, Set.mem_insert_iff, balanced.used_iff]
    constructor
    · rintro (rfl | ⟨someone, older⟩)
      · exact ⟨owner, Function.update_self ..⟩
      · refine ⟨someone, ?_⟩
        rw [Function.update_of_ne]
        · exact older
        · rintro rfl
          rw [empty] at older
          cases older
    · rintro ⟨someone, there⟩
      rw [Function.update_apply] at there
      split at there
      · exact .inl (Option.some.inj there).symm
      · exact .inr ⟨someone, there⟩

theorem Move.lasting {proper : Bool} (move : Move account following proper) {resource : Resource}
    (lost : account.Lost resource) : following.Lost resource := by
  obtain ⟨used, unheld⟩ := lost
  cases move with
  | stay same holds => exact ⟨same ▸ used, fun owner => holds owner ▸ unheld owner⟩
  | strand taken free more holds =>
    exact ⟨more ▸ .inr used, fun owner => holds owner ▸ unheld owner⟩
  | abandon owner held there same holds =>
    refine ⟨same ▸ used, fun someone found => ?_⟩
    rw [holds, Function.update_apply] at found
    split at found
    · cases found
    · exact unheld someone found
  | acquire owner taken free more empty holds =>
    refine ⟨more ▸ .inr used, fun someone found => ?_⟩
    rw [holds, Function.update_apply] at found
    split at found
    · exact free (Option.some.inj found ▸ used)
    · exact unheld someone found

theorem Move.loses (move : Move account following false) (sound : account.Sound) :
    ∃ resource, following.Lost resource := by
  cases move with
  | strand resource free used holds =>
    refine ⟨resource, used ▸ Set.mem_insert _ _, fun owner held => free ?_⟩
    exact sound.used owner resource (holds owner ▸ held)
  | abandon owner resource held used holds =>
    refine ⟨resource, used ▸ sound.used owner resource held, fun someone there => ?_⟩
    rw [holds, Function.update_apply] at there
    split at there
    · cases there
    next other => exact other (sound.apart someone owner resource there held)

end Account
