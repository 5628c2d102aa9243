import MessageBus.Shared.Transition

set_option autoImplicit false

namespace Reservations

inductive Status where
  | underWay
  -- The holder has gone and leaves the entry to whoever answers it.
  | handedOver
  | ended
  deriving DecidableEq, Repr

structure Reservation (Id Ref : Type) where
  id : Id
  ref : Ref
  status : Status
  deriving DecidableEq, Repr

structure Desk (Id Ref : Type) where
  table : Id -> Option Ref
  reservations : List (Reservation Id Ref)

variable {Id Ref : Type} {desk following : Desk Id Ref} {gone later : Set Ref}
  {takes : Id -> Ref -> Prop}

namespace Desk

structure Free (desk : Desk Id Ref) (id : Id) : Prop where
  entry : desk.table id = none
  holders : ∀ held ∈ desk.reservations, held.status = .underWay → held.id ≠ id

structure Sound (desk : Desk Id Ref) (gone : Set Ref) : Prop where
  held : ∀ (id : Id) (ref : Ref), desk.table id = some ref →
    ref ∉ gone ∧ ∃ held ∈ desk.reservations, held.ref = ref
  place : ∀ held ∈ desk.reservations, ∀ id, desk.table id = some held.ref → id = held.id
  own : ∀ held ∈ desk.reservations, held.status = .underWay →
    ∀ ref, desk.table held.id = some ref → ref = held.ref
  ended : ∀ held ∈ desk.reservations, held.status = .ended → ∀ id, desk.table id ≠ some held.ref

end Desk

-- What a step can do at a desk; `takes` are the entries that it may take out.
inductive Move [DecidableEq Id] (desk : Desk Id Ref) (gone : Set Ref) (takes : Id -> Ref -> Prop) :
    Desk Id Ref -> Set Ref -> Prop where
  | stay : Move desk gone takes desk gone
  | reserve (id : Id) (ref : Ref) (free : desk.Free id) (unanswered : ref ∉ gone)
      (new : ∀ held ∈ desk.reservations, held.ref ≠ ref) :
      Move desk gone takes
        { table := Function.update desk.table id (some ref)
          reservations := desk.reservations ++ [⟨id, ref, .underWay⟩] } gone
  | answer (id : Id) (ref : Ref) (there : desk.table id = some ref) (meant : takes id ref) :
      Move desk gone takes
        { desk with table := Function.update desk.table id none } (insert ref gone)
  | clear (bad : Ref -> Bool) (meant : ∀ id ref, bad ref = true → takes id ref) :
      Move desk gone takes
        { desk with table := fun id => (desk.table id).filter fun ref => !bad ref } gone
  | withdraw (index : Nat) (held : Reservation Id Ref) (status : Status)
      (there : desk.reservations[index]? = some held) (underWay : held.status = .underWay)
      (meant : takes held.id held.ref) :
      Move desk gone takes
        { table := Function.update desk.table held.id none
          reservations := desk.reservations.set index { held with status } } gone
  -- Whoever ends without a withdrawal has had an answer.
  | leave (index : Nat) (held : Reservation Id Ref) (status : Status)
      (there : desk.reservations[index]? = some held) (underWay : held.status = .underWay)
      (clean : status = .ended → desk.table held.id = none ∨ held.ref ∈ gone) :
      Move desk gone takes
        { desk with reservations := desk.reservations.set index { held with status } } gone

namespace Desk

theorem Sound.shrink (sound : desk.Sound gone) {table : Id -> Option Ref}
    (within : ∀ (id : Id) (ref : Ref), table id = some ref → desk.table id = some ref) :
    Sound { desk with table } gone where
  held id ref there := sound.held id ref (within id ref there)
  place held member id there := sound.place held member id (within id _ there)
  own held member underWay ref there := sound.own held member underWay ref (within _ ref there)
  ended held member ended id there := sound.ended held member ended id (within id _ there)

theorem Sound.answered (sound : desk.Sound gone) {ref : Ref}
    (out : ∀ id, desk.table id ≠ some ref) : desk.Sound (insert ref gone) where
  held id other there := by
    refine ⟨?_, (sound.held id other there).2⟩
    rintro (rfl | before)
    · exact out id there
    · exact (sound.held id other there).1 before
  place := sound.place
  own := sound.own
  ended := sound.ended

theorem Sound.settle (sound : desk.Sound gone) {index : Nat} {held : Reservation Id Ref}
    (there : desk.reservations[index]? = some held) (underWay : held.status = .underWay)
    (status : Status) (clean : status = .ended → desk.table held.id = none) :
    Sound { desk with reservations := desk.reservations.set index { held with status } } gone := by
  have member := List.mem_of_getElem? there
  have changed {property : Reservation Id Ref → Prop} (self : property { held with status })
      (others : ∀ other ∈ desk.reservations, property other) :
      ∀ other ∈ desk.reservations.set index { held with status }, property other := by
    intro other inside
    rcases List.mem_or_eq_of_mem_set inside with older | rfl
    · exact others other older
    · exact self
  refine ⟨?_, changed (sound.place held member) sound.place,
    changed (fun _ => sound.own held member underWay) sound.own, changed ?_ sound.ended⟩
  · intro id ref entry
    obtain ⟨unanswered, other, inside, same⟩ := sound.held id ref entry
    refine ⟨unanswered, ?_⟩
    obtain ⟨position, found⟩ := List.mem_iff_getElem?.mp inside
    by_cases here : position = index
    · rw [here, there] at found
      cases found
      exact ⟨{ held with status }, List.mem_set (List.getElem?_eq_some_iff.mp there).1 _, same⟩
    · exact ⟨other, List.mem_of_getElem? ((List.getElem?_set_ne (Ne.symm here)).trans found), same⟩
  · intro ended id entry
    have none := clean ended
    rw [← sound.place held member id entry, entry] at none
    cases none

end Desk

namespace Move

variable [DecidableEq Id]

theorem sound (before : desk.Sound gone) (move : Move desk gone takes following later) :
    following.Sound later := by
  cases move with
  | stay => exact before
  | reserve id ref free unanswered new =>
    have old (held : Reservation Id Ref) (member : held ∈ desk.reservations) (other : Id)
        (there : Function.update desk.table id (some ref) other = some held.ref) :
        desk.table other = some held.ref := by
      rw [Function.update_apply] at there
      split at there
      · exact absurd (Option.some.inj there).symm (new held member)
      · exact there
    have unknown (other : Id) : desk.table other ≠ some ref := by
      intro entry
      obtain ⟨_, held, member, same⟩ := before.held other ref entry
      exact new held member same
    refine ⟨?_, ?_, ?_, ?_⟩
    · intro other entry there
      simp only [Function.update_apply] at there
      split at there
      · cases there
        exact ⟨unanswered, _, List.mem_append_right _ (List.mem_singleton_self _), rfl⟩
      · obtain ⟨still, held, member, same⟩ := before.held other entry there
        exact ⟨still, held, List.mem_append_left _ member, same⟩
    · simp only [List.forall_mem_append, List.forall_mem_singleton]
      refine ⟨fun held member other there => before.place held member other
        (old held member other there), fun other there => ?_⟩
      by_contra different
      rw [Function.update_of_ne different] at there
      exact unknown other there
    · simp only [List.forall_mem_append, List.forall_mem_singleton]
      refine ⟨fun held member underWay other there => ?_, fun _ other there => ?_⟩
      · rw [Function.update_of_ne (free.holders held member underWay)] at there
        exact before.own held member underWay other there
      · rw [Function.update_self] at there
        exact (Option.some.inj there).symm
    · simp only [List.forall_mem_append, List.forall_mem_singleton, reduceCtorEq, false_implies,
        and_true]
      exact fun held member ended other there =>
        before.ended held member ended other (old held member other there)
  | answer id ref there meant =>
    have erased : ∀ other entry, Function.update desk.table id none other = some entry →
        other ≠ id ∧ desk.table other = some entry := by
      intro other entry found
      rw [Function.update_apply] at found
      split at found
      · cases found
      · exact ⟨‹_›, found⟩
    apply (before.shrink fun other entry found => (erased other entry found).2).answered
    intro other found
    obtain ⟨different, found⟩ := erased other ref found
    obtain ⟨_, held, member, rfl⟩ := before.held id ref there
    exact different ((before.place held member other found).trans
      (before.place held member id there).symm)
  | clear bad meant =>
    exact before.shrink fun id ref there => (Option.filter_eq_some_iff.mp there).1
  | withdraw index held status there underWay meant =>
    have smaller : Desk.Sound { desk with table := Function.update desk.table held.id none } gone := by
      refine before.shrink fun id ref found => ?_
      rw [Function.update_apply] at found
      split at found
      · cases found
      · exact found
    exact smaller.settle there underWay status fun _ => Function.update_self ..
  | leave index held status there underWay clean =>
    refine before.settle there underWay status fun ended => ?_
    rcases clean ended with none | answered
    · exact none
    · refine Option.eq_none_iff_forall_ne_some.mpr fun ref entry => ?_
      have own := before.own held (List.mem_of_getElem? there) underWay ref entry
      exact (before.held held.id ref entry).1 (own ▸ answered)

theorem spared (before : desk.Sound gone) (move : Move desk gone takes following later) {id : Id}
    {ref : Ref} (there : desk.table id = some ref) (untaken : ¬ takes id ref) :
    following.table id = some ref := by
  cases move with
  | stay | leave => exact there
  | reserve new _ free =>
    refine (Function.update_of_ne ?_ ..).trans there
    rintro rfl
    exact absurd (there.symm.trans free.entry) (by simp)
  | answer taken entry found meant =>
    refine (Function.update_of_ne ?_ ..).trans there
    rintro rfl
    cases there.symm.trans found
    exact untaken meant
  | clear bad meant =>
    refine Option.filter_eq_some_iff.mpr ⟨there, ?_⟩
    simpa using mt (meant id ref) untaken
  | withdraw index held status found underWay meant =>
    refine (Function.update_of_ne ?_ ..).trans there
    rintro rfl
    have own := before.own held (List.mem_of_getElem? found) underWay ref there
    exact untaken (own ▸ meant)

theorem begun (move : Move desk gone takes following later) {index : Nat}
    {held : Reservation Id Ref} (new : desk.reservations[index]? = none)
    (there : following.reservations[index]? = some held) : following.table held.id = some held.ref := by
  cases move with
  | stay | answer | clear => exact absurd (new.symm.trans there) (by simp)
  | reserve id ref =>
    rcases Transition.found_in_concat there with older | ⟨_, rfl⟩
    · exact absurd (new.symm.trans older) (by simp)
    · exact Function.update_self ..
  | withdraw position other _ found | leave position other _ found =>
    rcases Transition.found_in_set there with ⟨rfl, _⟩ | older
    · exact absurd (new.symm.trans found) (by simp)
    · exact absurd (new.symm.trans older.2) (by simp)

theorem returned (before : desk.Sound gone) (move : Move desk gone takes following later)
    {index : Nat} {held after : Reservation Id Ref} (there : desk.reservations[index]? = some held)
    (underWay : held.status = .underWay) (found : following.reservations[index]? = some after)
    (ended : after.status = .ended) : following.table after.id = none := by
  have unchanged (same : desk.reservations[index]? = some after) : following.table after.id = none := by
    cases there.symm.trans same
    cases underWay.symm.trans ended
  have inside := (List.getElem?_eq_some_iff.mp there).1
  cases move with
  | stay | answer | clear => exact unchanged found
  | reserve =>
    rw [List.getElem?_append_left inside] at found
    exact unchanged found
  | withdraw position other status =>
    rcases Transition.found_in_set found with ⟨rfl, rfl⟩ | older
    · exact Function.update_self ..
    · exact unchanged older.2
  | leave position other status present otherUnderWay clean =>
    rcases Transition.found_in_set found with ⟨rfl, rfl⟩ | older
    · rcases clean ended with none | answered
      · exact none
      · refine Option.eq_none_iff_forall_ne_some.mpr fun ref entry => ?_
        have own := before.own other (List.mem_of_getElem? present) otherUnderWay ref entry
        exact (before.held other.id ref entry).1 (own ▸ answered)
    · exact unchanged older.2

end Move

section Runs

variable {State Event : Type} [DecidableEq Id]

structure LeavesNothing (step : State -> Event -> Option State) (ok : State -> Event -> Bool)
    (desk : State -> Desk Id Ref) (takes : State -> Event -> Id -> Ref -> Prop) (state : State) :
    Prop where
  begun : ∀ (event : Event) (following : State) (index : Nat) (held : Reservation Id Ref),
    ok state event = true → step state event = some following →
      (desk state).reservations[index]? = none →
        (desk following).reservations[index]? = some held →
          (desk following).table held.id = some held.ref
  returned : ∀ (event : Event) (following : State) (index : Nat) (held after : Reservation Id Ref),
    ok state event = true → step state event = some following →
      (desk state).reservations[index]? = some held → held.status = .underWay →
        (desk following).reservations[index]? = some after → after.status = .ended →
          (desk following).table after.id = none
  nothingLeft : ∀ held ∈ (desk state).reservations, held.status = .ended →
    ∀ id, (desk state).table id ≠ some held.ref
  othersKept : ∀ (events : List Event) (final : State) (id : Id) (ref : Ref),
    Transition.run (Transition.checkedStep step (ok · · = true)) state events = some final →
      Transition.Never step (fun before event => takes before event id ref) state events →
        (desk state).table id = some ref → (desk final).table id = some ref

variable {step : State -> Event -> Option State} {ok : State -> Event -> Bool} {initial : State}
  {view : State -> Desk Id Ref} {takesOut : State -> Event -> Id -> Ref -> Prop}
  {related : State -> Set Ref -> Prop}

theorem leavesNothing_of_moves (start : related initial ∅) (sound : (view initial).Sound ∅)
    (moves : ∀ state gone event following, related state gone → (view state).Sound gone →
      ok state event = true → step state event = some following → ∃ later, related following later ∧
        Move (view state) gone (takesOut state event) (view following) later)
    {state : State} (reached : Transition.ReachableWhen step (ok · · = true) initial state) :
    LeavesNothing step ok view takesOut state := by
  have holds : ∃ gone, related state gone ∧ (view state).Sound gone := by
    refine reached.invariant (fun state => ∃ gone, related state gone ∧ (view state).Sound gone)
      ⟨∅, start, sound⟩ ?_
    rintro before event following ⟨gone, relation, earlier⟩ meets taken
    obtain ⟨later, after, move⟩ := moves before gone event following relation earlier meets taken
    exact ⟨later, after, move.sound earlier⟩
  obtain ⟨gone, relation, earlier⟩ := holds
  refine ⟨?_, ?_, earlier.ended, ?_⟩
  · intro event following index held meets taken new there
    obtain ⟨later, _, move⟩ := moves state gone event following relation earlier meets taken
    exact move.begun new there
  · intro event following index held after meets taken there underWay found ended
    obtain ⟨later, _, move⟩ := moves state gone event following relation earlier meets taken
    exact move.returned earlier there underWay found ended
  · intro events final id ref ran never there
    clear reached
    induction events generalizing state gone with
    | nil =>
      simp only [Transition.run, Option.some.injEq] at ran
      exact ran ▸ there
    | cons event rest ih =>
      simp only [Transition.run, Option.bind_eq_some_iff, Transition.checkedStep] at ran
      obtain ⟨following, taken, ran⟩ := ran
      split at taken
      next meets =>
        obtain ⟨later, after, move⟩ := moves state gone event following relation earlier meets taken
        exact ih later after (move.sound earlier) ran (never.2 following taken)
          (move.spared earlier there never.1)
      next => cases taken

end Runs

end Reservations
