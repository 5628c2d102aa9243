import Mathlib

set_option autoImplicit false

namespace CyclicIds

-- Ids are taken from 1 to a period and start again at 1; 0 is never one of them.
def next (period current : Nat) : Nat := if current < period then current + 1 else 1

def after (period : Nat) : Nat -> Nat
  | 0 => 0
  | created + 1 => created % period + 1

theorem next_after (period created : Nat) (positive : 0 < period) :
    next period (after period created) = after period (created + 1) := by
  cases created with
  | zero => simp [next, after, positive]
  | succ created =>
    have step := Nat.mod_add_mod created period 1
    by_cases full : created % period + 1 < period
    · rw [Nat.mod_eq_of_lt full] at step
      simp [next, after, full, ← step]
    · have last : created % period + 1 = period := by
        have := Nat.mod_lt created positive
        omega
      rw [last, Nat.mod_self] at step
      simp [next, after, last, ← step]

-- A counter and a table whose entries are numbered by their creation.
structure Tracks {Id : Type} (period : Nat) (code : Id -> Nat) (counter created : Nat)
    (table : Id -> Option Nat) : Prop where
  counted : counter = after period created
  entries : ∀ id serial, table id = some serial →
    serial < created ∧ code id = serial % period + 1

variable {Id : Type} {period : Nat} {code : Id -> Nat} {counter created : Nat}
  {table : Id -> Option Nat}

theorem Tracks.initial : Tracks period code 0 0 (fun _ => none) :=
  ⟨rfl, fun _ _ found => by cases found⟩

theorem Tracks.shrink (tracks : Tracks period code counter created table)
    {smaller : Id -> Option Nat}
    (within : ∀ id serial, smaller id = some serial → table id = some serial) :
    Tracks period code counter created smaller :=
  ⟨tracks.counted, fun id serial found => tracks.entries id serial (within id serial found)⟩

theorem Tracks.create (tracks : Tracks period code counter created table) (positive : 0 < period)
    {newId : Id} (allocated : code newId = next period counter) {larger : Id -> Option Nat}
    (within : ∀ id serial, larger id = some serial →
      table id = some serial ∨ id = newId ∧ serial = created) :
    Tracks period code (next period counter) (created + 1) larger := by
  refine ⟨?_, ?_⟩
  · rw [tracks.counted, next_after period created positive]
  · intro id serial found
    rcases within id serial found with older | ⟨rfl, rfl⟩
    · have known := tracks.entries id serial older
      exact ⟨Nat.lt_succ_of_lt known.1, known.2⟩
    · refine ⟨Nat.lt_succ_self serial, ?_⟩
      rw [allocated, tracks.counted, next_after period serial positive, after]

theorem Tracks.free_iff (tracks : Tracks period code counter created table) (positive : 0 < period)
    (injective : Function.Injective code) {newId : Id}
    (allocated : code newId = next period counter) :
    table newId = none ↔ ∀ id serial, table id = some serial → ¬ period ∣ created - serial := by
  have position : code newId = created % period + 1 := by
    rw [allocated, tracks.counted, next_after period created positive, after]
  constructor
  · intro free id serial found divides
    have known := tracks.entries id serial found
    have congruent : created % period = serial % period :=
      ((Nat.modEq_iff_dvd' (Nat.le_of_lt known.1)).mpr divides).symm
    have same : newId = id := injective (by rw [position, known.2, congruent])
    rw [same, found] at free
    cases free
  · intro apart
    cases found : table newId with
    | none => rfl
    | some serial =>
      have known := tracks.entries newId serial found
      have congruent : serial % period = created % period := by omega
      exact absurd ((Nat.modEq_iff_dvd' (Nat.le_of_lt known.1)).mp congruent)
        (apart newId serial found)

theorem Tracks.free_of_few (tracks : Tracks period code counter created table)
    (positive : 0 < period) (injective : Function.Injective code) {newId : Id}
    (allocated : code newId = next period counter) (few : created < period) :
    table newId = none := by
  refine (tracks.free_iff positive injective allocated).mpr ?_
  intro id serial found divides
  have known := tracks.entries id serial found
  have := Nat.le_of_dvd (by omega) divides
  omega

end CyclicIds
