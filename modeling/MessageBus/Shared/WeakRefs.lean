import Mathlib.Data.List.Basic
import Mathlib.Data.List.Nodup
import Mathlib.Logic.Function.Basic

set_option autoImplicit false

namespace WeakRefs

variable {Ref Object : Type}

def live (lock : Ref -> Option Object) (refs : List Ref) : List Object := refs.filterMap lock

variable {lock : Ref -> Option Object} {refs : List Ref}

theorem mem_live {object : Object} : object ∈ live lock refs ↔ ∃ ref ∈ refs, lock ref = some object :=
  List.mem_filterMap

theorem live_append (refs others : List Ref) :
    live lock (refs ++ others) = live lock refs ++ live lock others :=
  List.filterMap_append

theorem live_cons (ref : Ref) (refs : List Ref) :
    live lock (ref :: refs) = (lock ref).toList ++ live lock refs := by
  rw [live, List.filterMap_cons]
  cases lock ref <;> rfl

-- Taking out what has expired changes nothing.
theorem live_filter (refs : List Ref) :
    live lock (refs.filter fun ref => (lock ref).isSome) = live lock refs := by
  rw [live, live, List.filterMap_filter]
  congr 1
  funext ref
  cases lock ref <;> rfl

theorem live_sublist {made : Ref -> Object} (own : ∀ ref object, lock ref = some object → made ref = object)
    (refs : List Ref) : (live lock refs).Sublist (refs.map made) := by
  induction refs with
  | nil => exact List.nil_sublist _
  | cons ref rest ih =>
    rw [live_cons, List.map_cons]
    cases found : lock ref with
    | none => exact ih.cons _
    | some object =>
      rw [own ref object found]
      exact ih.cons_cons _

section Erase

variable [DecidableEq Object]

theorem live_erase_expired : live lock (refs.eraseP fun ref => lock ref == none) = live lock refs := by
  induction refs with
  | nil => rfl
  | cons ref rest ih =>
    cases expired : lock ref with
    | none => simp [live_cons, expired]
    | some object =>
      rw [List.eraseP_cons_of_neg (by simp [expired]), live_cons, live_cons, ih]

theorem live_erase {object : Object} (nodup : (live lock refs).Nodup) :
    live lock (refs.eraseP fun ref => lock ref == some object) =
      (live lock refs).filter (· ≠ object) := by
  induction refs with
  | nil => rfl
  | cons ref rest ih =>
    rw [live_cons] at nodup ⊢
    have restNodup := (List.nodup_append.mp nodup).2.1
    by_cases same : lock ref = some object
    · have once : object ∉ live lock rest := by
        rw [same] at nodup
        exact (List.nodup_cons.mp nodup).1
      have others : (live lock rest).filter (· ≠ object) = live lock rest := by
        rw [List.filter_eq_self]
        rintro other member
        simpa using fun equal : other = object => once (equal ▸ member)
      rw [List.filter_append, others, List.eraseP_cons_of_pos (by simp [same]), same]
      simp
    · rw [List.eraseP_cons_of_neg (by simpa using same), live_cons, ih restNodup,
        List.filter_append]
      congr 1
      cases found : lock ref with
      | none => rfl
      | some other =>
        have different : other ≠ object := fun equal => same (equal ▸ found)
        simp [different]

theorem live_death {after : Ref -> Option Object} {object : Object}
    (dies : ∀ ref ∈ refs, after ref = if lock ref = some object then none else lock ref) :
    live after refs = (live lock refs).filter (· ≠ object) := by
  induction refs with
  | nil => rfl
  | cons ref rest ih =>
    rw [live_cons, live_cons, List.filter_append, ih fun other member => dies other (.tail _ member),
      dies ref List.mem_cons_self]
    congr 1
    cases found : lock ref with
    | none => simp
    | some other =>
      by_cases same : other = object <;> simp [same]

end Erase

theorem live_congr {after : Ref -> Option Object} (same : ∀ ref ∈ refs, after ref = lock ref) :
    live after refs = live lock refs :=
  List.filterMap_congr same

end WeakRefs
