import Mathlib.Order.Basic

set_option autoImplicit false

-- std::map as the list of its entries in the order of their keys.
namespace OrderedMap

def Sorted {κ α : Type} [LT κ] (entries : List (κ × α)) : Prop := entries.Pairwise (·.1 < ·.1)

section Lookup

variable {κ α : Type} [BEq κ] [LawfulBEq κ]

theorem lookup_cons_ne {key first : κ} (differs : key ≠ first) (old : α) (rest : List (κ × α)) :
    ((first, old) :: rest).lookup key = rest.lookup key := by
  rw [List.lookup_cons, beq_false_of_ne differs]

theorem mem_of_lookup {key : κ} {value : α} {entries : List (κ × α)}
    (found : entries.lookup key = some value) : (key, value) ∈ entries := by
  obtain ⟨front, rest, rfl, -⟩ := List.lookup_eq_some_iff.mp found
  exact List.mem_append_right _ List.mem_cons_self

theorem lookup_of_mem [LT κ] [LE κ] [Std.LawfulOrderLT κ] {entries : List (κ × α)}
    (sorted : Sorted entries) {entry : κ × α} (inside : entry ∈ entries) :
    entries.lookup entry.1 = some entry.2 := by
  induction entries with
  | nil => cases inside
  | cons first rest ih =>
    obtain ⟨above, tail⟩ := List.pairwise_cons.mp sorted
    obtain ⟨first, old⟩ := first
    rcases List.mem_cons.mp inside with rfl | later
    · exact List.lookup_cons_self
    · rw [lookup_cons_ne (Std.ne_of_lt (above entry later)).symm, ih tail later]

end Lookup

variable {κ α : Type} [LT κ] [DecidableLT κ] [DecidableEq κ]

-- An assignment through operator[]: the key's entry is made where there is none.
def insert (key : κ) (value : α) : List (κ × α) -> List (κ × α)
  | [] => [(key, value)]
  | (first, old) :: rest =>
    if key = first then (first, value) :: rest
    else if key < first then (key, value) :: (first, old) :: rest
    else (first, old) :: insert key value rest

theorem mem_insert {key : κ} {value : α} {entries : List (κ × α)} {entry : κ × α}
    (inside : entry ∈ insert key value entries) : entry = (key, value) ∨ entry ∈ entries := by
  induction entries with
  | nil => exact .inl (List.mem_singleton.mp inside)
  | cons first rest ih =>
    obtain ⟨first, old⟩ := first
    rw [insert] at inside
    split_ifs at inside with same before
    · subst same
      rcases List.mem_cons.mp inside with rfl | later
      · exact .inl rfl
      · exact .inr (List.mem_cons_of_mem _ later)
    · exact List.mem_cons.mp inside
    · rcases List.mem_cons.mp inside with rfl | later
      · exact .inr List.mem_cons_self
      · exact (ih later).imp_right (List.mem_cons_of_mem _)

section Order

variable [LE κ] [Std.LawfulOrderLT κ]

theorem insert_last {key : κ} {front : List (κ × α)} (above : ∀ entry ∈ front, entry.1 < key)
    (value : α) : insert key value front = front ++ [(key, value)] := by
  induction front with
  | nil => rfl
  | cons entry rest ih =>
    obtain ⟨first, old⟩ := entry
    have behind : first < key := above _ List.mem_cons_self
    rw [insert, if_neg (Std.ne_of_lt behind).symm, if_neg (Std.not_gt_of_lt behind),
      ih fun entry inside => above entry (List.mem_cons_of_mem _ inside)]
    rfl

theorem foldl_insert (front : List (κ × α)) {entries : List (κ × α)}
    (sorted : Sorted (front ++ entries)) :
    entries.foldl (fun made entry => insert entry.1 entry.2 made) front = front ++ entries := by
  induction entries generalizing front with
  | nil => rw [List.foldl_nil, List.append_nil]
  | cons entry rest ih =>
    have above : ∀ earlier ∈ front, earlier.1 < entry.1 := fun earlier inside =>
      (List.pairwise_append.mp sorted).2.2 earlier inside entry List.mem_cons_self
    rw [List.foldl_cons, insert_last above, ih _ (by simpa using sorted)]
    simp

variable [Std.IsLinearOrder κ]

theorem insert_sorted {key : κ} {value : α} {entries : List (κ × α)} (sorted : Sorted entries) :
    Sorted (insert key value entries) := by
  induction entries with
  | nil => exact List.pairwise_singleton _ _
  | cons entry rest ih =>
    obtain ⟨first, old⟩ := entry
    obtain ⟨above, tail⟩ := List.pairwise_cons.mp sorted
    rw [insert]
    split_ifs with same before
    · exact List.pairwise_cons.mpr ⟨above, tail⟩
    · refine List.pairwise_cons.mpr ⟨?_, sorted⟩
      intro entry inside
      rcases List.mem_cons.mp inside with rfl | later
      · exact before
      · exact Std.lt_trans before (above entry later)
    · refine List.pairwise_cons.mpr ⟨?_, ih tail⟩
      intro entry inside
      rcases mem_insert inside with rfl | old
      · exact Std.lt_of_le_of_ne (Std.not_lt.mp before) (Ne.symm same)
      · exact above entry old

end Order

section Lookup

variable [BEq κ] [LawfulBEq κ]

theorem lookup_insert_self (key : κ) (value : α) (entries : List (κ × α)) :
    (insert key value entries).lookup key = some value := by
  induction entries with
  | nil => exact List.lookup_cons_self
  | cons entry rest ih =>
    obtain ⟨first, old⟩ := entry
    rw [insert]
    split_ifs with same before
    · rw [same, List.lookup_cons_self]
    · exact List.lookup_cons_self
    · rw [lookup_cons_ne same, ih]

theorem lookup_insert_ne {key other : κ} (differs : other ≠ key) (value : α)
    (entries : List (κ × α)) :
    (insert key value entries).lookup other = entries.lookup other := by
  induction entries with
  | nil => exact lookup_cons_ne differs value []
  | cons entry rest ih =>
    obtain ⟨first, old⟩ := entry
    rw [insert]
    split_ifs with same before
    · rw [lookup_cons_ne (same ▸ differs), lookup_cons_ne (same ▸ differs)]
    · exact lookup_cons_ne differs value _
    · by_cases here : other = first
      · rw [here, List.lookup_cons_self, List.lookup_cons_self]
      · rw [lookup_cons_ne here, lookup_cons_ne here, ih]

end Lookup

end OrderedMap
