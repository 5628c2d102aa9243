import Mathlib

set_option autoImplicit false

namespace Tables

variable {Key Entry : Type} {cmp : Key -> Key -> Ordering} [Std.TransCmp cmp] [Std.LawfulEqCmp cmp]
  {table : Std.ExtTreeMap Key Entry cmp} {key other : Key} {entry found : Entry}

theorem of_insert (there : (table.insert key entry)[other]? = some found) :
    key = other ∧ entry = found ∨ key ≠ other ∧ table[other]? = some found := by
  rw [Std.ExtTreeMap.getElem?_insert] at there
  split at there
  next same =>
    rw [Std.LawfulEqCmp.compare_eq_iff_eq] at same
    exact .inl ⟨same, Option.some.inj there⟩
  next different =>
    rw [Std.LawfulEqCmp.compare_eq_iff_eq] at different
    exact .inr ⟨different, there⟩

theorem of_erase (there : (table.erase key)[other]? = some found) :
    key ≠ other ∧ table[other]? = some found := by
  rw [Std.ExtTreeMap.getElem?_erase] at there
  split at there
  next => cases there
  next different =>
    rw [Std.LawfulEqCmp.compare_eq_iff_eq] at different
    exact ⟨different, there⟩

theorem insert_fresh (fresh : table[key]? = none) (there : table[other]? = some found) :
    (table.insert key entry)[other]? = some found := by
  rw [Std.ExtTreeMap.getElem?_insert, if_neg]
  · exact there
  · intro same
    rw [Std.LawfulEqCmp.compare_eq_iff_eq] at same
    rw [same, there] at fresh
    cases fresh

section Every

variable {holds : Key -> Entry -> Prop}

theorem every_insert (every : ∀ other found, table[other]? = some found → holds other found)
    (own : holds key entry) (other : Key) (found : Entry)
    (there : (table.insert key entry)[other]? = some found) : holds other found := by
  rcases of_insert there with ⟨rfl, rfl⟩ | ⟨_, older⟩
  · exact own
  · exact every other found older

theorem every_erase (every : ∀ other found, table[other]? = some found → holds other found)
    (key other : Key) (found : Entry) (there : (table.erase key)[other]? = some found) :
    holds other found :=
  every other found (of_erase there).2

end Every

end Tables
