import Mathlib.Data.List.Forall2

set_option autoImplicit false

-- Slots in a list, each with at most one item.
namespace MessageBus.Slots

theorem modify_findIdx {Item Key : Type} [DecidableEq Key] (key : Item → Key) (change : Item → Item)
    (wanted : Key) (items : List Item) (distinct : (items.map key).Nodup) :
    items.modify (items.findIdx fun item => key item = wanted) change =
      items.map fun item => if key item = wanted then change item else item := by
  induction items with
  | nil => rfl
  | cons item items ih =>
    obtain ⟨apart, rest⟩ := List.nodup_cons.mp distinct
    by_cases own : key item = wanted
    · have others : items.map (fun item => if key item = wanted then change item else item) =
          items := by
        refine (List.map_congr_left fun other member => if_neg fun same => apart ?_).trans
          (List.map_id _)
        exact List.mem_map.mpr ⟨other, member, same.trans own.symm⟩
      rw [List.findIdx_cons, decide_eq_true own, List.map_cons, if_pos own, others]
      rfl
    · rw [List.findIdx_cons, decide_eq_false own, List.map_cons, if_neg own, ← ih rest]
      rfl

theorem forall₂_set {One Two : Type} {related : One → Two → Prop} {ones : List One}
    {twos : List Two} (all : List.Forall₂ related ones twos) {one : One} {two : Two}
    (new : related one two) (index : Nat) :
    List.Forall₂ related (ones.set index one) (twos.set index two) := by
  induction all generalizing index with
  | nil => exact .nil
  | cons first rest ih =>
    cases index with
    | zero => exact .cons new rest
    | succ index => exact .cons first (ih index)

theorem mem_set_empty {Item : Type} {items : List (Option Item)} {index : Nat} {new item : Item}
    (empty : items[index]? = some none) :
    some item ∈ items.set index (some new) ↔ item = new ∨ some item ∈ items := by
  induction items generalizing index with
  | nil => simp at empty
  | cons first items ih =>
    cases index with
    | zero =>
      obtain rfl : first = none := Option.some.inj empty
      simp
    | succ index =>
      have rest := @ih index empty
      simp only [List.set_cons_succ, List.mem_cons, rest]
      exact or_left_comm

theorem forall₂_getElem? {One Two : Type} {related : One → Two → Prop} {ones : List One}
    {twos : List Two} (all : List.Forall₂ related ones twos) {index : Nat} {two : Two}
    (there : twos[index]? = some two) : ∃ one, ones[index]? = some one ∧ related one two := by
  induction all generalizing index with
  | nil => cases there
  | cons first rest ih =>
    cases index with
    | zero =>
      obtain rfl := Option.some.inj there
      exact ⟨_, rfl, first⟩
    | succ index => exact ih there

theorem flatMap_related {One Two Out : Type} {related : One → Two → Prop} {ones : List One}
    {twos : List Two} (all : List.Forall₂ related ones twos) {ofOne : One → List Out}
    {ofTwo : Two → List Out} (same : ∀ one two, related one two → ofTwo two = ofOne one) :
    twos.flatMap ofTwo = ones.flatMap ofOne := by
  induction all with
  | nil => rfl
  | cons first rest ih => rw [List.flatMap_cons, List.flatMap_cons, same _ _ first, ih]

theorem flatMap_sublist {One Two Out : Type} {related : One → Two → Prop} {ones : List One}
    {twos : List Two} (all : List.Forall₂ related ones twos) {ofOne : One → List Out}
    {ofTwo : Two → Out} (inside : ∀ one two, related one two → (ofOne one).Sublist [ofTwo two]) :
    (ones.flatMap ofOne).Sublist (twos.map ofTwo) := by
  induction all with
  | nil => exact List.nil_sublist _
  | cons first rest ih => exact (inside _ _ first).append ih

end MessageBus.Slots
