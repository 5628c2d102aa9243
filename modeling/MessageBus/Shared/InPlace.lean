import MessageBus.Shared.Transition

set_option autoImplicit false

-- Objects that a state keeps at their places while it goes on.
namespace InPlace

variable {Item : Type} {keeps : Item -> Item -> Prop} {list later : List Item}

theorem found_in_prefix {index : Nat} {item : Item} (isPrefix : list <+: later)
    (there : list[index]? = some item) : later[index]? = some item := by
  obtain ⟨rest, rfl⟩ := isPrefix
  exact (List.getElem?_append_left (List.getElem?_eq_some_iff.mp there).1).trans there

def Kept (keeps : Item -> Item -> Prop) (list later : List Item) : Prop :=
  ∀ (index : Nat) (item : Item), list[index]? = some item →
    ∃ after, later[index]? = some after ∧ keeps item after

theorem Kept.refl (reflexive : ∀ item, keeps item item) (list : List Item) : Kept keeps list list :=
  fun _ item there => ⟨item, there, reflexive item⟩

theorem kept_append (reflexive : ∀ item, keeps item item) (list more : List Item) :
    Kept keeps list (list ++ more) :=
  fun _ item there =>
    ⟨item, found_in_prefix (List.prefix_append list more) there, reflexive item⟩

theorem kept_set (reflexive : ∀ item, keeps item item) {index : Nat} {item changed : Item}
    (there : list[index]? = some item) (kept : keeps item changed) :
    Kept keeps list (list.set index changed) := by
  intro other found otherThere
  by_cases same : index = other
  · subst same
    cases there.symm.trans otherThere
    exact ⟨changed, List.getElem?_set_self (List.getElem?_eq_some_iff.mp there).1, kept⟩
  · exact ⟨found, (List.getElem?_set_ne same).trans otherThere, reflexive found⟩

end InPlace
