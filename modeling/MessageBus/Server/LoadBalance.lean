import MessageBus.Server.Relay

set_option autoImplicit false

namespace MessageBus.Server

def OneToOne {Elem : Type} (select : Nat -> Option Elem) (elements : List Elem) : Prop :=
  ∃ position : Equiv.Perm (Fin elements.length),
    ∀ draw : Fin elements.length, select draw = some (elements.get (position draw))

section OneToOne

variable {Elem : Type} {select : Nat -> Option Elem} {elements : List Elem}

theorem OneToOne.member (fair : OneToOne select elements) {draw : Nat}
    (below : draw < elements.length) : ∃ elem ∈ elements, select draw = some elem := by
  obtain ⟨position, selects⟩ := fair
  exact ⟨_, List.get_mem elements (position ⟨draw, below⟩), selects ⟨draw, below⟩⟩

theorem OneToOne.bijOn (fair : OneToOne select elements) (distinct : elements.Nodup) :
    Set.BijOn select (Set.Iio elements.length) (Set.image some { elem | elem ∈ elements }) := by
  refine ⟨?_, ?_, ?_⟩
  · intro draw below
    obtain ⟨elem, member, selected⟩ := fair.member below
    exact ⟨elem, member, selected.symm⟩
  · intro first firstBelow second secondBelow same
    obtain ⟨position, selects⟩ := fair
    have firstSelects := selects ⟨first, firstBelow⟩
    have secondSelects := selects ⟨second, secondBelow⟩
    have sameElem := Option.some.inj (firstSelects.symm.trans (same.trans secondSelects))
    have samePosition := List.nodup_iff_injective_get.mp distinct sameElem
    exact Fin.mk.inj (position.injective samePosition)
  · rintro _ ⟨elem, member, rfl⟩
    obtain ⟨position, selects⟩ := fair
    obtain ⟨index, rfl⟩ := List.mem_iff_get.mp member
    refine ⟨position.symm index, (position.symm index).isLt, ?_⟩
    rw [selects, Equiv.apply_symm_apply]

end OneToOne

-- What msgbus_select_best_client does with its draw: it returns true for a container that is not
-- empty, with an element that each draw below the size chooses in turn.
structure Balanced {Elem : Type} (selectBest : Rand -> Option Elem) (select : Nat -> Option Elem)
    (elements : List Elem) : Prop where
  draws : ∀ rand, selectBest rand = select (randselect rand elements.length)
  inBounds : elements ≠ [] → ∀ rand, randselect rand elements.length < elements.length
  selected : elements ≠ [] → ∀ rand, ∃ elem ∈ elements, selectBest rand = some elem
  oneToOne : OneToOne select elements
  nothing : elements = [] → ∀ rand, selectBest rand = none

theorem Balanced.ofDraws {Elem : Type} {selectBest : Rand -> Option Elem}
    {select : Nat -> Option Elem} {elements : List Elem}
    (draws : ∀ rand, selectBest rand = select (randselect rand elements.length))
    (oneToOne : OneToOne select elements) (nothing : elements = [] → ∀ draw, select draw = none) :
    Balanced selectBest select elements := by
  have inBounds : elements ≠ [] → ∀ rand, randselect rand elements.length < elements.length :=
    fun filled rand => randselect_lt rand (List.length_pos_of_ne_nil filled)
  refine { draws, inBounds, oneToOne, selected := ?_, nothing := ?_ }
  · intro filled rand
    rw [draws rand]
    exact oneToOne.member (inBounds filled rand)
  · intro empty rand
    rw [draws rand]
    exact nothing empty _

def selectedHost (container : List ClientHost) (draw : Nat) : Option ClientHost := container[draw]?

def selectedClient (container : Std.ExtTreeSet Nat) (draw : Nat) : Option Nat :=
  match container.toList with
  | [] => none
  | first :: rest => some (selectBestClientLoop first draw (first :: rest))

theorem selectBestClientLoop_spent (bestelem : Nat) (clients : List Nat) :
    selectBestClientLoop bestelem (-1) clients = clients.head?.getD bestelem := by
  cases clients with
  | nil => rfl
  | cons pos rest => rfl

theorem selectBestClientLoop_next (bestelem : Nat) (clients : List Nat) (draw : Nat) :
    selectBestClientLoop bestelem draw clients = (clients[draw + 1]?).getD bestelem := by
  induction clients generalizing draw with
  | nil => rfl
  | cons pos rest ih =>
    rw [selectBestClientLoop, if_neg (by omega), List.getElem?_cons_succ]
    cases draw with
    | zero =>
      rw [← List.head?_eq_getElem?]
      exact selectBestClientLoop_spent bestelem rest
    | succ draw =>
      rw [← ih draw]
      exact congrArg (selectBestClientLoop bestelem · rest) (by omega)

theorem selectedClient_oneToOne (container : Std.ExtTreeSet Nat) :
    OneToOne (selectedClient container) container.toList := by
  unfold selectedClient
  cases container.toList with
  | nil => exact ⟨Equiv.refl _, fun draw => draw.elim0⟩
  | cons first rest =>
    refine ⟨finRotate _, ?_⟩
    intro draw
    dsimp only
    rw [selectBestClientLoop_next, List.get_eq_getElem]
    by_cases last : draw = Fin.last rest.length
    · subst last
      simp
    · have next : (finRotate (first :: rest).length draw).val = draw + 1 :=
        coe_finRotate_of_ne_last last
      have inside : draw.val + 1 < (first :: rest).length := next ▸ Fin.isLt _
      rw [List.getElem?_eq_getElem inside]
      simp only [next, Option.getD_some]

theorem selectedHost_oneToOne (container : List ClientHost) :
    OneToOne (selectedHost container) container :=
  ⟨Equiv.refl _, fun draw => List.getElem?_eq_getElem draw.isLt⟩

theorem clients_balanced (container : Std.ExtTreeSet Nat) :
    Balanced (fun rand => selectBestClient rand container) (selectedClient container)
      container.toList := by
  apply Balanced.ofDraws
  · intro rand
    rw [selectBestClient, Std.ExtTreeSet.length_toList]
    rfl
  · exact selectedClient_oneToOne container
  · intro empty draw
    rw [selectedClient, empty]

theorem hosts_balanced (container : List ClientHost) :
    Balanced (fun rand => selectBestHost rand container) (selectedHost container) container := by
  apply Balanced.ofDraws
  · intro rand
    cases container with
    | nil => rfl
    | cons first rest =>
      rw [selectBestHost, selectedHost, List.getElem?_eq_getElem (randselect_lt rand (by simp))]
      rfl
  · exact selectedHost_oneToOne container
  · intro empty draw
    rw [selectedHost, empty]
    rfl

theorem load_balancing_fair (clients : Std.ExtTreeSet Nat) (hosts : List ClientHost) :
    Balanced (fun rand => selectBestClient rand clients) (selectedClient clients) clients.toList ∧
      Set.BijOn (selectedClient clients) (Set.Iio clients.size)
        (Set.image some { client | client ∈ clients }) ∧
      Balanced (fun rand => selectBestHost rand hosts) (selectedHost hosts) hosts := by
  refine ⟨clients_balanced clients, ?_, hosts_balanced hosts⟩
  have distinct : clients.toList.Nodup := Std.ExtTreeSet.distinct_toList.imp fun apart same =>
    apart (Std.LawfulEqCmp.compare_eq_iff_eq.mpr same)
  have bijOn := (selectedClient_oneToOne clients).bijOn distinct
  simpa only [Std.ExtTreeSet.length_toList, Std.ExtTreeSet.mem_toList] using bijOn

end MessageBus.Server
