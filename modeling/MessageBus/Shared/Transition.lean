import Mathlib

set_option autoImplicit false

namespace Transition

variable {State Event : Type}

def run (step : State -> Event -> Option State) : State -> List Event -> Option State
  | state, [] => some state
  | state, event :: rest => (step state event).bind fun next => run step next rest

theorem run_append (step : State -> Event -> Option State) (state : State)
    (first rest : List Event) :
    run step state (first ++ rest) = (run step state first).bind fun next => run step next rest := by
  induction first generalizing state with
  | nil => rfl
  | cons event others ih =>
    simp only [List.cons_append, run, Option.bind_assoc]
    exact congrArg _ (funext ih)

inductive ReachableWhen (step : State -> Event -> Option State) (ok : State -> Event -> Prop)
    (initial : State) : State -> Prop where
  | start : ReachableWhen step ok initial initial
  | next {state following : State} (event : Event)
      (before : ReachableWhen step ok initial state) (meets : ok state event)
      (taken : step state event = some following) : ReachableWhen step ok initial following

abbrev Reachable (step : State -> Event -> Option State) (initial : State) : State -> Prop :=
  ReachableWhen step (fun _ _ => True) initial

variable {step : State -> Event -> Option State} {ok : State -> Event -> Prop} {initial : State}

theorem ReachableWhen.invariant (holds : State -> Prop) (base : holds initial)
    (kept : ∀ state event following, holds state → ok state event →
      step state event = some following → holds following)
    {state : State} (reached : ReachableWhen step ok initial state) : holds state := by
  induction reached with
  | start => exact base
  | next event _ meets taken ih => exact kept _ event _ ih meets taken

theorem ReachableWhen.weaken {other : State -> Event -> Prop}
    (implies : ∀ state event, ok state event → other state event) {state : State}
    (reached : ReachableWhen step ok initial state) : ReachableWhen step other initial state := by
  induction reached with
  | start => exact .start
  | next event _ meets taken ih => exact .next event ih (implies _ event meets) taken

theorem Reachable.run {state final : State} (reached : Reachable step initial state)
    (events : List Event) (ran : run step state events = some final) :
    Reachable step initial final := by
  induction events generalizing state with
  | nil =>
    simp only [Transition.run, Option.some.injEq] at ran
    exact ran ▸ reached
  | cons event rest ih =>
    simp only [Transition.run, Option.bind_eq_some_iff] at ran
    obtain ⟨following, taken, ran⟩ := ran
    exact ih (.next event reached trivial taken) ran

theorem ReachableWhen.ofEvents {asked : Event -> Prop} {state final : State}
    (reached : ReachableWhen step (fun _ event => asked event) initial state)
    (events : List Event) (all : ∀ event ∈ events, asked event)
    (ran : Transition.run step state events = some final) :
    ReachableWhen step (fun _ event => asked event) initial final := by
  induction events generalizing state with
  | nil =>
    simp only [Transition.run, Option.some.injEq] at ran
    exact ran ▸ reached
  | cons event rest ih =>
    simp only [Transition.run, Option.bind_eq_some_iff] at ran
    obtain ⟨following, taken, ran⟩ := ran
    have meets := all event List.mem_cons_self
    exact ih (.next event reached meets taken)
      (fun later inside => all later (List.mem_cons_of_mem _ inside)) ran

def checkedStep (step : State -> Event -> Option State) (ok : State -> Event -> Prop)
    [∀ state event, Decidable (ok state event)] (state : State) (event : Event) : Option State :=
  if ok state event then step state event else none

theorem ReachableWhen.run [∀ state event, Decidable (ok state event)] {state final : State}
    (reached : ReachableWhen step ok initial state) (events : List Event)
    (ran : Transition.run (checkedStep step ok) state events = some final) :
    ReachableWhen step ok initial final := by
  induction events generalizing state with
  | nil =>
    simp only [Transition.run, Option.some.injEq] at ran
    exact ran ▸ reached
  | cons event rest ih =>
    simp only [Transition.run, Option.bind_eq_some_iff] at ran
    obtain ⟨following, taken, ran⟩ := ran
    simp only [checkedStep] at taken
    split at taken
    next meets => exact ih (.next event reached meets taken) ran
    next => cases taken

def Never (step : State -> Event -> Option State) (does : State -> Event -> Prop) :
    State -> List Event -> Prop
  | _, [] => True
  | state, event :: rest =>
    ¬ does state event ∧ ∀ next, step state event = some next → Never step does next rest

def Throughout (step : State -> Event -> Option State) (holds : State -> Prop) :
    State -> List Event -> Prop
  | state, [] => holds state
  | state, event :: rest =>
    holds state ∧ ∀ next, step state event = some next → Throughout step holds next rest

theorem throughout_iff_never {holds : State -> Prop} {does : State -> Event -> Prop}
    (stops : ∀ state event, holds state → step state event = none → ¬ does state event)
    (loses : ∀ state event next, holds state → step state event = some next →
      (holds next ↔ ¬ does state event))
    {state : State} (start : holds state) (events : List Event) :
    Throughout step holds state events ↔ Never step does state events := by
  induction events generalizing state with
  | nil => exact iff_of_true start trivial
  | cons event rest ih =>
    simp only [Throughout, Never, start, true_and]
    cases taken : step state event with
    | none => simp [stops state event start taken]
    | some next =>
      have one := loses state event next start taken
      simp only [Option.some.injEq, forall_eq']
      by_cases kept : holds next
      · rw [ih kept]
        simp [one.mp kept]
      · have lost : ¬ Throughout step holds next rest := by
          intro throughout
          cases rest with
          | nil => exact kept throughout
          | cons other others => exact kept throughout.1
        exact iff_of_false lost (fun never => kept (one.mpr never.1))

theorem exists_run (step : State -> Event -> Option State) (allowed : Event → Prop)
    (kept goal : State → Prop) (measure : State → Nat)
    (progress : ∀ state, kept state → ¬ goal state → ∃ event following, allowed event ∧
      step state event = some following ∧ kept following ∧ measure following < measure state)
    (state : State) (start : kept state) :
    ∃ events final, (∀ event ∈ events, allowed event) ∧ Transition.run step state events = some final ∧
      kept final ∧ goal final := by
  induction size : measure state using Nat.strong_induction_on generalizing state with
  | h number ih =>
    by_cases reached : goal state
    · exact ⟨[], state, by simp, rfl, start, reached⟩
    · obtain ⟨event, following, permitted, taken, later, less⟩ := progress state start reached
      obtain ⟨events, final, all, ran, last, ends⟩ := ih _ (size ▸ less) following later rfl
      refine ⟨event :: events, final, ?_, ?_, last, ends⟩
      · rintro other (_ | ⟨_, member⟩)
        · exact permitted
        · exact all other member
      · rw [Transition.run, taken]
        exact ran

section Exact

variable {invariant holds : State → Prop}

theorem run_lost
    (kept : ∀ state event following, invariant state →
      step state event = some following → invariant following)
    (lasting : ∀ state event following, invariant state → ¬ holds state →
      step state event = some following → ¬ holds following)
    {state final : State} (start : invariant state) (lost : ¬ holds state) (events : List Event)
    (ran : Transition.run step state events = some final) : ¬ holds final := by
  induction events generalizing state with
  | nil =>
    simp only [Transition.run, Option.some.injEq] at ran
    exact ran ▸ lost
  | cons event rest ih =>
    simp only [Transition.run, Option.bind_eq_some_iff] at ran
    obtain ⟨following, taken, ran⟩ := ran
    exact ih (kept _ event _ start taken) (lasting _ event _ start lost taken) ran

-- Where a step that misses the condition ends the property for good, a run keeps the property
-- exactly when all its steps meet the condition.
theorem holds_iff_checked [∀ state event, Decidable (ok state event)]
    (kept : ∀ state event following, invariant state →
      step state event = some following → invariant following)
    (keeps : ∀ state event following, invariant state → holds state → ok state event →
      step state event = some following → holds following)
    (breaks : ∀ state event following, invariant state → ¬ ok state event →
      step state event = some following → ¬ holds following)
    (lasting : ∀ state event following, invariant state → ¬ holds state →
      step state event = some following → ¬ holds following)
    {state final : State} (start : invariant state) (initially : holds state)
    (events : List Event) (ran : Transition.run step state events = some final) :
    holds final ↔ Transition.run (checkedStep step ok) state events = some final := by
  induction events generalizing state with
  | nil =>
    simp only [Transition.run, Option.some.injEq] at ran ⊢
    exact ⟨fun _ => ran, fun _ => ran ▸ initially⟩
  | cons event rest ih =>
    simp only [Transition.run, Option.bind_eq_some_iff] at ran
    obtain ⟨following, taken, ran⟩ := ran
    have later := kept _ event _ start taken
    by_cases meets : ok state event
    · rw [ih later (keeps _ event _ start initially meets taken) ran]
      simp only [Transition.run, checkedStep, if_pos meets, taken, Option.bind_some]
    · have lost := run_lost kept lasting later (breaks _ event _ start meets taken) rest ran
      simp only [Transition.run, checkedStep, if_neg meets, Option.bind_none, lost, reduceCtorEq]

end Exact

section Refinement

variable {Abstract : Type} {spec : Abstract -> Event -> Abstract}
  {allowed : Abstract -> Event -> Prop} {related : State -> Abstract -> Prop}

def AllowedRun (spec : Abstract -> Event -> Abstract) (allowed : Abstract -> Event -> Prop) :
    Abstract -> List Event -> Prop
  | _, [] => True
  | abstract, event :: rest =>
    allowed abstract event ∧ AllowedRun spec allowed (spec abstract event) rest

theorem run_refines
    (kept : ∀ state abstract event, related state abstract → allowed abstract event →
      ∃ following, step state event = some following ∧ related following (spec abstract event))
    {state : State} {abstract : Abstract} (start : related state abstract) (events : List Event)
    (permitted : AllowedRun spec allowed abstract events) :
    ∃ final, run step state events = some final ∧ related final (events.foldl spec abstract) := by
  induction events generalizing state abstract with
  | nil => exact ⟨state, rfl, start⟩
  | cons event rest ih =>
    obtain ⟨following, taken, next⟩ := kept state abstract event start permitted.1
    obtain ⟨final, ran, last⟩ := ih next permitted.2
    refine ⟨final, ?_, last⟩
    rw [run, taken]
    exact ran

variable (spec related) in
theorem run_follows
    (kept : ∀ state abstract event following, related state abstract →
      step state event = some following → related following (spec abstract event))
    {state final : State} {abstract : Abstract} (start : related state abstract)
    (events : List Event) (ran : run step state events = some final) :
    related final (events.foldl spec abstract) := by
  induction events generalizing state abstract with
  | nil =>
    simp only [run, Option.some.injEq] at ran
    exact ran ▸ start
  | cons event rest ih =>
    simp only [run, Option.bind_eq_some_iff] at ran
    obtain ⟨following, taken, ran⟩ := ran
    exact ih (kept _ _ event _ start taken) ran

end Refinement

-- Objects a state keeps in the order of their creation: the old ones and the new one.
theorem found_in_concat {Item : Type} {list : List Item} {last found : Item} {index : Nat}
    (there : (list ++ [last])[index]? = some found) :
    list[index]? = some found ∨ index = list.length ∧ found = last := by
  rw [List.getElem?_append] at there
  split at there
  · exact .inl there
  · rw [List.getElem?_singleton] at there
    split at there
    · exact .inr ⟨by omega, (Option.some.inj there).symm⟩
    · cases there

theorem found_in_set {Item : Type} {list : List Item} {changed found : Item} {index other : Nat}
    (there : (list.set index changed)[other]? = some found) :
    (other = index ∧ found = changed) ∨ (other ≠ index ∧ list[other]? = some found) := by
  rw [List.getElem?_set] at there
  split at there
  next same =>
    split at there
    · exact .inl ⟨same.symm, (Option.some.inj there).symm⟩
    · cases there
  next different => exact .inr ⟨Ne.symm different, there⟩

-- Objects that are told apart by a value that none of them ever changes.
theorem map_set_same {Item Value : Type} {list : List Item} {index : Nat} {item changed : Item}
    {value : Item -> Value} (there : list[index]? = some item)
    (same : value changed = value item) : (list.set index changed).map value = list.map value := by
  rw [List.map_set, same]
  apply List.ext_getElem?
  intro other
  by_cases own : index = other
  · subst own
    have inside := (List.getElem?_eq_some_iff.mp there).1
    rw [List.getElem?_set_self (by rwa [List.length_map]), List.getElem?_map, there]
    rfl
  · exact List.getElem?_set_ne own

theorem index_of_value {Item Value : Type} {list : List Item} {value : Item -> Value}
    (apart : (list.map value).Nodup) {first second : Nat} {one two : Item}
    (there : list[first]? = some one) (otherThere : list[second]? = some two)
    (same : value one = value two) : first = second := by
  have oneValue : (list.map value)[first]? = some (value two) := by
    rw [List.getElem?_map, there, Option.map_some, same]
  have twoValue : (list.map value)[second]? = some (value two) := by
    rw [List.getElem?_map, otherThere, Option.map_some]
  exact (List.getElem?_inj (List.getElem?_eq_some_iff.mp oneValue).1 apart).mp
    (oneValue.trans twoValue.symm)

end Transition
