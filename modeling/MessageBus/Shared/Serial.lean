import Mathlib

set_option autoImplicit false

-- An object on which operations are done one after the other.
namespace Serial

variable {Call Op Answer State : Type}

structure Entry (Call Op Answer : Type) where
  call : Option Call
  op : Op
  answer : Answer

def calls (history : List (Entry Call Op Answer)) : List Call := history.filterMap Entry.call

-- The operations lead from one state to the other, each of them answered in its turn.
def Serves (apply : State -> Op -> Answer × State) :
    State -> List (Entry Call Op Answer) -> State -> Prop
  | state, [], last => last = state
  | state, entry :: rest, last =>
    (apply state entry.op).1 = entry.answer ∧ Serves apply (apply state entry.op).2 rest last

variable {apply : State -> Op -> Answer × State} {first last : State}
  {history before after : List (Entry Call Op Answer)}

theorem serves_append : Serves apply first (before ++ after) last ↔
    ∃ between, Serves apply first before between ∧ Serves apply between after last := by
  induction before generalizing first with
  | nil => simp [Serves]
  | cons entry rest ih => simp only [List.cons_append, Serves, ih, and_assoc, exists_and_left]

theorem Serves.concat (serves : Serves apply first history last) (call : Option Call) (op : Op) :
    Serves apply first (history ++ [{ call, op, answer := (apply last op).1 }])
      (apply last op).2 :=
  serves_append.mpr ⟨last, serves, rfl, rfl⟩

theorem Serves.keeps {holds : State -> Prop} (ends : Op -> Prop)
    (kept : ∀ state op, holds state → ¬ ends op → holds (apply state op).2)
    (serves : Serves apply first history last) (initially : holds first)
    (unended : ∀ entry ∈ history, ¬ ends entry.op) : holds last := by
  induction history generalizing first with
  | nil => exact serves ▸ initially
  | cons entry rest ih =>
    obtain ⟨this, others⟩ := List.forall_mem_cons.mp unended
    exact ih serves.2 (kept first entry.op initially this) others

-- What holds in the end and not at first was brought about by an operation, and none that ends it
-- was done since.
theorem Serves.cause {holds sound : State -> Prop} {ends : Op -> Prop}
    (kept : ∀ state op, sound state → sound (apply state op).2)
    (ended : ∀ state op, sound state → ends op → ¬ holds (apply state op).2)
    (serves : Serves apply first history last) (begins : sound first)
    (initially : ¬ holds first) (lastly : holds last) :
    ∃ before entry after between, history = before ++ entry :: after ∧
      ¬ holds between ∧ holds (apply between entry.op).2 ∧
        (apply between entry.op).1 = entry.answer ∧ ∀ later ∈ after, ¬ ends later.op := by
  induction history using List.reverseRecOn generalizing last with
  | nil =>
    cases serves
    exact absurd lastly initially
  | append_singleton history entry ih =>
    obtain ⟨between, before, answer, rfl⟩ := serves_append.mp serves
    by_cases already : holds between
    · obtain ⟨front, cause, behind, state, rfl, unmet, met, answered, since⟩ := ih before already
      refine ⟨front, cause, behind ++ [entry], state, by simp, unmet, met, answered, ?_⟩
      intro later member
      rcases List.mem_append.mp member with older | new
      · exact since later older
      · rw [List.mem_singleton.mp new]
        have there : sound between :=
          before.keeps (fun _ => False) (fun state op held _ => kept state op held) begins
            fun _ _ => not_false
        exact fun ends => ended between entry.op there ends lastly
    · exact ⟨history, entry, [], between, rfl, already, lastly, answer, by simp⟩

structure Served (apply : State -> Op -> Answer × State) (initial : State)
    (history : List (Entry Call Op Answer)) (state : State) : Prop where
  serves : Serves apply initial history state
  once : (calls history).Nodup

theorem served_nil (initial : State) :
    Served apply initial ([] : List (Entry Call Op Answer)) initial :=
  ⟨rfl, List.nodup_nil⟩

theorem Served.concat (served : Served apply first history last) {call : Option Call}
    (unserved : ∀ own, call = some own → own ∉ calls history) (op : Op) :
    Served apply first (history ++ [{ call, op, answer := (apply last op).1 }])
      (apply last op).2 := by
  refine ⟨served.serves.concat call op, ?_⟩
  rw [calls, List.filterMap_append]
  refine List.Nodup.append served.once ?_ ?_
  · cases call <;> simp
  · cases call with
    | none => simp
    | some own => simpa [calls] using unserved own rfl

end Serial
