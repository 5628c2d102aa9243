import MessageBus.Server.RelayRuns

set_option autoImplicit false

-- What the relay says about its tasks, and to the clients that sent them.
namespace MessageBus.Server
namespace Relay

variable {relay following : Relay} {known : SendMsg -> Prop}

structure Knows (known : SendMsg -> Prop) (relay : Relay) : Prop where
  pool : ∀ task ∈ relay.inPool, known task
  queued : ∀ task ∈ relay.queued, known task
  sent : ∀ call ∈ relay.sent, call.1 ∈ relay.queued

structure Accepts (relay : Relay) : Prop where
  answers : ∀ number, (number, 0) ∈ relay.answers → number ∈ relay.queuedNumbers
  answering : ∀ relaying ∈ relay.workers, relaying.stage = .answering 0 →
    relaying.task.number ∈ relay.queuedNumbers

theorem knows_initial : initial.Knows known := by
  constructor <;> simp [initial, inPool]

theorem accepts_initial : initial.Accepts := by
  constructor <;> simp [initial]

theorem Knows.imp {more : SendMsg -> Prop} (knows : relay.Knows known)
    (implies : ∀ task, known task → more task) : relay.Knows more :=
  ⟨fun task member => implies task (knows.pool task member),
    fun task member => implies task (knows.queued task member), knows.sent⟩

theorem Knows.fewer (knows : relay.Knows known) (pool : ∀ task ∈ following.inPool,
      task ∈ relay.inPool) (queued : following.queued = relay.queued)
    (sent : following.sent = relay.sent) : following.Knows known := by
  refine ⟨fun task member => knows.pool task (pool task member), ?_, ?_⟩
  · rw [queued]
    exact knows.queued
  · rw [queued, sent]
    exact knows.sent

theorem move_knows {event : RelayEvent} (conserved : relay.Conserved) (knows : relay.Knows known)
    (read : ∀ addr destName data, event = .read addr destName data →
      known { number := relay.next, addr, destName, data })
    (move : Move relay event following) : following.Knows known := by
  cases move with
  | read addr destName data =>
    refine ⟨?_, knows.queued, knows.sent⟩
    intro task member
    simp only [inPool, List.mem_append, List.mem_singleton] at member
    rcases member with (older | rfl) | inHand
    · exact knows.pool task (List.mem_append_left _ older)
    · exact read addr destName data rfl
    · exact knows.pool task (List.mem_append_right _ inHand)
  | take task rest front =>
    refine knows.fewer ?_ rfl rfl
    intro other member
    simp only [inPool, front, List.map_append, List.map_cons, List.map_nil, List.mem_append,
      List.mem_cons] at member ⊢
    tauto
  | goOn _ worker relaying stage there may =>
    refine knows.fewer ?_ rfl rfl
    intro other member
    rwa [inPool, map_task_set there] at member
  | leave _ worker answers =>
    refine knows.fewer ?_ rfl rfl
    intro other member
    simp only [inPool, List.mem_append, List.mem_map] at member ⊢
    refine member.imp_right ?_
    rintro ⟨relaying, left, same⟩
    exact ⟨relaying, List.mem_of_mem_eraseIdx left, same⟩
  | queue worker fd relaying there found =>
    have inHand : relaying.task ∈ relay.inPool :=
      List.mem_append_right _ (List.mem_map_of_mem (List.mem_of_getElem? there))
    refine ⟨?_, ?_, fun call made => List.mem_append_left _ (knows.sent call made)⟩
    · intro other member
      simp only [inPool, queueTask, map_task_set there] at member
      exact knows.pool other member
    · intro other member
      rcases List.mem_append.mp member with older | newer
      · exact knows.queued other older
      · rw [List.mem_singleton.mp newer]
        exact knows.pool _ inHand
  | send _ task dest rest reqtasks broadcasts front =>
    refine ⟨knows.pool, knows.queued, ?_⟩
    intro call made
    rcases List.mem_append.mp made with older | newer
    · exact knows.sent call older
    · rw [List.mem_singleton.mp newer]
      have atHand : task ∈ relay.processing.batch := by
        rw [front]
        exact List.mem_cons_self
      exact conserved.accounted.symm.subset
        (List.mem_append_right _ (List.mem_append_left _ atHand))
  | _ => exact knows.fewer (fun _ member => member) rfl rfl

theorem Accepts.same (accepts : relay.Accepts) (answers : following.answers = relay.answers)
    (workers : following.workers = relay.workers) (queued : following.queued = relay.queued) :
    following.Accepts := by
  have numbers : following.queuedNumbers = relay.queuedNumbers :=
    congrArg (List.map SendMsg.number) queued
  constructor
  · rw [answers, numbers]
    exact accepts.answers
  · rw [workers, numbers]
    exact accepts.answering

theorem Accepts.goesOn (accepts : relay.Accepts) {worker : Nat} {relaying : Relaying}
    {stage : Stage} (notYet : stage ≠ .answering 0) :
    Accepts { relay with workers := relay.workers.set worker { relaying with stage } } := by
  refine ⟨accepts.answers, ?_⟩
  intro other member answering
  rcases List.mem_or_eq_of_mem_set member with older | rfl
  · exact accepts.answering other older answering
  · exact absurd answering notYet

theorem workStep_accepts {worker : Nat} {fd : Int} (accepts : relay.Accepts)
    (taken : relay.workStep worker fd = some following) : following.Accepts := by
  obtain ⟨relaying, there, rfl⟩ := Option.map_eq_some_iff.mp taken
  have left : ∀ other ∈ relay.workers.eraseIdx worker, other ∈ relay.workers :=
    fun _ => List.mem_of_mem_eraseIdx
  cases stage : relaying.stage with
  | taken =>
    dsimp only
    split
    · exact accepts.goesOn (by simp)
    · exact ⟨accepts.answers, fun other member => accepts.answering other (left other member)⟩
  | checked => exact accepts.goesOn (by simp)
  | found isExist =>
    cases isExist with
    | false => exact accepts.goesOn (by simp)
    | true =>
      have numbers : (relay.queueTask relaying.task).queuedNumbers =
          relay.queuedNumbers ++ [relaying.task.number] := List.map_append
      constructor
      · intro number answered
        exact numbers ▸ List.mem_append_left _ (accepts.answers number answered)
      · intro other member answering
        change other.task.number ∈ (relay.queueTask relaying.task).queuedNumbers
        rw [numbers]
        rcases List.mem_or_eq_of_mem_set member with older | rfl
        · exact List.mem_append_left _ (accepts.answering other older answering)
        · exact List.mem_append_right _ (List.mem_singleton_self _)
  | answering retCode =>
    refine ⟨?_, fun other member => accepts.answering other (left other member)⟩
    intro number answered
    rcases List.mem_append.mp answered with older | newer
    · exact accepts.answers number older
    · obtain ⟨rfl, rfl⟩ := Prod.mk.inj (List.mem_singleton.mp newer)
      exact accepts.answering relaying (List.mem_of_getElem? there) stage

theorem processStep_frame {draw : Name -> Rand} (taken : relay.processStep draw = some following) :
    following.answers = relay.answers ∧ following.workers = relay.workers ∧
      following.queued = relay.queued := by
  unfold processStep at taken
  split at taken
  · split_ifs at taken <;> cases taken <;> exact ⟨rfl, rfl, rfl⟩
  · split_ifs at taken
    cases taken
    exact ⟨rfl, rfl, rfl⟩
  all_goals cases taken
  all_goals exact ⟨rfl, rfl, rfl⟩

theorem step_accepts {event : RelayEvent} (accepts : relay.Accepts)
    (taken : relay.step event = some following) : following.Accepts := by
  cases event with
  | table event =>
    obtain ⟨registry, _, rfl⟩ := Option.map_eq_some_iff.mp taken
    exact accepts.same rfl rfl rfl
  | read | terminate =>
    cases taken
    exact accepts.same rfl rfl rfl
  | take =>
    simp only [step] at taken
    split at taken <;> cases taken
    refine ⟨accepts.answers, ?_⟩
    intro relaying member answering
    rcases List.mem_append.mp member with older | newer
    · exact accepts.answering relaying older answering
    · rw [List.mem_singleton.mp newer] at answering
      cases answering
  | work worker fd => exact workStep_accepts accepts taken
  | notifyAll =>
    simp only [step] at taken
    split at taken <;> cases taken
    exact accepts.same rfl rfl rfl
  | wakeUnasked =>
    simp only [step] at taken
    split at taken <;> cases taken
    exact accepts.same rfl rfl rfl
  | process draw =>
    obtain ⟨answers, workers, queued⟩ := processStep_frame taken
    exact accepts.same answers workers queued

theorem move_sent {event : RelayEvent} (move : Move relay event following) :
    relay.sent <+: following.sent := by
  cases move with
  | send => exact List.prefix_append _ _
  | _ => exact List.prefix_rfl

theorem move_next {event : RelayEvent} (move : Move relay event following)
    (noRead : ∀ addr destName data, event ≠ .read addr destName data) :
    following.next = relay.next := by
  cases move with
  | read addr destName data => exact absurd rfl (noRead addr destName data)
  | _ => rfl

theorem step_answers {event : RelayEvent} (taken : relay.step event = some following) :
    relay.answers <+: following.answers := by
  cases event with
  | table event =>
    obtain ⟨registry, _, rfl⟩ := Option.map_eq_some_iff.mp taken
    exact List.prefix_rfl
  | read | terminate =>
    cases taken
    exact List.prefix_rfl
  | take | notifyAll | wakeUnasked =>
    simp only [step] at taken
    split at taken <;> cases taken
    exact List.prefix_rfl
  | work worker fd =>
    obtain ⟨relaying, there, rfl⟩ := Option.map_eq_some_iff.mp taken
    cases relaying.stage with
    | taken =>
      dsimp only
      split <;> exact List.prefix_rfl
    | checked => exact List.prefix_rfl
    | found isExist => cases isExist <;> exact List.prefix_rfl
    | answering retCode => exact List.prefix_append _ _
  | process draw => rw [(processStep_frame taken).1]

end Relay
end MessageBus.Server
