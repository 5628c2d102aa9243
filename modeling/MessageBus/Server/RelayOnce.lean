import MessageBus.Server.RelayRuns

set_option autoImplicit false

namespace MessageBus.Server
namespace Relay

def Alone : Relay -> Relay -> Prop :=
  Relation.ReflTransGen fun before after => ∃ draw, before.step (.process draw) = some after

structure Handles (relay : Relay) (tasks : List SendMsg) (final : Relay) : Prop where
  alone : Alone relay final
  handled : final.handled = relay.handled ++ tasks
  queued : final.queued = relay.queued
  reqtoclient : final.reqtoclient = relay.reqtoclient
  broadcast : final.broadcast = relay.broadcast
  terminate : final.terminate = relay.terminate

theorem Handles.trans {relay between final : Relay} {first second : List SendMsg}
    (before : Handles relay first between) (after : Handles between second final) :
    Handles relay (first ++ second) final where
  alone := before.alone.trans after.alone
  handled := by rw [after.handled, before.handled, List.append_assoc]
  queued := after.queued.trans before.queued
  reqtoclient := after.reqtoclient.trans before.reqtoclient
  broadcast := after.broadcast.trans before.broadcast
  terminate := after.terminate.trans before.terminate

def firstOnes : Name -> Rand := fun _ => ⟨0, Nat.zero_lt_succ _⟩

theorem handles_none {relay : Relay} {processing : Processing} {sent : List (SendMsg × Nat)}
    (taken : relay.processStep firstOnes = some { relay with processing, sent }) :
    Handles relay [] { relay with processing, sent } :=
  ⟨.single ⟨firstOnes, taken⟩, (List.append_nil _).symm, rfl, rfl, rfl, rfl⟩

theorem send_all {task : SendMsg} {reqtasks broadcasts : List SendMsg} (dests : List Nat)
    {relay : Relay} (phase : relay.processing = .sending task dests reqtasks broadcasts) :
    ∃ final, Handles relay [task] final ∧ final.processing = .running reqtasks broadcasts := by
  induction dests generalizing relay with
  | nil =>
    refine ⟨{ relay with
      processing := .running reqtasks broadcasts
      handled := relay.handled ++ [task] }, ⟨.single ⟨firstOnes, ?_⟩, rfl, rfl, rfl, rfl, rfl⟩, rfl⟩
    simp only [step, processStep, phase]
  | cons dest rest ih =>
    have taken : relay.processStep firstOnes = some { relay with
        processing := .sending task rest reqtasks broadcasts
        sent := relay.sent ++ [(task, dest)] } := by
      simp only [processStep, phase]
    obtain ⟨final, handles, done⟩ := @ih { relay with
      processing := .sending task rest reqtasks broadcasts
      sent := relay.sent ++ [(task, dest)] } rfl
    exact ⟨final, (handles_none taken).trans handles, done⟩

theorem select_and_send {task : SendMsg} {dests : List Nat} {reqtasks broadcasts : List SendMsg}
    {relay : Relay} (taken : relay.processStep firstOnes =
      some { relay with processing := .sending task dests reqtasks broadcasts }) :
    ∃ final, Handles relay [task] final ∧ final.processing = .running reqtasks broadcasts := by
  obtain ⟨final, handles, done⟩ := @send_all task reqtasks broadcasts dests
    { relay with processing := .sending task dests reqtasks broadcasts } rfl
  exact ⟨final, (handles_none taken).trans handles, done⟩

theorem handle_req {task : SendMsg} {reqtasks broadcasts : List SendMsg} {relay : Relay}
    (phase : relay.processing = .running (task :: reqtasks) broadcasts) :
    ∃ final, Handles relay [task] final ∧ final.processing = .running reqtasks broadcasts := by
  apply select_and_send
  simp only [processStep, phase]
  rfl

theorem handle_broadcast {task : SendMsg} {broadcasts : List SendMsg} {relay : Relay}
    (phase : relay.processing = .running [] (task :: broadcasts)) :
    ∃ final, Handles relay [task] final ∧ final.processing = .running [] broadcasts := by
  apply select_and_send
  simp only [processStep, phase]
  rfl

theorem handle_broadcasts (broadcasts : List SendMsg) {relay : Relay}
    (phase : relay.processing = .running [] broadcasts) :
    ∃ final, Handles relay broadcasts final ∧ final.processing = .running [] [] := by
  induction broadcasts generalizing relay with
  | nil =>
    exact ⟨relay, ⟨.refl, (List.append_nil _).symm, rfl, rfl, rfl, rfl⟩, phase⟩
  | cons task rest ih =>
    obtain ⟨between, first, phase⟩ := handle_broadcast phase
    obtain ⟨final, others, done⟩ := ih phase
    exact ⟨final, first.trans others, done⟩

theorem handle_batch (reqtasks : List SendMsg) {broadcasts : List SendMsg} {relay : Relay}
    (phase : relay.processing = .running reqtasks broadcasts) :
    ∃ final, Handles relay (reqtasks ++ broadcasts) final ∧ final.processing = .running [] [] := by
  induction reqtasks generalizing relay with
  | nil => exact handle_broadcasts broadcasts phase
  | cons task rest ih =>
    obtain ⟨between, first, phase⟩ := handle_req phase
    obtain ⟨final, others, done⟩ := ih phase
    exact ⟨final, first.trans others, done⟩

variable {relay : Relay}

def Served (relay : Relay) : Prop :=
  ∃ final, Alone relay final ∧ final.queued = relay.queued ∧ final.handled.Perm relay.queued

theorem Served.after {between : Relay} {tasks : List SendMsg} (handles : Handles relay tasks between)
    (served : between.Served) : relay.Served := by
  obtain ⟨final, alone, queued, handled⟩ := served
  rw [handles.queued] at queued handled
  exact ⟨final, handles.alone.trans alone, queued, handled⟩

theorem alone_conserved {final : Relay} (conserved : relay.Conserved)
    (alone : Alone relay final) : final.Conserved := by
  induction alone with
  | refl => exact conserved
  | tail _ taken ih =>
    obtain ⟨draw, taken⟩ := taken
    exact move_conserved ih (step_moves taken)

theorem served_idle (conserved : relay.Conserved) (noBatch : relay.processing.batch = [])
    (noReq : relay.reqtoclient = []) (noBroadcast : relay.broadcast = []) : relay.Served := by
  have accounted := conserved.accounted
  rw [noBatch, noReq, noBroadcast, List.append_nil, List.append_nil, List.append_nil] at accounted
  exact ⟨relay, .refl, rfl, accounted.symm⟩

theorem served_locking (conserved : relay.Conserved) (locked : relay.processing = .locking)
    (goesOn : relay.terminate = false) : relay.Served := by
  by_cases nothing : relay.reqtoclient = [] ∧ relay.broadcast = []
  · exact served_idle conserved (by rw [locked]; rfl) nothing.1 nothing.2
  · have taken : relay.step (.process firstOnes) = some { relay with
        reqtoclient := []
        broadcast := []
        processing := .running relay.reqtoclient relay.broadcast } := by
      simp [step, processStep, locked, goesOn, nothing]
    obtain ⟨final, handles, _⟩ := @handle_batch relay.reqtoclient relay.broadcast { relay with
      reqtoclient := []
      broadcast := []
      processing := .running relay.reqtoclient relay.broadcast } rfl
    refine ⟨final, .head ⟨firstOnes, taken⟩ handles.alone, handles.queued, ?_⟩
    rw [handles.handled]
    exact (conserved.withBatch locked rfl).symm

theorem served_running (conserved : relay.Conserved) {reqtasks broadcasts : List SendMsg}
    (phase : relay.processing = .running reqtasks broadcasts) (goesOn : relay.terminate = false) :
    relay.Served := by
  obtain ⟨between, batch, done⟩ := handle_batch reqtasks phase
  have taken : between.processStep firstOnes = some { between with processing := .locking } := by
    simp only [processStep, done]
  have drains := handles_none taken
  have handles := batch.trans drains
  exact (served_locking (alone_conserved conserved handles.alone) rfl
    (handles.terminate.trans goesOn)).after handles

theorem Conserved.served (conserved : relay.Conserved) (goesOn : relay.terminate = false) :
    relay.Served := by
  cases phase : relay.processing with
  | locking => exact served_locking conserved phase goesOn
  | waiting notified =>
    cases notified with
    | false =>
      have empty := conserved.asleep phase
      exact served_idle conserved (by rw [phase]; rfl) empty.1 empty.2
    | true =>
      have taken : relay.processStep firstOnes = some { relay with processing := .locking } := by
        simp [processStep, phase]
      have wakes := handles_none taken
      exact (served_locking (alone_conserved conserved wakes.alone) rfl goesOn).after wakes
  | running reqtasks broadcasts => exact served_running conserved phase goesOn
  | sending task dests reqtasks broadcasts =>
    obtain ⟨between, first, next⟩ := send_all dests phase
    exact (served_running (alone_conserved conserved first.alone) next
      (first.terminate.trans goesOn)).after first
  | returned =>
    rw [conserved.ended phase] at goesOn
    cases goesOn

-- Every task queued is handled once at most, and once unless the server is terminating.
structure HandledOnce (relay : Relay) : Prop where
  distinct : (relay.handled.map SendMsg.number).Nodup
  queued : ∀ task ∈ relay.handled, task ∈ relay.queued
  served : relay.terminate = false → relay.Served

def SentOnce (relay : Relay) : Prop :=
  (relay.sent.map fun call => (call.1.number, call.2)).Nodup

-- No connection is active under two services.
def connectionsApart (registry : Registry) : Bool :=
  decide (registry.activeClients.toList.flatMap fun entry => entry.2.toList).Nodup

-- A broadcast is handled while no connection is active under two services.
def broadcastsApart (relay : Relay) : RelayEvent -> Bool
  | .process _ =>
    match relay.processing with
    | .running [] (_ :: _) => connectionsApart relay.registry
    | _ => true
  | _ => true

structure Calls (relay : Relay) : Prop where
  once : relay.SentOnce
  made : ∀ call ∈ relay.sent, call.1 ∈ relay.handled ∨
    ∃ dests reqtasks broadcasts,
      relay.processing = .sending call.1 dests reqtasks broadcasts ∧ call.2 ∉ dests
  distinct : ∀ task dests reqtasks broadcasts,
    relay.processing = .sending task dests reqtasks broadcasts → dests.Nodup

theorem pick_nodup (draw : Name -> Rand) {entries : List (Name × Std.ExtTreeSet Nat)}
    (apart : (entries.flatMap fun entry => entry.2.toList).Nodup) :
    ((entries.filterMap (Registry.pickFrom draw)).map Prod.snd).Nodup := by
  have among : ∀ (entries : List (Name × Std.ExtTreeSet Nat)),
      ∀ client ∈ (entries.filterMap (Registry.pickFrom draw)).map Prod.snd,
        client ∈ entries.flatMap fun entry => entry.2.toList := by
    intro entries client member
    obtain ⟨pick, chosen, rfl⟩ := List.mem_map.mp member
    obtain ⟨entry, there, picked⟩ := List.mem_filterMap.mp chosen
    exact List.mem_flatMap.mpr ⟨entry, there, (Registry.pickFrom_some picked).2⟩
  induction entries with
  | nil => exact List.nodup_nil
  | cons entry rest ih =>
    rw [List.flatMap_cons, List.nodup_append] at apart
    obtain ⟨_, restApart, disjoint⟩ := apart
    cases picked : Registry.pickFrom draw entry with
    | none =>
      rw [List.filterMap_cons_none picked]
      exact ih restApart
    | some pick =>
      rw [List.filterMap_cons_some picked, List.map_cons, List.nodup_cons]
      refine ⟨?_, ih restApart⟩
      intro again
      exact disjoint pick.2 (Registry.pickFrom_some picked).2 pick.2 (among rest pick.2 again) rfl

theorem destclients_nodup (picks : List (Name × Nat)) : (destclients picks).Nodup :=
  Std.ExtTreeSet.distinct_toList.imp fun apart same =>
    apart (Std.LawfulEqCmp.compare_eq_iff_eq.mpr same)

theorem handled_apart (numbered : relay.Numbered) (conserved : relay.Conserved) {task : SendMsg}
    (atHand : task ∈ relay.processing.batch) :
    ∀ other ∈ relay.handled, other.number ≠ task.number := by
  have distinct := (conserved.accounted.map SendMsg.number).nodup_iff.mp numbered.distinct
  rw [List.map_append, List.map_append, List.nodup_append] at distinct
  intro other member
  exact distinct.2.2 other.number (List.mem_map_of_mem member) task.number
    (List.mem_append_left _ (List.mem_map_of_mem atHand))

theorem Calls.copy {following : Relay} (calls : relay.Calls)
    (sameSent : following.sent = relay.sent) (sameHandled : following.handled = relay.handled)
    (sameSending : ∀ task dests reqtasks broadcasts,
      following.processing = .sending task dests reqtasks broadcasts ↔
        relay.processing = .sending task dests reqtasks broadcasts) : following.Calls := by
  refine ⟨?_, ?_, ?_⟩
  · rw [SentOnce, sameSent]
    exact calls.once
  · simp only [sameSent, sameHandled, sameSending]
    exact calls.made
  · simp only [sameSending]
    exact calls.distinct

theorem Calls.between (calls : relay.Calls) {processing after : Processing}
    (phase : relay.processing = processing)
    (notSending : ∀ task dests reqtasks broadcasts,
      processing ≠ .sending task dests reqtasks broadcasts)
    (distinct : ∀ task dests reqtasks broadcasts,
      after = .sending task dests reqtasks broadcasts → dests.Nodup)
    (reqtoclient broadcast : List SendMsg) :
    Calls { relay with processing := after, reqtoclient, broadcast } := by
  refine ⟨calls.once, ?_, distinct⟩
  intro call member
  rcases calls.made call member with handled | ⟨dests, reqtasks, broadcasts, sending, _⟩
  · exact .inl handled
  · exact absurd (phase.symm.trans sending) (notSending _ _ _ _)

theorem send_calls (numbered : relay.Numbered) (conserved : relay.Conserved) (calls : relay.Calls)
    {task : SendMsg} {dest : Nat} {rest : List Nat} {reqtasks broadcasts : List SendMsg}
    (front : relay.processing = .sending task (dest :: rest) reqtasks broadcasts) :
    Calls { relay with
      processing := .sending task rest reqtasks broadcasts
      sent := relay.sent ++ [(task, dest)] } := by
  have distinct := List.nodup_cons.mp (calls.distinct task _ _ _ front)
  have atHand : task ∈ relay.processing.batch := by
    rw [front]
    exact List.mem_cons_self
  refine ⟨?_, ?_, ?_⟩
  · rw [SentOnce, List.map_append, List.map_singleton]
    refine List.Nodup.append calls.once (List.nodup_singleton _)
      (List.disjoint_singleton.mpr ?_)
    intro again
    obtain ⟨call, member, same⟩ := List.mem_map.mp again
    rw [Prod.mk.injEq] at same
    rcases calls.made call member with handled | ⟨dests, _, _, sending, notLeft⟩
    · exact handled_apart numbered conserved atHand call.1 handled same.1
    · rw [front, Processing.sending.injEq] at sending
      rw [← sending.2.1, same.2] at notLeft
      exact notLeft List.mem_cons_self
  · intro call member
    rcases List.mem_append.mp member with older | isNew
    · rcases calls.made call older with handled | ⟨dests, _, _, sending, notLeft⟩
      · exact .inl handled
      · rw [front, Processing.sending.injEq] at sending
        obtain ⟨same, rfl, -, -⟩ := sending
        exact .inr ⟨rest, reqtasks, broadcasts, same ▸ rfl,
          fun left => notLeft (List.mem_cons_of_mem dest left)⟩
    · rw [List.mem_singleton.mp isNew]
      exact .inr ⟨rest, reqtasks, broadcasts, rfl, distinct.1⟩
  · intro other dests _ _ sending
    rw [Processing.sending.injEq] at sending
    exact sending.2.1 ▸ distinct.2

theorem finish_calls (calls : relay.Calls) {task : SendMsg} {reqtasks broadcasts : List SendMsg}
    (front : relay.processing = .sending task [] reqtasks broadcasts) :
    Calls { relay with
      processing := .running reqtasks broadcasts
      handled := relay.handled ++ [task] } := by
  refine ⟨calls.once, ?_, by simp⟩
  intro call member
  rcases calls.made call member with handled | ⟨dests, _, _, sending, _⟩
  · exact .inl (List.mem_append_left _ handled)
  · rw [front, Processing.sending.injEq] at sending
    rw [sending.1]
    exact .inl (List.mem_append_right _ (List.mem_singleton_self _))

theorem move_calls {event : RelayEvent} {following : Relay} (numbered : relay.Numbered)
    (conserved : relay.Conserved) (calls : relay.Calls)
    (meets : relay.broadcastsApart event = true) (move : Move relay event following) :
    following.Calls := by
  cases move with
  | queue worker fd relaying there found =>
    exact calls.copy rfl rfl fun _ _ _ _ => Processing.notify_sending
  | woken _ notified processing asleep awake =>
    refine calls.between asleep (by simp) ?_ relay.reqtoclient relay.broadcast
    rcases awake with rfl | rfl <;> simp
  | returns _ locked ends => exact calls.between locked (by simp) (by simp) _ _
  | sleeps _ locked noReq noBroadcast => exact calls.between locked (by simp) (by simp) _ _
  | swap draw locked goesOn => exact calls.between locked (by simp) (by simp) [] []
  | selectReq _ task reqtasks broadcasts picks front =>
    refine calls.between front (by simp) ?_ _ _
    intro other dests _ _ sending
    rw [Processing.sending.injEq] at sending
    exact sending.2.1 ▸ destclients_nodup picks
  | selectBroadcast draw task broadcasts front =>
    refine calls.between front (by simp) ?_ _ _
    intro other dests _ _ sending
    rw [Processing.sending.injEq] at sending
    simp only [broadcastsApart, front, connectionsApart, decide_eq_true_eq] at meets
    exact sending.2.1 ▸ pick_nodup draw meets
  | drained _ front => exact calls.between front (by simp) (by simp) _ _
  | send _ task dest rest reqtasks broadcasts front =>
    exact send_calls numbered conserved calls front
  | finish _ task reqtasks broadcasts front => exact finish_calls calls front
  | _ => exact calls.copy rfl rfl fun _ _ _ _ => Iff.rfl

theorem numbered_initial : initial.Numbered := by
  constructor <;> simp [initial, inPool, queuedNumbers]

theorem conserved_initial : initial.Conserved := by
  constructor <;> simp [initial, Processing.batch]

theorem calls_initial : initial.Calls := by
  constructor <;> simp [initial, SentOnce]

theorem Conserved.handledOnce (conserved : relay.Conserved) (numbered : relay.Numbered) :
    relay.HandledOnce := by
  have distinct := (conserved.accounted.map SendMsg.number).nodup_iff.mp numbered.distinct
  rw [List.map_append] at distinct
  exact ⟨distinct.of_append_left, fun task member =>
    conserved.accounted.symm.subset (List.mem_append_left _ member), conserved.served⟩

theorem relayed_once {relay : Relay}
    (reached : Transition.ReachableWhen step
      (fun relay event => relay.broadcastsApart event = true) initial relay) :
    relay.SentOnce ∧ relay.HandledOnce := by
  have kept : relay.Numbered ∧ relay.Conserved ∧ relay.Calls := by
    refine reached.invariant (fun relay => relay.Numbered ∧ relay.Conserved ∧ relay.Calls)
      ⟨numbered_initial, conserved_initial, calls_initial⟩ ?_
    rintro relay event following ⟨numbered, conserved, calls⟩ meets taken
    have move := step_moves taken
    exact ⟨move_numbered numbered move, move_conserved conserved move,
      move_calls numbered conserved calls meets move⟩
  exact ⟨kept.2.2.once, kept.2.1.handledOnce kept.1⟩

open Registry (registerEvent)

-- A message from the connection is read, accepted and queued by a worker.
def relays (addr : Nat) (destName : Name) (data : Bytes) : List RelayEvent :=
  [.read addr destName data, .take, .work 0 (3 + addr), .work 0 (3 + addr), .work 0 (3 + addr),
    .work 0 (3 + addr)]

def processes (count : Nat) : List RelayEvent := List.replicate count (.process firstOnes)

def twoServices : List RelayEvent :=
  [.table (registerEvent 0 [65] 80), .table (registerEvent 1 [66] 81)] ++ relays 0 [] [7] ++
    processes 5

theorem relayed_once_twoServices : ∃ relay : Relay,
    Transition.run (Transition.checkedStep step
      fun relay event => relay.broadcastsApart event = true) initial twoServices = some relay ∧
      relay.sent.map Prod.snd = [0, 1] ∧ relay.SentOnce ∧ relay.HandledOnce :=
  ⟨_, rfl, by decide, relayed_once (Transition.ReachableWhen.start.run twoServices rfl)⟩

-- One connection under two names, which a broadcast reaches under both.
def twoNames : List RelayEvent :=
  [.table (registerEvent 0 [65] 80), .table (registerEvent 0 [66] 81)] ++ relays 0 [] [7] ++
    processes 5

theorem broadcast_sent_twice : ∃ relay, Transition.run step initial twoNames = some relay ∧
    relay.sent.map (fun call => (call.1.number, call.2)) = [(0, 0), (0, 0)] ∧
      ¬ relay.SentOnce := by
  refine ⟨_, rfl, by decide, ?_⟩
  intro once
  have twice : List.Nodup [(0, 0), (0, 0)] := once
  exact absurd twice (by decide)

end Relay
end MessageBus.Server
