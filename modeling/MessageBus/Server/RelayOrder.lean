import MessageBus.Server.RelayOnce

set_option autoImplicit false

namespace MessageBus.Server

namespace SendMsg

-- Of the frames of one connection.
def Before (first second : SendMsg) : Prop :=
  first.addr = second.addr → first.number < second.number

def NotAfter (first second : SendMsg) : Prop :=
  first.addr = second.addr → first.number ≤ second.number

instance (first second : SendMsg) : Decidable (first.Before second) :=
  inferInstanceAs (Decidable (_ → _))

theorem Before.notAfter {first second : SendMsg} (before : first.Before second) :
    first.NotAfter second :=
  fun same => Nat.le_of_lt (before same)

theorem pairwise_before_concat {tasks : List SendMsg} {last : SendMsg}
    (ordered : tasks.Pairwise Before) (later : ∀ task ∈ tasks, task.Before last) :
    (tasks ++ [last]).Pairwise Before := by
  rw [List.pairwise_append]
  refine ⟨ordered, List.pairwise_singleton _ _, ?_⟩
  intro task member other isLast
  rw [List.mem_singleton.mp isLast]
  exact later task member

end SendMsg

namespace Relay

open SendMsg

def InOrder (relay : Relay) : Prop :=
  relay.sent.Pairwise fun first second =>
    first.1.addr = second.1.addr → first.2 = second.2 → first.1.number ≤ second.1.number

-- The workers queue the messages of a connection in the order they were read in, and no swap takes
-- a broadcast with a later message of its connection that has a destination.
def queuesInOrder (relay : Relay) : RelayEvent -> Bool
  | .work worker _ =>
    match relay.workers[worker]? with
    | some { task, stage := .found true } =>
      relay.queued.all fun earlier => decide (earlier.Before task)
    | _ => true
  | .process _ =>
    match relay.processing with
    | .locking => relay.terminate || relay.reqtoclient.all fun reqtask =>
        relay.broadcast.all fun broadcast => decide (reqtask.Before broadcast)
    | _ => true
  | _ => true

structure Ordered (relay : Relay) : Prop where
  sent : relay.sent.Pairwise fun first second => first.1.NotAfter second.1
  atHand : ∀ call ∈ relay.sent, ∀ task ∈ relay.processing.batch, call.1.NotAfter task
  past : ∀ call ∈ relay.sent, ∀ task ∈ relay.reqtoclient ++ relay.broadcast, call.1.Before task
  batch : relay.processing.batch.Pairwise Before
  ahead : ∀ first ∈ relay.processing.batch, ∀ second ∈ relay.reqtoclient ++ relay.broadcast,
    first.Before second
  reqs : relay.reqtoclient.Pairwise Before
  broadcasts : relay.broadcast.Pairwise Before
  known : ∀ call ∈ relay.sent, call.1 ∈ relay.queued

variable {relay : Relay}

theorem ordered_initial : initial.Ordered := by
  constructor <;> simp [initial, Processing.batch]

theorem Ordered.copy {following : Relay} (ordered : relay.Ordered)
    (sameSent : following.sent = relay.sent)
    (sameBatch : following.processing.batch = relay.processing.batch)
    (sameReq : following.reqtoclient = relay.reqtoclient)
    (sameBroadcast : following.broadcast = relay.broadcast)
    (sameQueued : following.queued = relay.queued) : following.Ordered := by
  obtain ⟨sent, atHand, past, batch, ahead, reqs, broadcasts, known⟩ := ordered
  rw [← sameSent] at sent atHand past known
  rw [← sameBatch] at atHand batch ahead
  rw [← sameReq] at past ahead reqs
  rw [← sameBroadcast] at past ahead broadcasts
  rw [← sameQueued] at known
  exact ⟨sent, atHand, past, batch, ahead, reqs, broadcasts, known⟩

theorem Conserved.knownBatch (conserved : relay.Conserved) {task : SendMsg}
    (member : task ∈ relay.processing.batch) : task ∈ relay.queued :=
  conserved.accounted.symm.subset
    (List.mem_append_right _ (List.mem_append_left _ member))

theorem Conserved.knownWaiting (conserved : relay.Conserved) {task : SendMsg}
    (member : task ∈ relay.reqtoclient ++ relay.broadcast) : task ∈ relay.queued :=
  conserved.accounted.symm.subset
    (List.mem_append_right _ (List.mem_append_right _ member))

theorem mem_queueTask {task other : SendMsg}
    (member : other ∈ (relay.queueTask task).reqtoclient ++ (relay.queueTask task).broadcast) :
    other ∈ relay.reqtoclient ++ relay.broadcast ∨ other = task := by
  simp only [queueTask] at member
  split at member <;> simp only [List.mem_append, List.mem_singleton] at member ⊢ <;> tauto

theorem queue_ordered (conserved : relay.Conserved) (ordered : relay.Ordered) {task : SendMsg}
    (later : ∀ earlier ∈ relay.queued, earlier.Before task) :
    (relay.queueTask task).Ordered := by
  have known : ∀ call ∈ relay.sent, call.1 ∈ (relay.queueTask task).queued :=
    fun call member => List.mem_append_left _ (ordered.known call member)
  have sameBatch : (relay.queueTask task).processing.batch = relay.processing.batch :=
    Processing.batch_notify relay.processing
  refine ⟨ordered.sent, ?_, ?_, ?_, ?_, ?_, ?_, known⟩
  · rw [sameBatch]
    exact ordered.atHand
  · intro call made other member
    rcases mem_queueTask member with older | rfl
    · exact ordered.past call made other older
    · exact later call.1 (ordered.known call made)
  · rw [sameBatch]
    exact ordered.batch
  · rw [sameBatch]
    intro first inBatch other member
    rcases mem_queueTask member with older | rfl
    · exact ordered.ahead first inBatch other older
    · exact later first (conserved.knownBatch inBatch)
  · simp only [queueTask]
    split
    · exact ordered.reqs
    · exact pairwise_before_concat ordered.reqs fun earlier member =>
        later earlier (conserved.knownWaiting (List.mem_append_left _ member))
  · simp only [queueTask]
    split
    · exact pairwise_before_concat ordered.broadcasts fun earlier member =>
        later earlier (conserved.knownWaiting (List.mem_append_right _ member))
    · exact ordered.broadcasts

theorem swap_ordered (ordered : relay.Ordered)
    (apart : ∀ reqtask ∈ relay.reqtoclient, ∀ broadcast ∈ relay.broadcast,
      reqtask.Before broadcast) :
    Ordered { relay with
      reqtoclient := []
      broadcast := []
      processing := .running relay.reqtoclient relay.broadcast } where
  sent := ordered.sent
  atHand := fun call made task member => (ordered.past call made task member).notAfter
  past := fun _ _ _ member => by cases member
  batch := List.pairwise_append.mpr ⟨ordered.reqs, ordered.broadcasts, apart⟩
  ahead := fun _ _ _ member => by cases member
  reqs := List.Pairwise.nil
  broadcasts := List.Pairwise.nil
  known := ordered.known

theorem send_ordered (conserved : relay.Conserved) (ordered : relay.Ordered) {task : SendMsg}
    {dest : Nat} {rest : List Nat} {reqtasks broadcasts : List SendMsg}
    (front : relay.processing = .sending task (dest :: rest) reqtasks broadcasts) :
    Ordered { relay with
      processing := .sending task rest reqtasks broadcasts
      sent := relay.sent ++ [(task, dest)] } := by
  have sameBatch : (Processing.sending task rest reqtasks broadcasts).batch =
      relay.processing.batch := by rw [front]; rfl
  have inBatch : task ∈ relay.processing.batch := by
    rw [front]
    exact List.mem_cons_self
  have firstOfBatch : ∀ other ∈ relay.processing.batch, task.NotAfter other := by
    have batch := ordered.batch
    rw [front] at batch ⊢
    intro other member
    rcases List.mem_cons.mp member with rfl | behind
    · exact fun _ => le_rfl
    · exact ((List.pairwise_cons.mp batch).1 other behind).notAfter
  have ofAll (property : SendMsg -> Prop) (older : ∀ call ∈ relay.sent, property call.1)
      (newest : property task) : ∀ call ∈ relay.sent ++ [(task, dest)], property call.1 := by
    intro call member
    rcases List.mem_append.mp member with made | last
    · exact older call made
    · rw [List.mem_singleton.mp last]
      exact newest
  refine ⟨?_, ?_, ?_, ?_, ?_, ordered.reqs, ordered.broadcasts, ?_⟩
  · refine List.pairwise_append.mpr ⟨ordered.sent, List.pairwise_singleton _ _, ?_⟩
    intro call made other isLast
    rw [List.mem_singleton.mp isLast]
    exact ordered.atHand call made task inBatch
  · rw [sameBatch]
    exact ofAll (fun first => ∀ other ∈ relay.processing.batch, first.NotAfter other)
      ordered.atHand firstOfBatch
  · exact ofAll (fun first => ∀ other ∈ relay.reqtoclient ++ relay.broadcast, first.Before other)
      ordered.past (ordered.ahead task inBatch)
  · rw [sameBatch]
    exact ordered.batch
  · rw [sameBatch]
    exact ordered.ahead
  · exact ofAll (· ∈ relay.queued) ordered.known (conserved.knownBatch inBatch)

theorem finish_ordered (ordered : relay.Ordered) {task : SendMsg}
    {reqtasks broadcasts : List SendMsg}
    (front : relay.processing = .sending task [] reqtasks broadcasts) :
    Ordered { relay with
      processing := .running reqtasks broadcasts
      handled := relay.handled ++ [task] } := by
  have whole : relay.processing.batch = task :: (reqtasks ++ broadcasts) := by rw [front]; rfl
  obtain ⟨sent, atHand, past, batch, ahead, reqs, broadcastsOrdered, known⟩ := ordered
  rw [whole] at atHand batch ahead
  exact ⟨sent, fun call made other member => atHand call made other (List.mem_cons_of_mem _ member),
    past, (List.pairwise_cons.mp batch).2,
    fun first member => ahead first (List.mem_cons_of_mem _ member), reqs, broadcastsOrdered, known⟩

theorem move_ordered {event : RelayEvent} {following : Relay} (conserved : relay.Conserved)
    (ordered : relay.Ordered) (meets : relay.queuesInOrder event = true)
    (move : Move relay event following) : following.Ordered := by
  cases move with
  | queue worker fd relaying there found =>
    obtain ⟨task, stage⟩ := relaying
    cases found
    simp only [queuesInOrder, there, List.all_eq_true, decide_eq_true_eq] at meets
    exact (queue_ordered conserved ordered meets).copy rfl rfl rfl rfl rfl
  | woken _ notified processing asleep awake =>
    refine ordered.copy rfl ?_ rfl rfl rfl
    rw [asleep]
    rcases awake with rfl | rfl <;> rfl
  | returns _ locked ends => exact ordered.copy rfl (by rw [locked]; rfl) rfl rfl rfl
  | sleeps _ locked noReq noBroadcast =>
    exact ordered.copy rfl (by rw [locked]; rfl) rfl rfl rfl
  | swap draw locked goesOn =>
    simp only [queuesInOrder, locked, goesOn, Bool.false_or, List.all_eq_true,
      decide_eq_true_eq] at meets
    exact swap_ordered ordered meets
  | selectReq _ task reqtasks broadcasts picks front =>
    exact ordered.copy rfl (by rw [front]; rfl) rfl rfl rfl
  | selectBroadcast draw task broadcasts front =>
    exact ordered.copy rfl (by rw [front]; rfl) rfl rfl rfl
  | drained _ front => exact ordered.copy rfl (by rw [front]; rfl) rfl rfl rfl
  | send _ task dest rest reqtasks broadcasts front =>
    exact send_ordered conserved ordered front
  | finish _ task reqtasks broadcasts front => exact finish_ordered ordered front
  | _ => exact ordered.copy rfl rfl rfl rfl rfl

theorem relayed_in_order {relay : Relay}
    (reached : Transition.ReachableWhen step
      (fun relay event => relay.queuesInOrder event = true) initial relay) : relay.InOrder := by
  have kept : relay.Conserved ∧ relay.Ordered := by
    refine reached.invariant (fun relay => relay.Conserved ∧ relay.Ordered)
      ⟨conserved_initial, ordered_initial⟩ ?_
    rintro relay event following ⟨conserved, ordered⟩ meets taken
    have move := step_moves taken
    exact ⟨move_conserved conserved move, move_ordered conserved ordered meets move⟩
  exact kept.2.sent.imp fun notAfter sameAddr _ => notAfter sameAddr

open Registry (registerEvent)

-- Two messages one after the other, each sent on before the next is queued.
def oneByOne : List RelayEvent :=
  [.table (registerEvent 0 [65] 80)] ++ relays 0 [65] [7] ++ relays 0 [] [8] ++ processes 8

theorem relayed_in_order_oneByOne : ∃ relay : Relay,
    Transition.run (Transition.checkedStep step
      fun relay event => relay.queuesInOrder event = true) initial oneByOne = some relay ∧
      relay.sent.map (fun call => (call.1.number, call.2)) = [(0, 0), (1, 0)] ∧ relay.InOrder :=
  ⟨_, rfl, by decide, relayed_in_order (Transition.ReachableWhen.start.run oneByOne rfl)⟩

-- Two workers: the one that took the second message is the first to queue.
def overtaken : List RelayEvent :=
  [.table (registerEvent 0 [65] 80), .read 0 [65] [7], .read 0 [65] [8], .take, .take,
    .work 1 3, .work 1 3, .work 1 3, .work 0 3, .work 0 3, .work 0 3] ++ processes 7

theorem second_message_first : ∃ relay, Transition.run step initial overtaken = some relay ∧
    relay.sent.map (fun call => (call.1.number, call.2)) = [(1, 0), (0, 0)] ∧ ¬ relay.InOrder := by
  refine ⟨_, rfl, by decide, ?_⟩
  intro inOrder
  have first := (List.pairwise_cons.mp inOrder).1 _ (List.mem_singleton_self _) rfl rfl
  exact absurd first (by decide)

-- One worker suffices where a broadcast comes before a message with a destination.
def broadcastFirst : List RelayEvent :=
  [.table (registerEvent 0 [65] 80)] ++ relays 0 [] [7] ++ relays 0 [65] [8] ++ processes 7

example : ∃ relay, Transition.run step initial broadcastFirst = some relay ∧
    relay.sent.map (fun call => (call.1.number, call.2)) = [(1, 0), (0, 0)] :=
  ⟨_, rfl, by decide⟩

end Relay
end MessageBus.Server
