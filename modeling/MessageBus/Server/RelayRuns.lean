import MessageBus.Server.Relay

set_option autoImplicit false

namespace MessageBus.Server

-- A REQ_SENDMSG frame, numbered as it was read, and what is sent on of it.
structure SendMsg where
  number : Nat
  addr : Nat
  destName : Name
  data : Bytes
  deriving DecidableEq, Repr

-- How far a worker is with a frame.
inductive Stage where
  | taken
  | checked
  | found (isExist : Bool)
  | answering (retCode : UInt16)
  deriving DecidableEq, Repr

def Stage.mayQueue : Stage -> Bool
  | .answering _ => false
  | _ => true

structure Relaying where
  task : SendMsg
  stage : Stage
  deriving DecidableEq, Repr

inductive Processing where
  | locking
  | waiting (notified : Bool)
  | running (reqtasks broadcasts : List SendMsg)
  | sending (task : SendMsg) (destclients : List Nat) (reqtasks broadcasts : List SendMsg)
  | returned
  deriving DecidableEq, Repr

namespace Processing

def notify : Processing -> Processing
  | .waiting _ => .waiting true
  | processing => processing

theorem notify_awake {processing : Processing}
    (awake : ∀ notified, processing ≠ .waiting notified) : processing.notify = processing := by
  cases processing with
  | waiting notified => exact absurd rfl (awake notified)
  | _ => rfl

theorem notify_not_asleep {processing : Processing} : processing.notify ≠ .waiting false := by
  cases processing <;> simp [notify]

theorem notify_returned {processing : Processing} :
    processing.notify = .returned ↔ processing = .returned := by
  cases processing <;> simp [notify]

theorem notify_sending {processing : Processing} {task : SendMsg} {dests : List Nat}
    {reqtasks broadcasts : List SendMsg} :
    processing.notify = .sending task dests reqtasks broadcasts ↔
      processing = .sending task dests reqtasks broadcasts := by
  cases processing <;> simp [notify]

def batch : Processing -> List SendMsg
  | .running reqtasks broadcasts => reqtasks ++ broadcasts
  | .sending task _ reqtasks broadcasts => task :: (reqtasks ++ broadcasts)
  | _ => []

theorem batch_notify (processing : Processing) : processing.notify.batch = processing.batch := by
  cases processing <;> rfl

end Processing

structure Relay where
  registry : Registry
  next : Nat
  workTasks : List SendMsg
  workers : List Relaying
  reqtoclient : List SendMsg
  broadcast : List SendMsg
  processing : Processing
  terminate : Bool
  answers : List (Nat × UInt16)
  -- The tasks ever queued for the process thread, and those it has popped.
  queued : List SendMsg
  handled : List SendMsg
  -- The calls of SendData for the tasks.
  sent : List (SendMsg × Nat)

inductive RelayEvent where
  | table (event : Registry.Event)
  | read (addr : Nat) (destName : Name) (data : Bytes)
  | take
  | work (worker : Nat) (fd : Int)
  | terminate
  | notifyAll
  | wakeUnasked
  | process (draw : Name -> Rand)

namespace Relay

def initial : Relay where
  registry := .empty
  next := 0
  workTasks := []
  workers := []
  reqtoclient := []
  broadcast := []
  processing := .locking
  terminate := false
  answers := []
  queued := []
  handled := []
  sent := []

-- msgbus_queue_broadcast or msgbus_queue_reqtoclient.
def queueTask (relay : Relay) (task : SendMsg) : Relay :=
  { relay with
    reqtoclient :=
      if task.destName = [] then relay.reqtoclient else relay.reqtoclient ++ [task]
    broadcast := if task.destName = [] then relay.broadcast ++ [task] else relay.broadcast
    processing := relay.processing.notify
    queued := relay.queued ++ [task] }

-- process_data_from_client and process_sendmsg_req, from one shared access to the next.
def workStep (relay : Relay) (worker : Nat) (fd : Int) : Option Relay :=
  (relay.workers[worker]?).map fun relaying =>
    let go := fun (relay : Relay) stage =>
      { relay with workers := relay.workers.set worker { relaying with stage } }
    match relaying.stage with
    | .taken =>
      if relay.registry.tcpServicesMap.contains fd then go relay .checked
      else { relay with workers := relay.workers.eraseIdx worker }
    | .checked => go relay (.found (relay.registry.isExist relaying.task.destName))
    | .found isExist =>
      if isExist then go (relay.queueTask relaying.task) (.answering 0)
      else go relay (.answering 1)
    | .answering retCode =>
      { relay with
        workers := relay.workers.eraseIdx worker
        answers := relay.answers ++ [(relaying.task.number, retCode)] }

-- The connections of the picks, in the order of their addresses.
def destclients (picks : List (Name × Nat)) : List Nat :=
  (picks.foldl (fun dest pick => dest.insert pick.2) (∅ : Std.ExtTreeSet Nat)).toList

-- msgbus_process_thread; the condition of its inner loop is looked at under the lock.
def processStep (relay : Relay) (draw : Name -> Rand) : Option Relay :=
  match relay.processing with
  | .locking =>
    if relay.terminate then some { relay with processing := .returned }
    else if relay.reqtoclient.isEmpty && relay.broadcast.isEmpty then
      some { relay with processing := .waiting false }
    else
      some { relay with
        reqtoclient := []
        broadcast := []
        processing := .running relay.reqtoclient relay.broadcast }
  | .waiting notified => if notified then some { relay with processing := .locking } else none
  | .running (task :: reqtasks) broadcasts =>
    let picks := relay.registry.matchedClients draw task.destName
    some { relay with processing := .sending task (destclients picks) reqtasks broadcasts }
  | .running [] (task :: broadcasts) =>
    let picks := relay.registry.allClients draw
    some { relay with processing := .sending task (picks.map Prod.snd) [] broadcasts }
  | .running [] [] => some { relay with processing := .locking }
  | .sending task (destclient :: rest) reqtasks broadcasts =>
    some { relay with
      processing := .sending task rest reqtasks broadcasts
      sent := relay.sent ++ [(task, destclient)] }
  | .sending task [] reqtasks broadcasts =>
    some { relay with
      processing := .running reqtasks broadcasts
      handled := relay.handled ++ [task] }
  | .returned => none

def step (relay : Relay) : RelayEvent -> Option Relay
  | .table event => (relay.registry.step event).map fun registry => { relay with registry }
  | .read addr destName data =>
    some { relay with
      next := relay.next + 1
      workTasks := relay.workTasks ++ [{ number := relay.next, addr, destName, data }] }
  | .take =>
    match relay.workTasks with
    | [] => none
    | task :: rest =>
      some { relay with
        workTasks := rest
        workers := relay.workers ++ [{ task, stage := .taken }] }
  | .work worker fd => relay.workStep worker fd
  | .terminate => some { relay with terminate := true }
  | .notifyAll =>
    if relay.terminate then some { relay with processing := relay.processing.notify } else none
  | .wakeUnasked =>
    match relay.processing with
    | .waiting _ => some { relay with processing := .locking }
    | _ => none
  | .process draw => relay.processStep draw

inductive Move (relay : Relay) : RelayEvent -> Relay -> Prop where
  | table (event : RelayEvent) (registry : Registry) : Move relay event { relay with registry }
  | read (addr : Nat) (destName : Name) (data : Bytes) :
      Move relay (.read addr destName data) { relay with
        next := relay.next + 1
        workTasks := relay.workTasks ++ [{ number := relay.next, addr, destName, data }] }
  | take (task : SendMsg) (rest : List SendMsg) (front : relay.workTasks = task :: rest) :
      Move relay .take { relay with
        workTasks := rest
        workers := relay.workers ++ [{ task, stage := .taken }] }
  | goOn (event : RelayEvent) (worker : Nat) (relaying : Relaying) (stage : Stage)
      (there : relay.workers[worker]? = some relaying) (may : relaying.stage.mayQueue = true) :
      Move relay event { relay with
        workers := relay.workers.set worker { relaying with stage } }
  | leave (event : RelayEvent) (worker : Nat) (answers : List (Nat × UInt16)) :
      Move relay event { relay with workers := relay.workers.eraseIdx worker, answers }
  | queue (worker : Nat) (fd : Int) (relaying : Relaying)
      (there : relay.workers[worker]? = some relaying) (found : relaying.stage = .found true) :
      Move relay (.work worker fd) { relay.queueTask relaying.task with
        workers := relay.workers.set worker { relaying with stage := .answering 0 } }
  | ended (event : RelayEvent) : Move relay event { relay with terminate := true }
  | woken (event : RelayEvent) (notified : Bool) (processing : Processing)
      (asleep : relay.processing = .waiting notified)
      (awake : processing = .waiting true ∨ processing = .locking) :
      Move relay event { relay with processing }
  | returns (event : RelayEvent) (locked : relay.processing = .locking)
      (ends : relay.terminate = true) : Move relay event { relay with processing := .returned }
  | sleeps (event : RelayEvent) (locked : relay.processing = .locking)
      (noReq : relay.reqtoclient = []) (noBroadcast : relay.broadcast = []) :
      Move relay event { relay with processing := .waiting false }
  | swap (draw : Name -> Rand) (locked : relay.processing = .locking)
      (goesOn : relay.terminate = false) :
      Move relay (.process draw) { relay with
        reqtoclient := []
        broadcast := []
        processing := .running relay.reqtoclient relay.broadcast }
  | selectReq (event : RelayEvent) (task : SendMsg) (reqtasks broadcasts : List SendMsg)
      (picks : List (Name × Nat))
      (front : relay.processing = .running (task :: reqtasks) broadcasts) :
      Move relay event { relay with
        processing := .sending task (destclients picks) reqtasks broadcasts }
  | selectBroadcast (draw : Name -> Rand) (task : SendMsg) (broadcasts : List SendMsg)
      (front : relay.processing = .running [] (task :: broadcasts)) :
      Move relay (.process draw) { relay with
        processing :=
          .sending task ((relay.registry.allClients draw).map Prod.snd) [] broadcasts }
  | drained (event : RelayEvent) (front : relay.processing = .running [] []) :
      Move relay event { relay with processing := .locking }
  | send (event : RelayEvent) (task : SendMsg) (dest : Nat) (rest : List Nat)
      (reqtasks broadcasts : List SendMsg)
      (front : relay.processing = .sending task (dest :: rest) reqtasks broadcasts) :
      Move relay event { relay with
        processing := .sending task rest reqtasks broadcasts
        sent := relay.sent ++ [(task, dest)] }
  | finish (event : RelayEvent) (task : SendMsg) (reqtasks broadcasts : List SendMsg)
      (front : relay.processing = .sending task [] reqtasks broadcasts) :
      Move relay event { relay with
        processing := .running reqtasks broadcasts
        handled := relay.handled ++ [task] }

variable {relay : Relay}

theorem workStep_moves {worker : Nat} {fd : Int} {following : Relay}
    (taken : relay.workStep worker fd = some following) :
    Move relay (.work worker fd) following := by
  obtain ⟨relaying, there, rfl⟩ := Option.map_eq_some_iff.mp taken
  cases stage : relaying.stage with
  | taken =>
    have may : relaying.stage.mayQueue = true := by rw [stage]; rfl
    dsimp only
    split
    · exact .goOn _ worker relaying .checked there may
    · exact .leave _ worker relay.answers
  | checked =>
    have may : relaying.stage.mayQueue = true := by rw [stage]; rfl
    exact .goOn _ worker relaying _ there may
  | found isExist =>
    have may : relaying.stage.mayQueue = true := by rw [stage]; rfl
    cases isExist with
    | true => exact .queue worker fd relaying there stage
    | false => exact .goOn _ worker relaying _ there may
  | answering retCode => exact .leave _ worker _

theorem notify_moves (event : RelayEvent) :
    Move relay event { relay with processing := relay.processing.notify } := by
  by_cases asleep : ∃ notified, relay.processing = .waiting notified
  · obtain ⟨notified, phase⟩ := asleep
    refine .woken event notified _ phase (.inl ?_)
    rw [phase]
    rfl
  · have same : relay.processing.notify = relay.processing :=
      Processing.notify_awake fun notified phase => asleep ⟨notified, phase⟩
    rw [same]
    exact .table event relay.registry

theorem processStep_moves {draw : Name -> Rand} {following : Relay}
    (taken : relay.processStep draw = some following) :
    Move relay (.process draw) following := by
  unfold processStep at taken
  split at taken
  next locked =>
    split at taken
    next ends =>
      cases taken
      exact .returns _ locked ends
    next goesOn =>
      split at taken
      next nothing =>
        rw [Bool.and_eq_true, List.isEmpty_iff, List.isEmpty_iff] at nothing
        cases taken
        exact .sleeps _ locked nothing.1 nothing.2
      next =>
        cases taken
        exact .swap draw locked (Bool.eq_false_iff.mpr goesOn)
  next notified asleep =>
    split at taken
    next =>
      cases taken
      exact .woken _ notified _ asleep (.inr rfl)
    next => cases taken
  next task reqtasks broadcasts front =>
    cases taken
    exact .selectReq _ task reqtasks broadcasts _ front
  next task broadcasts front =>
    cases taken
    exact .selectBroadcast draw task broadcasts front
  next front =>
    cases taken
    exact .drained _ front
  next task dest rest reqtasks broadcasts front =>
    cases taken
    exact .send _ task dest rest reqtasks broadcasts front
  next task reqtasks broadcasts front =>
    cases taken
    exact .finish _ task reqtasks broadcasts front
  next => cases taken

theorem step_moves {event : RelayEvent} {following : Relay}
    (taken : relay.step event = some following) : Move relay event following := by
  cases event with
  | table event =>
    obtain ⟨registry, _, rfl⟩ := Option.map_eq_some_iff.mp taken
    exact .table _ registry
  | read addr destName data =>
    cases taken
    exact .read addr destName data
  | take =>
    simp only [step] at taken
    split at taken
    next => cases taken
    next task rest front =>
      cases taken
      exact .take task rest front
  | work worker fd => exact workStep_moves taken
  | terminate =>
    cases taken
    exact .ended _
  | notifyAll =>
    simp only [step] at taken
    split at taken
    next =>
      cases taken
      exact notify_moves _
    next => cases taken
  | wakeUnasked =>
    simp only [step] at taken
    split at taken
    next notified asleep =>
      cases taken
      exact .woken _ notified _ asleep (.inr rfl)
    next => cases taken
  | process draw => exact processStep_moves taken

def inPool (relay : Relay) : List SendMsg := relay.workTasks ++ relay.workers.map Relaying.task

def queuedNumbers (relay : Relay) : List Nat := relay.queued.map SendMsg.number

structure Numbered (relay : Relay) : Prop where
  pool : (relay.inPool.map SendMsg.number).Nodup
  fresh : ∀ task ∈ relay.inPool, task.number < relay.next
  distinct : relay.queuedNumbers.Nodup
  issued : ∀ number ∈ relay.queuedNumbers, number < relay.next
  tasksApart : ∀ task ∈ relay.workTasks, task.number ∉ relay.queuedNumbers
  workersApart : ∀ relaying ∈ relay.workers, relaying.stage.mayQueue = true →
    relaying.task.number ∉ relay.queuedNumbers

theorem map_task_set {workers : List Relaying} {worker : Nat} {relaying : Relaying}
    (there : workers[worker]? = some relaying) (stage : Stage) :
    (workers.set worker { relaying with stage }).map Relaying.task = workers.map Relaying.task := by
  apply List.ext_getElem?
  intro index
  rw [List.map_set, List.getElem?_set]
  split
  next same =>
    subst same
    split
    · rw [List.getElem?_map, there]
      rfl
    next outside => exact (List.getElem?_eq_none (Nat.not_lt.mp outside)).symm
  next => rfl

theorem Numbered.elsewhere (numbered : relay.Numbered) {worker : Nat} {relaying : Relaying}
    (there : relay.workers[worker]? = some relaying) :
    (∀ task ∈ relay.workTasks, task.number ≠ relaying.task.number) ∧
      ∀ (other : Nat) (second : Relaying), relay.workers[other]? = some second → other ≠ worker →
        second.task.number ≠ relaying.task.number := by
  have pool := numbered.pool
  rw [inPool, List.map_append, List.map_map, List.nodup_append] at pool
  obtain ⟨_, inWorkers, apart⟩ := pool
  have found : (relay.workers.map (SendMsg.number ∘ Relaying.task))[worker]? =
      some relaying.task.number := by
    rw [List.getElem?_map, there]
    rfl
  constructor
  · intro task member same
    exact apart task.number (List.mem_map_of_mem member) relaying.task.number
      (List.mem_of_getElem? found) same
  · intro other second secondThere different same
    have secondFound : (relay.workers.map (SendMsg.number ∘ Relaying.task))[other]? =
        some relaying.task.number := by
      rw [List.getElem?_map, secondThere, ← same]
      rfl
    have inside : other < (relay.workers.map (SendMsg.number ∘ Relaying.task)).length :=
      (List.getElem?_eq_some_iff.mp secondFound).1
    exact different ((List.getElem?_inj inside inWorkers).mp (secondFound.trans found.symm))

theorem Numbered.fewer {following : Relay} (numbered : relay.Numbered)
    (sameNext : following.next = relay.next) (sameTasks : following.workTasks = relay.workTasks)
    (sameQueued : following.queued = relay.queued)
    (fewer : List.Sublist (following.workers.map Relaying.task) (relay.workers.map Relaying.task))
    (sooner : ∀ relaying ∈ following.workers, relaying.stage.mayQueue = true →
      ∃ before ∈ relay.workers, before.task = relaying.task ∧ before.stage.mayQueue = true) :
    following.Numbered := by
  obtain ⟨pool, fresh, distinct, issued, tasksApart, workersApart⟩ := numbered
  have fewerTasks : List.Sublist following.inPool relay.inPool := by
    rw [inPool, inPool, sameTasks]
    exact fewer.append_left relay.workTasks
  have sameNumbers : following.queuedNumbers = relay.queuedNumbers :=
    congrArg (List.map SendMsg.number) sameQueued
  refine ⟨(fewerTasks.map SendMsg.number).nodup pool, ?_, sameNumbers ▸ distinct, ?_, ?_, ?_⟩
  · rw [sameNext]
    exact fun task member => fresh task (fewerTasks.subset member)
  · rw [sameNext, sameNumbers]
    exact issued
  · rw [sameTasks, sameNumbers]
    exact tasksApart
  · intro relaying member may
    obtain ⟨before, older, same, mayBefore⟩ := sooner relaying member may
    rw [sameNumbers, ← same]
    exact workersApart before older mayBefore

theorem read_numbered (numbered : relay.Numbered) (addr : Nat) (destName : Name) (data : Bytes) :
    Numbered { relay with
      next := relay.next + 1
      workTasks := relay.workTasks ++ [{ number := relay.next, addr, destName, data }] } := by
  obtain ⟨pool, fresh, distinct, issued, tasksApart, workersApart⟩ := numbered
  have newest : ∀ number ∈ relay.inPool.map SendMsg.number, number ≠ relay.next := by
    intro number member
    obtain ⟨task, older, rfl⟩ := List.mem_map.mp member
    exact Nat.ne_of_lt (fresh task older)
  refine ⟨?_, ?_, distinct, fun number member => Nat.lt_succ_of_lt (issued number member), ?_,
    workersApart⟩
  · simp only [inPool, List.map_append, List.map_cons, List.append_assoc,
      List.singleton_append] at pool newest ⊢
    rw [List.nodup_middle, List.nodup_cons]
    exact ⟨fun again => newest relay.next again rfl, pool⟩
  · intro task member
    simp only [inPool, List.mem_append, List.mem_singleton] at member
    rcases member with (older | rfl) | inWorkers
    · exact Nat.lt_succ_of_lt (fresh task (List.mem_append_left _ older))
    · exact Nat.lt_succ_self _
    · exact Nat.lt_succ_of_lt (fresh task (List.mem_append_right _ inWorkers))
  · intro task member
    rcases List.mem_append.mp member with older | isNew
    · exact tasksApart task older
    · rw [List.mem_singleton.mp isNew]
      exact fun queued => Nat.lt_irrefl _ (issued relay.next queued)

theorem take_numbered (numbered : relay.Numbered) {task : SendMsg} {rest : List SendMsg}
    (front : relay.workTasks = task :: rest) :
    Numbered { relay with
      workTasks := rest
      workers := relay.workers ++ [{ task, stage := .taken }] } := by
  obtain ⟨pool, fresh, distinct, issued, tasksApart, workersApart⟩ := numbered
  have moved : List.Perm
      (rest ++ (relay.workers ++ [Relaying.mk task .taken]).map Relaying.task) relay.inPool := by
    rw [inPool, front, List.map_append, ← List.append_assoc]
    exact List.perm_append_singleton _ _
  refine ⟨?_, ?_, distinct, issued, ?_, ?_⟩
  · exact (moved.map SendMsg.number).nodup_iff.mpr pool
  · exact fun other member => fresh other (moved.subset member)
  · exact fun other member => tasksApart other (front ▸ List.mem_cons_of_mem task member)
  · intro relaying member may
    rcases List.mem_append.mp member with older | isNew
    · exact workersApart relaying older may
    · rw [List.mem_singleton.mp isNew]
      exact tasksApart task (front ▸ List.mem_cons_self)

theorem queue_numbered (numbered : relay.Numbered) {worker : Nat} {relaying : Relaying}
    (there : relay.workers[worker]? = some relaying) (found : relaying.stage = .found true) :
    Numbered { relay.queueTask relaying.task with
      workers := relay.workers.set worker { relaying with stage := .answering 0 } } := by
  have elsewhere := numbered.elsewhere there
  obtain ⟨pool, fresh, distinct, issued, tasksApart, workersApart⟩ := numbered
  have member : relaying ∈ relay.workers := List.mem_of_getElem? there
  have unqueued := workersApart relaying member (by rw [found]; rfl)
  have inPool : relaying.task.number < relay.next :=
    fresh relaying.task (List.mem_append_right _ (List.mem_map_of_mem member))
  constructor <;> simp only [Relay.inPool, queuedNumbers, queueTask, map_task_set there,
    List.map_append, List.map_cons, List.map_nil, List.mem_append, List.mem_singleton]
  · rw [Relay.inPool, List.map_append] at pool
    exact pool
  · exact fun task inside => fresh task (List.mem_append.mpr inside)
  · exact List.Nodup.append distinct (List.nodup_singleton _)
      (List.disjoint_singleton.mpr unqueued)
  · rintro number (older | rfl)
    · exact issued number older
    · exact inPool
  · rintro task inTasks (older | same)
    · exact tasksApart task inTasks older
    · exact elsewhere.1 task inTasks same
  · intro other inside may
    obtain ⟨index, otherThere⟩ := List.getElem?_of_mem inside
    rcases Transition.found_in_set otherThere with ⟨_, rfl⟩ | ⟨different, before⟩
    · cases may
    · rintro (older | same)
      · exact workersApart other (List.mem_of_getElem? before) may older
      · exact elsewhere.2 index other before different same

theorem move_numbered {event : RelayEvent} {following : Relay} (numbered : relay.Numbered)
    (move : Move relay event following) : following.Numbered := by
  cases move with
  | read addr destName data => exact read_numbered numbered addr destName data
  | take task rest front => exact take_numbered numbered front
  | goOn _ worker relaying stage there may =>
    refine numbered.fewer rfl rfl rfl ?_ ?_
    · rw [map_task_set there]
    · intro other inside _
      obtain ⟨index, otherThere⟩ := List.getElem?_of_mem inside
      rcases Transition.found_in_set otherThere with ⟨_, rfl⟩ | ⟨_, before⟩
      · exact ⟨relaying, List.mem_of_getElem? there, rfl, may⟩
      · exact ⟨other, List.mem_of_getElem? before, rfl, ‹_›⟩
  | leave _ worker answers =>
    refine numbered.fewer rfl rfl rfl ((List.eraseIdx_sublist _ _).map _) ?_
    intro other inside may
    exact ⟨other, List.mem_of_mem_eraseIdx inside, rfl, may⟩
  | queue worker fd relaying there found => exact queue_numbered numbered there found
  | _ =>
    exact numbered.fewer rfl rfl rfl (List.Sublist.refl _) fun relaying member may =>
      ⟨relaying, member, rfl, may⟩

-- Every task queued is handled, swapped out or still waiting, and waiting tasks are noticed.
structure Conserved (relay : Relay) : Prop where
  accounted : relay.queued.Perm
    (relay.handled ++ (relay.processing.batch ++ (relay.reqtoclient ++ relay.broadcast)))
  asleep : relay.processing = .waiting false → relay.reqtoclient = [] ∧ relay.broadcast = []
  ended : relay.processing = .returned → relay.terminate = true

theorem queue_conserved (conserved : relay.Conserved) (task : SendMsg) :
    (relay.queueTask task).Conserved := by
  obtain ⟨accounted, _, ended⟩ := conserved
  refine ⟨?_, ?_, ?_⟩
  · have longer : ((relay.queueTask task).reqtoclient ++ (relay.queueTask task).broadcast).Perm
        ((relay.reqtoclient ++ relay.broadcast) ++ [task]) := by
      simp only [queueTask]
      split
      · rw [List.append_assoc]
      · rw [List.append_assoc, List.append_assoc]
        exact List.Perm.append_left _ List.perm_append_comm
    refine (accounted.append_right [task]).trans ?_
    rw [List.append_assoc, List.append_assoc]
    exact ((longer.symm.append_left _).append_left _).trans
      (List.Perm.of_eq (by rw [queueTask, Processing.batch_notify]))
  · exact fun asleep => absurd asleep Processing.notify_not_asleep
  · intro returned
    exact ended (Processing.notify_returned.mp returned)

theorem Conserved.copy {following : Relay} (conserved : relay.Conserved)
    (sameQueued : following.queued = relay.queued) (sameHandled : following.handled = relay.handled)
    (sameProcessing : following.processing = relay.processing)
    (sameReq : following.reqtoclient = relay.reqtoclient)
    (sameBroadcast : following.broadcast = relay.broadcast)
    (ends : relay.terminate = true → following.terminate = true) : following.Conserved := by
  obtain ⟨accounted, asleep, ended⟩ := conserved
  rw [← sameQueued, ← sameHandled, ← sameProcessing, ← sameReq, ← sameBroadcast] at accounted
  rw [← sameProcessing, ← sameReq, ← sameBroadcast] at asleep
  rw [← sameProcessing] at ended
  exact ⟨accounted, asleep, fun returned => ends (ended returned)⟩

theorem Conserved.withBatch (conserved : relay.Conserved) {before after : Processing}
    (phase : relay.processing = before) (sameBatch : before.batch = after.batch) :
    relay.queued.Perm
      (relay.handled ++ (after.batch ++ (relay.reqtoclient ++ relay.broadcast))) := by
  rw [← sameBatch, ← phase]
  exact conserved.accounted

theorem move_conserved {event : RelayEvent} {following : Relay} (conserved : relay.Conserved)
    (move : Move relay event following) : following.Conserved := by
  cases move with
  | queue worker fd relaying there found =>
    exact (queue_conserved conserved relaying.task).copy rfl rfl rfl rfl rfl id
  | ended => exact conserved.copy rfl rfl rfl rfl rfl fun _ => rfl
  | woken _ notified processing asleep awake =>
    rcases awake with rfl | rfl <;> exact ⟨conserved.withBatch asleep rfl, by simp, by simp⟩
  | returns _ locked ends => exact ⟨conserved.withBatch locked rfl, by simp, fun _ => ends⟩
  | sleeps _ locked noReq noBroadcast =>
    exact ⟨conserved.withBatch locked rfl, fun _ => ⟨noReq, noBroadcast⟩, by simp⟩
  | swap draw locked goesOn =>
    have accounted := conserved.withBatch locked rfl
    refine ⟨?_, by simp, by simp⟩
    simpa only [Processing.batch, List.nil_append, List.append_nil] using accounted
  | selectReq _ task reqtasks broadcasts picks front =>
    exact ⟨conserved.withBatch front rfl, by simp, by simp⟩
  | selectBroadcast draw task broadcasts front =>
    exact ⟨conserved.withBatch front rfl, by simp, by simp⟩
  | drained _ front => exact ⟨conserved.withBatch front rfl, by simp, by simp⟩
  | send _ task dest rest reqtasks broadcasts front =>
    exact ⟨conserved.withBatch front rfl, by simp, by simp⟩
  | finish _ task reqtasks broadcasts front =>
    have accounted := conserved.withBatch front rfl
    refine ⟨?_, by simp, by simp⟩
    simpa only [Processing.batch, List.append_assoc, List.cons_append, List.nil_append]
      using accounted
  | _ => exact conserved.copy rfl rfl rfl rfl rfl id

end Relay
end MessageBus.Server
