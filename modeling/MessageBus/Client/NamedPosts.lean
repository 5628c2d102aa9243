import MessageBus.Client.Futures

set_option autoImplicit false

namespace MessageBus.Client

abbrev ClientName := Bytes

structure LocalHostInfo where
  hostIp : Bytes
  hostPort : UInt16
  deriving DecidableEq, Repr

def LocalHostInfo.empty : LocalHostInfo := { hostIp := [], hostPort := 0 }

structure Req2ReceiverTask where
  clientname : ClientName
  retry : Bool
  destClient : LocalHostInfo
  thread : Nat
  number : Nat
  deriving DecidableEq, Repr

def Req2ReceiverTask.posted (clientname : ClientName) (thread number : Nat) : Req2ReceiverTask :=
  { clientname, retry := true, destClient := .empty, thread, number }

structure GetClientRsp where
  destName : ClientName
  retCode : UInt16
  destHost : LocalHostInfo
  deriving DecidableEq, Repr

inductive DropReason where
  | noCachedInfo
  | connectFailed (host : LocalHostInfo)
  | noTcpSock
  | sendFailed
  | serverError
  deriving DecidableEq, Repr

inductive SendOutcome where
  -- No connection in the pool and CreateTcpSock failed.
  | connectFailed
  -- CreateTcpSock succeeded and the pool has no connection all the same.
  | noTcpSock
  | sendFailed
  | sent
  deriving DecidableEq, Repr

inductive WorkerPhase where
  | idle
  | looking (task : Req2ReceiverTask)
  | connecting (task : Req2ReceiverTask) (destclient : LocalHostInfo)
  | parking (task : Req2ReceiverTask) (connectFailed : Bool)
  | erasing (clientname : ClientName)
  | asking (clientname : ClientName)
  | inserting (clientname : ClientName)
  | sending (clientname : ClientName) (msgId : UInt32) (future : FutureRef)
  deriving DecidableEq, Repr

namespace WorkerPhase

-- The task that is neither sent nor dropped nor parked yet.
def current : WorkerPhase -> List Req2ReceiverTask
  | .looking task | .connecting task _ | .parking task _ => [task]
  | _ => []

-- Between safe_queue_waiting_task and the end of ReqReceiverInfo.
def asks : WorkerPhase -> Option ClientName
  | .erasing clientname | .asking clientname | .inserting clientname | .sending clientname _ _ =>
    some clientname
  | _ => none

end WorkerPhase

structure Worker where
  tasks : List Req2ReceiverTask
  phase : WorkerPhase
  deriving DecidableEq, Repr

inductive AnswerPhase where
  | idle
  | found (future : FutureRef) (rsp : Option GetClientRsp)
  | taken (rsp : GetClientRsp) (pendingtasks : List Req2ReceiverTask)
  | requeueing (clientname : ClientName) (pendingtasks : List Req2ReceiverTask)
  | removing (pendingtasks : List Req2ReceiverTask)
  deriving DecidableEq, Repr

def AnswerPhase.pendingtasks : AnswerPhase -> List Req2ReceiverTask
  | .taken _ pendingtasks | .requeueing _ pendingtasks | .removing pendingtasks => pendingtasks
  | _ => []

structure NamedPosts where
  posted : Nat -> Nat
  -- rtask_list, the part already swapped out, and m_reqtoreceiver_task_container after it.
  reqTasks : List Req2ReceiverTask
  workers : Bytes -> Worker
  waiting : ClientName -> List Req2ReceiverTask
  cachedClientInfo : ClientName -> Option LocalHostInfo
  answering : AnswerPhase
  -- The future table of the ServerConnMgr.
  futureMgr : FutureMgr
  serverConnecting : Bool
  serverTcp : Bool
  -- What happened so far: getclient requests sent, addresses returned, what became of the tasks.
  asked : List (FutureRef × ClientName)
  returned : List (ClientName × LocalHostInfo)
  handed : List Req2ReceiverTask
  dropped : List (Req2ReceiverTask × DropReason)

inductive WorkerEvent where
  | take
  | getCachedHostInfo
  | send (outcome : SendOutcome)
  | queueWaitingTask
  | removeCachedHostInfo
  | testConnecting
  | insertFuture (now : Int)
  | sendRequest (accepted : Bool)
  deriving DecidableEq, Repr

namespace NamedPosts

inductive Event where
  | post (thread : Nat) (clientname : ClientName)
  | dispatch
  | worker (threadName : Bytes) (event : WorkerEvent)
  | frame (msgId : UInt32) (rsp : Option GetClientRsp)
  | takePending
  | cacheHostInfo
  | requeue
  | removeFuture
  -- Another request to the server; a sync send that caches the answer to its own.
  | otherRequest (now : Int)
  | syncLookup (clientname : ClientName) (host : LocalHostInfo)
  | serverConnected
  | serverLost
  deriving DecidableEq, Repr

def initial : NamedPosts :=
  { posted := fun _ => 0, reqTasks := [], workers := fun _ => { tasks := [], phase := .idle },
    waiting := fun _ => [], cachedClientInfo := fun _ => none, answering := .idle,
    futureMgr := .initial, serverConnecting := false, serverTcp := false, asked := [],
    returned := [], handed := [], dropped := [] }

-- What the name of the named thread ends with; "byip" for the short names.
def threadName (clientname : ClientName) : Bytes :=
  if clientname.length ≤ 2 then [0x62, 0x79, 0x69, 0x70]
  else clientname.drop (clientname.length - 2)

def setWorker (state : NamedPosts) (name : Bytes) (worker : Worker) : NamedPosts :=
  { state with workers := Function.update state.workers name worker }

def setPhase (state : NamedPosts) (name : Bytes) (phase : WorkerPhase) : NamedPosts :=
  state.setWorker name { state.workers name with phase }

def queueReqTask (state : NamedPosts) (task : Req2ReceiverTask) : NamedPosts :=
  { state with reqTasks := state.reqTasks ++ [task] }

def drop (state : NamedPosts) (task : Req2ReceiverTask) (reason : DropReason) : NamedPosts :=
  { state with dropped := state.dropped ++ [(task, reason)] }

-- The future of a request that HandleRspGetClient is to be called for.
def isLookup (state : NamedPosts) (future : FutureRef) : Bool :=
  (state.futureMgr.futures[future]?).any NetFuture.callback

def returnedHost (rsp : GetClientRsp) : List (ClientName × LocalHostInfo) :=
  if rsp.retCode = 0 then [(rsp.destName, rsp.destHost)] else []

-- The callback of the future runs in set_result.
def setResult (state : NamedPosts) (ready : Option FutureRef) (rsp : Option GetClientRsp) :
    AnswerPhase :=
  match ready with
  | some future => if state.isLookup future then .found future rsp else .idle
  | none => .idle

def workerStep (state : NamedPosts) (name : Bytes) : WorkerEvent -> Option NamedPosts
  | .take =>
    match state.workers name with
    | { tasks := task :: rest, phase := .idle } =>
      some (state.setWorker name { tasks := rest, phase := .looking task })
    | _ => none
  | .getCachedHostInfo =>
    match (state.workers name).phase with
    | .looking task =>
      if task.clientname = [] then some (state.setPhase name (.connecting task task.destClient))
      else
        match state.cachedClientInfo task.clientname with
        | some host => some (state.setPhase name (.connecting task host))
        | none =>
          if task.retry then some (state.setPhase name (.parking task false))
          else some ((state.drop task .noCachedInfo).setPhase name .idle)
    | _ => none
  | .send outcome =>
    match (state.workers name).phase with
    | .connecting task host =>
      match outcome with
      | .connectFailed =>
        if task.retry then some (state.setPhase name (.parking task true))
        else some ((state.drop task (.connectFailed host)).setPhase name .idle)
      | .noTcpSock => some ((state.drop task .noTcpSock).setPhase name .idle)
      | .sendFailed =>
        let failed := (state.drop task .sendFailed).setPhase name .idle
        some { failed with handed := state.handed ++ [task] }
      | .sent => some { state.setPhase name .idle with handed := state.handed ++ [task] }
    | _ => none
  | .queueWaitingTask =>
    match (state.workers name).phase with
    | .parking task connectFailed =>
      let next : WorkerPhase :=
        if connectFailed then .erasing task.clientname else .asking task.clientname
      some { state.setPhase name next with
        waiting := Function.update state.waiting task.clientname
          (state.waiting task.clientname ++ [task]) }
    | _ => none
  | .removeCachedHostInfo =>
    match (state.workers name).phase with
    | .erasing clientname =>
      some { state.setPhase name (.asking clientname) with
        cachedClientInfo := Function.update state.cachedClientInfo clientname none }
    | _ => none
  | .testConnecting =>
    match (state.workers name).phase with
    | .asking clientname =>
      let next : WorkerPhase := if state.serverConnecting then .inserting clientname else .idle
      some (state.setPhase name next)
    | _ => none
  | .insertFuture now =>
    match (state.workers name).phase with
    | .inserting clientname =>
      let future := state.futureMgr.safeInsertFuture true now
      let next : WorkerPhase := .sending clientname future.1.futureId future.1.future
      some { state.setPhase name next with futureMgr := future.2 }
    | _ => none
  -- Nobody looks at the result of ReqReceiverInfo.
  | .sendRequest accepted =>
    match (state.workers name).phase with
    | .sending clientname _ future =>
      let asked := if state.serverTcp && accepted then [(future, clientname)] else []
      some { state.setPhase name .idle with asked := state.asked ++ asked }
    | _ => none

def step (state : NamedPosts) : Event -> Option NamedPosts
  | .post thread clientname =>
    let task := Req2ReceiverTask.posted clientname thread (state.posted thread)
    some { state.queueReqTask task with
      posted := Function.update state.posted thread (state.posted thread + 1) }
  | .dispatch =>
    match state.reqTasks with
    | [] => none
    | task :: rest =>
      let name := threadName task.clientname
      let worker := state.workers name
      some { state.setWorker name { worker with tasks := worker.tasks ++ [task] } with
        reqTasks := rest }
  | .worker name event => state.workerStep name event
  | .frame msgId rsp =>
    if state.answering = .idle then
      let ready := state.futureMgr.safeGetFuture msgId true
      some { state with
        futureMgr := ready.2
        returned := state.returned ++ (rsp.map returnedHost).getD []
        answering := state.setResult ready.1 rsp }
    else none
  | .takePending =>
    match state.answering with
    -- The future has an error, or the body cannot be unpacked.
    | .found _ none => some { state with answering := .idle }
    | .found _ (some rsp) =>
      some { state with
        waiting := Function.update state.waiting rsp.destName []
        answering := .taken rsp (state.waiting rsp.destName) }
    | _ => none
  | .cacheHostInfo =>
    match state.answering with
    | .taken rsp pendingtasks =>
      if rsp.retCode = 0 then
        some { state with
          cachedClientInfo :=
            Function.update state.cachedClientInfo rsp.destName (some rsp.destHost)
          answering := .requeueing rsp.destName pendingtasks }
      else some { state with answering := .removing pendingtasks }
    | _ => none
  | .requeue =>
    match state.answering with
    | .requeueing clientname (task :: rest) =>
      let queued := state.queueReqTask { task with retry := false }
      some { queued with answering := .requeueing clientname rest }
    | .requeueing _ [] => some { state with answering := .idle }
    | _ => none
  | .removeFuture =>
    match state.answering with
    | .removing (task :: rest) =>
      some { state.drop task .serverError with answering := .removing rest }
    | .removing [] => some { state with answering := .idle }
    | _ => none
  | .otherRequest now =>
    some { state with futureMgr := (state.futureMgr.safeInsertFuture false now).2 }
  | .syncLookup clientname host =>
    some { state with
      returned := state.returned ++ [(clientname, host)]
      cachedClientInfo := Function.update state.cachedClientInfo clientname (some host) }
  | .serverConnected => some { state with serverConnecting := true, serverTcp := true }
  | .serverLost => some { state with serverConnecting := false, serverTcp := false }

inductive WorkerMove (state : NamedPosts) (name : Bytes) : WorkerEvent -> NamedPosts -> Prop where
  | take (task : Req2ReceiverTask) (rest : List Req2ReceiverTask)
      (worker : state.workers name = { tasks := task :: rest, phase := .idle }) :
      WorkerMove state name .take
        (state.setWorker name { tasks := rest, phase := .looking task })
  | unnamed (task : Req2ReceiverTask) (phase : (state.workers name).phase = .looking task)
      (isEmpty : task.clientname = []) :
      WorkerMove state name .getCachedHostInfo
        (state.setPhase name (.connecting task task.destClient))
  | cached (task : Req2ReceiverTask) (host : LocalHostInfo)
      (phase : (state.workers name).phase = .looking task) (named : task.clientname ≠ [])
      (known : state.cachedClientInfo task.clientname = some host) :
      WorkerMove state name .getCachedHostInfo (state.setPhase name (.connecting task host))
  | uncached (task : Req2ReceiverTask) (phase : (state.workers name).phase = .looking task)
      (named : task.clientname ≠ []) (unknown : state.cachedClientInfo task.clientname = none)
      (retry : task.retry = true) :
      WorkerMove state name .getCachedHostInfo (state.setPhase name (.parking task false))
  | noCachedInfo (task : Req2ReceiverTask) (phase : (state.workers name).phase = .looking task)
      (named : task.clientname ≠ []) (unknown : state.cachedClientInfo task.clientname = none)
      (last : task.retry = false) :
      WorkerMove state name .getCachedHostInfo
        ((state.drop task .noCachedInfo).setPhase name .idle)
  | askAgain (task : Req2ReceiverTask) (host : LocalHostInfo)
      (phase : (state.workers name).phase = .connecting task host) (retry : task.retry = true) :
      WorkerMove state name (.send .connectFailed) (state.setPhase name (.parking task true))
  | connectFailed (task : Req2ReceiverTask) (host : LocalHostInfo)
      (phase : (state.workers name).phase = .connecting task host) (last : task.retry = false) :
      WorkerMove state name (.send .connectFailed)
        ((state.drop task (.connectFailed host)).setPhase name .idle)
  | noTcpSock (task : Req2ReceiverTask) (host : LocalHostInfo)
      (phase : (state.workers name).phase = .connecting task host) :
      WorkerMove state name (.send .noTcpSock) ((state.drop task .noTcpSock).setPhase name .idle)
  | sendFailed (task : Req2ReceiverTask) (host : LocalHostInfo)
      (phase : (state.workers name).phase = .connecting task host) :
      WorkerMove state name (.send .sendFailed)
        { (state.drop task .sendFailed).setPhase name .idle with
          handed := state.handed ++ [task] }
  | sent (task : Req2ReceiverTask) (host : LocalHostInfo)
      (phase : (state.workers name).phase = .connecting task host) :
      WorkerMove state name (.send .sent)
        { state.setPhase name .idle with handed := state.handed ++ [task] }
  | queueWaitingTask (task : Req2ReceiverTask) (connectFailed : Bool)
      (phase : (state.workers name).phase = .parking task connectFailed) :
      WorkerMove state name .queueWaitingTask
        { state.setPhase name
            (if connectFailed then .erasing task.clientname else .asking task.clientname) with
          waiting := Function.update state.waiting task.clientname
            (state.waiting task.clientname ++ [task]) }
  | removeCachedHostInfo (clientname : ClientName)
      (phase : (state.workers name).phase = .erasing clientname) :
      WorkerMove state name .removeCachedHostInfo
        { state.setPhase name (.asking clientname) with
          cachedClientInfo := Function.update state.cachedClientInfo clientname none }
  | testConnecting (clientname : ClientName)
      (phase : (state.workers name).phase = .asking clientname) :
      WorkerMove state name .testConnecting
        (state.setPhase name (if state.serverConnecting then .inserting clientname else .idle))
  | insertFuture (now : Int) (clientname : ClientName)
      (phase : (state.workers name).phase = .inserting clientname) :
      WorkerMove state name (.insertFuture now)
        { state.setPhase name (.sending clientname
            (state.futureMgr.safeInsertFuture true now).1.futureId
            (state.futureMgr.safeInsertFuture true now).1.future) with
          futureMgr := (state.futureMgr.safeInsertFuture true now).2 }
  | sendRequest (accepted : Bool) (clientname : ClientName) (msgId : UInt32) (future : FutureRef)
      (phase : (state.workers name).phase = .sending clientname msgId future) :
      WorkerMove state name (.sendRequest accepted)
        { state.setPhase name .idle with
          asked := state.asked ++
            if state.serverTcp && accepted then [(future, clientname)] else [] }

theorem workerStep_moves {state following : NamedPosts} {name : Bytes} {event : WorkerEvent}
    (taken : state.workerStep name event = some following) :
    state.WorkerMove name event following := by
  cases event with
  | take =>
    simp only [workerStep] at taken
    split at taken <;> cases taken
    next task rest worker => exact .take task rest worker
  | getCachedHostInfo =>
    simp only [workerStep] at taken
    split at taken
    next task phase =>
      split at taken
      next isEmpty =>
        cases taken
        exact .unnamed task phase isEmpty
      next named =>
        split at taken
        next host known =>
          cases taken
          exact .cached task host phase named known
        next unknown =>
          split at taken <;> cases taken
          next retry => exact .uncached task phase named unknown retry
          next last => exact .noCachedInfo task phase named unknown (Bool.eq_false_iff.mpr last)
    next => cases taken
  | send outcome =>
    simp only [workerStep] at taken
    split at taken
    next task host phase =>
      cases outcome with
      | connectFailed =>
        simp only at taken
        split at taken <;> cases taken
        next retry => exact .askAgain task host phase retry
        next last => exact .connectFailed task host phase (Bool.eq_false_iff.mpr last)
      | noTcpSock =>
        cases taken
        exact .noTcpSock task host phase
      | sendFailed =>
        cases taken
        exact .sendFailed task host phase
      | sent =>
        cases taken
        exact .sent task host phase
    next => cases taken
  | queueWaitingTask =>
    simp only [workerStep] at taken
    split at taken <;> cases taken
    next task connectFailed phase => exact .queueWaitingTask task connectFailed phase
  | removeCachedHostInfo =>
    simp only [workerStep] at taken
    split at taken <;> cases taken
    next clientname phase => exact .removeCachedHostInfo clientname phase
  | testConnecting =>
    simp only [workerStep] at taken
    split at taken <;> cases taken
    next clientname phase => exact .testConnecting clientname phase
  | insertFuture now =>
    simp only [workerStep] at taken
    split at taken <;> cases taken
    next clientname phase => exact .insertFuture now clientname phase
  | sendRequest accepted =>
    simp only [workerStep] at taken
    split at taken <;> cases taken
    next clientname msgId future phase => exact .sendRequest accepted clientname msgId future phase

inductive Move (state : NamedPosts) : Event -> NamedPosts -> Prop where
  | post (thread : Nat) (clientname : ClientName) :
      Move state (.post thread clientname)
        { state.queueReqTask (.posted clientname thread (state.posted thread)) with
          posted := Function.update state.posted thread (state.posted thread + 1) }
  | dispatch (task : Req2ReceiverTask) (rest : List Req2ReceiverTask)
      (queue : state.reqTasks = task :: rest) :
      Move state .dispatch
        { state.setWorker (threadName task.clientname)
            { state.workers (threadName task.clientname) with
              tasks := (state.workers (threadName task.clientname)).tasks ++ [task] } with
          reqTasks := rest }
  | worker (name : Bytes) (event : WorkerEvent) (following : NamedPosts)
      (stepped : state.workerStep name event = some following) :
      Move state (.worker name event) following
  | frame (msgId : UInt32) (rsp : Option GetClientRsp) (idle : state.answering = .idle) :
      Move state (.frame msgId rsp)
        { state with
          futureMgr := (state.futureMgr.safeGetFuture msgId true).2
          returned := state.returned ++ (rsp.map returnedHost).getD []
          answering := state.setResult (state.futureMgr.safeGetFuture msgId true).1 rsp }
  | unreadable (future : FutureRef) (answering : state.answering = .found future none) :
      Move state .takePending { state with answering := .idle }
  | takePending (future : FutureRef) (rsp : GetClientRsp)
      (answering : state.answering = .found future (some rsp)) :
      Move state .takePending
        { state with
          waiting := Function.update state.waiting rsp.destName []
          answering := .taken rsp (state.waiting rsp.destName) }
  | cacheHostInfo (rsp : GetClientRsp) (pendingtasks : List Req2ReceiverTask)
      (answering : state.answering = .taken rsp pendingtasks) (success : rsp.retCode = 0) :
      Move state .cacheHostInfo
        { state with
          cachedClientInfo :=
            Function.update state.cachedClientInfo rsp.destName (some rsp.destHost)
          answering := .requeueing rsp.destName pendingtasks }
  | serverError (rsp : GetClientRsp) (pendingtasks : List Req2ReceiverTask)
      (answering : state.answering = .taken rsp pendingtasks) :
      Move state .cacheHostInfo { state with answering := .removing pendingtasks }
  | requeue (clientname : ClientName) (task : Req2ReceiverTask) (rest : List Req2ReceiverTask)
      (answering : state.answering = .requeueing clientname (task :: rest)) :
      Move state .requeue
        { state.queueReqTask { task with retry := false } with
          answering := .requeueing clientname rest }
  | requeued (clientname : ClientName) (answering : state.answering = .requeueing clientname []) :
      Move state .requeue { state with answering := .idle }
  | removeFuture (task : Req2ReceiverTask) (rest : List Req2ReceiverTask)
      (answering : state.answering = .removing (task :: rest)) :
      Move state .removeFuture { state.drop task .serverError with answering := .removing rest }
  | removed (answering : state.answering = .removing []) :
      Move state .removeFuture { state with answering := .idle }
  | otherRequest (now : Int) :
      Move state (.otherRequest now)
        { state with futureMgr := (state.futureMgr.safeInsertFuture false now).2 }
  | syncLookup (clientname : ClientName) (host : LocalHostInfo) :
      Move state (.syncLookup clientname host)
        { state with
          returned := state.returned ++ [(clientname, host)]
          cachedClientInfo := Function.update state.cachedClientInfo clientname (some host) }
  | serverConnected :
      Move state .serverConnected { state with serverConnecting := true, serverTcp := true }
  | serverLost :
      Move state .serverLost { state with serverConnecting := false, serverTcp := false }

theorem step_moves {state following : NamedPosts} {event : Event}
    (taken : state.step event = some following) : state.Move event following := by
  cases event with
  | post thread clientname =>
    cases taken
    exact .post thread clientname
  | dispatch =>
    simp only [step] at taken
    split at taken <;> cases taken
    next task rest queue => exact .dispatch task rest queue
  | worker name event => exact .worker name event following taken
  | frame msgId rsp =>
    simp only [step] at taken
    split at taken <;> cases taken
    next idle => exact .frame msgId rsp idle
  | takePending =>
    simp only [step] at taken
    split at taken <;> cases taken
    next future answering => exact .unreadable future answering
    next future rsp answering => exact .takePending future rsp answering
  | cacheHostInfo =>
    simp only [step] at taken
    split at taken
    next rsp pendingtasks answering =>
      split at taken <;> cases taken
      next success => exact .cacheHostInfo rsp pendingtasks answering success
      next => exact .serverError rsp pendingtasks answering
    next => cases taken
  | requeue =>
    simp only [step] at taken
    split at taken <;> cases taken
    next clientname task rest answering => exact .requeue clientname task rest answering
    next clientname answering => exact .requeued clientname answering
  | removeFuture =>
    simp only [step] at taken
    split at taken <;> cases taken
    next task rest answering => exact .removeFuture task rest answering
    next answering => exact .removed answering
  | otherRequest now =>
    cases taken
    exact .otherRequest now
  | syncLookup clientname host =>
    cases taken
    exact .syncLookup clientname host
  | serverConnected =>
    cases taken
    exact .serverConnected
  | serverLost =>
    cases taken
    exact .serverLost

-- safe_queue_waiting_task and HandleRspGetClient keep the tasks under the names of their clients.
theorem queued_named {waiting : ClientName -> List Req2ReceiverTask}
    (named : ∀ clientname, ∀ task ∈ waiting clientname, task.clientname = clientname)
    (queued : Req2ReceiverTask) (clientname : ClientName) :
    ∀ task ∈ Function.update waiting queued.clientname (waiting queued.clientname ++ [queued])
      clientname, task.clientname = clientname := by
  intro task member
  by_cases same : clientname = queued.clientname
  · subst same
    rw [Function.update_self] at member
    rcases List.mem_append.mp member with older | newer
    · exact named _ task older
    · rw [List.mem_singleton.mp newer]
  · rw [Function.update_of_ne same] at member
    exact named clientname task member

theorem taken_named {waiting : ClientName -> List Req2ReceiverTask}
    (named : ∀ clientname, ∀ task ∈ waiting clientname, task.clientname = clientname)
    (destName clientname : ClientName) :
    ∀ task ∈ Function.update waiting destName [] clientname, task.clientname = clientname := by
  intro task member
  by_cases same : clientname = destName
  · rw [same, Function.update_self] at member
    cases member
  · rw [Function.update_of_ne same] at member
    exact named clientname task member

def someClient : ClientName := [0x73, 0x76, 0x63]

def someHost (last : UInt8) : LocalHostInfo :=
  { hostIp := [0x31, 0x30, 0x2e, last], hostPort := 9100 }

def worked (events : List WorkerEvent) : List Event :=
  events.map (.worker (threadName someClient))

def lookupRun (accepted : Bool) : List Event :=
  [.post 0 someClient, .dispatch] ++
    worked [.take, .getCachedHostInfo, .queueWaitingTask, .testConnecting, .insertFuture 0,
      .sendRequest accepted]

def answerRun (msgId : UInt32) (host : LocalHostInfo) (pendingtasks : Nat) : List Event :=
  [.frame msgId (some { destName := someClient, retCode := 0, destHost := host }), .takePending,
    .cacheHostInfo] ++ List.replicate (pendingtasks + 1) .requeue

def sendRun (outcome : SendOutcome) : List Event :=
  .dispatch :: worked [.take, .getCachedHostInfo, .send outcome]

end NamedPosts

end MessageBus.Client
