import MessageBus.Client.NamedPosts

set_option autoImplicit false

namespace MessageBus.Client.NamedPosts

-- A task with a client name is dropped only after an answer for the client that did not help.
structure LookupsKept (state : NamedPosts) : Prop where
  cached : ∀ task, (task, .noCachedInfo) ∉ state.dropped
  reasons : ∀ task reason, (task, reason) ∈ state.dropped → task.clientname ≠ [] →
    reason = .serverError ∨
      ∃ host, reason = .connectFailed host ∧ (task.clientname, host) ∈ state.returned

-- The tasks that HandleRspGetClient requeues, or has requeued, and that no worker has looked at.
def requeued (state : NamedPosts) (name : Bytes) : List Req2ReceiverTask :=
  (state.reqTasks ++ (state.workers name).tasks).filter fun task => !task.retry

-- The worker erases a cached address only when no requeued task of the client relies on it, and the
-- connections that the pool hands out for a client take the data.
def keepsLookups (state : NamedPosts) : Event -> Bool
  | .worker name .removeCachedHostInfo =>
    match (state.workers name).phase with
    | .erasing clientname =>
      ((state.requeued name).all fun task => task.clientname != clientname) &&
        match state.answering with
        | .requeueing answered pendingtasks => answered != clientname || pendingtasks.isEmpty
        | _ => true
    | _ => true
  | .worker name (.send outcome) =>
    match (state.workers name).phase with
    | .connecting task _ =>
      task.clientname.isEmpty || (outcome != .noTcpSock && outcome != .sendFailed)
    | _ => true
  | _ => true

def Cached (state : NamedPosts) (task : Req2ReceiverTask) : Prop :=
  task.retry = false → task.clientname ≠ [] → (state.cachedClientInfo task.clientname).isSome = true

structure SuppliedWorker (state : NamedPosts) (name : Bytes) (worker : Worker) : Prop where
  connecting : ∀ task host, worker.phase = .connecting task host → task.clientname ≠ [] →
    (task.clientname, host) ∈ state.returned
  -- Each client has one worker.
  placed : ∀ task ∈ worker.phase.current ++ worker.tasks, threadName task.clientname = name
  asking : ∀ clientname, worker.phase.asks = some clientname → threadName clientname = name
  -- A requeued task finds its address.
  worked : ∀ task ∈ worker.tasks, state.Cached task
  looked : ∀ task, worker.phase = .looking task → state.Cached task

structure Supplied (state : NamedPosts) : Prop where
  kept : state.LookupsKept
  workers : ∀ name, state.SuppliedWorker name (state.workers name)
  returned : ∀ clientname host, state.cachedClientInfo clientname = some host →
    (clientname, host) ∈ state.returned
  found : ∀ future (rsp : GetClientRsp), state.answering = .found future (some rsp) →
    rsp.retCode = 0 → (rsp.destName, rsp.destHost) ∈ state.returned
  taken : ∀ rsp pendingtasks, state.answering = .taken rsp pendingtasks →
    (∀ task ∈ pendingtasks, task.clientname = rsp.destName) ∧
      (rsp.retCode = 0 → (rsp.destName, rsp.destHost) ∈ state.returned)
  requeueing : ∀ clientname pendingtasks, state.answering = .requeueing clientname pendingtasks →
    (∀ task ∈ pendingtasks, task.clientname = clientname) ∧
      (pendingtasks ≠ [] → (state.cachedClientInfo clientname).isSome = true)
  waiting : ∀ clientname, ∀ task ∈ state.waiting clientname, task.clientname = clientname
  queued : ∀ task ∈ state.reqTasks, state.Cached task

theorem suppliedWorker_idle (state : NamedPosts) (name : Bytes) :
    state.SuppliedWorker name { tasks := [], phase := .idle } := by
  constructor <;> simp [WorkerPhase.current, WorkerPhase.asks]

theorem supplied_initial : initial.Supplied where
  kept := by constructor <;> simp [initial]
  workers := suppliedWorker_idle initial
  returned := by simp [initial]
  found := by simp [initial]
  taken := by simp [initial]
  requeueing := by simp [initial]
  waiting := by simp [initial]
  queued := by simp [initial]

variable {state following : NamedPosts} {name : Bytes} {worker : Worker}

theorem everyWorker (supplied : state.Supplied) (moved : state.SuppliedWorker name worker)
    (other : Bytes) :
    state.SuppliedWorker other ((state.setWorker name worker).workers other) := by
  by_cases same : other = name
  · subst same
    simp only [setWorker, Function.update_self]
    exact moved
  · simp only [setWorker, Function.update_of_ne same]
    exact supplied.workers other

theorem SuppliedWorker.more (before : state.SuppliedWorker name worker)
    (returned : ∀ answer ∈ state.returned, answer ∈ following.returned)
    (cached : ∀ clientname, (state.cachedClientInfo clientname).isSome = true →
      (following.cachedClientInfo clientname).isSome = true) :
    following.SuppliedWorker name worker where
  connecting := fun task host phase named =>
    returned _ (before.connecting task host phase named)
  placed := before.placed
  asking := before.asking
  worked := fun task member fresh named => cached _ (before.worked task member fresh named)
  looked := fun task phase fresh named => cached _ (before.looked task phase fresh named)

theorem Supplied.workerMoves (supplied : state.Supplied)
    {waiting : ClientName -> List Req2ReceiverTask} {handed : List Req2ReceiverTask}
    {dropped : List (Req2ReceiverTask × DropReason)}
    (moved : state.SuppliedWorker name worker) (kept : LookupsKept { state with dropped })
    (waits : ∀ clientname, ∀ task ∈ waiting clientname, task.clientname = clientname) :
    Supplied { state.setWorker name worker with waiting, handed, dropped } :=
  { supplied with
    kept := { cached := kept.cached, reasons := kept.reasons }
    workers := fun other => { everyWorker supplied moved other with }
    waiting := waits }

theorem SuppliedWorker.goesOn (before : state.SuppliedWorker name worker) {phase : WorkerPhase}
    (current : ∀ task ∈ phase.current, task ∈ worker.phase.current)
    (asking : ∀ clientname, phase.asks = some clientname → threadName clientname = name)
    (connecting : ∀ task host, phase = .connecting task host → task.clientname ≠ [] →
      (task.clientname, host) ∈ state.returned)
    (looked : ∀ task, phase ≠ .looking task) :
    state.SuppliedWorker name { worker with phase } where
  connecting := connecting
  placed := by
    intro task member
    refine before.placed task ?_
    rcases List.mem_append.mp member with inHand | waits
    · exact List.mem_append_left _ (current task inHand)
    · exact List.mem_append_right _ waits
  asking := asking
  worked := before.worked
  looked := fun task isLooking => absurd isLooking (looked task)

theorem LookupsKept.drop (kept : state.LookupsKept) {task : Req2ReceiverTask} {reason : DropReason}
    (cached : reason ≠ .noCachedInfo)
    (after : task.clientname ≠ [] → reason = .serverError ∨
      ∃ host, reason = .connectFailed host ∧ (task.clientname, host) ∈ state.returned) :
    LookupsKept { state with dropped := state.dropped ++ [(task, reason)] } := by
  constructor
  · intro other member
    rcases List.mem_append.mp member with older | newer
    · exact kept.cached other older
    · cases List.mem_singleton.mp newer
      exact cached rfl
  · intro other otherReason member
    rcases List.mem_append.mp member with older | newer
    · exact kept.reasons other otherReason older
    · cases List.mem_singleton.mp newer
      exact after

theorem Supplied.removeCachedHostInfo (supplied : state.Supplied)
    (meets : state.keepsLookups (.worker name .removeCachedHostInfo) = true)
    (taken : state.workerStep name .removeCachedHostInfo = some following) :
    following.Supplied := by
  cases workerStep_moves taken with
  | removeCachedHostInfo clientname phase =>
    simp only [keepsLookups, phase, Bool.and_eq_true, List.all_eq_true, requeued, List.mem_filter,
      List.mem_append, Bool.not_eq_true', bne_iff_ne] at meets
    obtain ⟨noneRequeued, noneLeft⟩ := meets
    have own : threadName clientname = name :=
      (supplied.workers name).asking clientname (by rw [phase]; rfl)
    have keeps {other : ClientName} (different : other ≠ clientname)
        (cached : (state.cachedClientInfo other).isSome = true) :
        (Function.update state.cachedClientInfo clientname none other).isSome = true := by
      rwa [Function.update_of_ne different]
    have asksNow : (state.setPhase name (.asking clientname)).Supplied := by
      refine supplied.workerMoves ?_ supplied.kept supplied.waiting
      exact (supplied.workers name).goesOn (fun _ none => by cases none)
        (fun other asks => by cases asks; exact own) (by simp) (by simp)
    refine { asksNow with
      kept := { asksNow.kept with }, workers := ?_, returned := ?_, requeueing := ?_, queued := ?_ }
    · intro other
      have before := asksNow.workers other
      refine { connecting := before.connecting, placed := before.placed, asking := before.asking,
               worked := ?_, looked := ?_ }
      · intro task member fresh named
        refine keeps ?_ (before.worked task member fresh named)
        intro same
        have placed := before.placed task (List.mem_append_right _ member)
        rw [same, own] at placed
        subst placed
        refine noneRequeued task ⟨.inr ?_, fresh⟩ same
        simpa only [setPhase, setWorker, Function.update_self] using member
      · intro task looking fresh named
        refine keeps ?_ (before.looked task looking fresh named)
        intro same
        have inHand : task ∈ (((state.setPhase name (.asking clientname)).workers other).phase).current := by
          rw [looking]
          exact List.mem_singleton_self task
        have placed := before.placed task (List.mem_append_left _ inHand)
        rw [same, own] at placed
        subst placed
        simp [setPhase, setWorker] at looking
    · intro other host known
      change Function.update state.cachedClientInfo clientname none other = some host at known
      by_cases same : other = clientname
      · rw [same, Function.update_self] at known
        cases known
      · rw [Function.update_of_ne same] at known
        exact supplied.returned other host known
    · intro answered pendingtasks answering
      obtain ⟨named, cached⟩ := supplied.requeueing answered pendingtasks answering
      refine ⟨named, fun left => keeps ?_ (cached left)⟩
      rw [show state.answering = .requeueing answered pendingtasks from answering] at noneLeft
      simpa [left] using noneLeft
    · intro task member fresh named
      exact keeps (noneRequeued task ⟨.inl member, fresh⟩) (supplied.queued task member fresh named)

theorem worker_supplied (supplied : state.Supplied) {event : WorkerEvent}
    (meets : state.keepsLookups (.worker name event) = true)
    (taken : state.workerStep name event = some following) : following.Supplied := by
  have before := supplied.workers name
  have inHand {task : Req2ReceiverTask} {phase : WorkerPhase}
      (was : (state.workers name).phase = phase) (current : phase.current = [task]) :
      ∀ other ∈ [task], other ∈ (state.workers name).phase.current := by
    rw [was, current]
    exact fun _ member => member
  have asksFor {clientname : ClientName} {phase : WorkerPhase}
      (was : (state.workers name).phase = phase) (asks : phase.asks = some clientname) :
      threadName clientname = name :=
    before.asking clientname (was ▸ asks)
  have idle : state.SuppliedWorker name { state.workers name with phase := .idle } :=
    before.goesOn (by simp [WorkerPhase.current]) (by simp [WorkerPhase.asks]) (by simp) (by simp)
  have accepted {task : Req2ReceiverTask} {host : LocalHostInfo} {outcome : SendOutcome}
      (phase : (state.workers name).phase = .connecting task host)
      (meets : state.keepsLookups (.worker name (.send outcome)) = true)
      (named : task.clientname ≠ []) : outcome ≠ .noTcpSock ∧ outcome ≠ .sendFailed := by
    simpa [keepsLookups, phase, named] using meets
  cases workerStep_moves taken with
  | take task rest worker =>
    rw [worker] at before
    refine supplied.workerMoves ?_ supplied.kept supplied.waiting
    constructor
    · simp
    · intro other member
      exact before.placed other member
    · simp [WorkerPhase.asks]
    · exact fun other member => before.worked other (List.mem_cons_of_mem _ member)
    · intro other looking
      cases looking
      exact before.worked task List.mem_cons_self
  | unnamed task phase isEmpty =>
    refine supplied.workerMoves ?_ supplied.kept supplied.waiting
    refine before.goesOn (inHand phase rfl) (by simp [WorkerPhase.asks]) ?_ (by simp)
    intro other host connects named
    cases connects
    exact absurd isEmpty named
  | cached task host phase named known =>
    refine supplied.workerMoves ?_ supplied.kept supplied.waiting
    refine before.goesOn (inHand phase rfl) (by simp [WorkerPhase.asks]) ?_ (by simp)
    intro other otherHost connects _
    cases connects
    exact supplied.returned _ _ known
  | uncached task phase =>
    refine supplied.workerMoves ?_ supplied.kept supplied.waiting
    exact before.goesOn (inHand phase rfl) (by simp [WorkerPhase.asks]) (by simp) (by simp)
  | noCachedInfo task phase named unknown last =>
    have cached := before.looked task phase last named
    rw [unknown] at cached
    cases cached
  | askAgain task host phase =>
    refine supplied.workerMoves ?_ supplied.kept supplied.waiting
    exact before.goesOn (inHand phase rfl) (by simp [WorkerPhase.asks]) (by simp) (by simp)
  | connectFailed task host phase =>
    refine supplied.workerMoves idle (supplied.kept.drop (by simp) ?_) supplied.waiting
    exact fun named => .inr ⟨host, rfl, before.connecting task host phase named⟩
  | noTcpSock task host phase =>
    refine supplied.workerMoves idle (supplied.kept.drop (by simp) ?_) supplied.waiting
    exact fun named => absurd rfl (accepted phase meets named).1
  | sendFailed task host phase =>
    refine supplied.workerMoves idle (supplied.kept.drop (by simp) ?_) supplied.waiting
    exact fun named => absurd rfl (accepted phase meets named).2
  | sent => exact supplied.workerMoves idle supplied.kept supplied.waiting
  | queueWaitingTask task connectFailed phase =>
    have own : threadName task.clientname = name :=
      before.placed task (List.mem_append_left _
        (inHand phase rfl task (List.mem_singleton_self task)))
    refine supplied.workerMoves ?_ supplied.kept (queued_named supplied.waiting task)
    refine before.goesOn ?_ ?_ ?_ ?_ <;> cases connectFailed <;>
      simp [WorkerPhase.current, WorkerPhase.asks, own]
  | removeCachedHostInfo => exact supplied.removeCachedHostInfo meets taken
  | testConnecting clientname phase =>
    have own := asksFor phase rfl
    refine supplied.workerMoves ?_ supplied.kept supplied.waiting
    refine before.goesOn ?_ ?_ ?_ ?_ <;> cases state.serverConnecting <;>
      simp [WorkerPhase.current, WorkerPhase.asks, own]
  | insertFuture now clientname phase =>
    have own := asksFor phase rfl
    have moved : (state.setPhase name (.sending clientname
        (state.futureMgr.safeInsertFuture true now).1.futureId
        (state.futureMgr.safeInsertFuture true now).1.future)).Supplied := by
      refine supplied.workerMoves ?_ supplied.kept supplied.waiting
      exact before.goesOn (by simp [WorkerPhase.current]) (by simp [WorkerPhase.asks, own])
        (by simp) (by simp)
    exact { moved with
      kept := { moved.kept with }
      workers := fun other => { moved.workers other with } }
  | sendRequest =>
    have moved : (state.setPhase name .idle).Supplied :=
      supplied.workerMoves idle supplied.kept supplied.waiting
    exact { moved with
      kept := { moved.kept with }
      workers := fun other => { moved.workers other with } }

theorem LookupsKept.more (kept : state.LookupsKept)
    (returned : ∀ answer ∈ state.returned, answer ∈ following.returned)
    (dropped : following.dropped = state.dropped) : following.LookupsKept where
  cached := by
    rw [dropped]
    exact kept.cached
  reasons := by
    intro task reason member named
    refine (kept.reasons task reason (dropped ▸ member) named).imp_right ?_
    rintro ⟨host, failed, known⟩
    exact ⟨host, failed, returned _ known⟩

theorem setResult_found {ready : Option FutureRef} {rsp : Option GetClientRsp} {phase : AnswerPhase}
    (result : state.setResult ready rsp = phase) :
    phase = .idle ∨ ∃ future, phase = .found future rsp := by
  subst result
  unfold setResult
  split
  next future =>
    split
    · exact .inr ⟨future, rfl⟩
    · exact .inl rfl
  next => exact .inl rfl

theorem Supplied.frame (supplied : state.Supplied) {msgId : UInt32} {rsp : Option GetClientRsp}
    (taken : state.step (.frame msgId rsp) = some following) : following.Supplied := by
  cases step_moves taken
  have more (answers : List (ClientName × LocalHostInfo)) (answer : ClientName × LocalHostInfo)
      (member : answer ∈ state.returned) : answer ∈ state.returned ++ answers :=
    List.mem_append_left answers member
  refine { supplied with
    kept := supplied.kept.more (more _) rfl
    workers := fun name => (supplied.workers name).more (more _) fun _ cached => cached
    returned := fun clientname host cached => more _ _ (supplied.returned clientname host cached)
    found := ?_, taken := ?_, requeueing := ?_ }
  · intro future answer answering success
    rcases setResult_found answering with idle | ⟨_, same⟩
    · cases idle
    · cases same
      refine List.mem_append_right _ ?_
      simp [returnedHost, success]
  · intro answer pendingtasks answering
    rcases setResult_found answering with idle | ⟨_, same⟩
    · cases idle
    · cases same
  · intro clientname pendingtasks answering
    rcases setResult_found answering with idle | ⟨_, same⟩
    · cases idle
    · cases same

theorem Supplied.setAnswering (supplied : state.Supplied) {answering : AnswerPhase}
    (found : ∀ future rsp, answering ≠ .found future (some rsp))
    (taken : ∀ rsp pendingtasks, answering ≠ .taken rsp pendingtasks)
    (requeueing : ∀ clientname pendingtasks,
      answering ≠ .requeueing clientname pendingtasks) :
    Supplied { state with answering } :=
  { supplied with
    kept := { supplied.kept with }
    workers := fun name => { supplied.workers name with }
    found := fun future rsp isFound => absurd isFound (found future rsp)
    taken := fun rsp pendingtasks isTaken => absurd isTaken (taken rsp pendingtasks)
    requeueing := fun clientname pendingtasks isRequeueing =>
      absurd isRequeueing (requeueing clientname pendingtasks) }

theorem Supplied.takePending (supplied : state.Supplied)
    (taken : state.step .takePending = some following) : following.Supplied := by
  cases step_moves taken with
  | unreadable => exact supplied.setAnswering (by simp) (by simp) (by simp)
  | takePending future rsp answering =>
    refine { supplied with
      kept := { supplied.kept with }
      workers := fun name => { supplied.workers name with }
      found := by simp
      taken := ?_
      requeueing := by simp
      waiting := taken_named supplied.waiting rsp.destName }
    intro answer pendingtasks isTaken
    cases isTaken
    exact ⟨supplied.waiting rsp.destName, supplied.found future rsp answering⟩

theorem caches {clientname other : ClientName} {host : LocalHostInfo}
    (cached : (state.cachedClientInfo other).isSome = true) :
    (Function.update state.cachedClientInfo clientname (some host) other).isSome = true := by
  by_cases same : other = clientname
  · rw [same, Function.update_self]
    rfl
  · rwa [Function.update_of_ne same]

theorem Supplied.cache (supplied : state.Supplied) {clientname : ClientName} {host : LocalHostInfo}
    {returned : List (ClientName × LocalHostInfo)}
    (more : ∀ answer ∈ state.returned, answer ∈ returned) (known : (clientname, host) ∈ returned) :
    Supplied { state with
      returned
      cachedClientInfo := Function.update state.cachedClientInfo clientname (some host) } where
  kept := supplied.kept.more more rfl
  workers := fun name => (supplied.workers name).more more fun _ => caches
  returned := by
    intro other otherHost cached
    change Function.update state.cachedClientInfo clientname (some host) other = _ at cached
    by_cases same : other = clientname
    · rw [same, Function.update_self] at cached
      cases cached
      exact same ▸ known
    · rw [Function.update_of_ne same] at cached
      exact more _ (supplied.returned other otherHost cached)
  found := fun future rsp answering success => more _ (supplied.found future rsp answering success)
  taken := fun rsp pendingtasks answering =>
    ⟨(supplied.taken rsp pendingtasks answering).1,
      fun success => more _ ((supplied.taken rsp pendingtasks answering).2 success)⟩
  requeueing := fun other pendingtasks answering =>
    ⟨(supplied.requeueing other pendingtasks answering).1,
      fun left => caches ((supplied.requeueing other pendingtasks answering).2 left)⟩
  waiting := supplied.waiting
  queued := fun task member fresh named => caches (supplied.queued task member fresh named)

theorem Supplied.cacheHostInfo (supplied : state.Supplied)
    (taken : state.step .cacheHostInfo = some following) : following.Supplied := by
  cases step_moves taken with
  | cacheHostInfo rsp pendingtasks answering success =>
    obtain ⟨named, known⟩ := supplied.taken rsp pendingtasks answering
    have cached := supplied.cache (fun _ member => member) (known success)
    refine { cached with
      kept := { cached.kept with }
      workers := fun name => { cached.workers name with }
      found := by simp
      taken := by simp
      requeueing := ?_ }
    intro clientname left isRequeueing
    cases isRequeueing
    refine ⟨named, fun _ => ?_⟩
    change (Function.update state.cachedClientInfo rsp.destName (some rsp.destHost)
      rsp.destName).isSome = true
    rw [Function.update_self]
    rfl
  | serverError => exact supplied.setAnswering (by simp) (by simp) (by simp)

theorem Supplied.requeue (supplied : state.Supplied)
    (taken : state.step .requeue = some following) : following.Supplied := by
  cases step_moves taken with
  | requeue clientname task rest answering =>
    obtain ⟨named, cached⟩ := supplied.requeueing clientname _ answering
    refine { supplied with
      kept := { supplied.kept with }
      workers := fun name => { supplied.workers name with }
      found := by simp
      taken := by simp
      requeueing := ?_
      queued := ?_ }
    · intro other left isRequeueing
      cases isRequeueing
      exact ⟨fun task member => named task (List.mem_cons_of_mem _ member),
        fun _ => cached (List.cons_ne_nil _ _)⟩
    · intro other member
      rcases List.mem_append.mp member with older | newer
      · exact supplied.queued other older
      · rw [List.mem_singleton.mp newer]
        intro _ _
        change (state.cachedClientInfo task.clientname).isSome = true
        rw [named task List.mem_cons_self]
        exact cached (List.cons_ne_nil _ _)
  | requeued => exact supplied.setAnswering (by simp) (by simp) (by simp)

theorem Supplied.removeFuture (supplied : state.Supplied)
    (taken : state.step .removeFuture = some following) : following.Supplied := by
  cases step_moves taken with
  | removeFuture task rest answering =>
    have kept : LookupsKept (state.drop task .serverError) :=
      supplied.kept.drop (by simp) fun _ => .inl rfl
    exact { supplied with
      kept := { cached := kept.cached, reasons := kept.reasons }
      workers := fun name => { supplied.workers name with }
      found := by simp
      taken := by simp
      requeueing := by simp }
  | removed => exact supplied.setAnswering (by simp) (by simp) (by simp)

theorem Supplied.dispatch (supplied : state.Supplied)
    (taken : state.step .dispatch = some following) : following.Supplied := by
  cases step_moves taken with
  | dispatch task rest queue =>
    have cached : state.Cached task := supplied.queued task (queue ▸ List.mem_cons_self)
    have before := supplied.workers (threadName task.clientname)
    have moved : state.SuppliedWorker (threadName task.clientname)
        { state.workers (threadName task.clientname) with
          tasks := (state.workers (threadName task.clientname)).tasks ++ [task] } := by
      refine { before with placed := ?_, worked := ?_ }
      · intro other member
        rcases List.mem_append.mp (List.append_assoc _ _ _ ▸ member) with older | newer
        · exact before.placed other older
        · rw [List.mem_singleton.mp newer]
      · intro other member
        rcases List.mem_append.mp member with older | newer
        · exact before.worked other older
        · rw [List.mem_singleton.mp newer]
          exact cached
    exact { supplied with
      kept := { supplied.kept with }
      workers := fun other => { everyWorker supplied moved other with }
      queued := fun other member => supplied.queued other (queue ▸ List.mem_cons_of_mem _ member) }

theorem step_supplied {event : Event} (supplied : state.Supplied)
    (meets : state.keepsLookups event = true) (taken : state.step event = some following) :
    following.Supplied := by
  cases event with
  | post thread clientname =>
    cases taken
    refine { supplied with
      kept := { supplied.kept with }
      workers := fun name => { supplied.workers name with }
      queued := ?_ }
    intro task member
    rcases List.mem_append.mp member with older | newer
    · exact supplied.queued task older
    · rw [List.mem_singleton.mp newer]
      intro fresh
      cases fresh
  | dispatch => exact supplied.dispatch taken
  | worker name event => exact worker_supplied supplied meets taken
  | frame msgId rsp => exact supplied.frame taken
  | takePending => exact supplied.takePending taken
  | cacheHostInfo => exact supplied.cacheHostInfo taken
  | requeue => exact supplied.requeue taken
  | removeFuture => exact supplied.removeFuture taken
  | syncLookup clientname host =>
    cases taken
    exact supplied.cache (fun _ => List.mem_append_left _)
      (List.mem_append_right _ (List.mem_singleton_self _))
  | otherRequest | serverConnected | serverLost =>
    cases taken
    exact { supplied with
      kept := { supplied.kept with }, workers := fun name => { supplied.workers name with } }

theorem lookups_kept (state : NamedPosts)
    (reached : Transition.ReachableWhen step
      (fun state event => state.keepsLookups event = true) initial state) : state.LookupsKept :=
  (reached.invariant Supplied supplied_initial fun _ _ _ supplied meets taken =>
    step_supplied supplied meets taken).kept

theorem lookups_kept_one : ∃ state : NamedPosts,
    state.dropped.map Prod.snd = [.connectFailed (someHost 0x31)] ∧ state.LookupsKept := by
  obtain ⟨state, ran, dropped⟩ : ∃ state, Transition.run (Transition.checkedStep step
      fun state event => state.keepsLookups event = true) initial
        (.serverConnected :: lookupRun true ++ answerRun 1 (someHost 0x31) 1 ++
          sendRun .connectFailed) = some state ∧
      state.dropped.map Prod.snd = [.connectFailed (someHost 0x31)] := ⟨_, rfl, rfl⟩
  exact ⟨state, dropped, lookups_kept state (Transition.ReachableWhen.start.run _ ran)⟩

-- The third post fails to connect; the answer to the second lookup comes before the address is erased.
def erasedRun : List Event :=
  .serverConnected :: lookupRun true ++ lookupRun true ++ answerRun 1 (someHost 0x31) 2 ++
    sendRun .sent ++ sendRun .sent ++ [.post 0 someClient] ++ sendRun .connectFailed ++
    worked [.queueWaitingTask] ++ answerRun 2 (someHost 0x32) 1 ++
    worked [.removeCachedHostInfo, .testConnecting, .insertFuture 0, .sendRequest true] ++
    [.dispatch] ++ worked [.take, .getCachedHostInfo]

theorem lookup_thrown_away :
    ¬ ∀ state, Transition.Reachable step initial state → state.LookupsKept := by
  intro lookupsKept
  obtain ⟨state, ran, task, dropped⟩ : ∃ state, Transition.run step initial erasedRun = some state ∧
      ∃ task, state.dropped = [(task, .noCachedInfo)] := ⟨_, rfl, _, rfl⟩
  have kept := lookupsKept state (Transition.Reachable.run .start _ ran)
  exact kept.cached task (dropped ▸ List.mem_singleton_self _)

end MessageBus.Client.NamedPosts
