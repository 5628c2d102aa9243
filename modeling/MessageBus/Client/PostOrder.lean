import MessageBus.Client.NamedPosts
import MessageBus.Shared.Lanes

set_option autoImplicit false

namespace MessageBus.Client

def Req2ReceiverTask.isOf (thread : Nat) (clientname : ClientName) (task : Req2ReceiverTask) :
    Bool :=
  task.thread == thread && task.clientname == clientname

def numbers (thread : Nat) (clientname : ClientName) (tasks : List Req2ReceiverTask) : List Nat :=
  (tasks.filter (Req2ReceiverTask.isOf thread clientname)).map Req2ReceiverTask.number

namespace NamedPosts

def lane (state : NamedPosts) (thread : Nat) (clientname : ClientName) : Lane :=
  let worker := state.workers (threadName clientname)
  { handed := numbers thread clientname state.handed
    onWay := numbers thread clientname (worker.phase.current ++ worker.tasks ++ state.reqTasks)
    parked := numbers thread clientname
      (state.waiting clientname ++ state.answering.pendingtasks)
    next := state.posted thread }

def PostedInOrder (state : NamedPosts) : Prop :=
  ∀ thread clientname, (state.lane thread clientname).handed.Pairwise (· < ·)

-- A message is requeued only behind earlier ones, and goes to a known address only before later
-- ones; both of the same thread to the same client.
def keepsOrder (state : NamedPosts) : Event -> Bool
  | .worker name .getCachedHostInfo =>
    match (state.workers name).phase with
    | .looking task =>
      !(task.clientname.isEmpty || (state.cachedClientInfo task.clientname).isSome) ||
        (state.lane task.thread task.clientname).parked.all fun other => task.number < other
    | _ => true
  | .requeue =>
    match state.answering with
    | .requeueing _ (task :: _) =>
      (state.lane task.thread task.clientname).onWay.all fun other => other < task.number
    | _ => true
  | _ => true

structure Arranged (state : NamedPosts) : Prop where
  lanes : ∀ thread clientname, (state.lane thread clientname).Ordered
  -- Each client has one worker.
  placed : ∀ name, ∀ task ∈ (state.workers name).phase.current ++ (state.workers name).tasks,
    threadName task.clientname = name
  waiting : ∀ clientname, ∀ task ∈ state.waiting clientname, task.clientname = clientname
  connecting : ∀ name task host, (state.workers name).phase = .connecting task host →
    ∀ other ∈ (state.lane task.thread task.clientname).parked, task.number < other

theorem arranged_initial : initial.Arranged where
  lanes := fun _ _ => Lane.ordered_new
  placed := by simp [initial, WorkerPhase.current]
  waiting := by simp [initial]
  connecting := by simp [initial]

theorem Arranged.postedInOrder {state : NamedPosts} (arranged : state.Arranged) :
    state.PostedInOrder :=
  fun thread clientname => (arranged.lanes thread clientname).handed

end NamedPosts

section Numbers

variable {thread : Nat} {clientname : ClientName}

theorem numbers_append (tasks more : List Req2ReceiverTask) :
    numbers thread clientname (tasks ++ more) =
      numbers thread clientname tasks ++ numbers thread clientname more := by
  simp [numbers]

theorem numbers_own {task : Req2ReceiverTask} (own : task.isOf thread clientname = true)
    (rest : List Req2ReceiverTask) :
    numbers thread clientname (task :: rest) = task.number :: numbers thread clientname rest := by
  simp [numbers, own]

theorem numbers_other {task : Req2ReceiverTask} (other : task.isOf thread clientname = false)
    (rest : List Req2ReceiverTask) :
    numbers thread clientname (task :: rest) = numbers thread clientname rest := by
  simp [numbers, other]

theorem isOf_named {task : Req2ReceiverTask} (own : task.isOf thread clientname = true) :
    task.thread = thread ∧ task.clientname = clientname := by
  simpa [Req2ReceiverTask.isOf] using own

theorem numbers_elsewhere {tasks : List Req2ReceiverTask} {other : ClientName}
    (named : ∀ task ∈ tasks, task.clientname = other) (different : other ≠ clientname) :
    numbers thread clientname tasks = [] := by
  rw [numbers, List.map_eq_nil_iff, List.filter_eq_nil_iff]
  intro task member own
  exact different ((named task member).symm.trans (isOf_named own).2)

end Numbers

namespace NamedPosts

variable {state following : NamedPosts} {name : Bytes} {worker : Worker}

theorem numbers_misplaced {tasks : List Req2ReceiverTask} {thread : Nat} {clientname : ClientName}
    (placed : ∀ task ∈ tasks, threadName task.clientname = name)
    (different : threadName clientname ≠ name) : numbers thread clientname tasks = [] := by
  rw [numbers, List.map_eq_nil_iff, List.filter_eq_nil_iff]
  intro task member own
  exact different ((isOf_named own).2 ▸ placed task member)

theorem lane_moves (arranged : state.Arranged) {taken : List Req2ReceiverTask}
    (before : (state.workers name).phase.current ++ (state.workers name).tasks =
      taken ++ (worker.phase.current ++ worker.tasks))
    (workers : following.workers = (state.setWorker name worker).workers)
    (reqTasks : following.reqTasks = state.reqTasks) (thread : Nat) (clientname : ClientName) :
    (state.lane thread clientname).onWay =
      numbers thread clientname taken ++ (following.lane thread clientname).onWay := by
  have placed := arranged.placed name
  rw [before] at placed
  simp only [lane, workers, reqTasks]
  by_cases same : threadName clientname = name
  · rw [same, setWorker]
    simp only [Function.update_self]
    rw [before, ← numbers_append, List.append_assoc]
  · simp only [setWorker, Function.update_of_ne same]
    rw [numbers_misplaced (fun task member => placed task (List.mem_append_left _ member)) same]
    rfl

theorem Arranged.workerMoves (arranged : state.Arranged) {taken : List Req2ReceiverTask}
    (before : (state.workers name).phase.current ++ (state.workers name).tasks =
      taken ++ (worker.phase.current ++ worker.tasks))
    (workers : following.workers = (state.setWorker name worker).workers)
    (lanes : ∀ thread clientname, (state.lane thread clientname).onWay =
        numbers thread clientname taken ++ (following.lane thread clientname).onWay →
      (state.lane thread clientname).Step (following.lane thread clientname))
    (reqTasks : following.reqTasks = state.reqTasks)
    (waiting : ∀ clientname, ∀ task ∈ following.waiting clientname, task.clientname = clientname)
    -- What is parked more than before is no concern of a worker that is about to connect.
    (parked : ∀ other, other ≠ name → ∀ thread clientname, threadName clientname = other →
      ∀ item ∈ (following.lane thread clientname).parked,
        item ∈ (state.lane thread clientname).parked)
    (connecting : ∀ task host, worker.phase = .connecting task host →
      ∀ other ∈ (following.lane task.thread task.clientname).parked, task.number < other) :
    following.Arranged where
  lanes := fun thread clientname => (lanes thread clientname
    (lane_moves arranged before workers reqTasks thread clientname)).ordered
      (arranged.lanes thread clientname)
  placed := by
    intro other task member
    rw [workers] at member
    by_cases same : other = name
    · subst same
      simp only [setWorker, Function.update_self] at member
      exact arranged.placed other task (before ▸ List.mem_append_right _ member)
    · simp only [setWorker, Function.update_of_ne same] at member
      exact arranged.placed other task member
  waiting := waiting
  connecting := by
    intro other task host phase item member
    rw [workers] at phase
    by_cases same : other = name
    · subst same
      simp only [setWorker, Function.update_self] at phase
      exact connecting task host phase item member
    · simp only [setWorker, Function.update_of_ne same] at phase
      have placed := arranged.placed other task (List.mem_append_left _ (by
        rw [phase]
        exact List.mem_singleton_self task))
      exact arranged.connecting other task host phase item
        (parked other same task.thread task.clientname placed item member)

theorem Arranged.goesOn (arranged : state.Arranged)
    {cachedClientInfo : ClientName -> Option LocalHostInfo} {futureMgr : FutureMgr}
    {asked : List (FutureRef × ClientName)}
    (before : (state.workers name).phase.current ++ (state.workers name).tasks =
      worker.phase.current ++ worker.tasks)
    (connecting : ∀ task host, worker.phase = .connecting task host →
      ∀ other ∈ (state.lane task.thread task.clientname).parked, task.number < other) :
    Arranged { state.setWorker name worker with cachedClientInfo, futureMgr, asked } := by
  refine @Arranged.workerMoves state _ name worker arranged [] before rfl ?_ rfl arranged.waiting
    (fun _ _ _ _ _ _ member => member) connecting
  intro thread clientname onWay
  exact .stay (Lane.ext rfl onWay.symm rfl rfl)

variable {task : Req2ReceiverTask}

theorem Arranged.drops (arranged : state.Arranged)
    (current : (state.workers name).phase.current = [task])
    {dropped : List (Req2ReceiverTask × DropReason)} :
    Arranged { state.setPhase name .idle with dropped } := by
  refine @Arranged.workerMoves state _ name { state.workers name with phase := .idle } arranged
    [task] (by rw [current]; rfl) rfl ?_ rfl arranged.waiting (fun _ _ _ _ _ _ member => member)
    (by simp)
  intro thread clientname onWay
  cases own : task.isOf thread clientname with
  | true =>
    rw [numbers_own own] at onWay
    exact .drop task.number _ onWay
  | false =>
    rw [numbers_other own] at onWay
    exact .stay (Lane.ext rfl onWay.symm rfl rfl)

theorem Arranged.hands (arranged : state.Arranged) {host : LocalHostInfo}
    (phase : (state.workers name).phase = .connecting task host)
    {dropped : List (Req2ReceiverTask × DropReason)} :
    Arranged { state.setPhase name .idle with handed := state.handed ++ [task], dropped } := by
  refine @Arranged.workerMoves state _ name { state.workers name with phase := .idle } arranged
    [task] (by rw [phase]; rfl) rfl ?_ rfl arranged.waiting (fun _ _ _ _ _ _ member => member)
    (by simp)
  intro thread clientname onWay
  cases own : task.isOf thread clientname with
  | true =>
    rw [numbers_own own] at onWay
    obtain ⟨rfl, rfl⟩ := isOf_named own
    have hand := Lane.Step.hand task.number _ onWay (arranged.connecting name task host phase)
    rw [show (state.lane task.thread task.clientname).handed ++ [task.number] =
      numbers task.thread task.clientname (state.handed ++ [task]) by
        rw [numbers_append, numbers_own own]; rfl] at hand
    exact hand
  | false =>
    rw [numbers_other own] at onWay
    have handed : numbers thread clientname (state.handed ++ [task]) =
        (state.lane thread clientname).handed := by
      rw [numbers_append, numbers_other own]
      exact List.append_nil _
    exact .stay (Lane.ext handed onWay.symm rfl rfl)

theorem numbers_parked (waiting : ClientName -> List Req2ReceiverTask) (thread : Nat)
    (clientname : ClientName) :
    numbers thread clientname
        (Function.update waiting task.clientname (waiting task.clientname ++ [task]) clientname) =
      numbers thread clientname (waiting clientname) ++ numbers thread clientname [task] := by
  by_cases same : clientname = task.clientname
  · rw [same, Function.update_self, numbers_append]
  · have other : task.isOf thread clientname = false := by
      rw [Bool.eq_false_iff]
      exact fun own => same (isOf_named own).2.symm
    rw [Function.update_of_ne same, numbers_other other]
    exact (List.append_nil _).symm

theorem Arranged.parks (arranged : state.Arranged) {connectFailed : Bool}
    (phase : (state.workers name).phase = .parking task connectFailed) {next : WorkerPhase}
    (current : next.current = []) :
    Arranged { state.setPhase name next with
      waiting := Function.update state.waiting task.clientname
        (state.waiting task.clientname ++ [task]) } := by
  have placed : threadName task.clientname = name := by
    refine arranged.placed name task (List.mem_append_left _ ?_)
    rw [phase]
    exact List.mem_singleton_self task
  refine @Arranged.workerMoves state _ name { state.workers name with phase := next } arranged
    [task] (by rw [phase, current]; rfl) rfl ?_ rfl ?_ ?_ ?_
  · intro thread clientname onWay
    have parked := @numbers_parked task state.waiting thread clientname
    cases own : task.isOf thread clientname with
    | true =>
      rw [numbers_own own] at onWay parked
      refine .park task.number _ _ onWay ?_
      intro item member
      simp only [lane, numbers_append, parked, List.mem_append] at member ⊢
      rcases member with (waits | same) | pending
      · exact .inr (.inl waits)
      · exact .inl (List.mem_singleton.mp same)
      · exact .inr (.inr pending)
    | false =>
      rw [numbers_other own] at onWay parked
      refine .stay (Lane.ext rfl onWay.symm ?_ rfl)
      simp only [lane, numbers_append, parked]
      rw [show numbers thread clientname [] = [] from rfl, List.append_nil]
      rfl
  · exact queued_named arranged.waiting task
  · intro other different thread clientname otherPlaced item member
    have elsewhere : clientname ≠ task.clientname := by
      rintro rfl
      exact different (otherPlaced.symm.trans placed)
    simp only [lane, Function.update_of_ne elsewhere] at member
    exact member
  · intro other host connects
    change next = _ at connects
    rw [connects] at current
    cases current

theorem worker_arranged (arranged : state.Arranged) {event : WorkerEvent}
    (meets : state.keepsOrder (.worker name event) = true)
    (taken : state.workerStep name event = some following) : following.Arranged := by
  have inHand {phase next : WorkerPhase} (was : (state.workers name).phase = phase)
      (current : phase.current = next.current) :
      (state.workers name).phase.current ++ (state.workers name).tasks =
        next.current ++ (state.workers name).tasks := by
    rw [was, current]
  -- The address is known, or none is needed: the message goes ahead of the parked ones.
  have ahead {task : Req2ReceiverTask} (phase : (state.workers name).phase = .looking task)
      (meets : state.keepsOrder (.worker name .getCachedHostInfo) = true)
      (known : task.clientname = [] ∨ (state.cachedClientInfo task.clientname).isSome = true)
      {host : LocalHostInfo} (other : Req2ReceiverTask) (otherHost : LocalHostInfo)
      (connects : WorkerPhase.connecting task host = .connecting other otherHost) :
      ∀ item ∈ (state.lane other.thread other.clientname).parked, other.number < item := by
    cases connects
    simp only [keepsOrder, phase, Bool.or_eq_true, Bool.not_eq_true', Bool.or_eq_false_iff,
      List.isEmpty_eq_false_iff, List.all_eq_true, decide_eq_true_eq] at meets
    refine meets.resolve_left ?_
    rintro ⟨named, uncached⟩
    exact known.elim named fun cached => Bool.false_ne_true (uncached.symm.trans cached)
  cases workerStep_moves taken with
  | take task rest worker => exact arranged.goesOn (by rw [worker]; rfl) (by simp)
  | unnamed task phase isEmpty =>
    exact arranged.goesOn (inHand phase rfl) (ahead phase meets (.inl isEmpty))
  | cached task host phase named known =>
    exact arranged.goesOn (inHand phase rfl) (ahead phase meets (.inr (by rw [known]; rfl)))
  | uncached task phase => exact arranged.goesOn (inHand phase rfl) (by simp)
  | noCachedInfo task phase => exact arranged.drops (by rw [phase]; rfl)
  | askAgain task host phase => exact arranged.goesOn (inHand phase rfl) (by simp)
  | connectFailed task host phase => exact arranged.drops (by rw [phase]; rfl)
  | noTcpSock task host phase => exact arranged.drops (by rw [phase]; rfl)
  | sendFailed task host phase => exact arranged.hands phase
  | sent task host phase => exact arranged.hands phase
  | queueWaitingTask task connectFailed phase =>
    exact arranged.parks phase (by cases connectFailed <;> rfl)
  | removeCachedHostInfo clientname phase => exact arranged.goesOn (inHand phase rfl) (by simp)
  | testConnecting clientname phase =>
    cases state.serverConnecting
    · exact arranged.goesOn (inHand phase rfl) (by simp)
    · exact arranged.goesOn (inHand phase rfl) (by simp)
  | insertFuture now clientname phase => exact arranged.goesOn (inHand phase rfl) (by simp)
  | sendRequest accepted clientname msgId future phase =>
    exact arranged.goesOn (inHand phase rfl) (by simp)

theorem Arranged.environment (arranged : state.Arranged)
    (workers : ∀ name, (following.workers name).phase = (state.workers name).phase)
    (lanes : ∀ thread clientname,
      (state.lane thread clientname).Step (following.lane thread clientname))
    (placed : ∀ name, ∀ task ∈ (following.workers name).tasks, threadName task.clientname = name)
    (waiting : ∀ clientname, ∀ task ∈ following.waiting clientname, task.clientname = clientname)
    (parked : ∀ thread clientname, ∀ item ∈ (following.lane thread clientname).parked,
      item ∈ (state.lane thread clientname).parked) : following.Arranged where
  lanes := fun thread clientname =>
    (lanes thread clientname).ordered (arranged.lanes thread clientname)
  placed := by
    intro name task member
    rcases List.mem_append.mp member with inHand | waits
    · rw [workers] at inHand
      exact arranged.placed name task (List.mem_append_left _ inHand)
    · exact placed name task waits
  waiting := waiting
  connecting := by
    intro name task host phase item member
    rw [workers] at phase
    exact arranged.connecting name task host phase item (parked _ _ item member)

theorem Arranged.sameWorkers (arranged : state.Arranged)
    (workers : following.workers = state.workers)
    (lanes : ∀ thread clientname,
      (state.lane thread clientname).Step (following.lane thread clientname))
    (waiting : ∀ clientname, ∀ task ∈ following.waiting clientname, task.clientname = clientname)
    (parked : ∀ thread clientname, ∀ item ∈ (following.lane thread clientname).parked,
      item ∈ (state.lane thread clientname).parked) : following.Arranged := by
  refine arranged.environment (fun name => by rw [workers]) lanes ?_ waiting parked
  intro name task member
  rw [workers] at member
  exact arranged.placed name task (List.mem_append_right _ member)

theorem queued_onWay (state : NamedPosts) (task : Req2ReceiverTask) (thread : Nat)
    (clientname : ClientName) :
    ((state.queueReqTask task).lane thread clientname).onWay =
      (state.lane thread clientname).onWay ++ numbers thread clientname [task] := by
  simp only [lane, queueReqTask, ← List.append_assoc, numbers_append]

theorem Arranged.post (arranged : state.Arranged) {thread : Nat} {clientname : ClientName}
    (taken : state.step (.post thread clientname) = some following) : following.Arranged := by
  cases taken
  refine arranged.sameWorkers rfl ?_ arranged.waiting fun _ _ _ member => member
  intro other client
  have onWay := state.queued_onWay (.posted clientname thread (state.posted thread)) other client
  cases own : (Req2ReceiverTask.posted clientname thread (state.posted thread)).isOf other client with
  | true =>
    rw [numbers_own own] at onWay
    obtain ⟨sameThread, sameClient⟩ := isOf_named own
    change thread = other at sameThread
    subst sameThread
    exact Lane.Step.same .issue (Lane.ext rfl onWay rfl (Function.update_self _ _ _))
  | false =>
    rw [numbers_other own] at onWay
    refine Lane.Step.same (.forget (state.lane other client).parked (fun _ member => member)
      (Function.update state.posted thread (state.posted thread + 1) other) ?_)
      (Lane.ext rfl (onWay.trans (List.append_nil _)) rfl rfl)
    change state.posted other ≤ _
    by_cases same : other = thread
    · rw [same, Function.update_self]
      exact Nat.le_succ _
    · rw [Function.update_of_ne same]

theorem Arranged.dispatch (arranged : state.Arranged)
    (taken : state.step .dispatch = some following) : following.Arranged := by
  cases step_moves taken with
  | dispatch task rest queue =>
    refine arranged.environment ?_ ?_ ?_ arranged.waiting fun _ _ _ member => member
    · intro name
      by_cases same : name = threadName task.clientname
      · subst same
        simp [setWorker]
      · simp [setWorker, Function.update_of_ne same]
    · intro thread clientname
      refine .stay (Lane.ext rfl ?_ rfl rfl)
      simp only [lane, setWorker, queue]
      by_cases same : threadName clientname = threadName task.clientname
      · rw [same, Function.update_self]
        simp only [List.append_assoc, List.singleton_append]
      · have other : task.isOf thread clientname = false := by
          rw [Bool.eq_false_iff]
          exact fun own => same ((isOf_named own).2 ▸ rfl)
        rw [Function.update_of_ne same, numbers_append, numbers_append _ (task :: rest),
          numbers_other other]
    · intro name other member
      by_cases same : name = threadName task.clientname
      · subst same
        simp only [setWorker, Function.update_self] at member
        rcases List.mem_append.mp member with older | newer
        · exact arranged.placed _ other (List.mem_append_right _ older)
        · rw [List.mem_singleton.mp newer]
      · simp only [setWorker, Function.update_of_ne same] at member
        exact arranged.placed name other (List.mem_append_right _ member)

theorem numbers_fewer {tasks more : List Req2ReceiverTask} {thread : Nat} {clientname : ClientName}
    (fewer : ∀ task ∈ tasks, task ∈ more) :
    ∀ item ∈ numbers thread clientname tasks, item ∈ numbers thread clientname more := by
  simp only [numbers, List.mem_map, List.mem_filter]
  rintro item ⟨task, ⟨member, own⟩, rfl⟩
  exact ⟨task, ⟨fewer task member, own⟩, rfl⟩

theorem Arranged.forgets (arranged : state.Arranged)
    {waiting : ClientName -> List Req2ReceiverTask} {answering : AnswerPhase}
    {cachedClientInfo : ClientName -> Option LocalHostInfo} {futureMgr : FutureMgr}
    {serverConnecting serverTcp : Bool} {returned : List (ClientName × LocalHostInfo)}
    {dropped : List (Req2ReceiverTask × DropReason)}
    (named : ∀ clientname, ∀ task ∈ waiting clientname, task.clientname = clientname)
    (fewer : ∀ thread clientname,
      ∀ item ∈ numbers thread clientname (waiting clientname ++ answering.pendingtasks),
        item ∈ (state.lane thread clientname).parked) :
    Arranged { state with waiting, answering, cachedClientInfo, futureMgr, serverConnecting,
                          serverTcp, returned, dropped } :=
  arranged.sameWorkers rfl
    (fun thread clientname => .forget _ (fewer thread clientname) _ le_rfl) named fewer

theorem Arranged.answers (arranged : state.Arranged) {answering : AnswerPhase}
    {cachedClientInfo : ClientName -> Option LocalHostInfo} {futureMgr : FutureMgr}
    {returned : List (ClientName × LocalHostInfo)} {dropped : List (Req2ReceiverTask × DropReason)}
    (fewer : ∀ task ∈ answering.pendingtasks, task ∈ state.answering.pendingtasks) :
    Arranged { state with answering, cachedClientInfo, futureMgr, returned, dropped } := by
  refine arranged.forgets arranged.waiting fun thread clientname => numbers_fewer fun task => ?_
  simp only [List.mem_append]
  exact Or.imp_right (fewer task)

theorem setResult_pendingtasks (ready : Option FutureRef) (rsp : Option GetClientRsp) :
    (state.setResult ready rsp).pendingtasks = [] := by
  unfold setResult
  split
  · split <;> rfl
  · rfl

theorem Arranged.takePending (arranged : state.Arranged)
    (taken : state.step .takePending = some following) : following.Arranged := by
  cases step_moves taken with
  | unreadable => exact arranged.answers (by simp [AnswerPhase.pendingtasks])
  | takePending future rsp answering =>
    refine arranged.forgets (taken_named arranged.waiting rsp.destName) ?_
    intro thread clientname
    by_cases same : clientname = rsp.destName
    · subst same
      rw [Function.update_self]
      exact numbers_fewer fun task => List.mem_append_left _
    · rw [Function.update_of_ne same, numbers_append]
      change ∀ item ∈ _ ++ numbers thread clientname (state.waiting rsp.destName), _
      rw [numbers_elsewhere (arranged.waiting rsp.destName) (Ne.symm same), List.append_nil]
      exact numbers_fewer fun task => List.mem_append_left _

theorem Arranged.cacheHostInfo (arranged : state.Arranged)
    (taken : state.step .cacheHostInfo = some following) : following.Arranged := by
  cases step_moves taken with
  | cacheHostInfo rsp pendingtasks answering | serverError rsp pendingtasks answering =>
    apply arranged.answers
    rw [answering]
    exact fun _ member => member

theorem Arranged.requeue (arranged : state.Arranged) (meets : state.keepsOrder .requeue = true)
    (taken : state.step .requeue = some following) : following.Arranged := by
  cases step_moves taken with
  | requeue answered task rest answering =>
    have left : ∀ other ∈ rest, other ∈ state.answering.pendingtasks := by
      rw [answering]
      exact fun _ member => List.mem_cons_of_mem _ member
    have fewer (thread : Nat) (clientname : ClientName) :
        ∀ item ∈ numbers thread clientname (state.waiting clientname ++ rest),
          item ∈ (state.lane thread clientname).parked := by
      refine numbers_fewer fun other => ?_
      simp only [List.mem_append]
      exact Or.imp_right (left other)
    refine arranged.sameWorkers rfl ?_ arranged.waiting fewer
    intro thread clientname
    have onWay := state.queued_onWay { task with retry := false } thread clientname
    have again : Req2ReceiverTask.isOf thread clientname { task with retry := false } =
        task.isOf thread clientname := rfl
    cases own : task.isOf thread clientname with
    | true =>
      rw [numbers_own (again.trans own)] at onWay
      obtain ⟨rfl, rfl⟩ := isOf_named own
      have parked : task.number ∈ (state.lane task.thread task.clientname).parked := by
        simp only [lane, numbers_append, List.mem_append, answering, AnswerPhase.pendingtasks,
          numbers_own own, List.mem_cons, true_or, or_true]
      have behind : ∀ other ∈ (state.lane task.thread task.clientname).onWay,
          other < task.number := by
        simpa only [keepsOrder, answering, List.all_eq_true, decide_eq_true_eq] using meets
      exact Lane.Step.same (.requeue task.number _ parked behind (fewer _ _))
        (Lane.ext rfl onWay rfl rfl)
    | false =>
      rw [numbers_other (again.trans own)] at onWay
      exact Lane.Step.same (.forget _ (fewer _ _) _ le_rfl)
        (Lane.ext rfl (onWay.trans (List.append_nil _)) rfl rfl)
  | requeued => exact arranged.answers (by simp [AnswerPhase.pendingtasks])

theorem Arranged.removeFuture (arranged : state.Arranged)
    (taken : state.step .removeFuture = some following) : following.Arranged := by
  cases step_moves taken with
  | removeFuture task rest answering =>
    apply arranged.answers
    rw [answering]
    exact fun _ member => List.mem_cons_of_mem _ member
  | removed => exact arranged.answers (by simp [AnswerPhase.pendingtasks])

theorem step_arranged {event : Event} (arranged : state.Arranged)
    (meets : state.keepsOrder event = true) (taken : state.step event = some following) :
    following.Arranged := by
  have parked (thread : Nat) (clientname : ClientName) :
      ∀ item ∈ (state.lane thread clientname).parked,
        item ∈ (state.lane thread clientname).parked := fun _ member => member
  cases event with
  | post thread clientname => exact arranged.post taken
  | dispatch => exact arranged.dispatch taken
  | worker name event => exact worker_arranged arranged meets taken
  | frame msgId rsp =>
    cases step_moves taken
    apply arranged.answers
    rw [setResult_pendingtasks]
    exact fun _ none => by cases none
  | takePending => exact arranged.takePending taken
  | cacheHostInfo => exact arranged.cacheHostInfo taken
  | requeue => exact arranged.requeue meets taken
  | removeFuture => exact arranged.removeFuture taken
  | otherRequest | syncLookup | serverConnected | serverLost =>
    cases taken
    exact arranged.forgets arranged.waiting parked

theorem posts_keep_order (state : NamedPosts)
    (reached : Transition.ReachableWhen step (fun state event => state.keepsOrder event = true)
      initial state) : state.PostedInOrder :=
  (reached.invariant Arranged arranged_initial fun _ _ _ arranged meets taken =>
    step_arranged arranged meets taken).postedInOrder

theorem posts_keep_order_two : ∃ state : NamedPosts,
    state.handed.map Req2ReceiverTask.number = [0, 1] ∧ state.PostedInOrder := by
  obtain ⟨state, ran, handed⟩ : ∃ state, Transition.run (Transition.checkedStep step
      fun state event => state.keepsOrder event = true) initial
        (.serverConnected :: lookupRun true ++ lookupRun true ++ answerRun 1 (someHost 0x31) 2 ++
          sendRun .sent ++ sendRun .sent) = some state ∧
      state.handed.map Req2ReceiverTask.number = [0, 1] := ⟨_, rfl, rfl⟩
  exact ⟨state, handed, posts_keep_order state (Transition.ReachableWhen.start.run _ ran)⟩

-- The answer to the first lookup requeues the first message behind the second one.
def overtakenRun : List Event :=
  .serverConnected :: lookupRun true ++ [.post 0 someClient] ++
    answerRun 1 (someHost 0x31) 1 ++ sendRun .sent ++ sendRun .sent

theorem message_overtaken :
    ¬ ∀ state, Transition.Reachable step initial state → state.PostedInOrder := by
  intro postedInOrder
  obtain ⟨state, ran, handed⟩ : ∃ state, Transition.run step initial overtakenRun = some state ∧
      (state.lane 0 someClient).handed = [1, 0] := ⟨_, rfl, rfl⟩
  have ordered := postedInOrder state (Transition.Reachable.run .start _ ran) 0 someClient
  rw [handed] at ordered
  exact absurd ordered (by decide)

end NamedPosts

end MessageBus.Client
