import MessageBus.Shared.Transition

set_option autoImplicit false

namespace MessageBus.Threads

inductive PooledPhase (Task : Type) where
  -- About to take the lock in execute_task.
  | entering
  | waiting
  -- Notified, or awake without that, and about to have the lock again.
  | woken
  | running (task : Task)
  -- The task has ended its thread, and died_unexpect is about to create another one.
  | dying
  | ended

namespace PooledPhase

variable {Task : Type}

def isWaiting : PooledPhase Task -> Bool
  | .waiting => true
  | _ => false

def isWoken : PooledPhase Task -> Bool
  | .woken => true
  | _ => false

def isActive : PooledPhase Task -> Bool
  | .ended | .entering => false
  | _ => true

end PooledPhase

inductive PoolControl where
  | down
  | creating (left : Nat)
  | up
  -- The calls of terminateall that are still to come.
  | terminating (left : Nat)
  | joining (index : Nat)
  deriving DecidableEq, Repr

namespace PoolControl

-- s_threadpool_running
def running : PoolControl -> Bool
  | .up | .terminating _ | .joining _ => true
  | .down | .creating _ => false

def destroying : PoolControl -> Bool
  | .terminating _ | .joining _ => true
  | .down | .creating _ | .up => false

end PoolControl

structure WorkerPool (Task : Type) where
  terminateall : Bool
  taskContainer : List Task
  pids : List Nat
  -- All threads ever created.
  workers : List (PooledPhase Task)
  control : PoolControl
  -- How many of m_pids were joined.
  joined : Nat
  -- The tasks that queue_work_task queued (with flag 1 it starts a thread instead), and those that
  -- were run, in their order.
  accepted : List Task
  started : List Task

namespace WorkerPool

inductive Event (Task : Type) where
  | initThreadPool (threadNum : Int)
  | createAndAttach (created : Bool)
  | initReturns
  | queueWorkTask (task : Task) (notified : Option Nat)
  | getTask (worker : Nat)
  | wakes (worker : Nat)
  | returns (worker : Nat)
  | exits (worker : Nat)
  | diedUnexpect (worker : Nat) (created : Bool)
  | destroyThreadPool
  | terminateall
  | join
  | joined

variable {Task : Type}

def initial : WorkerPool Task :=
  { terminateall := false, taskContainer := [], pids := [], workers := [], control := .down,
    joined := 0, accepted := [], started := [] }

def maxThread : Nat := 32

def createAndAttach (pool : WorkerPool Task) (created : Bool) : WorkerPool Task :=
  if created then
    { pool with
      workers := pool.workers ++ [.entering]
      pids := if pool.terminateall then pool.pids else pool.pids ++ [pool.workers.length] }
  else pool

-- notify_one, which wakes a thread that waits if there is one.
def notifyone (pool : WorkerPool Task) : Option Nat -> Option (WorkerPool Task)
  | none => if pool.workers.any PooledPhase.isWaiting then none else some pool
  | some worker =>
    ((pool.workers[worker]?).filter PooledPhase.isWaiting).map fun _ =>
      { pool with workers := pool.workers.set worker .woken }

def wakeUp : PooledPhase Task -> PooledPhase Task
  | .waiting => .woken
  | phase => phase

def doTerminateall (pool : WorkerPool Task) : WorkerPool Task :=
  { pool with terminateall := true, taskContainer := [], workers := pool.workers.map wakeUp }

-- The part of execute_task that holds the lock, from its start or after wait_task_coming_event.
def executeTask (pool : WorkerPool Task) (worker : Nat) : WorkerPool Task :=
  if pool.terminateall then { pool with workers := pool.workers.set worker .ended }
  else
    match pool.taskContainer with
    | [] => { pool with workers := pool.workers.set worker .waiting }
    | task :: rest =>
      { pool with
        workers := pool.workers.set worker (.running task)
        taskContainer := rest
        started := pool.started ++ [task] }

def step (pool : WorkerPool Task) : Event Task -> Option (WorkerPool Task)
  | .initThreadPool threadNum =>
    match pool.control with
    | .up => some pool
    | .down =>
      let threadNum := if threadNum ≤ 0 then maxThread else threadNum.toNat
      some { pool with control := .creating threadNum }
    | _ => none
  | .createAndAttach created =>
    match pool.control with
    | .creating (left + 1) =>
      some { pool.createAndAttach created with control := .creating left }
    | _ => none
  | .initReturns =>
    match pool.control with
    | .creating 0 => some { pool with control := if pool.pids.isEmpty then .down else .up }
    | _ => none
  | .queueWorkTask task notified =>
    if pool.control.running then
      notifyone { pool with
        taskContainer := pool.taskContainer ++ [task]
        accepted := pool.accepted ++ [task] } notified
    else some pool
  | .getTask worker =>
    (pool.workers[worker]?).bind fun phase =>
      match phase with
      | .entering | .woken => some (pool.executeTask worker)
      | _ => none
  | .wakes worker =>
    ((pool.workers[worker]?).filter PooledPhase.isWaiting).map fun _ =>
      { pool with workers := pool.workers.set worker .woken }
  | .returns worker =>
    (pool.workers[worker]?).bind fun phase =>
      match phase with
      | .running _ => some { pool with workers := pool.workers.set worker .entering }
      | _ => none
  | .exits worker =>
    (pool.workers[worker]?).bind fun phase =>
      match phase with
      | .running _ => some { pool with workers := pool.workers.set worker .dying }
      | _ => none
  | .diedUnexpect worker created =>
    (pool.workers[worker]?).bind fun phase =>
      match phase with
      | .dying =>
        some (createAndAttach { pool with workers := pool.workers.set worker .ended } created)
      | _ => none
  | .destroyThreadPool =>
    match pool.control with
    | .up | .down => some { pool with control := .terminating 2 }
    | _ => none
  -- Once by destroy_thread_pool and once by waittoterminate.
  | .terminateall =>
    match pool.control with
    | .terminating (left + 1) =>
      some { pool.doTerminateall with
        control := if left = 0 then .joining 0 else .terminating left }
    | _ => none
  -- To join a thread a second time is undefined.
  | .join =>
    match pool.control with
    | .joining index =>
      if index < pool.joined then none
      else
        (pool.pids[index]?).bind fun worker =>
          match pool.workers[worker]? with
          | some .ended => some { pool with control := .joining (index + 1), joined := index + 1 }
          | _ => none
    | _ => none
  | .joined =>
    match pool.control with
    | .joining index =>
      if index = pool.pids.length then some { pool with control := .down } else none
    | _ => none

def sleeping (pool : WorkerPool Task) : Nat := pool.workers.countP PooledPhase.isWaiting

def awakened (pool : WorkerPool Task) : Nat := pool.workers.countP PooledPhase.isWoken

-- destroy_thread_pool has come to its end, and perhaps init_thread_pool was called again.
def destroyed (pool : WorkerPool Task) : Prop :=
  pool.terminateall = true ∧ pool.control.destroying = false

structure Staffed (pool : WorkerPool Task) : Prop where
  pooled : ∀ (worker : Nat) (phase : PooledPhase Task), pool.workers[worker]? = some phase →
    worker ∈ pool.pids ∨ pool.terminateall = true ∧ phase.isActive = false
  joins : ∀ index, pool.control = .joining index → pool.terminateall = true ∧
    ∀ worker ∈ pool.pids.take index, pool.workers[worker]? = some .ended
  finished : pool.destroyed → ∀ phase ∈ pool.workers, phase.isActive = false

structure Sound (pool : WorkerPool Task) : Prop where
  staffed : pool.Staffed
  begun : pool.started <+: pool.accepted
  inOrder : pool.terminateall = false → pool.accepted = pool.started ++ pool.taskContainer
  attended : 0 < pool.sleeping → pool.taskContainer.length ≤ pool.awakened
  awake : pool.terminateall = true → pool.sleeping = 0

theorem sound_initial : (initial : WorkerPool Task).Sound := by
  refine ⟨?_, ?_, ?_, ?_, ?_⟩
  · constructor <;> simp [initial, destroyed]
  all_goals simp [initial, sleeping]

variable {pool following : WorkerPool Task} {worker : Nat} {old new : PooledPhase Task}

theorem countP_set_add {Item : Type} {list : List Item} {index : Nat} {old : Item}
    (there : list[index]? = some old) (new : Item) (counted : Item -> Bool) :
    (list.set index new).countP counted + (if counted old then 1 else 0) =
      list.countP counted + if counted new then 1 else 0 := by
  obtain ⟨inside, rfl⟩ := List.getElem?_eq_some_iff.mp there
  have counts := List.countP_set (p := counted) (a := new) inside
  have one := List.boole_getElem_le_countP (p := counted) inside
  omega

theorem boole_le {first second : Bool} (implies : first = true → second = true) :
    (if first then 1 else 0) ≤ if second then 1 else 0 := by
  cases first with
  | true => rw [implies rfl]
  | false => exact Nat.zero_le _

theorem Staffed.setPhase (staffed : pool.Staffed) (there : pool.workers[worker]? = some old)
    (lives : old ≠ .ended)
    (active : new.isActive = true → old.isActive = true ∨ pool.terminateall = false)
    (workers : following.workers = pool.workers.set worker new)
    (same : following.terminateall = pool.terminateall ∧ following.pids = pool.pids ∧
      following.control = pool.control) : following.Staffed := by
  obtain ⟨terminateall, pids, control⟩ := same
  constructor
  · intro other phase found
    rw [workers] at found
    rw [pids, terminateall]
    rcases Transition.found_in_set found with ⟨rfl, rfl⟩ | ⟨_, older⟩
    · rcases staffed.pooled other old there with pooled | ⟨ended, idle⟩
      · exact .inl pooled
      · refine .inr ⟨ended, Bool.eq_false_iff.mpr fun isActive => ?_⟩
        rcases active isActive with was | up
        · simp [was] at idle
        · simp [up] at ended
    · exact staffed.pooled other phase older
  · intro index joining
    obtain ⟨ended, joined⟩ := staffed.joins index (control ▸ joining)
    refine ⟨terminateall ▸ ended, ?_⟩
    intro other member
    rw [pids] at member
    have stays := joined other member
    rw [workers, List.getElem?_set_ne, stays]
    rintro rfl
    exact lives (Option.some.inj (there.symm.trans stays))
  · intro destroyed phase member
    rw [WorkerPool.destroyed, terminateall, control] at destroyed
    have idle := staffed.finished destroyed
    rw [workers] at member
    rcases List.mem_or_eq_of_mem_set member with older | rfl
    · exact idle phase older
    · refine Bool.eq_false_iff.mpr fun isActive => ?_
      rcases active isActive with was | up
      · simp [idle old (List.mem_of_getElem? there)] at was
      · simp [destroyed.1] at up

theorem Sound.setPhase (sound : pool.Sound) (there : pool.workers[worker]? = some old)
    (lives : old ≠ .ended)
    (active : new.isActive = true → old.isActive = true ∨ pool.terminateall = false)
    (waits : new.isWaiting = true → old.isWaiting = true)
    (stays : old.isWoken = true → new.isWoken = true) :
    Sound { pool with workers := pool.workers.set worker new } := by
  have fewer : (pool.workers.set worker new).countP PooledPhase.isWaiting ≤ pool.sleeping := by
    have sleepers := countP_set_add there new PooledPhase.isWaiting
    have still := boole_le waits
    rw [sleeping]
    omega
  have more : pool.awakened ≤ (pool.workers.set worker new).countP PooledPhase.isWoken := by
    have wakeners := countP_set_add there new PooledPhase.isWoken
    have still := boole_le stays
    rw [awakened]
    omega
  refine ⟨sound.staffed.setPhase there lives active rfl ⟨rfl, rfl, rfl⟩, sound.begun,
    sound.inOrder, ?_, ?_⟩
  · intro asleep
    exact (sound.attended (Nat.lt_of_lt_of_le asleep fewer)).trans more
  · intro ended
    exact Nat.le_zero.mp (fewer.trans (Nat.le_of_eq (sound.awake ended)))

theorem Sound.executeTask (sound : pool.Sound) (there : pool.workers[worker]? = some old)
    (coming : old = .entering ∨ old = .woken) : (pool.executeTask worker).Sound := by
  have lives : old ≠ .ended := by rcases coming with rfl | rfl <;> simp
  have notWaiting : old.isWaiting = false := by rcases coming with rfl | rfl <;> rfl
  have sleepers (next : PooledPhase Task) (comes : next.isWaiting = false) :
      (pool.workers.set worker next).countP PooledPhase.isWaiting = pool.sleeping := by
    have counts := countP_set_add there next PooledPhase.isWaiting
    rw [sleeping]
    simpa only [notWaiting, comes, Bool.false_eq_true, if_false, Nat.add_zero] using counts
  have wakeners (next : PooledPhase Task) : pool.awakened ≤
      (pool.workers.set worker next).countP PooledPhase.isWoken + 1 := by
    have counts := countP_set_add there next PooledPhase.isWoken
    have spent : (if old.isWoken then 1 else 0) ≤ 1 := by split <;> decide
    rw [awakened]
    omega
  unfold WorkerPool.executeTask
  split
  next ended =>
    have none : (pool.workers.set worker .ended).countP PooledPhase.isWaiting = 0 :=
      (sleepers .ended rfl).trans (sound.awake ended)
    refine ⟨sound.staffed.setPhase there lives (by simp [PooledPhase.isActive]) rfl ⟨rfl, rfl, rfl⟩,
      sound.begun, sound.inOrder, ?_, fun _ => none⟩
    exact fun asleep => absurd none (Nat.ne_of_gt asleep)
  next goes =>
    have up : pool.terminateall = false := Bool.eq_false_iff.mpr goes
    have ordered := sound.inOrder up
    split
    next empty =>
      refine ⟨sound.staffed.setPhase there lives (fun _ => .inr up) rfl ⟨rfl, rfl, rfl⟩,
        sound.begun, sound.inOrder, ?_, fun ended => absurd ended goes⟩
      intro _
      rw [empty]
      exact Nat.zero_le _
    next task rest queued =>
      rw [queued] at ordered
      have later : pool.accepted = (pool.started ++ [task]) ++ rest := by
        rw [ordered, List.append_assoc]
        rfl
      refine ⟨sound.staffed.setPhase there lives (fun _ => .inr up) rfl ⟨rfl, rfl, rfl⟩,
        ⟨rest, later.symm⟩, fun _ => later, ?_, fun ended => absurd ended goes⟩
      intro asleep
      rw [sleeping, sleepers (.running task) rfl] at asleep
      have attended := sound.attended asleep
      rw [queued, List.length_cons] at attended
      exact Nat.succ_le_succ_iff.mp (attended.trans (wakeners (.running task)))

theorem Staffed.setControl {control : PoolControl} (staffed : pool.Staffed)
    (goesOn : control.destroying = false → pool.control.destroying = false)
    (joins : ∀ index, control = .joining index → pool.terminateall = true ∧
      ∀ worker ∈ pool.pids.take index, pool.workers[worker]? = some .ended) :
    Staffed { pool with control } :=
  ⟨staffed.pooled, joins, fun destroyed => staffed.finished ⟨destroyed.1, goesOn destroyed.2⟩⟩

theorem Staffed.createAndAttach (staffed : pool.Staffed) (created : Bool) :
    (pool.createAndAttach created).Staffed := by
  cases created with
  | false => exact staffed
  | true =>
    unfold WorkerPool.createAndAttach
    rw [if_pos rfl]
    constructor
    · intro worker phase found
      rcases Transition.found_in_concat found with older | ⟨rfl, rfl⟩
      · refine (staffed.pooled worker phase older).imp_left fun pooled => ?_
        split
        · exact pooled
        · exact List.mem_append_left _ pooled
      · cases ended : pool.terminateall with
        | true => exact .inr ⟨rfl, rfl⟩
        | false => exact .inl (by simp)
    · intro index joining
      obtain ⟨ended, joined⟩ := staffed.joins index joining
      refine ⟨ended, fun worker member => ?_⟩
      rw [if_pos ended] at member
      have found := joined worker member
      exact (List.getElem?_append_left (List.getElem?_eq_some_iff.mp found).1).trans found
    · intro destroyed phase member
      rcases List.mem_append.mp member with older | newer
      · exact staffed.finished destroyed phase older
      · rw [List.mem_singleton.mp newer]
        rfl

theorem Sound.createAndAttach (sound : pool.Sound) (created : Bool) :
    (pool.createAndAttach created).Sound := by
  have staffed := sound.staffed.createAndAttach created
  cases created with
  | false => exact sound
  | true =>
    have sleepers : (pool.createAndAttach true).sleeping = pool.sleeping := by
      simp [WorkerPool.createAndAttach, sleeping, PooledPhase.isWaiting]
    have wakeners : (pool.createAndAttach true).awakened = pool.awakened := by
      simp [WorkerPool.createAndAttach, awakened, PooledPhase.isWoken]
    exact ⟨staffed, sound.begun, sound.inOrder, by rw [sleepers, wakeners]; exact sound.attended,
      by rw [sleepers]; exact sound.awake⟩

theorem wakeUp_active (phase : PooledPhase Task) : (wakeUp phase).isActive = phase.isActive := by
  cases phase <;> rfl

theorem wakeUp_sleeps (phase : PooledPhase Task) : (wakeUp phase).isWaiting = false := by
  cases phase <;> rfl

theorem Sound.terminateall {control : PoolControl} (sound : pool.Sound)
    (terminates : control.destroying = true)
    (first : ∀ index, control = .joining index → index = 0) :
    Sound { pool.doTerminateall with control } := by
  have none : (pool.workers.map wakeUp).countP PooledPhase.isWaiting = 0 := by
    rw [List.countP_eq_zero]
    intro phase member
    obtain ⟨before, _, rfl⟩ := List.mem_map.mp member
    simp [wakeUp_sleeps]
  refine ⟨⟨?_, ?_, ?_⟩, sound.begun, ?_, ?_, fun _ => none⟩
  · intro worker phase found
    rw [doTerminateall, List.getElem?_map] at found
    obtain ⟨before, older, rfl⟩ := Option.map_eq_some_iff.mp found
    rw [wakeUp_active]
    exact (sound.staffed.pooled worker before older).imp_right fun idle => ⟨rfl, idle.2⟩
  · intro index joining
    rw [first index joining]
    exact ⟨rfl, by simp⟩
  · intro destroyed
    simp [WorkerPool.destroyed, terminates] at destroyed
  · intro up
    cases up
  · exact fun asleep => absurd none (Nat.ne_of_gt asleep)

theorem Staffed.join {index : Nat} (staffed : pool.Staffed)
    (joining : pool.control = .joining index) (there : pool.pids[index]? = some worker)
    (ended : pool.workers[worker]? = some .ended)
    (joined : Nat) : Staffed { pool with control := .joining (index + 1), joined } := by
  obtain ⟨terminated, before⟩ := staffed.joins index joining
  refine ⟨staffed.pooled, ?_, fun destroyed => ?_⟩
  · rintro other ⟨⟩
    refine ⟨terminated, fun pid member => ?_⟩
    rw [List.take_add_one, there] at member
    rcases List.mem_append.mp member with older | newer
    · exact before pid older
    · obtain rfl := List.mem_singleton.mp newer
      exact ended
  · simp [WorkerPool.destroyed, PoolControl.destroying] at destroyed

theorem Staffed.joined (staffed : pool.Staffed)
    (joining : pool.control = .joining pool.pids.length) :
    Staffed { pool with control := .down } := by
  obtain ⟨terminated, before⟩ := staffed.joins _ joining
  rw [List.take_length] at before
  refine ⟨staffed.pooled, by simp, fun _ phase member => ?_⟩
  obtain ⟨worker, found⟩ := List.getElem?_of_mem member
  rcases staffed.pooled worker phase found with pooled | ⟨_, idle⟩
  · cases found.symm.trans (before worker pooled)
    rfl
  · exact idle

theorem notifyone_sound {task : Task} {notified : Option Nat} (sound : pool.Sound)
    (taken : notifyone { pool with
      taskContainer := pool.taskContainer ++ [task]
      accepted := pool.accepted ++ [task] } notified = some following) : following.Sound := by
  have begun : pool.started <+: pool.accepted ++ [task] :=
    sound.begun.trans (List.prefix_append _ _)
  have inOrder (up : pool.terminateall = false) :
      pool.accepted ++ [task] = pool.started ++ (pool.taskContainer ++ [task]) := by
    rw [sound.inOrder up, List.append_assoc]
  cases notified with
  | none =>
    simp only [notifyone] at taken
    split at taken <;> cases taken
    next nobody =>
      have none : pool.sleeping = 0 := by
        rw [sleeping, List.countP_eq_zero]
        simpa using nobody
      refine ⟨⟨sound.staffed.pooled, sound.staffed.joins, sound.staffed.finished⟩, begun, inOrder,
        fun asleep => absurd none (Nat.ne_of_gt asleep), sound.awake⟩
  | some worker =>
    obtain ⟨old, found, rfl⟩ := Option.map_eq_some_iff.mp taken
    obtain ⟨there, waits⟩ := Option.filter_eq_some_iff.mp found
    have sleeps : old = .waiting := by cases old <;> simp_all [PooledPhase.isWaiting]
    subst sleeps
    have sleepers := countP_set_add there .woken PooledPhase.isWaiting
    have wakeners := countP_set_add there .woken PooledPhase.isWoken
    simp only [PooledPhase.isWaiting, PooledPhase.isWoken, if_true, Bool.false_eq_true, if_false,
      Nat.add_zero] at sleepers wakeners
    refine ⟨sound.staffed.setPhase there (by simp) (fun _ => .inl rfl) rfl ⟨rfl, rfl, rfl⟩, begun,
      inOrder, ?_, ?_⟩
    · intro asleep
      have attended := sound.attended
      simp only [sleeping, awakened, List.length_append, List.length_singleton] at attended ⊢
      omega
    · intro ended
      have awake := sound.awake ended
      simp only [sleeping] at awake ⊢
      omega

theorem step_sound {event : Event Task} (sound : pool.Sound)
    (taken : pool.step event = some following) : following.Sound := by
  cases event with
  | initThreadPool threadNum =>
    simp only [step] at taken
    split at taken <;> cases taken
    · exact sound
    next down =>
      have staffed (left : Nat) : Staffed { pool with control := .creating left } :=
        sound.staffed.setControl (fun _ => congrArg PoolControl.destroying down) (by simp)
      exact { sound with staffed := staffed _ }
  | createAndAttach created =>
    simp only [step] at taken
    split at taken <;> cases taken
    next left creating =>
      have grown := sound.createAndAttach created
      refine { grown with staffed := grown.staffed.setControl (fun _ => ?_) (by simp) }
      unfold WorkerPool.createAndAttach
      split <;> simp [creating, PoolControl.destroying]
  | initReturns =>
    simp only [step] at taken
    split at taken <;> cases taken
    next creating =>
      refine { sound with staffed := sound.staffed.setControl (fun _ => ?_) ?_ }
      · simp [creating, PoolControl.destroying]
      · intro index
        split <;> simp
  | queueWorkTask task notified =>
    simp only [step] at taken
    split at taken
    · exact notifyone_sound sound taken
    · cases taken
      exact sound
  | getTask worker =>
    simp only [step, Option.bind_eq_some_iff] at taken
    obtain ⟨phase, there, taken⟩ := taken
    split at taken <;> cases taken
    · exact sound.executeTask there (.inl rfl)
    · exact sound.executeTask there (.inr rfl)
  | wakes worker =>
    obtain ⟨phase, found, rfl⟩ := Option.map_eq_some_iff.mp taken
    obtain ⟨there, waits⟩ := Option.filter_eq_some_iff.mp found
    have sleeps : phase = .waiting := by cases phase <;> simp_all [PooledPhase.isWaiting]
    subst sleeps
    exact sound.setPhase there (by simp) (fun _ => .inl rfl) (by simp [PooledPhase.isWaiting])
      (fun _ => rfl)
  | returns worker =>
    simp only [step, Option.bind_eq_some_iff] at taken
    obtain ⟨phase, there, taken⟩ := taken
    split at taken <;> cases taken
    exact sound.setPhase there (by simp) (fun _ => .inl rfl) (by simp [PooledPhase.isWaiting])
      (by simp [PooledPhase.isWoken])
  | exits worker =>
    simp only [step, Option.bind_eq_some_iff] at taken
    obtain ⟨phase, there, taken⟩ := taken
    split at taken <;> cases taken
    exact sound.setPhase there (by simp) (fun _ => .inl rfl) (by simp [PooledPhase.isWaiting])
      (by simp [PooledPhase.isWoken])
  | diedUnexpect worker created =>
    simp only [step, Option.bind_eq_some_iff] at taken
    obtain ⟨phase, there, taken⟩ := taken
    split at taken <;> cases taken
    exact (sound.setPhase there (by simp) (fun _ => .inl rfl) (by simp [PooledPhase.isWaiting])
      (by simp [PooledPhase.isWoken])).createAndAttach created
  | destroyThreadPool =>
    simp only [step] at taken
    split at taken <;> cases taken
    all_goals
      have staffed : Staffed { pool with control := .terminating 2 } :=
        sound.staffed.setControl (by simp [PoolControl.destroying]) (by simp)
      exact { sound with staffed }
  | terminateall =>
    simp only [step] at taken
    split at taken <;> cases taken
    next left terminating =>
      apply sound.terminateall
      · split <;> rfl
      · intro index
        split <;> simp_all
  | join =>
    simp only [step] at taken
    split at taken
    next index joining =>
      split at taken
      · cases taken
      · simp only [Option.bind_eq_some_iff] at taken
        obtain ⟨worker, there, taken⟩ := taken
        split at taken <;> cases taken
        next ended =>
          exact { sound with staffed := sound.staffed.join joining there ended (index + 1) }
    next => cases taken
  | joined =>
    simp only [step] at taken
    split at taken
    next index joining =>
      split at taken <;> cases taken
      next all =>
        exact { sound with staffed := sound.staffed.joined (all ▸ joining) }
    next => cases taken

theorem reachable_sound (reached : Transition.Reachable step initial pool) : pool.Sound :=
  reached.invariant Sound sound_initial fun _ _ _ sound _ taken => step_sound sound taken

section Stopped

theorem executeTask_stopped (ended : pool.terminateall = true) (worker : Nat) :
    pool.executeTask worker = { pool with workers := pool.workers.set worker .ended } := by
  rw [executeTask, if_pos ended]

theorem step_stopped {event : Event Task} (ended : pool.terminateall = true)
    (taken : pool.step event = some following) :
    following.terminateall = true ∧ following.started = pool.started := by
  cases event with
  | initThreadPool | initReturns | destroyThreadPool =>
    simp only [step] at taken
    split at taken <;> cases taken <;> exact ⟨ended, rfl⟩
  | createAndAttach created =>
    simp only [step] at taken
    split at taken <;> cases taken
    cases created <;> exact ⟨ended, rfl⟩
  | terminateall =>
    simp only [step] at taken
    split at taken <;> cases taken
    exact ⟨rfl, rfl⟩
  | queueWorkTask task notified =>
    simp only [step] at taken
    split at taken
    · cases notified with
      | none =>
        simp only [notifyone] at taken
        split at taken <;> cases taken
        exact ⟨ended, rfl⟩
      | some worker =>
        obtain ⟨_, _, rfl⟩ := Option.map_eq_some_iff.mp taken
        exact ⟨ended, rfl⟩
    · cases taken
      exact ⟨ended, rfl⟩
  | getTask worker =>
    simp only [step, Option.bind_eq_some_iff] at taken
    obtain ⟨phase, _, taken⟩ := taken
    split at taken <;> cases taken <;> rw [executeTask_stopped ended] <;> exact ⟨ended, rfl⟩
  | wakes worker =>
    obtain ⟨_, _, rfl⟩ := Option.map_eq_some_iff.mp taken
    exact ⟨ended, rfl⟩
  | returns worker | exits worker =>
    simp only [step, Option.bind_eq_some_iff] at taken
    obtain ⟨phase, _, taken⟩ := taken
    split at taken <;> cases taken
    exact ⟨ended, rfl⟩
  | diedUnexpect worker created =>
    simp only [step, Option.bind_eq_some_iff] at taken
    obtain ⟨phase, _, taken⟩ := taken
    split at taken <;> cases taken
    cases created <;> exact ⟨ended, rfl⟩
  | join =>
    simp only [step] at taken
    split at taken
    · split at taken
      · cases taken
      · simp only [Option.bind_eq_some_iff] at taken
        obtain ⟨worker, _, taken⟩ := taken
        split at taken <;> cases taken
        exact ⟨ended, rfl⟩
    · cases taken
  | joined =>
    simp only [step] at taken
    split at taken
    · split at taken <;> cases taken
      exact ⟨ended, rfl⟩
    · cases taken

theorem run_stopped (ended : pool.terminateall = true) (events : List (Event Task))
    (ran : Transition.run step pool events = some following) :
    following.started = pool.started := by
  induction events generalizing pool with
  | nil =>
    cases ran
    rfl
  | cons event rest ih =>
    simp only [Transition.run, Option.bind_eq_some_iff] at ran
    obtain ⟨next, taken, ran⟩ := ran
    obtain ⟨stays, same⟩ := step_stopped ended taken
    exact (ih stays ran).trans same

-- What the threads do by themselves.
def ofWorkers : Event Task -> Prop
  | .getTask _ | .returns _ | .diedUnexpect _ false => True
  | _ => False

def phaseSteps : PooledPhase Task -> Nat
  | .ended => 0
  | .running _ => 2
  | .entering | .waiting | .woken | .dying => 1

def stepsLeft (pool : WorkerPool Task) : Nat := (pool.workers.map phaseSteps).sum

theorem sum_set_add {Item : Type} {list : List Item} {index : Nat} {old : Item}
    (there : list[index]? = some old) (new : Item) (weight : Item -> Nat) :
    ((list.set index new).map weight).sum + weight old = (list.map weight).sum + weight new := by
  induction list generalizing index with
  | nil => cases there
  | cons item rest ih =>
    cases index with
    | zero =>
      cases there
      simp only [List.set_cons_zero, List.map_cons, List.sum_cons]
      omega
    | succ index =>
      have later := ih there
      simp only [List.set_cons_succ, List.map_cons, List.sum_cons]
      omega

theorem worker_goes_on (sound : pool.Sound) (ended : pool.terminateall = true)
    (there : pool.workers[worker]? = some old) (lives : old ≠ .ended) :
    ∃ event new, ofWorkers event ∧
      pool.step event = some { pool with workers := pool.workers.set worker new } ∧
      phaseSteps new < phaseSteps old := by
  cases old with
  | entering | woken =>
    refine ⟨.getTask worker, .ended, trivial, ?_, Nat.zero_lt_one⟩
    rw [step, there, Option.bind_some]
    exact congrArg some (executeTask_stopped ended worker)
  | waiting =>
    have asleep : 0 < pool.sleeping :=
      List.countP_pos_iff.mpr ⟨_, List.mem_of_getElem? there, rfl⟩
    exact absurd (sound.awake ended) (Nat.ne_of_gt asleep)
  | running task =>
    refine ⟨.returns worker, .entering, trivial, ?_, Nat.one_lt_two⟩
    rw [step, there, Option.bind_some]
  | dying =>
    refine ⟨.diedUnexpect worker false, .ended, trivial, ?_, Nat.zero_lt_one⟩
    rw [step, there, Option.bind_some]
    rfl
  | ended => exact absurd rfl lives

theorem workers_end (sound : pool.Sound) (ended : pool.terminateall = true) :
    ∃ events later, (∀ event ∈ events, ofWorkers event) ∧
      Transition.run step pool events = some later ∧ ∀ phase ∈ later.workers, phase = .ended := by
  have progress (before : WorkerPool Task) (kept : before.Sound ∧ before.terminateall = true)
      (unfinished : ¬ ∀ phase ∈ before.workers, phase = .ended) :
      ∃ event after, ofWorkers event ∧ before.step event = some after ∧
        (after.Sound ∧ after.terminateall = true) ∧ after.stepsLeft < before.stepsLeft := by
    simp only [not_forall] at unfinished
    obtain ⟨phase, member, lives⟩ := unfinished
    obtain ⟨worker, there⟩ := List.getElem?_of_mem member
    obtain ⟨event, new, own, taken, less⟩ := worker_goes_on kept.1 kept.2 there lives
    refine ⟨event, _, own, taken, ⟨step_sound kept.1 taken, kept.2⟩, ?_⟩
    have sums := sum_set_add there new phaseSteps
    simp only [stepsLeft]
    omega
  obtain ⟨events, later, own, ran, _, all⟩ := Transition.exists_run step ofWorkers
    (fun pool => pool.Sound ∧ pool.terminateall = true)
    (fun pool => ∀ phase ∈ pool.workers, phase = .ended) stepsLeft progress pool ⟨sound, ended⟩
  exact ⟨events, later, own, ran, all⟩

end Stopped

structure TasksKept (pool : WorkerPool Task) : Prop where
  inOrder : pool.terminateall = false → pool.accepted = pool.started ++ pool.taskContainer
  begun : pool.started <+: pool.accepted
  attended : 0 < pool.sleeping → pool.taskContainer.length ≤ pool.awakened
  quiet : pool.terminateall = false → 0 < pool.sleeping → pool.awakened = 0 →
    pool.started = pool.accepted
  stopped : pool.terminateall = true → ∀ events later,
    Transition.run step pool events = some later → later.started = pool.started
  ends : pool.terminateall = true → ∃ events later, (∀ event ∈ events, ofWorkers event) ∧
    Transition.run step pool events = some later ∧ ∀ phase ∈ later.workers, phase = .ended
  destroyed : pool.destroyed → ∀ phase ∈ pool.workers, phase = .ended ∨ phase = .entering

theorem pool_keeps_tasks (pool : WorkerPool Task)
    (reached : Transition.Reachable step initial pool) : pool.TasksKept := by
  have sound := reachable_sound reached
  constructor
  case inOrder => exact sound.inOrder
  case begun => exact sound.begun
  case attended => exact sound.attended
  case quiet =>
    intro up asleep nobody
    have attended := sound.attended asleep
    rw [nobody, Nat.le_zero, List.length_eq_zero_iff] at attended
    rw [sound.inOrder up, attended, List.append_nil]
  case stopped => exact fun ended events later ran => run_stopped ended events ran
  case ends => exact fun ended => workers_end sound ended
  case destroyed =>
    intro destroyed phase member
    have idle := sound.staffed.finished destroyed phase member
    cases phase <;> simp_all [PooledPhase.isActive]

-- The second thread is destroyed asleep, and a pool made again takes a task that it never starts.
def destroyedAndMade : List (Event Nat) :=
  [.initThreadPool 2, .createAndAttach true, .createAndAttach true, .initReturns, .getTask 0,
    .getTask 1, .queueWorkTask 7 (some 0), .getTask 0, .returns 0, .destroyThreadPool,
    .terminateall, .terminateall, .getTask 0, .getTask 1, .join, .join, .joined, .initThreadPool 1,
    .createAndAttach true, .initReturns, .queueWorkTask 8 none, .getTask 2]

theorem pool_keeps_tasks_destroyedAndMade : ∃ pool : WorkerPool Nat,
    Transition.run step initial destroyedAndMade = some pool ∧ pool.control = .up ∧
      pool.accepted = [7, 8] ∧ pool.started = [7] ∧ pool.TasksKept :=
  ⟨_, rfl, rfl, rfl, rfl, pool_keeps_tasks _ (.run .start destroyedAndMade rfl)⟩

end WorkerPool
end MessageBus.Threads
