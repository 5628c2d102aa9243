import MessageBus.Shared.Bytes
import MessageBus.Shared.Lanes
import MessageBus.Shared.Transition

set_option autoImplicit false

namespace MessageBus.Threads

structure NamedTask where
  name : Bytes
  number : Nat
  deriving DecidableEq, Repr

inductive WorkerPhase where
  -- At the start of execute_task, waiting for tasks or for its end.
  | waiting
  | running (tasks : List Nat)
  -- execute_task returned false; the worker is still in the pool, and then no more.
  | leaving
  | left
  deriving DecidableEq, Repr

structure NamedWorker where
  threadname : Bytes
  taskContainer : List Nat
  terminate : Bool
  -- Whether terminate_thread was called.
  told : Bool
  phase : WorkerPhase
  deriving DecidableEq, Repr

namespace NamedWorker

def create (threadname : Bytes) : NamedWorker :=
  { threadname, taskContainer := [], terminate := false, told := false, phase := .waiting }

def queueTask (worker : NamedWorker) (task : Nat) : NamedWorker :=
  { worker with taskContainer := worker.taskContainer ++ [task] }

def terminateThread (worker : NamedWorker) : NamedWorker :=
  { worker with terminate := true, told := true }

-- The part of execute_task under the lock; a worker without tasks goes on waiting.
def takeTasks (worker : NamedWorker) : Option NamedWorker :=
  if worker.phase ≠ .waiting then none
  else if worker.taskContainer.isEmpty then
    if worker.terminate then some { worker with phase := .leaving } else none
  else if worker.terminate then some { worker with phase := .leaving }
  else some { worker with phase := .running worker.taskContainer, taskContainer := [] }

def batch (worker : NamedWorker) : List Nat :=
  match worker.phase with
  | .running tasks => tasks
  | .waiting | .leaving | .left => []

def tasks (worker : NamedWorker) : List Nat := worker.batch ++ worker.taskContainer

def isGone (worker : NamedWorker) : Bool :=
  match worker.phase with
  | .leaving | .left => true
  | .waiting | .running _ => false

end NamedWorker

structure ThreadPool where
  -- All workers in the order of their creation, and where m_named_threads leads.
  workers : List NamedWorker
  namedThreads : Std.ExtTreeMap Bytes Nat
  -- The name of each task for which true was returned, and the tasks in the order they were run.
  accepted : List Bytes
  ran : List NamedTask

namespace ThreadPool

inductive Event where
  -- created is what pthread_create says where a thread is needed.
  | pushTask (threadname : Bytes) (created : Bool)
  | terminateNamedThread (threadname : Bytes)
  | takeTasks (worker : Nat)
  | runTask (worker : Nat)
  | finishBatch (worker : Nat)
  | removeSelf (worker : Nat)
  deriving DecidableEq, Repr

def initial : ThreadPool := { workers := [], namedThreads := ∅, accepted := [], ran := [] }

def setWorker (pool : ThreadPool) (index : Nat) (worker : NamedWorker) : ThreadPool :=
  { pool with workers := pool.workers.set index worker }

def addNamedThread (pool : ThreadPool) (worker : NamedWorker) : ThreadPool :=
  { pool with
    workers := pool.workers ++ [worker]
    namedThreads := pool.namedThreads.insert worker.threadname pool.workers.length }

def found (pool : ThreadPool) (threadname : Bytes) : Option (Nat × NamedWorker) :=
  (pool.namedThreads[threadname]?).bind fun index =>
    (pool.workers[index]?).map fun worker => (index, worker)

def queueTask (pool : ThreadPool) (index : Nat) (worker : NamedWorker) (threadname : Bytes) :
    ThreadPool :=
  { pool.setWorker index (worker.queueTask pool.accepted.length) with
    accepted := pool.accepted ++ [threadname] }

def step (pool : ThreadPool) : Event -> Option ThreadPool
  | .pushTask threadname created =>
    match pool.found threadname with
    | some (index, worker) => some (pool.queueTask index worker threadname)
    | none =>
      if created then
        let worker := NamedWorker.create threadname
        some ((pool.addNamedThread worker).queueTask pool.workers.length worker threadname)
      else some pool
  | .terminateNamedThread threadname =>
    match pool.found threadname with
    | some (index, worker) => some (pool.setWorker index worker.terminateThread)
    | none => some pool
  | .takeTasks index =>
    (pool.workers[index]?).bind fun worker =>
      worker.takeTasks.map fun after => pool.setWorker index after
  | .runTask index =>
    (pool.workers[index]?).bind fun worker =>
      match worker.phase with
      | .running (task :: tasks) =>
        some { pool.setWorker index { worker with phase := .running tasks } with
          ran := pool.ran ++ [{ name := worker.threadname, number := task }] }
      | _ => none
  | .finishBatch index =>
    (pool.workers[index]?).bind fun worker =>
      match worker.phase with
      | .running [] => some (pool.setWorker index { worker with phase := .waiting })
      | _ => none
  | .removeSelf index =>
    (pool.workers[index]?).bind fun worker =>
      match worker.phase with
      | .leaving =>
        some { pool.setWorker index { worker with terminate := true, phase := .left } with
          namedThreads := pool.namedThreads.erase worker.threadname }
      | _ => none

-- The tasks of a name: those that were run, and those of the worker that the pool has for it.
def lane (pool : ThreadPool) (name : Bytes) : Lane :=
  { handed := (pool.ran.filter fun task => task.name == name).map NamedTask.number
    onWay := ((pool.found name).map fun worker => worker.2.tasks).getD []
    parked := []
    next := pool.accepted.length }

structure Sound (pool : ThreadPool) : Prop where
  mapped : ∀ (name : Bytes) (index : Nat), pool.namedThreads[name]? = some index →
    ∃ worker, pool.workers[index]? = some worker ∧ worker.threadname = name ∧ worker.phase ≠ .left
  active : ∀ (index : Nat) (worker : NamedWorker), pool.workers[index]? = some worker →
    worker.phase ≠ .left → pool.namedThreads[worker.threadname]? = some index
  told : ∀ (index : Nat) (worker : NamedWorker), pool.workers[index]? = some worker →
    worker.terminate = true ∨ worker.isGone = true → worker.told = true
  lanes : ∀ name, (pool.lane name).Ordered
  named : ∀ task ∈ pool.ran, pool.accepted[task.number]? = some task.name
  once : (pool.ran.map NamedTask.number).Nodup
  held : ∀ (index : Nat) (worker : NamedWorker), pool.workers[index]? = some worker →
    ∀ number ∈ worker.tasks, pool.accepted[number]? = some worker.threadname
  kept : ∀ (number : Nat) (name : Bytes), pool.accepted[number]? = some name →
    { name, number } ∈ pool.ran ∨ ∃ (index : Nat) (worker : NamedWorker),
      pool.workers[index]? = some worker ∧ worker.threadname = name ∧ number ∈ worker.tasks

theorem sound_initial : initial.Sound := by
  refine ⟨?_, ?_, ?_, ?_, ?_, .nil, ?_, ?_⟩
  · intro name index there
    simp [initial] at there
  · intro index worker there
    simp [initial] at there
  · intro index worker there
    simp [initial] at there
  · intro name
    have empty : initial.lane name = { handed := [], onWay := [], parked := [], next := 0 } := by
      simp [initial, lane, found]
    exact empty ▸ Lane.ordered_new
  · intro _ impossible
    cases impossible
  · intro index worker there
    simp [initial] at there
  · intro number name there
    simp [initial] at there

variable {pool following : ThreadPool} {index : Nat} {worker after : NamedWorker}

theorem found_of_mapped {name : Bytes} (mapped : pool.namedThreads[name]? = some index)
    (there : pool.workers[index]? = some worker) : pool.found name = some (index, worker) := by
  simp [found, mapped, there]

theorem Sound.mapped_of_found (sound : pool.Sound) {name : Bytes}
    (isFound : pool.found name = some (index, worker)) :
    pool.namedThreads[name]? = some index ∧ pool.workers[index]? = some worker ∧
      worker.threadname = name ∧ worker.phase ≠ .left := by
  obtain ⟨position, mapped, isFound⟩ := Option.bind_eq_some_iff.mp isFound
  obtain ⟨known, there, same⟩ := Option.map_eq_some_iff.mp isFound
  cases same
  obtain ⟨other, alsoThere, named, active⟩ := sound.mapped name index mapped
  cases there.symm.trans alsoThere
  exact ⟨mapped, there, named, active⟩

theorem Sound.unmapped_of_not_found (sound : pool.Sound) {name : Bytes}
    (notFound : pool.found name = none) : pool.namedThreads[name]? = none := by
  cases mapped : pool.namedThreads[name]? with
  | none => rfl
  | some index =>
    obtain ⟨worker, there, _⟩ := sound.mapped name index mapped
    rw [found_of_mapped mapped there] at notFound
    cases notFound

theorem found_setWorker (inside : index < pool.workers.length) (name : Bytes) :
    (pool.setWorker index after).found name =
      if pool.namedThreads[name]? = some index then some (index, after) else pool.found name := by
  simp only [found, setWorker]
  cases mapped : pool.namedThreads[name]? with
  | none => rfl
  | some position =>
    by_cases same : position = index
    · simp [same, inside]
    · simp [same, List.getElem?_set_ne (Ne.symm same)]

theorem lane_setWorker (inside : index < pool.workers.length) (name : Bytes) :
    (pool.setWorker index after).lane name =
      if pool.namedThreads[name]? = some index then { pool.lane name with onWay := after.tasks }
      else pool.lane name := by
  simp only [lane, found_setWorker inside]
  split <;> rfl

structure Succeeds (worker after : NamedWorker) : Prop where
  name : after.threadname = worker.threadname
  left : after.phase = .left → worker.phase = .left
  active : worker.phase = .left → after.phase = .left
  told : after.terminate = true ∨ after.isGone = true → after.told = true

theorem Sound.mapped_set (sound : pool.Sound) (there : pool.workers[index]? = some worker)
    (succeeds : Succeeds worker after) (name : Bytes) (position : Nat)
    (mapped : pool.namedThreads[name]? = some position) :
    ∃ worker, (pool.workers.set index after)[position]? = some worker ∧
      worker.threadname = name ∧ worker.phase ≠ .left := by
  obtain ⟨other, otherThere, named, active⟩ := sound.mapped name position mapped
  by_cases same : position = index
  · subst same
    cases there.symm.trans otherThere
    have inside := (List.getElem?_eq_some_iff.mp there).1
    exact ⟨after, List.getElem?_set_self inside, succeeds.name.trans named,
      fun left => active (succeeds.left left)⟩
  · exact ⟨other, (List.getElem?_set_ne (Ne.symm same)).trans otherThere, named, active⟩

theorem Sound.active_set (sound : pool.Sound) (there : pool.workers[index]? = some worker)
    (succeeds : Succeeds worker after) (position : Nat) (other : NamedWorker)
    (otherThere : (pool.workers.set index after)[position]? = some other)
    (active : other.phase ≠ .left) : pool.namedThreads[other.threadname]? = some position := by
  rcases Transition.found_in_set otherThere with ⟨rfl, rfl⟩ | ⟨_, older⟩
  · rw [succeeds.name]
    exact sound.active position worker there fun left => active (succeeds.active left)
  · exact sound.active position other older active

theorem Sound.told_set (sound : pool.Sound) (succeeds : Succeeds worker after) (position : Nat)
    (other : NamedWorker) (otherThere : (pool.workers.set index after)[position]? = some other) :
    other.terminate = true ∨ other.isGone = true → other.told = true := by
  rcases Transition.found_in_set otherThere with ⟨rfl, rfl⟩ | ⟨_, older⟩
  · exact succeeds.told
  · exact sound.told position other older

theorem Sound.held_set (sound : pool.Sound) (there : pool.workers[index]? = some worker)
    (name : after.threadname = worker.threadname)
    (tasks : ∀ number ∈ after.tasks, number ∈ worker.tasks) (position : Nat) (other : NamedWorker)
    (otherThere : (pool.workers.set index after)[position]? = some other) (number : Nat)
    (member : number ∈ other.tasks) : pool.accepted[number]? = some other.threadname := by
  rcases Transition.found_in_set otherThere with ⟨rfl, rfl⟩ | ⟨_, older⟩
  · rw [name]
    exact sound.held position worker there number (tasks number member)
  · exact sound.held position other older number member

theorem holder_set (there : pool.workers[index]? = some worker)
    (name : after.threadname = worker.threadname)
    (tasks : ∀ number ∈ worker.tasks, number ∈ after.tasks) {number : Nat} {threadname : Bytes}
    (holds : ∃ (position : Nat) (other : NamedWorker), pool.workers[position]? = some other ∧
      other.threadname = threadname ∧ number ∈ other.tasks) :
    ∃ (position : Nat) (other : NamedWorker),
      (pool.workers.set index after)[position]? = some other ∧
        other.threadname = threadname ∧ number ∈ other.tasks := by
  obtain ⟨position, other, otherThere, named, member⟩ := holds
  by_cases same : position = index
  · subst same
    cases there.symm.trans otherThere
    have inside := (List.getElem?_eq_some_iff.mp there).1
    exact ⟨position, after, List.getElem?_set_self inside, name.trans named, tasks number member⟩
  · exact ⟨position, other, (List.getElem?_set_ne (Ne.symm same)).trans otherThere, named, member⟩

theorem Sound.setWorker (sound : pool.Sound) (there : pool.workers[index]? = some worker)
    (succeeds : Succeeds worker after) (tasks : after.tasks = worker.tasks) :
    (pool.setWorker index after).Sound := by
  have inside := (List.getElem?_eq_some_iff.mp there).1
  refine ⟨sound.mapped_set there succeeds, sound.active_set there succeeds,
    sound.told_set succeeds, fun name => ?_, sound.named, sound.once, ?_, ?_⟩
  · have same : (pool.setWorker index after).lane name = pool.lane name := by
      rw [lane_setWorker inside]
      split
      next mapped =>
        rw [tasks, lane, found_of_mapped mapped there]
        rfl
      next => rfl
    exact same ▸ sound.lanes name
  · exact sound.held_set there succeeds.name fun _ member => tasks ▸ member
  · intro number name accepted
    exact (sound.kept number name accepted).imp_right
      (holder_set there succeeds.name fun _ member => tasks ▸ member)

theorem accepted_concat {number : Nat} {name : Bytes} (threadname : Bytes)
    (known : pool.accepted[number]? = some name) :
    (pool.accepted ++ [threadname])[number]? = some name :=
  (List.getElem?_append_left (List.getElem?_eq_some_iff.mp known).1).trans known

theorem Sound.queueTask (sound : pool.Sound) {name : Bytes}
    (isFound : pool.found name = some (index, worker)) :
    (pool.queueTask index worker name).Sound := by
  obtain ⟨mapped, there, named, active⟩ := sound.mapped_of_found isFound
  have inside := (List.getElem?_eq_some_iff.mp there).1
  have succeeds : Succeeds worker (worker.queueTask pool.accepted.length) :=
    ⟨rfl, id, id, sound.told index worker there⟩
  have tasks : (worker.queueTask pool.accepted.length).tasks =
      worker.tasks ++ [pool.accepted.length] :=
    (List.append_assoc _ _ _).symm
  refine ⟨sound.mapped_set there succeeds, sound.active_set there succeeds,
    sound.told_set succeeds, fun other => ?_,
    fun task member => accepted_concat name (sound.named task member), sound.once, ?_, ?_⟩
  · have next : (pool.queueTask index worker name).lane other =
        { (pool.setWorker index (worker.queueTask pool.accepted.length)).lane other with
          next := pool.accepted.length + 1 } := by
      simp only [lane, ThreadPool.queueTask, ThreadPool.setWorker, found, List.length_append,
        List.length_singleton]
    rw [next, lane_setWorker inside]
    split
    next own =>
      refine (Lane.Step.same .issue ?_).ordered (sound.lanes other)
      simp only [lane, found_of_mapped own there, Option.map_some, Option.getD_some, tasks]
    next =>
      refine (Lane.Step.same (.forget [] ?_ (pool.accepted.length + 1) ?_) rfl).ordered
        (sound.lanes other)
      · intro _ impossible
        cases impossible
      · exact Nat.le_succ _
  · intro position other otherThere number member
    rcases Transition.found_in_set otherThere with ⟨rfl, rfl⟩ | ⟨_, older⟩
    · rw [tasks] at member
      rcases List.mem_append.mp member with before | new
      · exact accepted_concat name (sound.held position worker there number before)
      · rw [List.mem_singleton.mp new]
        exact (List.getElem?_concat_length ..).trans (congrArg some named.symm)
    · exact accepted_concat name (sound.held position other older number member)
  · intro number other accepted
    rcases Transition.found_in_concat accepted with known | ⟨rfl, rfl⟩
    · exact (sound.kept number other known).imp_right
        (holder_set there succeeds.name fun _ member => tasks ▸ List.mem_append_left _ member)
    · exact .inr ⟨index, _, List.getElem?_set_self inside, named,
        tasks ▸ List.mem_append_right _ (List.mem_singleton_self _)⟩

theorem found_addNamedThread (sound : pool.Sound) (name other : Bytes) :
    (pool.addNamedThread (.create name)).found other =
      if other = name then some (pool.workers.length, .create name) else pool.found other := by
  simp only [found, addNamedThread, NamedWorker.create, Std.ExtTreeMap.getElem?_insert]
  by_cases same : name = other
  · simp [same]
  · simp only [Std.LawfulEqCmp.compare_eq_iff_eq, same, if_false, Ne.symm same]
    refine Option.bind_congr fun position mapped => ?_
    obtain ⟨_, there, _⟩ := sound.mapped other position mapped
    rw [List.getElem?_append_left (List.getElem?_eq_some_iff.mp there).1]

theorem Sound.addNamedThread (sound : pool.Sound) {name : Bytes}
    (absent : pool.namedThreads[name]? = none) :
    (pool.addNamedThread (.create name)).Sound := by
  have older {position : Nat} {worker : NamedWorker}
      (there : pool.workers[position]? = some worker) :
      (pool.workers ++ [NamedWorker.create name])[position]? = some worker :=
    (List.getElem?_append_left (List.getElem?_eq_some_iff.mp there).1).trans there
  have insert (other : Bytes) : (pool.addNamedThread (.create name)).namedThreads[other]? =
      if name = other then some pool.workers.length else pool.namedThreads[other]? := by
    simp [ThreadPool.addNamedThread, NamedWorker.create, Std.ExtTreeMap.getElem?_insert]
  refine ⟨?_, ?_, ?_, ?_, sound.named, sound.once, ?_, ?_⟩
  · intro other position mapped
    rw [insert] at mapped
    split at mapped
    next same =>
      cases mapped
      exact ⟨.create name, List.getElem?_concat_length .., same, by simp [NamedWorker.create]⟩
    next =>
      obtain ⟨worker, there, rest⟩ := sound.mapped other position mapped
      exact ⟨worker, older there, rest⟩
  · intro position worker there active
    rw [insert]
    rcases Transition.found_in_concat there with known | ⟨rfl, rfl⟩
    · have mapped := sound.active position worker known active
      rw [if_neg, mapped]
      rintro rfl
      rw [absent] at mapped
      cases mapped
    · exact if_pos rfl
  · intro position worker there
    rcases Transition.found_in_concat there with known | ⟨rfl, rfl⟩
    · exact sound.told position worker known
    · simp [NamedWorker.create, NamedWorker.isGone]
  · intro other
    have same : (pool.addNamedThread (.create name)).lane other = pool.lane other := by
      simp only [lane, found_addNamedThread sound]
      split
      next own =>
        have missing : pool.found name = none := by simp [found, absent]
        rw [own, missing]
        rfl
      next => rfl
    exact same ▸ sound.lanes other
  · intro position worker there number member
    rcases Transition.found_in_concat there with known | ⟨rfl, rfl⟩
    · exact sound.held position worker known number member
    · cases member
  · intro number other accepted
    refine (sound.kept number other accepted).imp_right ?_
    rintro ⟨position, worker, there, rest⟩
    exact ⟨position, worker, older there, rest⟩

theorem Sound.runTask (sound : pool.Sound) {task : Nat} {tasks : List Nat}
    (there : pool.workers[index]? = some worker) (runs : worker.phase = .running (task :: tasks)) :
    Sound { pool.setWorker index { worker with phase := .running tasks } with
      ran := pool.ran ++ [{ name := worker.threadname, number := task }] } := by
  have inside := (List.getElem?_eq_some_iff.mp there).1
  have mapped := sound.active index worker there (by simp [runs])
  have own := found_of_mapped mapped there
  have succeeds : Succeeds worker { worker with phase := .running tasks } := by
    refine ⟨rfl, (fun left => by cases left), ?_, ?_⟩
    · simp [runs]
    · rintro (terminated | gone)
      · exact sound.told index worker there (.inl terminated)
      · cases gone
  have first : worker.tasks = task :: NamedWorker.tasks { worker with phase := .running tasks } := by
    simp [NamedWorker.tasks, NamedWorker.batch, runs]
  have ordered := sound.lanes worker.threadname
  have accepted := sound.held index worker there task (first ▸ List.mem_cons_self)
  have onWay : (pool.lane worker.threadname).onWay = worker.tasks := by
    simp only [lane, own, Option.map_some, Option.getD_some]
  refine ⟨sound.mapped_set there succeeds, sound.active_set there succeeds,
    sound.told_set succeeds, fun name => ?_, ?_, ?_, ?_, ?_⟩
  · have next : lane { pool.setWorker index { worker with phase := .running tasks } with
        ran := pool.ran ++ [{ name := worker.threadname, number := task }] } name =
          { (pool.setWorker index { worker with phase := .running tasks }).lane name with
            handed := ((pool.ran ++ [NamedTask.mk worker.threadname task]).filter
              fun task => task.name == name).map NamedTask.number } :=
      rfl
    rw [next, lane_setWorker inside]
    by_cases same : worker.threadname = name
    · subst same
      rw [if_pos mapped]
      refine (Lane.Step.same (.hand task _ (onWay.trans first)
        fun _ impossible => by cases impossible) ?_).ordered ordered
      simp [lane]
    · rw [if_neg fun other => same ?_]
      · simpa [lane, same] using sound.lanes name
      · obtain ⟨known, knownThere, named, _⟩ := sound.mapped name index other
        cases there.symm.trans knownThere
        exact named
  · intro done member
    rcases List.mem_append.mp member with older | new
    · exact sound.named done older
    · rw [List.mem_singleton.mp new]
      exact accepted
  · rw [List.map_append, List.nodup_append]
    refine ⟨sound.once, List.nodup_singleton _, fun number member last isLast => ?_⟩
    rw [List.mem_singleton.mp isLast]
    rintro rfl
    obtain ⟨done, isDone, rfl⟩ := List.mem_map.mp member
    have sameName : done.name = worker.threadname :=
      Option.some.inj ((sound.named done isDone).symm.trans accepted)
    have handed : done.number ∈ (pool.lane worker.threadname).handed :=
      List.mem_map_of_mem (List.mem_filter.mpr ⟨isDone, by simp [sameName]⟩)
    have waits : done.number ∈ (pool.lane worker.threadname).onWay ++ [] := by
      rw [onWay, first, List.append_nil]
      exact List.mem_cons_self
    exact absurd (ordered.ahead _ handed _ waits) (Nat.lt_irrefl _)
  · exact sound.held_set there succeeds.name fun _ member => first ▸ List.mem_cons_of_mem _ member
  · intro number name known
    rcases sound.kept number name known with done | ⟨position, other, otherThere, named, member⟩
    · exact .inl (List.mem_append_left _ done)
    · by_cases same : position = index
      · subst same
        cases there.symm.trans otherThere
        rw [first] at member
        rcases List.mem_cons.mp member with rfl | later
        · exact .inl (List.mem_append_right _ (by simp [named]))
        · exact .inr ⟨position, _, List.getElem?_set_self inside, named, later⟩
      · exact .inr ⟨position, other, (List.getElem?_set_ne (Ne.symm same)).trans otherThere, named,
          member⟩

theorem Sound.removeSelf (sound : pool.Sound) (there : pool.workers[index]? = some worker)
    (leaves : worker.phase = .leaving) :
    Sound { pool.setWorker index { worker with terminate := true, phase := .left } with
      namedThreads := pool.namedThreads.erase worker.threadname } := by
  have inside := (List.getElem?_eq_some_iff.mp there).1
  have mapped := sound.active index worker there (by simp [leaves])
  have told := sound.told index worker there (.inr (by simp [NamedWorker.isGone, leaves]))
  have tasks : NamedWorker.tasks { worker with terminate := true, phase := .left } = worker.tasks := by
    simp [NamedWorker.tasks, NamedWorker.batch, leaves]
  have elsewhere {name : Bytes} {position : Nat}
      (other : pool.namedThreads[name]? = some position) (different : worker.threadname ≠ name) :
      position ≠ index := by
    rintro rfl
    obtain ⟨known, knownThere, named, _⟩ := sound.mapped name position other
    cases there.symm.trans knownThere
    exact different named
  have erase (name : Bytes) : (pool.namedThreads.erase worker.threadname)[name]? =
      if worker.threadname = name then none else pool.namedThreads[name]? := by
    simp [Std.ExtTreeMap.getElem?_erase]
  refine ⟨?_, ?_, ?_, ?_, sound.named, sound.once, ?_, ?_⟩
  · intro name position there'
    rw [erase] at there'
    split at there'
    · cases there'
    next different =>
      obtain ⟨other, otherThere, rest⟩ := sound.mapped name position there'
      exact ⟨other, (List.getElem?_set_ne (Ne.symm (elsewhere there' different))).trans otherThere, rest⟩
  · intro position other otherThere active
    rw [erase]
    rcases Transition.found_in_set otherThere with ⟨rfl, rfl⟩ | ⟨different, older⟩
    · exact absurd rfl active
    · have otherMapped := sound.active position other older active
      rw [if_neg, otherMapped]
      intro same
      rw [← same, mapped] at otherMapped
      exact different (Option.some.inj otherMapped).symm
  · intro position other otherThere
    rcases Transition.found_in_set otherThere with ⟨rfl, rfl⟩ | ⟨_, older⟩
    · exact fun _ => told
    · exact sound.told position other older
  · intro name
    have next : lane { pool.setWorker index { worker with terminate := true, phase := .left } with
        namedThreads := pool.namedThreads.erase worker.threadname } name =
          if worker.threadname = name then { pool.lane name with onWay := [] } else pool.lane name := by
      simp only [lane, found, ThreadPool.setWorker, erase]
      split
      · rfl
      next different =>
        cases other : pool.namedThreads[name]? with
        | none => rfl
        | some position =>
          simp only [Option.bind_some, List.getElem?_set_ne (Ne.symm (elsewhere other different))]
    rw [next]
    split
    · exact (sound.lanes name).abandoned
    · exact sound.lanes name
  · refine sound.held_set there ?_ ?_
    · rfl
    · exact fun _ member => tasks ▸ member
  · intro number name accepted
    refine (sound.kept number name accepted).imp_right fun holds => ?_
    refine holder_set there ?_ ?_ holds
    · rfl
    · exact fun _ member => tasks ▸ member

theorem takeTasks_succeeds (took : worker.takeTasks = some after)
    (told : worker.terminate = true → worker.told = true) :
    Succeeds worker after ∧ after.tasks = worker.tasks := by
  unfold NamedWorker.takeTasks at took
  split at took
  · cases took
  next waits =>
    rw [not_not] at waits
    have noBatch : worker.batch = [] := by simp [NamedWorker.batch, waits]
    have leaves (terminated : worker.terminate = true) :
        Succeeds worker { worker with phase := .leaving } ∧
          NamedWorker.tasks { worker with phase := .leaving } = worker.tasks := by
      refine ⟨⟨rfl, (fun left => by cases left), ?_, fun _ => told terminated⟩, ?_⟩
      · simp [waits]
      · simp [NamedWorker.tasks, NamedWorker.batch, waits]
    split at took
    · split at took
      next terminated =>
        cases took
        exact leaves terminated
      next => cases took
    · split at took
      next terminated =>
        cases took
        exact leaves terminated
      next goesOn =>
        cases took
        refine ⟨⟨rfl, (fun left => by cases left), ?_, ?_⟩, ?_⟩
        · simp [waits]
        · rintro (terminated | gone)
          · exact absurd terminated goesOn
          · cases gone
        · simp [NamedWorker.tasks, NamedWorker.batch, waits]

theorem step_sound (sound : pool.Sound) {event : Event}
    (taken : pool.step event = some following) : following.Sound := by
  cases event with
  | pushTask name created =>
    simp only [step] at taken
    split at taken
    next isFound =>
      cases taken
      exact sound.queueTask isFound
    next notFound =>
      split at taken <;> cases taken
      · refine (sound.addNamedThread (sound.unmapped_of_not_found notFound)).queueTask ?_
        rw [found_addNamedThread sound, if_pos rfl]
      · exact sound
  | terminateNamedThread name =>
    simp only [step] at taken
    split at taken
    next isFound =>
      cases taken
      obtain ⟨_, there, _, _⟩ := sound.mapped_of_found isFound
      exact sound.setWorker there ⟨rfl, id, id, fun _ => rfl⟩ rfl
    next =>
      cases taken
      exact sound
  | takeTasks index =>
    obtain ⟨worker, there, taken⟩ := Option.bind_eq_some_iff.mp taken
    obtain ⟨after, took, rfl⟩ := Option.map_eq_some_iff.mp taken
    obtain ⟨succeeds, tasks⟩ := takeTasks_succeeds took fun terminated =>
      sound.told index worker there (.inl terminated)
    exact sound.setWorker there succeeds tasks
  | runTask index =>
    obtain ⟨worker, there, taken⟩ := Option.bind_eq_some_iff.mp taken
    split at taken
    next runs =>
      cases taken
      exact sound.runTask there runs
    next => cases taken
  | finishBatch index =>
    obtain ⟨worker, there, taken⟩ := Option.bind_eq_some_iff.mp taken
    split at taken
    next runs =>
      cases taken
      refine sound.setWorker there ⟨rfl, (fun left => by cases left), ?_, ?_⟩ ?_
      · simp [runs]
      · rintro (terminated | gone)
        · exact sound.told index worker there (.inl terminated)
        · cases gone
      · simp [NamedWorker.tasks, NamedWorker.batch, runs]
    next => cases taken
  | removeSelf index =>
    obtain ⟨worker, there, taken⟩ := Option.bind_eq_some_iff.mp taken
    split at taken
    next leaves =>
      cases taken
      exact sound.removeSelf there leaves
    next => cases taken

-- Every accepted task was run or is still with its worker, and only a worker that was told to
-- terminate goes without running it.
def KeepsTasks (pool : ThreadPool) : Prop :=
  ∀ (number : Nat) (name : Bytes), pool.accepted[number]? = some name →
    { name, number } ∈ pool.ran ∨ ∃ (index : Nat) (worker : NamedWorker),
      pool.workers[index]? = some worker ∧ worker.threadname = name ∧ number ∈ worker.tasks ∧
        (worker.isGone = true → worker.told = true)

-- The task is in the hands of a worker that will come to it.
def WillRun (pool : ThreadPool) (index : Nat) (task : NamedTask) : Prop :=
  task ∈ pool.ran ∨ ∃ worker : NamedWorker, pool.workers[index]? = some worker ∧
    worker.threadname = task.name ∧ worker.isGone = false ∧
      (task.number ∈ worker.batch ∨
        task.number ∈ worker.taskContainer ∧ worker.terminate = false)

def ofWorker (index : Nat) (event : Event) : Prop :=
  event = .takeTasks index ∨ event = .runTask index ∨ event = .finishBatch index

def workerSteps (worker : NamedWorker) : Nat :=
  match worker.phase with
  | .running tasks => 2 * tasks.length + 1 + 4 * worker.taskContainer.length
  | .waiting | .leaving | .left => 4 * worker.taskContainer.length

def stepsOf (pool : ThreadPool) (index : Nat) : Nat := ((pool.workers[index]?).map workerSteps).getD 0

theorem stepsOf_set (there : pool.workers[index]? = some worker) :
    (pool.setWorker index after).stepsOf index = workerSteps after := by
  have inside := (List.getElem?_eq_some_iff.mp there).1
  simp [stepsOf, setWorker, inside]

theorem worker_progress (pool : ThreadPool) {task : NamedTask} (willRun : pool.WillRun index task)
    (waits : task ∉ pool.ran) : ∃ event following, ofWorker index event ∧
      pool.step event = some following ∧ following.WillRun index task ∧
        following.stepsOf index < pool.stepsOf index := by
  obtain ⟨worker, there, named, stays, holds⟩ := willRun.resolve_left waits
  have inside := (List.getElem?_eq_some_iff.mp there).1
  have before : pool.stepsOf index = workerSteps worker := by simp [stepsOf, there]
  cases phase : worker.phase with
  | leaving => simp [NamedWorker.isGone, phase] at stays
  | left => simp [NamedWorker.isGone, phase] at stays
  | waiting =>
    obtain ⟨member, goesOn⟩ := holds.resolve_left (by simp [NamedWorker.batch, phase])
    have some : worker.taskContainer ≠ [] := List.ne_nil_of_mem member
    let after := { worker with phase := .running worker.taskContainer, taskContainer := [] }
    have took : worker.takeTasks = Option.some after := by
      simp [NamedWorker.takeTasks, phase, some, goesOn, after]
    have taken : pool.step (.takeTasks index) = Option.some (pool.setWorker index after) := by
      simp [step, there, took]
    refine ⟨.takeTasks index, _, .inl rfl, taken,
      .inr ⟨after, List.getElem?_set_self inside, named, rfl, .inl member⟩, ?_⟩
    have positive := List.length_pos_iff.mpr some
    simp only [before, stepsOf_set there, workerSteps, phase, after, List.length_nil]
    omega
  | running tasks =>
    cases tasks with
    | nil =>
      obtain ⟨member, goesOn⟩ := holds.resolve_left (by simp [NamedWorker.batch, phase])
      have taken : pool.step (.finishBatch index) =
          some (pool.setWorker index { worker with phase := .waiting }) := by
        simp [step, there, phase]
      refine ⟨.finishBatch index, _, .inr (.inr rfl), taken,
        .inr ⟨_, List.getElem?_set_self inside, named, rfl, .inr ⟨member, goesOn⟩⟩, ?_⟩
      simp only [before, stepsOf_set there, workerSteps, phase]
      omega
    | cons first rest =>
      have taken : pool.step (.runTask index) =
          some { pool.setWorker index { worker with phase := .running rest } with
            ran := pool.ran ++ [{ name := worker.threadname, number := first }] } := by
        simp [step, there, phase]
      refine ⟨.runTask index, _, .inr (.inl rfl), taken, ?_, ?_⟩
      · by_cases same : task.number = first
        · refine .inl (List.mem_append_right _ (List.mem_singleton.mpr ?_))
          rw [named, ← same]
        · refine .inr ⟨_, List.getElem?_set_self inside, named, rfl, holds.imp_left fun member => ?_⟩
          simp only [NamedWorker.batch, phase, List.mem_cons, same, false_or] at member
          exact member
      · have left : stepsOf { pool.setWorker index { worker with phase := .running rest } with
            ran := pool.ran ++ [NamedTask.mk worker.threadname first] } index =
              workerSteps { worker with phase := .running rest } :=
          stepsOf_set there
        simp only [before, left, workerSteps, phase, List.length_cons]
        omega

theorem tasks_run_unless_told (events : List Event) (pool : ThreadPool)
    (ran : Transition.run step initial events = some pool) :
    pool.KeepsTasks ∧ (pool.ran.map NamedTask.number).Nodup ∧
      (∀ name, (pool.ran.filter fun task => task.name == name).Pairwise
        fun earlier later => earlier.number < later.number) ∧
      ∀ (index : Nat) (worker : NamedWorker), pool.workers[index]? = some worker →
        worker.isGone = false → ∀ number,
          number ∈ worker.batch ∨ number ∈ worker.taskContainer ∧ worker.terminate = false →
            ∃ more final, (∀ event ∈ more, ofWorker index event) ∧
              Transition.run step pool more = some final ∧
              { name := worker.threadname, number } ∈ final.ran := by
  have sound : pool.Sound := (Transition.Reachable.run .start events ran).invariant Sound
    sound_initial fun _ _ _ sound _ taken => step_sound sound taken
  refine ⟨fun number name accepted => ?_, sound.once, fun name => ?_, ?_⟩
  · refine (sound.kept number name accepted).imp_right ?_
    rintro ⟨index, worker, there, named, member⟩
    exact ⟨index, worker, there, named, member, fun gone => sound.told index worker there (.inr gone)⟩
  · exact List.pairwise_map.mp (sound.lanes name).handed
  · intro index worker there stays number holds
    obtain ⟨more, final, own, ran, _, done⟩ := Transition.exists_run step (ofWorker index)
      (fun later => later.WillRun index { name := worker.threadname, number })
      (fun later => { name := worker.threadname, number } ∈ later.ran)
      (fun later => later.stepsOf index) (fun later willRun => worker_progress later willRun) pool
      (.inr ⟨worker, there, rfl, stays, holds⟩)
    exact ⟨more, final, own, ran, done⟩

-- A worker is told to terminate after its task, and another one is created under its name.
def secondWorker : List Event :=
  [.pushTask [119] true, .takeTasks 0, .runTask 0, .terminateNamedThread [119], .finishBatch 0,
    .takeTasks 0, .removeSelf 0, .pushTask [119] true, .pushTask [119] true, .takeTasks 1, .runTask 1]

theorem tasks_run_secondWorker : ∃ pool, Transition.run step initial secondWorker = some pool ∧
    pool.ran.map NamedTask.number = [0, 1] ∧ pool.KeepsTasks :=
  ⟨_, rfl, rfl, (tasks_run_unless_told secondWorker _ rfl).1⟩

-- The worker is told to terminate before it has looked at its first task.
def toldBefore : List Event :=
  [.pushTask [119] true, .terminateNamedThread [119], .takeTasks 0, .removeSelf 0]

theorem accepted_task_discarded : ¬ ∀ pool : ThreadPool, Transition.Reachable step initial pool →
    ∀ (number : Nat) (name : Bytes), pool.accepted[number]? = some name →
      { name, number } ∈ pool.ran ∨ ∃ worker ∈ pool.workers,
        worker.threadname = name ∧ number ∈ worker.tasks ∧ worker.isGone = false := by
  intro always
  have ran : ∃ pool, Transition.run step initial toldBefore = some pool ∧
      pool.accepted = [[119]] ∧ pool.ran = [] ∧ ∀ worker ∈ pool.workers, worker.isGone = true :=
    ⟨_, rfl, rfl, rfl, by decide⟩
  obtain ⟨pool, ran, accepted, none, gone⟩ := ran
  have kept := always pool (.run .start toldBefore ran) 0 [119] (by rw [accepted]; rfl)
  rw [none] at kept
  obtain ⟨worker, member, _, _, stays⟩ := kept.resolve_left List.not_mem_nil
  rw [gone worker member] at stays
  cases stays

end ThreadPool
end MessageBus.Threads
