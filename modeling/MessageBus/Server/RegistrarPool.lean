import MessageBus.Server.RegistrarRuns

set_option autoImplicit false

namespace MessageBus.Server

section Lists

variable {Item Value : Type} {kept : Item -> Option Value} {list : List Item} {index : Nat}
  {item : Item}

theorem filterMap_place {value : Value} (there : list[index]? = some item)
    (keeps : kept item = some value) :
    ∃ place, (list.filterMap kept)[place]? = some value ∧
      (∀ changed, (list.set index changed).filterMap kept =
        match kept changed with
        | some other => (list.filterMap kept).set place other
        | none => (list.filterMap kept).eraseIdx place) ∧
      (list.eraseIdx index).filterMap kept = (list.filterMap kept).eraseIdx place := by
  induction list generalizing index with
  | nil => cases there
  | cons head rest ih =>
    cases index with
    | zero =>
      cases there
      rw [List.filterMap_cons_some keeps]
      refine ⟨0, rfl, fun changed => ?_, rfl⟩
      cases after : kept changed <;> simp [after]
    | succ index =>
      obtain ⟨place, found, changes, erased⟩ := ih there
      cases first : kept head with
      | none =>
        refine ⟨place, ?_, fun changed => ?_, ?_⟩
        · rw [List.filterMap_cons_none first]
          exact found
        · rw [List.set_cons_succ, List.filterMap_cons_none first, List.filterMap_cons_none first]
          exact changes changed
        · rw [List.eraseIdx_cons_succ, List.filterMap_cons_none first,
            List.filterMap_cons_none first]
          exact erased
      | some front =>
        refine ⟨place + 1, ?_, fun changed => ?_, ?_⟩
        · rw [List.filterMap_cons_some first]
          exact found
        · rw [List.set_cons_succ, List.filterMap_cons_some first, List.filterMap_cons_some first,
            changes changed]
          cases kept changed <;> rfl
        · rw [List.eraseIdx_cons_succ, List.filterMap_cons_some first,
            List.filterMap_cons_some first, erased]
          rfl

theorem filterMap_left_out (there : list[index]? = some item) (leaves : kept item = none) :
    (∀ changed, kept changed = none →
      (list.set index changed).filterMap kept = list.filterMap kept) ∧
      (list.eraseIdx index).filterMap kept = list.filterMap kept := by
  induction list generalizing index with
  | nil => cases there
  | cons head rest ih =>
    cases index with
    | zero =>
      cases there
      refine ⟨fun changed after => ?_, ?_⟩
      · rw [List.set_cons_zero, List.filterMap_cons_none after, List.filterMap_cons_none leaves]
      · rw [List.eraseIdx_cons_zero, List.filterMap_cons_none leaves]
    | succ index =>
      obtain ⟨changes, erased⟩ := ih there
      refine ⟨fun changed after => ?_, ?_⟩
      · rw [List.set_cons_succ, List.filterMap_cons, List.filterMap_cons, changes changed after]
      · rw [List.eraseIdx_cons_succ, List.filterMap_cons, List.filterMap_cons, erased]

end Lists

def NameRequest.writes : NameRequest -> Option Registry.Request
  | .register serviceName serviceHost => some (.register { msgId := 0, serviceName, serviceHost })
  | .unregister serviceName serviceHost => some (.unregister { serviceName, serviceHost })
  | .getClient _ => none

def NameStage.progress : NameStage -> Option Progress
  | .taken => some .taken
  | .checked => some .checked
  | .resolved host => some (.resolved host)
  | .answering _ => none

def NameOutcome.leaves (registry : Registry) : NameOutcome -> Option Progress × Registry
  | .goes stage => (stage.progress, registry)
  | .serves op => (none, (registry.serve op).2)
  | .sends _ | .returns => (none, registry)

section Advance

variable {request : NameRequest} {asked : Registry.Request} {stage : NameStage}
  {progress : Progress} {registry : Registry}

theorem advance_follows (writes : request.writes = some asked)
    (under : stage.progress = some progress) (registry : Registry) (sock : TcpSock) (rand : Rand)
    (addr : Nat) :
    Running.advance { addr, request := asked, progress } registry sock =
      (((request.advance registry sock rand stage).leaves registry).1.map fun progress =>
        { addr, request := asked, progress },
        ((request.advance registry sock rand stage).leaves registry).2) := by
  cases request with
  | register serviceName host =>
    cases writes
    cases stage with
    | taken | resolved =>
      cases under
      rfl
    | checked =>
      cases under
      by_cases named : serviceName = [] <;>
        simp [Running.advance, NameRequest.advance, Registry.Request.serviceName,
          Registry.Request.serviceHost, NameOutcome.leaves, NameStage.progress, named]
    | answering => cases under
  | unregister serviceName host =>
    cases writes
    cases stage with
    | taken =>
      cases under
      by_cases registered : registry.checkRegisterClient sock = true <;>
        simp [Running.advance, NameRequest.advance, NameOutcome.leaves, NameStage.progress,
          registered]
    | checked =>
      cases under
      by_cases named : serviceName = [] <;>
        simp [Running.advance, NameRequest.advance, Registry.Request.serviceName,
          Registry.Request.serviceHost, NameOutcome.leaves, NameStage.progress, named]
    | resolved =>
      cases under
      rfl
    | answering => cases under
  | getClient => cases writes

theorem advance_silent (silent : request.writes = none ∨ stage.progress = none)
    (registry : Registry) (sock : TcpSock) (rand : Rand) :
    ((request.advance registry sock rand stage).leaves registry).2 = registry ∧
      (request.writes = none ∨
        ((request.advance registry sock rand stage).leaves registry).1 = none) := by
  rcases silent with only | told
  · refine ⟨?_, .inl only⟩
    cases request with
    | register | unregister => cases only
    | getClient destName =>
      cases stage with
      | taken =>
        simp only [NameRequest.advance]
        split <;> rfl
      | checked | resolved | answering => rfl
  · cases stage with
    | taken | checked | resolved => cases told
    | answering answer => exact ⟨rfl, .inr rfl⟩

end Advance

def AcceptedSock.connection (accepted : AcceptedSock) : Connection :=
  { sock := accepted.sock, closing := accepted.closing }

namespace Registrar

def poolTask (requests : List (Nat × NameRequest)) (number : Nat) :
    Option (Nat × Registry.Request) :=
  (requests[number]?).bind fun request => request.2.writes.map fun asked => (request.1, asked)

def running (requests : List (Nat × NameRequest)) (worker : Nat × NameStage) : Option Running :=
  (poolTask requests worker.1).bind fun task =>
    worker.2.progress.map fun progress => { addr := task.1, request := task.2, progress }

def pool (registrar : Registrar) : Pool :=
  { registry := registrar.registry
    connections := registrar.connections.map AcceptedSock.connection
    workTasks := registrar.workTasks.filterMap (poolTask registrar.requests)
    running := registrar.workers.filterMap (running registrar.requests) }

section Steps

variable {registrar following : Registrar} {requests : List (Nat × NameRequest)}
  {worker number addr : Nat} {request : NameRequest} {stage : NameStage}
  {connection : AcceptedSock}

theorem poolTask_append (request : Nat × NameRequest) (there : number < requests.length) :
    poolTask (requests ++ [request]) number = poolTask requests number := by
  rw [poolTask, List.getElem?_append_left there]
  rfl

theorem running_asked (asked : requests[number]? = some (addr, request)) (stage : NameStage) :
    running requests (number, stage) = request.writes.bind fun asked =>
      stage.progress.map fun progress => { addr, request := asked, progress } := by
  simp only [running, poolTask, asked, Option.bind_some]
  cases request.writes <;> rfl

theorem pool_connection (found : registrar.connections[addr]? = some connection) :
    registrar.pool.connections[addr]? = some connection.connection := by
  simp only [pool, List.getElem?_map, found, Option.map_some]

theorem work_follows (there : registrar.workers[worker]? = some (number, stage))
    (asked : registrar.requests[number]? = some (addr, request))
    (found : registrar.connections[addr]? = some connection) {rand : Rand} {outcome : NameOutcome}
    (advances : request.advance registrar.registry connection.sock rand stage = outcome)
    (next : Option NameStage)
    (goesOn : next.bind NameStage.progress = (outcome.leaves registrar.registry).1) {after : Pool}
    (leads : after = { registrar.pool with
      registry := (outcome.leaves registrar.registry).2
      running := (registrar.putStage worker number next).workers.filterMap
        (running registrar.requests) }) :
    after = registrar.pool ∨ ∃ event, registrar.pool.step event = some after := by
  subst advances leads
  have runs := running_asked asked
  cases task : running registrar.requests (number, stage) with
  | none =>
    have silent : request.writes = none ∨ stage.progress = none := by
      rw [runs] at task
      cases writes : request.writes with
      | none => exact .inl rfl
      | some own =>
        rw [writes] at task
        exact .inr (Option.map_eq_none_iff.mp task)
    obtain ⟨same, silentAfter⟩ := advance_silent silent registrar.registry connection.sock rand
    obtain ⟨sets, erased⟩ := filterMap_left_out there task
    refine .inl ?_
    rw [same]
    cases next with
    | none => exact congrArg (fun running => { registrar.pool with running }) erased
    | some later =>
      refine congrArg (fun running => { registrar.pool with running }) (sets (number, later) ?_)
      rw [runs]
      rcases silentAfter with only | ended
      · rw [only]
        rfl
      · have none : later.progress = none := goesOn.trans ended
        rw [none]
        cases request.writes <;> rfl
  | some run =>
    have unfolded := task
    rw [runs, Option.bind_eq_some_iff] at unfolded
    obtain ⟨own, writes, unfolded⟩ := unfolded
    obtain ⟨progress, under, rfl⟩ := Option.map_eq_some_iff.mp unfolded
    obtain ⟨place, foundRun, sets, erased⟩ := filterMap_place there task
    have follows := advance_follows writes under registrar.registry connection.sock rand addr
    refine .inr ⟨.work place, ?_⟩
    have foundThere : registrar.pool.running[place]? =
        some { addr, request := own, progress } := foundRun
    simp only [Pool.step, foundThere, Option.bind_some, pool_connection found, Option.map_some]
    refine congrArg some ?_
    have same : registrar.pool.registry = registrar.registry := rfl
    have sock : connection.connection.sock = connection.sock := rfl
    rw [same, sock, follows, ← goesOn]
    cases next with
    | none =>
      simp only [putStage, erased]
      rfl
    | some later =>
      have changed := sets (number, later)
      rw [runs, writes] at changed
      simp only [Option.bind_some]
      simp only [putStage, changed]
      cases later.progress <;> rfl

theorem step_follows {event : RegistrarEvent} (sound : registrar.Sound)
    (taken : registrar.step event = some following) :
    following.pool = registrar.pool ∨
      ∃ poolEvent, registrar.pool.step poolEvent = some following.pool := by
  cases event with
  | accept fd peer =>
    simp only [step] at taken
    split at taken <;> cases taken
    next fresh =>
      refine .inr ⟨.accept fd peer, ?_⟩
      have unused : ∀ connection ∈ registrar.pool.connections, connection.sock.fd ≠ fd :=
        List.forall_mem_map.mpr fresh.2
      simp only [Pool.step, if_pos (And.intro fresh.1 unused)]
      simp only [pool, List.map_append, List.length_map]
      rfl
  | read addr request =>
    obtain ⟨connection, found, taken⟩ := Option.bind_eq_some_iff.mp taken
    split at taken <;> cases taken
    next reading =>
      have tasks : registrar.workTasks.filterMap
          (poolTask (registrar.requests ++ [(addr, request)])) =
          registrar.pool.workTasks := by
        refine List.filterMap_congr fun number member => poolTask_append _ ?_
        exact sound.queued number (List.mem_append_right _ (List.mem_append_left _ member))
      have workers : registrar.workers.filterMap
          (running (registrar.requests ++ [(addr, request)])) = registrar.pool.running := by
        refine List.filterMap_congr fun worker member => ?_
        have there := sound.queued worker.1 (List.mem_append_right _
          (List.mem_append_right _ (List.mem_map_of_mem member)))
        rw [running, poolTask_append _ there]
        rfl
      have last : poolTask (registrar.requests ++ [(addr, request)]) registrar.requests.length =
          request.writes.map fun asked => (addr, asked) := by
        simp [poolTask]
      cases writes : request.writes with
      | none =>
        rw [writes] at last
        refine .inl ?_
        simp only [pool, List.filterMap_append, tasks, workers, List.filterMap_cons_none last,
          List.filterMap_nil, List.append_nil]
      | some asked =>
        rw [writes] at last
        refine .inr ⟨.frame addr asked, ?_⟩
        simp only [Pool.step, pool_connection found, Option.bind_some]
        refine (if_pos reading).trans (congrArg some ?_)
        simp only [pool, List.filterMap_append, tasks, workers, List.filterMap_cons_some last,
          List.filterMap_nil]
  | take =>
    simp only [step] at taken
    split at taken <;> cases taken
    next number workTasks front =>
      cases task : poolTask registrar.requests number with
      | none =>
        have only : running registrar.requests (number, .taken) = none := by
          rw [running, task]
          rfl
        refine .inl ?_
        simp only [pool, front, List.filterMap_cons_none task, List.filterMap_append,
          List.filterMap_cons_none only, List.filterMap_nil, List.append_nil]
      | some own =>
        have only : running registrar.requests (number, .taken) =
            some { addr := own.1, request := own.2, progress := .taken } := by
          rw [running, task]
          rfl
        refine .inr ⟨.take, ?_⟩
        simp only [Pool.step, pool, front, List.filterMap_cons_some task, List.filterMap_append,
          List.filterMap_cons_some only, List.filterMap_nil]
  | work worker rand =>
    simp only [step, Option.bind_eq_some_iff, Option.map_eq_some_iff] at taken
    obtain ⟨⟨number, stage⟩, there, ⟨addr, request⟩, asked, connection, found, rfl⟩ := taken
    dsimp only
    split
    next next outcome => exact work_follows there asked found outcome (some next) rfl rfl
    next op outcome =>
      refine work_follows there asked found outcome (registrar.registry.serve op).1.stage ?_ ?_
      · cases answer : (registrar.registry.serve op).1 <;> rfl
      · cases answer : (registrar.registry.serve op).1 <;> rfl
    next answer outcome => exact work_follows there asked found outcome none rfl rfl
    next outcome => exact work_follows there asked found outcome none rfl rfl
  | removeClient addr =>
    obtain ⟨connection, found, taken⟩ := Option.bind_eq_some_iff.mp taken
    split at taken <;> cases taken
    next reading =>
      refine .inr ⟨.removeClient addr, ?_⟩
      simp only [Pool.step, pool_connection found, Option.bind_some]
      refine (if_pos reading).trans (congrArg some ?_)
      simp only [pool, serve, List.map_set]
      rfl
  | unregisterClient addr =>
    obtain ⟨connection, found, taken⟩ := Option.bind_eq_some_iff.mp taken
    split at taken <;> cases taken
    next serviceName host removed =>
      refine .inr ⟨.unregisterClient addr, ?_⟩
      have closing : connection.connection.closing = .removed serviceName host := removed
      simp only [Pool.step, pool_connection found, Option.bind_some, closing]
      simp only [pool, serve, List.map_set]
      rfl
  | close addr =>
    obtain ⟨connection, found, taken⟩ := Option.bind_eq_some_iff.mp taken
    split at taken <;> cases taken
    next unregistered =>
      refine .inr ⟨.close addr, ?_⟩
      simp only [Pool.step, pool_connection found, Option.bind_some]
      refine (if_pos unregistered).trans (congrArg some ?_)
      simp only [pool, List.map_set]
      rfl

end Steps

theorem pool_reachable {registrar : Registrar}
    (reached : Transition.Reachable step initial registrar) :
    Transition.Reachable Pool.step Pool.initial registrar.pool := by
  refine (reached.invariant (fun registrar => registrar.Sound ∧
    Transition.Reachable Pool.step Pool.initial registrar.pool) ⟨sound_initial, .start⟩ ?_).2
  intro registrar event following before _ taken
  refine ⟨change_sound before.1 (step_changes taken), ?_⟩
  rcases step_follows before.1 taken with same | ⟨poolEvent, followed⟩
  · exact same ▸ before.2
  · exact .next poolEvent before.2 trivial followed

end Registrar
end MessageBus.Server
