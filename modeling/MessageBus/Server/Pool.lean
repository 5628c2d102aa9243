import MessageBus.Server.Registry
import MessageBus.Shared.Transition

set_option autoImplicit false

namespace MessageBus.Server

-- server_onClose takes the lock twice, and TcpSock::Close comes after it.
inductive Closing where
  | reading
  | removed (serviceName : Name) (host : ClientHost)
  | unregistered
  | closed
  deriving DecidableEq, Repr

structure Connection where
  sock : TcpSock
  closing : Closing
  deriving DecidableEq, Repr

def Connection.accepted (addr : Nat) (fd : Int) (destIp : UInt32) : Connection :=
  { sock := { addr, fd, destIp }, closing := .reading }

inductive Progress where
  | taken
  | checked
  | resolved (host : ClientHost)
  deriving DecidableEq, Repr

structure Running where
  addr : Nat
  request : Registry.Request
  progress : Progress
  deriving DecidableEq, Repr

structure Pool where
  registry : Registry
  connections : List Connection
  workTasks : List (Nat × Registry.Request)
  running : List Running

inductive PoolEvent where
  | accept (fd : Int) (destIp : UInt32)
  | frame (addr : Nat) (request : Registry.Request)
  | take
  | work (worker : Nat)
  | removeClient (addr : Nat)
  | unregisterClient (addr : Nat)
  | close (addr : Nat)
  deriving DecidableEq, Repr

namespace Registry.Request

def serviceName : Registry.Request -> Name
  | .register req => req.serviceName
  | .unregister req => req.serviceName

def serviceHost : Registry.Request -> ClientHost
  | .register req => req.serviceHost
  | .unregister req => req.serviceHost

end Registry.Request

-- process_data_from_client from one shared access to the next; `none` when it has returned.
def Running.advance (task : Running) (registry : Registry) (sock : TcpSock) :
    Option Running × Registry :=
  match task.progress with
  | .taken =>
    let checkReg := registry.checkRegisterClient sock
    match task.request with
    | .register _ => (some { task with progress := .checked }, registry)
    | .unregister _ => (if checkReg then some { task with progress := .checked } else none, registry)
  | .checked =>
    if task.request.serviceName = [] then (none, registry)
    else
      let host := Registry.resolveHost sock task.request.serviceHost
      (some { task with progress := .resolved host }, registry)
  | .resolved host =>
    match task.request with
    | .register req => (none, (registry.registerHost sock req.serviceName host).2)
    | .unregister req => (none, registry.unregisterClientFromService req.serviceName host)

namespace Pool

def initial : Pool := { registry := .empty, connections := [], workTasks := [], running := [] }

def step (pool : Pool) : PoolEvent -> Option Pool
  | .accept fd destIp =>
    if 0 ≤ fd ∧ ∀ connection ∈ pool.connections, connection.sock.fd ≠ fd then
      some { pool with
        connections := pool.connections ++ [.accepted pool.connections.length fd destIp] }
    else none
  | .frame addr request =>
    (pool.connections[addr]?).bind fun connection =>
      if connection.closing = .reading then
        some { pool with workTasks := pool.workTasks ++ [(addr, request)] }
      else none
  | .take =>
    match pool.workTasks with
    | [] => none
    | (addr, request) :: rest =>
      some { pool with
        workTasks := rest
        running := pool.running ++ [{ addr, request, progress := .taken }] }
  | .work worker =>
    (pool.running[worker]?).bind fun task =>
      (pool.connections[task.addr]?).map fun connection =>
        let result := task.advance pool.registry connection.sock
        { pool with
          registry := result.2
          running :=
            match result.1 with
            | some task => pool.running.set worker task
            | none => pool.running.eraseIdx worker }
  | .removeClient addr =>
    (pool.connections[addr]?).bind fun connection =>
      if connection.closing = .reading then
        let removed := pool.registry.removeActiveClient connection.sock
        some { pool with
          registry := removed.1
          connections := pool.connections.set addr
            { connection with closing := .removed removed.2.1 removed.2.2 } }
      else none
  | .unregisterClient addr =>
    (pool.connections[addr]?).bind fun connection =>
      match connection.closing with
      | .removed serviceName host =>
        some { pool with
          registry := pool.registry.unregisterClientFromService serviceName host
          connections := pool.connections.set addr { connection with closing := .unregistered } }
      | _ => none
  | .close addr =>
    (pool.connections[addr]?).bind fun connection =>
      if connection.closing = .unregistered then
        some { pool with
          connections := pool.connections.set addr
            { sock := connection.sock.close, closing := .closed } }
      else none

def registersOnePair (pairOf : Nat -> Name × ClientHost) : PoolEvent -> Bool
  | .frame addr (.register req) =>
    req.serviceName == (pairOf addr).1 && clientHostIsEqual req.serviceHost (pairOf addr).2
  | _ => true

-- A worker enters a connection in the tables only before server_onClose begins on it.
def storesBeforeClose (pool : Pool) : PoolEvent -> Bool
  | .work worker =>
    match pool.running[worker]? with
    | some { addr, request := .register req, progress := .resolved host } =>
      !pool.registry.storesConnection req.serviceName host ||
        (pool.connections[addr]?).any fun connection => connection.closing == .reading
    | _ => true
  | _ => true

def Quiet (pool : Pool) : Prop := pool.workTasks = [] ∧ pool.running = []

structure OnlyOpenRegistered (pool : Pool) : Prop where
  noneClosed : ∀ serviceName addr, pool.registry.active serviceName addr = true →
    ∃ connection : Connection, pool.connections[addr]? = some connection ∧ connection.sock.fd ≠ -1
  keys : ∀ fd, (pool.registry.cachedHost fd).isSome = true ↔
    fd ≠ -1 ∧ ∃ (addr : Nat) (connection : Connection) (serviceName : Name),
      pool.connections[addr]? = some connection ∧ connection.sock.fd = fd ∧
        pool.registry.active serviceName addr = true

theorem advance_task {task next : Running} {registry : Registry} {sock : TcpSock}
    (continues : (task.advance registry sock).1 = some next) :
    next.addr = task.addr ∧ next.request = task.request := by
  obtain ⟨addr, request, progress⟩ := task
  cases progress with
  | taken =>
    cases request with
    | register req =>
      cases continues
      exact ⟨rfl, rfl⟩
    | unregister req =>
      simp only [Running.advance] at continues
      split at continues <;> cases continues
      exact ⟨rfl, rfl⟩
  | checked =>
    simp only [Running.advance] at continues
    split at continues <;> cases continues
    exact ⟨rfl, rfl⟩
  | resolved host => cases request <;> cases continues

theorem advance_tables (task : Running) (registry : Registry) (sock : TcpSock) :
    ((task.advance registry sock).2.activeClients = registry.activeClients ∧
      (task.advance registry sock).2.tcpServicesMap = registry.tcpServicesMap) ∨
    ∃ req host listing, task.request = .register req ∧ task.progress = .resolved host ∧
      registry.storesConnection req.serviceName host = true ∧
      (task.advance registry sock).2 = Registry.storeConnection
        { registry with availableServices := listing } sock req.serviceName host := by
  obtain ⟨addr, request, progress⟩ := task
  cases progress with
  | taken => cases request <;> exact .inl ⟨rfl, rfl⟩
  | checked =>
    simp only [Running.advance]
    split <;> exact .inl ⟨rfl, rfl⟩
  | resolved host =>
    cases request with
    | register req =>
      cases stores : registry.storesConnection req.serviceName host with
      | true =>
        obtain ⟨listing, stored⟩ := Registry.registerHost_stores sock stores
        exact .inr ⟨req, host, listing, rfl, rfl, stores, stored⟩
      | false => exact .inl (Registry.registerHost_spares sock stores)
    | unregister req => exact .inl (Registry.unregister_frame registry req.serviceName host)

structure Held (pairOf : Nat -> Name × ClientHost) (pool : Pool) : Prop where
  addr : ∀ (addr : Nat) (connection : Connection), pool.connections[addr]? = some connection →
    connection.sock.addr = addr
  apart : ∀ (i j : Nat) (first second : Connection), pool.connections[i]? = some first →
    pool.connections[j]? = some second → first.sock.fd ≠ -1 → first.sock.fd = second.sock.fd → i = j
  reading : ∀ connection ∈ pool.connections, connection.closing = .reading →
    connection.sock.fd ≠ -1
  active : ∀ serviceName addr, pool.registry.active serviceName addr = true →
    serviceName = (pairOf addr).1 ∧ ∃ connection : Connection,
      pool.connections[addr]? = some connection ∧ connection.closing = .reading ∧
        (pool.registry.cachedHost connection.sock.fd).isSome = true
  keys : ∀ fd, (pool.registry.cachedHost fd).isSome = true →
    ∃ (addr : Nat) (connection : Connection) (serviceName : Name),
      pool.connections[addr]? = some connection ∧ connection.closing = .reading ∧
        connection.sock.fd = fd ∧ pool.registry.active serviceName addr = true
  queued : ∀ task ∈ pool.workTasks, ∀ req, task.2 = .register req →
    req.serviceName = (pairOf task.1).1
  running : ∀ task ∈ pool.running, ∀ req, task.request = .register req →
    req.serviceName = (pairOf task.addr).1

variable {pairOf : Nat -> Name × ClientHost} {pool following : Pool}

theorem held_initial : Held pairOf initial := by
  constructor <;> simp [initial, Registry.empty, Registry.active, Registry.cachedHost]

theorem Held.onlyOpenRegistered (held : pool.Held pairOf) : pool.OnlyOpenRegistered := by
  constructor
  · intro serviceName addr isActive
    obtain ⟨_, connection, there, reading, _⟩ := held.active serviceName addr isActive
    exact ⟨connection, there, held.reading connection (List.mem_of_getElem? there) reading⟩
  · intro fd
    constructor
    · intro key
      obtain ⟨addr, connection, serviceName, there, reading, sameFd, isActive⟩ := held.keys fd key
      have isOpen := held.reading connection (List.mem_of_getElem? there) reading
      exact ⟨sameFd ▸ isOpen, addr, connection, serviceName, there, sameFd, isActive⟩
    · rintro ⟨_, addr, connection, serviceName, there, sameFd, isActive⟩
      obtain ⟨_, found, foundThere, _, key⟩ := held.active serviceName addr isActive
      rw [there] at foundThere
      cases foundThere
      exact sameFd ▸ key

theorem accept_held (held : pool.Held pairOf) {fd : Int} (destIp : UInt32) (valid : 0 ≤ fd)
    (unused : ∀ connection ∈ pool.connections, connection.sock.fd ≠ fd) :
    Held pairOf { pool with
      connections := pool.connections ++ [.accepted pool.connections.length fd destIp] } := by
  have kept {addr : Nat} {connection : Connection}
      (there : pool.connections[addr]? = some connection) :
      (pool.connections ++ [.accepted pool.connections.length fd destIp])[addr]? =
        some connection :=
    (List.getElem?_append_left (List.getElem?_eq_some_iff.mp there).1).trans there
  refine { held with addr := ?_, apart := ?_, reading := ?_, active := ?_, keys := ?_ }
  · intro addr connection there
    rcases Transition.found_in_concat there with older | ⟨rfl, rfl⟩
    · exact held.addr addr connection older
    · rfl
  · intro i j first second firstThere secondThere isOpen same
    rcases Transition.found_in_concat firstThere with firstOlder | ⟨rfl, rfl⟩ <;>
      rcases Transition.found_in_concat secondThere with secondOlder | ⟨rfl, rfl⟩
    · exact held.apart i j first second firstOlder secondOlder isOpen same
    · exact absurd same (unused first (List.mem_of_getElem? firstOlder))
    · exact absurd same.symm (unused second (List.mem_of_getElem? secondOlder))
    · rfl
  · intro connection member reading
    rcases List.mem_append.mp member with older | newer
    · exact held.reading connection older reading
    · rw [List.mem_singleton.mp newer]
      have different : fd ≠ -1 := by omega
      exact different
  · intro serviceName addr isActive
    obtain ⟨named, connection, there, rest⟩ := held.active serviceName addr isActive
    exact ⟨named, connection, kept there, rest⟩
  · intro key found
    obtain ⟨addr, connection, serviceName, there, rest⟩ := held.keys key found
    exact ⟨addr, connection, serviceName, kept there, rest⟩

theorem Held.sameTables (held : pool.Held pairOf) {registry : Registry}
    (sameActive : registry.activeClients = pool.registry.activeClients)
    (sameHosts : registry.tcpServicesMap = pool.registry.tcpServicesMap) :
    Held pairOf { pool with registry } := by
  refine { held with active := ?_, keys := ?_ }
  · simpa only [Registry.active, Registry.cachedHost, sameActive, sameHosts] using held.active
  · simpa only [Registry.active, Registry.cachedHost, sameActive, sameHosts] using held.keys

theorem store_held (held : pool.Held pairOf) {addr : Nat} {connection : Connection}
    (there : pool.connections[addr]? = some connection) (reading : connection.closing = .reading)
    (host : ClientHost) (listing : Std.ExtTreeMap Name (List ClientHost)) :
    Held pairOf { pool with
      registry := Registry.storeConnection { pool.registry with availableServices := listing }
        connection.sock (pairOf addr).1 host } := by
  have sameAddr := held.addr addr connection there
  have isOpen := held.reading connection (List.mem_of_getElem? there) reading
  have active_iff := Registry.storeConnection_active
    { pool.registry with availableServices := listing } connection.sock (pairOf addr).1 host
  have cachedHost := Registry.storeConnection_cachedHost
    { pool.registry with availableServices := listing } connection.sock (pairOf addr).1 host
  refine { held with active := ?_, keys := ?_ }
  · intro serviceName client isActive
    rcases (active_iff serviceName client).mp isActive with before | ⟨rfl, rfl⟩
    · obtain ⟨named, found, foundThere, foundReading, key⟩ :=
        held.active serviceName client before
      refine ⟨named, found, foundThere, foundReading, ?_⟩
      refine (congrArg Option.isSome (cachedHost found.sock.fd)).trans ?_
      split
      next => rfl
      next => exact key
    · rw [sameAddr]
      refine ⟨rfl, connection, there, reading, ?_⟩
      exact (congrArg Option.isSome (cachedHost connection.sock.fd)).trans (by rw [if_pos rfl]; rfl)
  · intro fd key
    have known := (congrArg Option.isSome (cachedHost fd)).symm.trans key
    split at known
    next same =>
      exact ⟨addr, connection, (pairOf addr).1, there, reading, same,
        (active_iff (pairOf addr).1 addr).mpr (.inr ⟨rfl, sameAddr⟩)⟩
    next =>
      obtain ⟨client, found, serviceName, foundThere, foundReading, sameFd, isActive⟩ :=
        held.keys fd known
      exact ⟨client, found, serviceName, foundThere, foundReading, sameFd,
        (active_iff serviceName client).mpr (.inl isActive)⟩

theorem work_held (held : pool.Held pairOf) {worker : Nat}
    (stores : pool.storesBeforeClose (.work worker) = true)
    (taken : pool.step (.work worker) = some following) : following.Held pairOf := by
  simp only [step, Option.bind_eq_some_iff, Option.map_eq_some_iff] at taken
  obtain ⟨task, found, connection, there, rfl⟩ := taken
  have member : task ∈ pool.running := List.mem_of_getElem? found
  have kept (remaining : List Running) (within : ∀ other ∈ remaining, other ∈ pool.running ∨
      other.addr = task.addr ∧ other.request = task.request) :
      ∀ other ∈ remaining, ∀ req, other.request = .register req →
        req.serviceName = (pairOf other.addr).1 := by
    intro other inRemaining req register
    rcases within other inRemaining with older | ⟨sameAddr, sameRequest⟩
    · exact held.running other older req register
    · rw [sameAddr]
      exact held.running task member req (sameRequest ▸ register)
  have tables : Held pairOf { pool with
      registry := (task.advance pool.registry connection.sock).2 } := by
    rcases advance_tables task pool.registry connection.sock with
      ⟨sameActive, sameHosts⟩ | ⟨req, host, listing, request, progress, storing, stored⟩
    · exact held.sameTables sameActive sameHosts
    · have reading : connection.closing = .reading := by
        obtain ⟨addr, taskRequest, taskProgress⟩ := task
        simp only at request progress there
        subst request progress
        simpa [storesBeforeClose, found, storing, there] using stores
      have named := held.running task member req request
      rw [stored, named]
      exact store_held held there reading host listing
  refine { tables with running := ?_ }
  dsimp only
  split
  next next continues =>
    apply kept
    intro other inSet
    rcases List.mem_or_eq_of_mem_set inSet with older | rfl
    · exact .inl older
    · exact .inr (advance_task continues)
  next => exact kept _ fun other remaining => .inl (List.mem_of_mem_eraseIdx remaining)

theorem leave_held (held : pool.Held pairOf) {addr : Nat} {connection : Connection}
    (there : pool.connections[addr]? = some connection) {registry : Registry}
    (active_iff : ∀ serviceName client, registry.active serviceName client = true ↔
      pool.registry.active serviceName client = true ∧ client ≠ addr)
    (cachedHost : ∀ fd, registry.cachedHost fd =
      if connection.sock.fd = fd then none else pool.registry.cachedHost fd)
    (changed : Connection) (sameAddr : changed.sock.addr = connection.sock.addr)
    (fd : changed.sock.fd = connection.sock.fd ∨ changed.sock.fd = -1)
    (stops : changed.closing ≠ .reading) :
    Held pairOf { pool with registry, connections := pool.connections.set addr changed } := by
  have openFd {client : Nat} {found : Connection}
      (foundThere : (pool.connections.set addr changed)[client]? = some found)
      (isOpen : found.sock.fd ≠ -1) : ∃ older : Connection,
        pool.connections[client]? = some older ∧ older.sock.fd = found.sock.fd := by
    rcases Transition.found_in_set foundThere with ⟨rfl, rfl⟩ | older
    · rcases fd with same | closed
      · exact ⟨connection, there, same.symm⟩
      · exact absurd closed isOpen
    · exact ⟨found, older.2, rfl⟩
  refine { held with addr := ?_, apart := ?_, reading := ?_, active := ?_, keys := ?_ }
  · intro client found foundThere
    rcases Transition.found_in_set foundThere with ⟨rfl, rfl⟩ | older
    · exact sameAddr.trans (held.addr client connection there)
    · exact held.addr client found older.2
  · intro i j first second firstThere secondThere isOpen same
    obtain ⟨firstOlder, firstFound, firstFd⟩ := openFd firstThere isOpen
    obtain ⟨secondOlder, secondFound, secondFd⟩ := openFd secondThere (same ▸ isOpen)
    exact held.apart i j firstOlder secondOlder firstFound secondFound (firstFd ▸ isOpen)
      (firstFd.trans (same.trans secondFd.symm))
  · intro found member reading
    rcases List.mem_or_eq_of_mem_set member with older | rfl
    · exact held.reading found older reading
    · exact absurd reading stops
  · intro serviceName client isActive
    obtain ⟨before, different⟩ := (active_iff serviceName client).mp isActive
    obtain ⟨named, found, foundThere, reading, key⟩ := held.active serviceName client before
    refine ⟨named, found, ?_, reading, ?_⟩
    · exact (List.getElem?_set_ne (Ne.symm different)).trans foundThere
    · refine (congrArg Option.isSome (cachedHost found.sock.fd)).trans ?_
      split
      next same =>
        have isOpen := held.reading found (List.mem_of_getElem? foundThere) reading
        exact absurd (held.apart client addr found connection foundThere there isOpen same.symm)
          different
      next => exact key
  · intro key found
    have known := (congrArg Option.isSome (cachedHost key)).symm.trans found
    split at known
    next => cases known
    next otherFd =>
      obtain ⟨client, other, serviceName, otherThere, reading, sameFd, isActive⟩ :=
        held.keys key known
      have different : client ≠ addr := by
        rintro rfl
        rw [there] at otherThere
        cases otherThere
        exact otherFd sameFd
      exact ⟨client, other, serviceName, (List.getElem?_set_ne (Ne.symm different)).trans otherThere,
        reading, sameFd, (active_iff serviceName client).mpr ⟨isActive, different⟩⟩

theorem Held.noHost (held : pool.Held pairOf) {addr : Nat} {connection : Connection}
    (there : pool.connections[addr]? = some connection)
    (inactive : ∀ serviceName, pool.registry.active serviceName addr = false) (fd : Int) :
    pool.registry.cachedHost fd =
      if connection.sock.fd = fd then none else pool.registry.cachedHost fd := by
  split
  next same =>
    by_contra key
    obtain ⟨client, other, serviceName, otherThere, reading, sameFd, isActive⟩ :=
      held.keys fd (Option.isSome_iff_ne_none.mpr key)
    have isOpen := held.reading other (List.mem_of_getElem? otherThere) reading
    have sameClient := held.apart client addr other connection otherThere there isOpen
      (sameFd.trans same.symm)
    rw [sameClient, inactive] at isActive
    cases isActive
  next => rfl

theorem Held.setInactive (held : pool.Held pairOf) {addr : Nat} {connection : Connection}
    (there : pool.connections[addr]? = some connection)
    (inactive : ∀ serviceName, pool.registry.active serviceName addr = false)
    (changed : Connection) (sameAddr : changed.sock.addr = connection.sock.addr)
    (fd : changed.sock.fd = connection.sock.fd ∨ changed.sock.fd = -1)
    (stays : changed.closing ≠ .reading) :
    Held pairOf { pool with connections := pool.connections.set addr changed } := by
  apply leave_held held there _ (held.noHost there inactive) changed sameAddr fd stays
  intro serviceName client
  refine ⟨fun isActive => ⟨isActive, ?_⟩, And.left⟩
  rintro rfl
  rw [inactive] at isActive
  cases isActive

theorem removeClient_held (held : pool.Held pairOf) {addr : Nat}
    (taken : pool.step (.removeClient addr) = some following) : following.Held pairOf := by
  simp only [step, Option.bind_eq_some_iff] at taken
  obtain ⟨connection, there, taken⟩ := taken
  have sameAddr := held.addr addr connection there
  split at taken
  next reading =>
    cases taken
    cases found : pool.registry.firstServiceOf connection.sock.addr with
    | none =>
      have inactive := Registry.firstServiceOf_none found
      rw [sameAddr] at inactive
      rw [Registry.removeActiveClient_none found]
      exact held.setInactive there inactive { connection with closing := .removed _ _ } rfl (.inl rfl)
        (fun same => by cases same)
    | some entry =>
      obtain ⟨after, result, removed⟩ := Registry.removeActiveClient_some found
      rw [result]
      refine leave_held held there ?_ removed.cachedHost
        { connection with closing := .removed _ _ } rfl (.inl rfl) (fun same => by cases same)
      intro serviceName client
      rw [removed.active_iff, sameAddr]
      refine and_congr_right fun isActive => not_congr ⟨And.right, ?_⟩
      rintro rfl
      have first := removed.first.isActive
      rw [sameAddr] at first
      exact ⟨(held.active serviceName client isActive).1.trans
        (held.active entry.1 client first).1.symm, rfl⟩
  next => cases taken

theorem Held.set (held : pool.Held pairOf) {addr : Nat} {connection : Connection}
    (there : pool.connections[addr]? = some connection) (stopped : connection.closing ≠ .reading)
    (changed : Connection) (sameAddr : changed.sock.addr = connection.sock.addr)
    (fd : changed.sock.fd = connection.sock.fd ∨ changed.sock.fd = -1)
    (stays : changed.closing ≠ .reading) :
    Held pairOf { pool with connections := pool.connections.set addr changed } := by
  have inactive (serviceName : Name) : pool.registry.active serviceName addr = false := by
    rw [Bool.eq_false_iff]
    intro isActive
    obtain ⟨_, found, foundThere, reading, _⟩ := held.active serviceName addr isActive
    rw [there] at foundThere
    cases foundThere
    exact stopped reading
  exact held.setInactive there inactive changed sameAddr fd stays

theorem unregisterClient_held (held : pool.Held pairOf) {addr : Nat}
    (taken : pool.step (.unregisterClient addr) = some following) : following.Held pairOf := by
  simp only [step, Option.bind_eq_some_iff] at taken
  obtain ⟨connection, there, taken⟩ := taken
  split at taken
  next serviceName host removed =>
    cases taken
    have frame := Registry.unregister_frame pool.registry serviceName host
    have stopped : connection.closing ≠ .reading := by
      rw [removed]
      exact fun same => by cases same
    have changed := held.set there stopped { connection with closing := .unregistered } rfl
      (.inl rfl) (fun same => by cases same)
    exact changed.sameTables frame.1 frame.2
  next => cases taken

theorem close_held (held : pool.Held pairOf) {addr : Nat}
    (taken : pool.step (.close addr) = some following) : following.Held pairOf := by
  simp only [step, Option.bind_eq_some_iff] at taken
  obtain ⟨connection, there, taken⟩ := taken
  split at taken
  next unregistered =>
    cases taken
    have stopped : connection.closing ≠ .reading := by
      rw [unregistered]
      exact fun same => by cases same
    exact held.set there stopped _ rfl (.inr rfl) (fun same => by cases same)
  next => cases taken

theorem reachable_held {pool : Pool} (reached : Transition.ReachableWhen step
    (fun pool event => registersOnePair pairOf event = true ∧ pool.storesBeforeClose event = true)
    initial pool) : pool.Held pairOf := by
  refine reached.invariant (Held pairOf) held_initial ?_
  intro pool event following held meets taken
  cases event with
  | accept fd destIp =>
    simp only [step] at taken
    split at taken
    next fresh =>
      cases taken
      exact accept_held held destIp fresh.1 fresh.2
    next => cases taken
  | frame addr request =>
    simp only [step, Option.bind_eq_some_iff] at taken
    obtain ⟨connection, there, taken⟩ := taken
    split at taken
    next =>
      cases taken
      refine { held with queued := ?_ }
      intro task member req register
      rcases List.mem_append.mp member with older | newer
      · exact held.queued task older req register
      · rw [List.mem_singleton.mp newer] at register ⊢
        have meets := meets.1
        simp only at register
        simp only [register, registersOnePair, Bool.and_eq_true, beq_iff_eq] at meets
        exact meets.1
    next => cases taken
  | take =>
    simp only [step] at taken
    split at taken
    next => cases taken
    next addr request rest tasks =>
      cases taken
      refine { held with queued := ?_, running := ?_ }
      · intro task member
        exact held.queued task (by rw [tasks]; exact List.mem_cons_of_mem _ member)
      · intro task member req register
        rcases List.mem_append.mp member with older | newer
        · exact held.running task older req register
        · rw [List.mem_singleton.mp newer] at register ⊢
          exact held.queued (addr, request) (by rw [tasks]; exact List.mem_cons_self) req register
  | work worker => exact work_held held meets.2 taken
  | removeClient addr => exact removeClient_held held taken
  | unregisterClient addr => exact unregisterClient_held held taken
  | close addr => exact close_held held taken

theorem no_closed_connection_registered (pairOf : Nat -> Name × ClientHost) (pool : Pool)
    (reached : Transition.ReachableWhen step (fun pool event =>
      registersOnePair pairOf event = true ∧ pool.storesBeforeClose event = true) initial pool) :
    pool.OnlyOpenRegistered :=
  (reachable_held reached).onlyOpenRegistered

def samplePair (_ : Nat) : Name × ClientHost := ([65], { ip := 9, port := 80, busyState := 0 })

def registerFrame (addr : Nat) : PoolEvent :=
  .frame addr (.register { msgId := 1, serviceName := [65]
                           serviceHost := { ip := 9, port := 80, busyState := 0 } })

def leftInTime : List PoolEvent :=
  [.accept 3 1, .accept 4 2, registerFrame 0, .take, .work 0, .work 0, .work 0, .removeClient 0,
    .unregisterClient 0, registerFrame 1, .close 0, .take, .work 0, .work 0, .work 0]

theorem no_closed_connection_leftInTime :
    ((Transition.run step initial leftInTime).getD initial).OnlyOpenRegistered :=
  no_closed_connection_registered samplePair _ (.run .start leftInTime rfl)

-- A worker still holds the request when the connection closes.
def leftTooEarly : List PoolEvent :=
  [.accept 3 1, registerFrame 0, .take, .work 0, .work 0, .removeClient 0, .unregisterClient 0,
    .close 0, .work 0]

theorem closed_connection_registered :
    ¬ ∀ (pairOf : Nat -> Name × ClientHost) (pool : Pool),
      Transition.ReachableWhen step (fun _ event => registersOnePair pairOf event = true)
        initial pool → pool.Quiet → pool.OnlyOpenRegistered := by
  intro always
  have left := always samplePair ((Transition.run step initial leftTooEarly).getD initial)
    (.run .start leftTooEarly rfl) ⟨rfl, rfl⟩
  exact absurd rfl ((left.keys (-1)).mp (by decide)).1

theorem worked_alone (pool : Pool) {connection : Connection} {addr : Nat}
    (request : Registry.Request) (there : pool.connections[addr]? = some connection) :
    ∃ count, Transition.run step
        { pool with running := [{ addr, request, progress := .taken }] }
        (List.replicate count (.work 0)) =
      some { pool with
        registry := pool.registry.processDataFromClient connection.sock request
        running := [] } := by
  cases request with
  | register req =>
    by_cases named : req.serviceName = []
    · exact ⟨2, by simp [Transition.run, step, there, Running.advance, Registry.Request.serviceName,
        Registry.processDataFromClient, Registry.processRegisterReq, named]⟩
    · exact ⟨3, by simp [Transition.run, step, there, Running.advance, Registry.Request.serviceName,
        Registry.Request.serviceHost, Registry.processDataFromClient, Registry.processRegisterReq,
        named]⟩
  | unregister req =>
    by_cases registered : pool.registry.checkRegisterClient connection.sock = true
    · by_cases named : req.serviceName = []
      · exact ⟨2, by simp [Transition.run, step, there, Running.advance,
          Registry.Request.serviceName, Registry.processDataFromClient,
          Registry.processUnregisterReq, named, registered]⟩
      · exact ⟨3, by simp [Transition.run, step, there, Running.advance,
          Registry.Request.serviceName, Registry.Request.serviceHost,
          Registry.processDataFromClient, Registry.processUnregisterReq, named, registered]⟩
    · exact ⟨1, by simp [Transition.run, step, there, Running.advance,
        Registry.processDataFromClient, registered]⟩

theorem closed_alone (pool : Pool) {connection : Connection} {addr : Nat}
    (there : pool.connections[addr]? = some connection) (reading : connection.closing = .reading) :
    Transition.run step pool [.removeClient addr, .unregisterClient addr, .close addr] =
      some { pool with
        registry := pool.registry.serverOnClose connection.sock
        connections := pool.connections.set addr
          { sock := connection.sock.close, closing := .closed } } := by
  obtain ⟨inside, rfl⟩ := List.getElem?_eq_some_iff.mp there
  simp [Transition.run, step, reading, inside, Registry.serverOnClose]

end Pool
end MessageBus.Server
