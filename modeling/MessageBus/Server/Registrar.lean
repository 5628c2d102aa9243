import MessageBus.Server.Pool
import MessageBus.Server.WellFormed
import MessageBus.Shared.InPlace
import MessageBus.Shared.Serial

set_option autoImplicit false

namespace MessageBus.Server

inductive TableOp where
  | registerHost (sock : TcpSock) (serviceName : Name) (host : ClientHost)
  | unregisterClientFromService (serviceName : Name) (host : ClientHost)
  | getClient (rand : Rand) (destName : Name)
  | removeActiveClient (sock : TcpSock)
  deriving DecidableEq, Repr

inductive TableAnswer where
  | registered (errMsg : Option String)
  | unregistered
  | gotClient (host : Option ClientHost)
  | removed (serviceName : Name) (host : ClientHost)
  deriving DecidableEq, Repr

def Registry.serve (registry : Registry) : TableOp -> TableAnswer × Registry
  | .registerHost sock serviceName host =>
    let registered := registry.registerHost sock serviceName host
    (.registered registered.1, registered.2)
  | .unregisterClientFromService serviceName host =>
    (.unregistered, registry.unregisterClientFromService serviceName host)
  | .getClient rand destName =>
    (.gotClient ((registry.availableServices[destName]?).bind (selectBestHost rand)), registry)
  | .removeActiveClient sock =>
    let removed := registry.removeActiveClient sock
    (.removed removed.2.1 removed.2.2, removed.1)

namespace Registry

variable (registry : Registry) (sock : TcpSock)

theorem processRegisterReq_serves (req : MsgBusRegisterReq) (named : req.serviceName ≠ []) :
    ∃ errMsg after, registry.processRegisterReq sock req = (registerAnswer req errMsg, after) ∧
      registry.serve (.registerHost sock req.serviceName (resolveHost sock req.serviceHost)) =
        (.registered errMsg, after) :=
  ⟨_, _, if_neg named, rfl⟩

theorem processGetclientReq_serves (rand : Rand) (req : MsgBusGetClientReq) :
    ∃ found, registry.serve (.getClient rand req.destName) = (.gotClient found, registry) ∧
      registry.processGetclientReq rand req =
        { msgId := req.msgId, retCode := if found.isSome then 0 else 1, destName := req.destName
          destHost := found.getD ClientHost.unset } := by
  refine ⟨_, rfl, ?_⟩
  rw [processGetclientReq]
  split
  next host found =>
    rw [found]
    rfl
  next missing =>
    rw [missing]
    rfl

end Registry

inductive NameRequest where
  | register (serviceName : Name) (host : ClientHost)
  | unregister (serviceName : Name) (host : ClientHost)
  | getClient (destName : Name)
  deriving DecidableEq, Repr

inductive NameStage where
  | taken
  | checked
  | resolved (host : ClientHost)
  | answering (answer : TableAnswer)
  deriving DecidableEq, Repr

inductive NameOutcome where
  | goes (stage : NameStage)
  | serves (op : TableOp)
  | sends (answer : TableAnswer)
  | returns

def emptyNameAnswer : TableAnswer := .registered (some "empty name is not allowed.")

def NameRequest.advance (request : NameRequest) (registry : Registry) (sock : TcpSock)
    (rand : Rand) : NameStage -> NameOutcome
  | .taken =>
    match request with
    | .register _ _ => .goes .checked
    | .unregister _ _ | .getClient _ =>
      if registry.checkRegisterClient sock then .goes .checked else .returns
  | .checked =>
    match request with
    | .register serviceName host =>
      if serviceName = [] then .goes (.answering emptyNameAnswer)
      else .goes (.resolved (Registry.resolveHost sock host))
    | .unregister serviceName host =>
      if serviceName = [] then .returns else .goes (.resolved (Registry.resolveHost sock host))
    | .getClient destName => .serves (.getClient rand destName)
  | .resolved host =>
    match request with
    | .register serviceName _ => .serves (.registerHost sock serviceName host)
    | .unregister serviceName _ => .serves (.unregisterClientFromService serviceName host)
    | .getClient _ => .returns
  -- process_getclient_req sends its answer under the lock, but looks at no table any more.
  | .answering answer => .sends answer

def TableAnswer.stage : TableAnswer -> Option NameStage
  | .unregistered => none
  | answer => some (.answering answer)

structure AcceptedSock where
  peer : UInt32
  sock : TcpSock
  closing : Closing
  deriving DecidableEq, Repr

-- The tables, and those who read and write them: the workers with their requests, which are
-- numbered as server_onRead queues them, and server_onClose.
structure Registrar where
  registry : Registry
  connections : List AcceptedSock
  requests : List (Nat × NameRequest)
  workTasks : List Nat
  workers : List (Nat × NameStage)
  history : List (Serial.Entry Nat TableOp TableAnswer)
  -- What the workers gave to SendData.
  answered : List (Nat × TableAnswer)

inductive RegistrarEvent where
  | accept (fd : Int) (peer : UInt32)
  | read (addr : Nat) (request : NameRequest)
  | take
  | work (worker : Nat) (rand : Rand)
  | removeClient (addr : Nat)
  | unregisterClient (addr : Nat)
  | close (addr : Nat)
  deriving DecidableEq, Repr

namespace Registrar

def initial : Registrar :=
  { registry := .empty, connections := [], requests := [], workTasks := [], workers := []
    history := [], answered := [] }

def serve (registrar : Registrar) (call : Option Nat) (op : TableOp) : Registrar :=
  let result := registrar.registry.serve op
  { registrar with
    registry := result.2
    history := registrar.history ++ [{ call, op, answer := result.1 }] }

def putStage (registrar : Registrar) (worker number : Nat) : Option NameStage -> Registrar
  | some stage => { registrar with workers := registrar.workers.set worker (number, stage) }
  | none => { registrar with workers := registrar.workers.eraseIdx worker }

def step (registrar : Registrar) : RegistrarEvent -> Option Registrar
  | .accept fd peer =>
    if 0 ≤ fd ∧ ∀ connection ∈ registrar.connections, connection.sock.fd ≠ fd then
      let sock := { addr := registrar.connections.length, fd, destIp := peer }
      some { registrar with
        connections := registrar.connections ++ [{ peer, sock, closing := .reading }] }
    else none
  | .read addr request =>
    (registrar.connections[addr]?).bind fun connection =>
      if connection.closing = .reading then
        some { registrar with
          requests := registrar.requests ++ [(addr, request)]
          workTasks := registrar.workTasks ++ [registrar.requests.length] }
      else none
  | .take =>
    match registrar.workTasks with
    | [] => none
    | number :: workTasks =>
      some { registrar with workTasks, workers := registrar.workers ++ [(number, .taken)] }
  | .work worker rand =>
    (registrar.workers[worker]?).bind fun task =>
      (registrar.requests[task.1]?).bind fun request =>
        (registrar.connections[request.1]?).map fun connection =>
          match request.2.advance registrar.registry connection.sock rand task.2 with
          | .goes stage => registrar.putStage worker task.1 (some stage)
          | .serves op =>
            (registrar.serve (some task.1) op).putStage worker task.1
              (registrar.registry.serve op).1.stage
          | .sends answer =>
            { registrar.putStage worker task.1 none with
              answered := registrar.answered ++ [(task.1, answer)] }
          | .returns => registrar.putStage worker task.1 none
  | .removeClient addr =>
    (registrar.connections[addr]?).bind fun connection =>
      if connection.closing = .reading then
        let removed := registrar.registry.removeActiveClient connection.sock
        some { registrar.serve none (.removeActiveClient connection.sock) with
          connections := registrar.connections.set addr
            { connection with closing := .removed removed.2.1 removed.2.2 } }
      else none
  | .unregisterClient addr =>
    (registrar.connections[addr]?).bind fun connection =>
      match connection.closing with
      | .removed serviceName host =>
        some { registrar.serve none (.unregisterClientFromService serviceName host) with
          connections := registrar.connections.set addr
            { connection with closing := .unregistered } }
      | _ => none
  | .close addr =>
    (registrar.connections[addr]?).bind fun connection =>
      if connection.closing = .unregistered then
        some { registrar with
          connections := registrar.connections.set addr
            { connection with sock := connection.sock.close, closing := .closed } }
      else none

inductive Change (registrar : Registrar) : Registrar -> Prop where
  | accept (fd : Int) (peer : UInt32) :
      Change registrar { registrar with
        connections := registrar.connections ++ [{
          peer, closing := .reading
          sock := { addr := registrar.connections.length, fd, destIp := peer } }] }
  | read (addr : Nat) (request : NameRequest) (connection : AcceptedSock)
      (found : registrar.connections[addr]? = some connection) :
      Change registrar { registrar with
        requests := registrar.requests ++ [(addr, request)]
        workTasks := registrar.workTasks ++ [registrar.requests.length] }
  | take (number : Nat) (workTasks : List Nat) (front : registrar.workTasks = number :: workTasks) :
      Change registrar { registrar with
        workTasks, workers := registrar.workers ++ [(number, .taken)] }
  | goes (worker number addr : Nat) (stage next : NameStage) (request : NameRequest)
      (connection : AcceptedSock) (rand : Rand)
      (there : registrar.workers[worker]? = some (number, stage))
      (asked : registrar.requests[number]? = some (addr, request))
      (found : registrar.connections[addr]? = some connection)
      (outcome : request.advance registrar.registry connection.sock rand stage = .goes next) :
      Change registrar
        { registrar with workers := registrar.workers.set worker (number, next) }
  | serves (worker number addr : Nat) (stage : NameStage) (op : TableOp) (request : NameRequest)
      (connection : AcceptedSock) (rand : Rand)
      (there : registrar.workers[worker]? = some (number, stage))
      (asked : registrar.requests[number]? = some (addr, request))
      (found : registrar.connections[addr]? = some connection)
      (outcome : request.advance registrar.registry connection.sock rand stage = .serves op) :
      Change registrar ((registrar.serve (some number) op).putStage worker number
        (registrar.registry.serve op).1.stage)
  | sends (worker number : Nat) (answer : TableAnswer)
      (there : registrar.workers[worker]? = some (number, .answering answer)) :
      Change registrar { registrar with
        workers := registrar.workers.eraseIdx worker
        answered := registrar.answered ++ [(number, answer)] }
  | returns (worker : Nat) :
      Change registrar { registrar with workers := registrar.workers.eraseIdx worker }
  | onClose (addr : Nat) (connection : AcceptedSock) (closing : Closing) (op : TableOp)
      (found : registrar.connections[addr]? = some connection)
      (opened : connection.closing ≠ .closed)
      (leaves : ∀ sock serviceName host, op ≠ .registerHost sock serviceName host) :
      Change registrar { registrar.serve none op with
        connections := registrar.connections.set addr { connection with closing } }
  | close (addr : Nat) (connection : AcceptedSock)
      (found : registrar.connections[addr]? = some connection) :
      Change registrar { registrar with
        connections := registrar.connections.set addr
          { connection with sock := connection.sock.close, closing := .closed } }

variable {registrar following : Registrar}

theorem advance_sends {request : NameRequest} {registry : Registry} {sock : TcpSock} {rand : Rand}
    {stage : NameStage} {answer : TableAnswer}
    (outcome : request.advance registry sock rand stage = .sends answer) :
    stage = .answering answer := by
  cases stage with
  | taken | checked =>
    cases request <;> simp only [NameRequest.advance, reduceCtorEq] at outcome <;>
      split at outcome <;> cases outcome
  | resolved given => cases request <;> cases outcome
  | answering own =>
    cases outcome
    rfl

theorem step_changes {event : RegistrarEvent} (taken : registrar.step event = some following) :
    Change registrar following := by
  cases event with
  | accept fd peer =>
    simp only [step] at taken
    split at taken <;> cases taken
    exact .accept fd peer
  | read addr request =>
    obtain ⟨connection, found, taken⟩ := Option.bind_eq_some_iff.mp taken
    split at taken <;> cases taken
    exact .read addr request connection found
  | take =>
    simp only [step] at taken
    split at taken <;> cases taken
    next number workTasks front => exact .take number workTasks front
  | work worker rand =>
    simp only [step, Option.bind_eq_some_iff, Option.map_eq_some_iff] at taken
    obtain ⟨⟨number, stage⟩, there, ⟨addr, request⟩, asked, connection, found, rfl⟩ := taken
    dsimp only
    split
    next next outcome =>
      exact .goes worker number addr stage next request connection rand there asked found outcome
    next op outcome =>
      exact .serves worker number addr stage op request connection rand there asked found outcome
    next answer outcome =>
      obtain rfl := advance_sends outcome
      exact .sends worker number answer there
    next => exact .returns worker
  | removeClient addr =>
    obtain ⟨connection, found, taken⟩ := Option.bind_eq_some_iff.mp taken
    split at taken <;> cases taken
    next reading => exact .onClose addr connection _ _ found (by simp [reading]) (by simp)
  | unregisterClient addr =>
    obtain ⟨connection, found, taken⟩ := Option.bind_eq_some_iff.mp taken
    split at taken <;> cases taken
    next removed => exact .onClose addr connection _ _ found (by simp [removed]) (by simp)
  | close addr =>
    obtain ⟨connection, found, taken⟩ := Option.bind_eq_some_iff.mp taken
    split at taken <;> cases taken
    exact .close addr connection found

end Registrar
end MessageBus.Server
