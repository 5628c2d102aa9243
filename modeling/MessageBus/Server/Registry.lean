import MessageBus.Shared.Bytes

set_option autoImplicit false

namespace MessageBus.Server

-- The names are compared byte by byte, as std::string does.
abbrev Name := Bytes

-- An ip of 0 stands for the empty address.
structure ClientHost where
  ip : UInt32
  port : UInt16
  busyState : UInt32
  deriving DecidableEq, Repr

def ClientHost.unset : ClientHost := { ip := 0, port := 0, busyState := 0 }

def ClientHost.address (host : ClientHost) : UInt32 × UInt16 := (host.ip, host.port)

def clientHostIsEqual (left right : ClientHost) : Bool :=
  left.ip == right.ip && left.port == right.port

-- The address of a connection is a number that no other connection ever gets.
structure TcpSock where
  addr : Nat
  fd : Int
  destIp : UInt32
  deriving DecidableEq, Repr

def TcpSock.close (sock : TcpSock) : TcpSock := { sock with fd := -1, destIp := 0 }

structure Registry where
  availableServices : Std.ExtTreeMap Name (List ClientHost)
  activeClients : Std.ExtTreeMap Name (Std.ExtTreeSet Nat)
  tcpServicesMap : Std.ExtTreeMap Int ClientHost

structure MsgBusRegisterReq where
  msgId : UInt32
  serviceName : Name
  serviceHost : ClientHost
  deriving DecidableEq, Repr

structure MsgBusRegisterRsp where
  msgId : UInt32
  retCode : UInt16
  serviceName : Name
  errMsg : String
  deriving DecidableEq, Repr

structure MsgBusUnRegisterReq where
  serviceName : Name
  serviceHost : ClientHost
  deriving DecidableEq, Repr

namespace Registry

def empty : Registry := { availableServices := ∅, activeClients := ∅, tcpServicesMap := ∅ }

def checkRegisterClient (registry : Registry) (sock : TcpSock) : Bool :=
  registry.tcpServicesMap.contains sock.fd

def unregisterClientFromService (registry : Registry) (serviceName : Name) (host : ClientHost) :
    Registry :=
  match registry.availableServices[serviceName]? with
  | none => registry
  | some hosts =>
    if hosts.any fun listed => clientHostIsEqual listed host then
      let hosts := hosts.eraseP fun listed => clientHostIsEqual listed host
      { registry with availableServices :=
          if hosts.isEmpty then registry.availableServices.erase serviceName
          else registry.availableServices.insert serviceName hosts }
    else registry

-- The loop of server_onClose: the first service, in the order of the names, with the client.
def firstServiceOf (registry : Registry) (addr : Nat) : Option (Name × Std.ExtTreeSet Nat) :=
  registry.activeClients.toList.find? fun entry => entry.2.contains addr

def eraseClient (registry : Registry) (sock : TcpSock) (serviceName : Name)
    (clients : Std.ExtTreeSet Nat) : Registry :=
  let clients := clients.erase sock.addr
  { registry with
    activeClients :=
      if clients.isEmpty then registry.activeClients.erase serviceName
      else registry.activeClients.insert serviceName clients
    tcpServicesMap := registry.tcpServicesMap.erase sock.fd }

def removeActiveClient (registry : Registry) (sock : TcpSock) : Registry × Name × ClientHost :=
  match registry.firstServiceOf sock.addr with
  | none => (registry, [], ClientHost.unset)
  | some (serviceName, clients) =>
    (registry.eraseClient sock serviceName clients, serviceName,
      registry.tcpServicesMap.getD sock.fd ClientHost.unset)

def serverOnClose (registry : Registry) (sock : TcpSock) : Registry :=
  let removed := registry.removeActiveClient sock
  removed.1.unregisterClientFromService removed.2.1 removed.2.2

-- An address left out of a request is the one the connection comes from.
def resolveHost (sock : TcpSock) (host : ClientHost) : ClientHost :=
  if host.ip = 0 then { host with ip := sock.destIp } else host

def updateState (host : ClientHost) : List ClientHost -> List ClientHost
  | [] => []
  | listed :: rest =>
    if clientHostIsEqual listed host then { listed with busyState := host.busyState } :: rest
    else listed :: updateState host rest

def storeConnection (registry : Registry) (sock : TcpSock) (serviceName : Name)
    (host : ClientHost) : Registry :=
  { registry with
    activeClients := registry.activeClients.insert serviceName
      ((registry.activeClients.getD serviceName ∅).insert sock.addr)
    tcpServicesMap := registry.tcpServicesMap.insert sock.fd host }

def registerHost (registry : Registry) (sock : TcpSock) (serviceName : Name) (host : ClientHost) :
    Option String × Registry :=
  match registry.availableServices[serviceName]? with
  | some hosts =>
    if hosts.any fun listed => clientHostIsEqual listed host then
      (none, { registry with availableServices :=
          registry.availableServices.insert serviceName (updateState host hosts) })
    else
      (none, { registry with availableServices :=
          registry.availableServices.insert serviceName (hosts ++ [host]) }.storeConnection
        sock serviceName host)
  | none =>
    if host.port ≠ 0 then
      (none, { registry with availableServices :=
          registry.availableServices.insert serviceName [host] }.storeConnection
        sock serviceName host)
    else if registry.activeClients.contains serviceName then
      (some "Register without service port can only be registered once.", registry)
    else (none, registry.storeConnection sock serviceName host)

def storesConnection (registry : Registry) (serviceName : Name) (host : ClientHost) : Bool :=
  match registry.availableServices[serviceName]? with
  | some hosts => !hosts.any fun listed => clientHostIsEqual listed host
  | none => host.port != 0 || !registry.activeClients.contains serviceName

def registerAnswer (req : MsgBusRegisterReq) : Option String -> MsgBusRegisterRsp
  | none => { msgId := req.msgId, retCode := 0, serviceName := req.serviceName, errMsg := "" }
  | some errMsg => { msgId := req.msgId, retCode := 1, serviceName := req.serviceName, errMsg }

def processRegisterReq (registry : Registry) (sock : TcpSock) (req : MsgBusRegisterReq) :
    MsgBusRegisterRsp × Registry :=
  if req.serviceName = [] then (registerAnswer req (some "empty name is not allowed."), registry)
  else
    let registered := registry.registerHost sock req.serviceName (resolveHost sock req.serviceHost)
    (registerAnswer req registered.1, registered.2)

def processUnregisterReq (registry : Registry) (sock : TcpSock) (req : MsgBusUnRegisterReq) :
    Registry :=
  if req.serviceName = [] then registry
  else registry.unregisterClientFromService req.serviceName (resolveHost sock req.serviceHost)

inductive Request where
  | register (req : MsgBusRegisterReq)
  | unregister (req : MsgBusUnRegisterReq)
  deriving DecidableEq, Repr

def processDataFromClient (registry : Registry) (sock : TcpSock) (request : Request) : Registry :=
  let checkReg := registry.checkRegisterClient sock
  match request with
  | .register req => (registry.processRegisterReq sock req).2
  | .unregister req => if checkReg then registry.processUnregisterReq sock req else registry

def addresses (registry : Registry) (serviceName : Name) : List (UInt32 × UInt16) :=
  (registry.availableServices.getD serviceName []).map ClientHost.address

def active (registry : Registry) (serviceName : Name) (addr : Nat) : Bool :=
  (registry.activeClients.getD serviceName ∅).contains addr

def cachedHost (registry : Registry) (fd : Int) : Option ClientHost := registry.tcpServicesMap[fd]?

structure IsFirst (registry : Registry) (addr : Nat) (serviceName : Name) : Prop where
  isActive : registry.active serviceName addr = true
  least : ∀ other, registry.active other addr = true → (compare serviceName other).isLE = true

theorem active_iff {registry : Registry} {serviceName : Name} {addr : Nat} :
    registry.active serviceName addr = true ↔ ∃ clients : Std.ExtTreeSet Nat,
      registry.activeClients[serviceName]? = some clients ∧ clients.contains addr = true := by
  rw [active, Std.ExtTreeMap.getD_eq_getD_getElem?]
  cases registry.activeClients[serviceName]? <;> simp

theorem firstServiceOf_some {registry : Registry} {addr : Nat} {serviceName : Name}
    {clients : Std.ExtTreeSet Nat}
    (found : registry.firstServiceOf addr = some (serviceName, clients)) :
    registry.activeClients[serviceName]? = some clients ∧ registry.IsFirst addr serviceName := by
  obtain ⟨contains, before, after, split, earlier⟩ := List.find?_eq_some_iff_append.mp found
  have there : registry.activeClients[serviceName]? = some clients := by
    apply Std.ExtTreeMap.mem_toList_iff_getElem?_eq_some.mp
    simp [split]
  refine ⟨there, active_iff.mpr ⟨clients, there, contains⟩, ?_⟩
  intro other isActive
  obtain ⟨others, otherThere, otherContains⟩ := active_iff.mp isActive
  have member := Std.ExtTreeMap.mem_toList_iff_getElem?_eq_some.mpr otherThere
  have ordered := registry.activeClients.ordered_keys_toList
  rw [split] at member ordered
  rcases List.mem_append.mp member with inBefore | inRest
  · have skipped := earlier _ inBefore
    simp [otherContains] at skipped
  · rcases List.mem_cons.mp inRest with same | inAfter
    · cases same
      simp [Std.ReflCmp.compare_self]
    · have less := (List.pairwise_cons.mp (List.pairwise_append.mp ordered).2.1).1 _ inAfter
      simp only at less
      rw [less]
      rfl

theorem firstServiceOf_none {registry : Registry} {addr : Nat}
    (missing : registry.firstServiceOf addr = none) (serviceName : Name) :
    registry.active serviceName addr = false := by
  rw [Bool.eq_false_iff]
  intro isActive
  obtain ⟨clients, there, contains⟩ := active_iff.mp isActive
  have member := Std.ExtTreeMap.mem_toList_iff_getElem?_eq_some.mpr there
  exact List.find?_eq_none.mp missing _ member contains

theorem IsFirst.unique {registry : Registry} {addr : Nat} {serviceName other : Name}
    (first : registry.IsFirst addr serviceName) (second : registry.IsFirst addr other) :
    serviceName = other := by
  have forward := first.least other second.isActive
  have backward := second.least serviceName first.isActive
  exact Std.LawfulEqCmp.compare_eq_iff_eq.mp (Std.OrientedCmp.isLE_antisymm forward backward)

@[simp] theorem clientHostIsEqual_iff {left right : ClientHost} :
    clientHostIsEqual left right = true ↔ left.address = right.address := by
  simp [clientHostIsEqual, ClientHost.address]

theorem any_isEqual {hosts : List ClientHost} {host : ClientHost} :
    (hosts.any fun listed => clientHostIsEqual listed host) = true ↔
      host.address ∈ hosts.map ClientHost.address := by
  simp only [List.any_eq_true, clientHostIsEqual_iff, List.mem_map]

theorem address_eraseP (hosts : List ClientHost) (host : ClientHost) :
    (hosts.eraseP fun listed => clientHostIsEqual listed host).map ClientHost.address =
      (hosts.map ClientHost.address).erase host.address := by
  induction hosts with
  | nil => rfl
  | cons listed rest ih =>
    by_cases same : listed.address = host.address
    · simp [same]
    · simp [same, ih]

theorem address_updateState (host : ClientHost) (hosts : List ClientHost) :
    (updateState host hosts).map ClientHost.address = hosts.map ClientHost.address := by
  induction hosts with
  | nil => rfl
  | cons listed rest ih =>
    simp only [updateState]
    split
    · rfl
    · simp only [List.map_cons, ih]

theorem addresses_insert (registry : Registry) (serviceName : Name) (hosts : List ClientHost)
    (other : Name) :
    addresses { registry with
        availableServices := registry.availableServices.insert serviceName hosts } other =
      if serviceName = other then hosts.map ClientHost.address else registry.addresses other := by
  simp only [addresses, Std.ExtTreeMap.getD_insert, Std.LawfulEqCmp.compare_eq_iff_eq]
  split <;> rfl

theorem addresses_of_some {registry : Registry} {serviceName : Name} {hosts : List ClientHost}
    (found : registry.availableServices[serviceName]? = some hosts) :
    registry.addresses serviceName = hosts.map ClientHost.address := by
  simp [addresses, Std.ExtTreeMap.getD_eq_getD_getElem?, found]

theorem addresses_of_none {registry : Registry} {serviceName : Name}
    (missing : registry.availableServices[serviceName]? = none) :
    registry.addresses serviceName = [] := by
  simp [addresses, Std.ExtTreeMap.getD_eq_getD_getElem?, missing]

theorem unregister_addresses (registry : Registry) (serviceName : Name) (host : ClientHost)
    (other : Name) :
    (registry.unregisterClientFromService serviceName host).addresses other =
      if serviceName = other then (registry.addresses other).erase host.address
      else registry.addresses other := by
  unfold unregisterClientFromService
  cases found : registry.availableServices[serviceName]? with
  | none =>
    by_cases same : serviceName = other
    · rw [if_pos same, ← same, addresses_of_none found]
      rfl
    · rw [if_neg same]
  | some hosts =>
    have here := addresses_of_some found
    dsimp only
    by_cases listed : (hosts.any fun listed => clientHostIsEqual listed host) = true
    · rw [if_pos listed]
      have erased := address_eraseP hosts host
      rw [← here] at erased
      by_cases empty : (hosts.eraseP fun listed => clientHostIsEqual listed host).isEmpty = true
      · rw [if_pos empty]
        rw [List.isEmpty_iff.mp empty] at erased
        simp only [addresses, Std.ExtTreeMap.getD_erase, Std.LawfulEqCmp.compare_eq_iff_eq]
        by_cases same : serviceName = other
        · rw [if_pos same, if_pos same, ← same]
          exact erased
        · rw [if_neg same, if_neg same]
      · rw [if_neg empty, addresses_insert]
        by_cases same : serviceName = other
        · rw [if_pos same, if_pos same, ← same, erased]
        · rw [if_neg same, if_neg same]
    · rw [if_neg listed]
      rw [any_isEqual, ← here] at listed
      by_cases same : serviceName = other
      · rw [if_pos same, ← same, List.erase_of_not_mem listed]
      · rw [if_neg same]

theorem unregister_frame (registry : Registry) (serviceName : Name) (host : ClientHost) :
    (registry.unregisterClientFromService serviceName host).activeClients = registry.activeClients ∧
      (registry.unregisterClientFromService serviceName host).tcpServicesMap =
        registry.tcpServicesMap := by
  unfold unregisterClientFromService
  split
  · exact ⟨rfl, rfl⟩
  · split <;> exact ⟨rfl, rfl⟩

theorem storeConnection_active (registry : Registry) (sock : TcpSock) (serviceName : Name)
    (host : ClientHost) (other : Name) (addr : Nat) :
    (registry.storeConnection sock serviceName host).active other addr = true ↔
      registry.active other addr = true ∨ serviceName = other ∧ sock.addr = addr := by
  simp only [storeConnection, active, Std.ExtTreeMap.getD_insert,
    Std.LawfulEqCmp.compare_eq_iff_eq]
  by_cases same : serviceName = other
  · rw [if_pos same, Std.ExtTreeSet.contains_insert, same]
    simp [or_comm]
  · simp [same]

theorem storeConnection_cachedHost (registry : Registry) (sock : TcpSock) (serviceName : Name)
    (host : ClientHost) (fd : Int) :
    (registry.storeConnection sock serviceName host).cachedHost fd =
      if sock.fd = fd then some host else registry.cachedHost fd := by
  simp only [storeConnection, cachedHost, Std.ExtTreeMap.getElem?_insert,
    Std.LawfulEqCmp.compare_eq_iff_eq]

inductive Registered (registry : Registry) (sock : TcpSock) (serviceName : Name)
    (host : ClientHost) : Option String -> Registry -> Prop where
  | known {after : Registry} (listed : host.address ∈ registry.addresses serviceName)
      (sameAddresses : after.addresses = registry.addresses)
      (sameActive : after.activeClients = registry.activeClients)
      (sameHosts : after.tcpServicesMap = registry.tcpServicesMap) :
      Registered registry sock serviceName host none after
  | pushed {after : Registry} (unlisted : host.address ∉ registry.addresses serviceName)
      (pushes : ∀ other, after.addresses other =
        if serviceName = other then registry.addresses other ++ [host.address]
        else registry.addresses other)
      (sameActive : after.activeClients = registry.activeClients)
      (sameHosts : after.tcpServicesMap = registry.tcpServicesMap) :
      Registered registry sock serviceName host none (after.storeConnection sock serviceName host)
  | connected (unlisted : host.address ∉ registry.addresses serviceName) :
      Registered registry sock serviceName host none
        (registry.storeConnection sock serviceName host)
  | refused (unlisted : host.address ∉ registry.addresses serviceName) (errMsg : String) :
      Registered registry sock serviceName host (some errMsg) registry

theorem registerHost_correct (registry : Registry) (sock : TcpSock) (serviceName : Name)
    (host : ClientHost) :
    Registered registry sock serviceName host (registry.registerHost sock serviceName host).1
      (registry.registerHost sock serviceName host).2 := by
  unfold registerHost
  cases found : registry.availableServices[serviceName]? with
  | some hosts =>
    have here := addresses_of_some found
    dsimp only
    by_cases listed : (hosts.any fun listed => clientHostIsEqual listed host) = true
    · rw [if_pos listed]
      rw [any_isEqual, ← here] at listed
      refine .known listed ?_ rfl rfl
      funext other
      rw [addresses_insert, address_updateState, ← here]
      split
      next same => rw [same]
      next => rfl
    · rw [if_neg listed]
      rw [any_isEqual, ← here] at listed
      refine .pushed listed (fun other => ?_) rfl rfl
      rw [addresses_insert, List.map_append, ← here]
      split
      next same =>
        rw [same]
        rfl
      next => rfl
  | none =>
    have empty := addresses_of_none found
    have unlisted : host.address ∉ registry.addresses serviceName := by
      rw [empty]
      exact List.not_mem_nil
    dsimp only
    by_cases port : host.port ≠ 0
    · rw [if_pos port]
      refine .pushed unlisted (fun other => ?_) rfl rfl
      rw [addresses_insert]
      split
      next same =>
        rw [← same, empty]
        rfl
      next => rfl
    · rw [if_neg port]
      split
      · exact .refused unlisted _
      · exact .connected unlisted

theorem registerHost_stores {registry : Registry} {serviceName : Name} {host : ClientHost}
    (sock : TcpSock) (stores : registry.storesConnection serviceName host = true) :
    ∃ listing, (registry.registerHost sock serviceName host).2 =
      storeConnection { registry with availableServices := listing } sock serviceName host := by
  unfold storesConnection at stores
  unfold registerHost
  cases found : registry.availableServices[serviceName]? with
  | some hosts =>
    simp only [found, Bool.not_eq_true'] at stores
    refine ⟨registry.availableServices.insert serviceName (hosts ++ [host]), ?_⟩
    simp only [stores, Bool.false_eq_true, if_false]
  | none =>
    simp only [found, Bool.or_eq_true, bne_iff_ne, Bool.not_eq_true'] at stores
    by_cases port : host.port ≠ 0
    · exact ⟨registry.availableServices.insert serviceName [host], by simp [port]⟩
    · rcases stores with provider | unique
      · exact absurd provider port
      · exact ⟨registry.availableServices, by simp [port, unique]⟩

theorem registerHost_spares {registry : Registry} {serviceName : Name} {host : ClientHost}
    (sock : TcpSock) (spares : registry.storesConnection serviceName host = false) :
    (registry.registerHost sock serviceName host).2.activeClients = registry.activeClients ∧
      (registry.registerHost sock serviceName host).2.tcpServicesMap = registry.tcpServicesMap := by
  unfold storesConnection at spares
  unfold registerHost
  cases found : registry.availableServices[serviceName]? with
  | some hosts =>
    simp only [found, Bool.not_eq_false'] at spares
    simp only [spares, if_true, and_self]
  | none =>
    simp only [found, Bool.or_eq_false_iff, bne_eq_false_iff_eq, Bool.not_eq_false'] at spares
    simp [spares.1, spares.2]

theorem removeActiveClient_none {registry : Registry} {sock : TcpSock}
    (missing : registry.firstServiceOf sock.addr = none) :
    registry.removeActiveClient sock = (registry, [], ClientHost.unset) := by
  simp only [removeActiveClient, missing]

structure Removed (registry : Registry) (sock : TcpSock) (serviceName : Name)
    (after : Registry) : Prop where
  first : registry.IsFirst sock.addr serviceName
  sameAddresses : after.addresses = registry.addresses
  active_iff : ∀ other addr, after.active other addr = true ↔
    registry.active other addr = true ∧ ¬ (other = serviceName ∧ addr = sock.addr)
  cachedHost : ∀ fd, after.cachedHost fd = if sock.fd = fd then none else registry.cachedHost fd

theorem eraseClient_active {registry : Registry} {serviceName : Name} {clients : Std.ExtTreeSet Nat}
    (there : registry.activeClients[serviceName]? = some clients) (sock : TcpSock) (other : Name)
    (addr : Nat) : (registry.eraseClient sock serviceName clients).active other addr = true ↔
      registry.active other addr = true ∧ ¬ (other = serviceName ∧ addr = sock.addr) := by
  by_cases same : serviceName = other
  · subst same
    have before : registry.active serviceName addr = clients.contains addr := by
      rw [active, Std.ExtTreeMap.getD_eq_getD_getElem?, there]
      rfl
    have after : (registry.eraseClient sock serviceName clients).active serviceName addr =
        (clients.erase sock.addr).contains addr := by
      simp only [active, eraseClient]
      split
      next empty =>
        rw [Std.ExtTreeSet.isEmpty_iff] at empty
        rw [Std.ExtTreeMap.getD_erase_self, empty]
      next => rw [Std.ExtTreeMap.getD_insert_self]
    rw [before, after, Std.ExtTreeSet.contains_erase]
    by_cases equal : sock.addr = addr
    · simp [equal]
    · simp [equal, Ne.symm equal]
  · have after : (registry.eraseClient sock serviceName clients).active other addr =
        registry.active other addr := by
      simp only [active, eraseClient]
      split
      next => simp [Std.ExtTreeMap.getD_erase, same]
      next => simp [Std.ExtTreeMap.getD_insert, same]
    have different : ¬ (other = serviceName ∧ addr = sock.addr) := fun both => same both.1.symm
    simp [after, different]

theorem removeActiveClient_some {registry : Registry} {sock : TcpSock} {serviceName : Name}
    {clients : Std.ExtTreeSet Nat}
    (found : registry.firstServiceOf sock.addr = some (serviceName, clients)) :
    ∃ after, registry.removeActiveClient sock = (after, serviceName,
        (registry.cachedHost sock.fd).getD ClientHost.unset) ∧
      Removed registry sock serviceName after := by
  obtain ⟨there, first⟩ := firstServiceOf_some found
  refine ⟨registry.eraseClient sock serviceName clients, ?_, first, rfl, ?_, ?_⟩
  · simp only [removeActiveClient, found, cachedHost, Std.ExtTreeMap.getD_eq_getD_getElem?]
  · exact eraseClient_active there sock
  · intro fd
    simp only [eraseClient, cachedHost, Std.ExtTreeMap.getElem?_erase,
      Std.LawfulEqCmp.compare_eq_iff_eq]

-- What server_onClose does once it has found the client under a service.
structure Closes (registry : Registry) (sock : TcpSock) (serviceName : Name)
    (after : Registry) : Prop where
  first : registry.IsFirst sock.addr serviceName
  addresses : ∀ other, after.addresses other =
    if serviceName = other then
      (registry.addresses other).erase ((registry.cachedHost sock.fd).getD ClientHost.unset).address
    else registry.addresses other
  active_iff : ∀ other addr, after.active other addr = true ↔
    registry.active other addr = true ∧ ¬ (other = serviceName ∧ addr = sock.addr)
  cachedHost : ∀ fd, after.cachedHost fd = if sock.fd = fd then none else registry.cachedHost fd

theorem serverOnClose_correct (registry : Registry) (sock : TcpSock) :
    ((∀ serviceName, registry.active serviceName sock.addr = false) ∧
      registry.serverOnClose sock = registry.unregisterClientFromService [] ClientHost.unset) ∨
    ∃ serviceName, Closes registry sock serviceName (registry.serverOnClose sock) := by
  cases found : registry.firstServiceOf sock.addr with
  | none =>
    refine .inl ⟨firstServiceOf_none found, ?_⟩
    rw [serverOnClose, removeActiveClient_none found]
  | some entry =>
    obtain ⟨between, result, removed⟩ := removeActiveClient_some found
    refine .inr ⟨entry.1, ?_⟩
    rw [serverOnClose, result]
    have frame := unregister_frame between entry.1
      ((registry.cachedHost sock.fd).getD ClientHost.unset)
    refine ⟨removed.first, ?_, ?_, ?_⟩
    · intro other
      rw [unregister_addresses, removed.sameAddresses]
    · intro other addr
      rw [← removed.active_iff, active, active, frame.1]
    · intro fd
      exact (congrArg (fun hosts => hosts[fd]?) frame.2).trans (removed.cachedHost fd)

end Registry
end MessageBus.Server
