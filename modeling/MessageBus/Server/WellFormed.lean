import MessageBus.Server.Registry
import MessageBus.Shared.Tables
import MessageBus.Shared.Transition

set_option autoImplicit false

namespace MessageBus.Server

-- RAND_MAX of the C library.
def randMax : Nat := 2147483647

-- What rand() returns.
abbrev Rand := Fin (randMax + 1)

-- (int)((rand()/(RAND_MAX + 1.0))*size), which a double holds exactly up to 2^22 elements.
def randselect (rand : Rand) (size : Nat) : Nat := rand.val * size / (randMax + 1)

theorem randselect_lt (rand : Rand) {size : Nat} (filled : 0 < size) :
    randselect rand size < size := by
  rw [randselect, Nat.div_lt_iff_lt_mul (Nat.succ_pos _), Nat.mul_comm]
  exact Nat.mul_lt_mul_of_pos_left rand.isLt filled

def selectBestHost (rand : Rand) : List ClientHost -> Option ClientHost
  | [] => none
  | first :: rest =>
    let container := first :: rest
    some (container.get ⟨randselect rand container.length, randselect_lt rand (Nat.succ_pos _)⟩)

theorem selectBestHost_member {rand : Rand} {hosts : List ClientHost} {host : ClientHost}
    (selected : selectBestHost rand hosts = some host) : host ∈ hosts := by
  cases hosts with
  | nil => cases selected
  | cons first rest =>
    cases selected
    exact List.get_mem _ _

theorem selectBestHost_filled (rand : Rand) {hosts : List ClientHost} (filled : hosts ≠ []) :
    ∃ host, selectBestHost rand hosts = some host := by
  cases hosts with
  | nil => exact absurd rfl filled
  | cons first rest => exact ⟨_, rfl⟩

structure MsgBusGetClientReq where
  msgId : UInt32
  destName : Name
  deriving DecidableEq, Repr

structure MsgBusGetClientRsp where
  msgId : UInt32
  retCode : UInt16
  destName : Name
  destHost : ClientHost
  deriving DecidableEq, Repr

namespace Registry

def processGetclientReq (registry : Registry) (rand : Rand) (req : MsgBusGetClientReq) :
    MsgBusGetClientRsp :=
  match (registry.availableServices[req.destName]?).bind (selectBestHost rand) with
  | some host => { msgId := req.msgId, retCode := 0, destName := req.destName, destHost := host }
  | none =>
    { msgId := req.msgId, retCode := 1, destName := req.destName, destHost := ClientHost.unset }

-- One request or close event, of any connection whatever its state.
inductive Event where
  | register (sock : TcpSock) (req : MsgBusRegisterReq)
  | unregister (sock : TcpSock) (req : MsgBusUnRegisterReq)
  | getclient (rand : Rand) (req : MsgBusGetClientReq)
  | close (sock : TcpSock)
  deriving DecidableEq, Repr

def step (registry : Registry) : Event -> Option Registry
  | .register sock req => some (registry.processRegisterReq sock req).2
  | .unregister sock req => some (registry.processUnregisterReq sock req)
  | .getclient _ _ => some registry
  | .close sock => some (registry.serverOnClose sock)

structure GoodHosts (serviceName : Name) (hosts : List ClientHost) : Prop where
  named : serviceName ≠ []
  filled : hosts ≠ []
  distinct : (hosts.map ClientHost.address).Nodup

structure GoodClients (serviceName : Name) (clients : Std.ExtTreeSet Nat) : Prop where
  named : serviceName ≠ []
  filled : clients.isEmpty = false

structure WellFormed (registry : Registry) : Prop where
  hosts : ∀ serviceName hosts, registry.availableServices[serviceName]? = some hosts →
    GoodHosts serviceName hosts
  clients : ∀ serviceName clients, registry.activeClients[serviceName]? = some clients →
    GoodClients serviceName clients

theorem wellFormed_empty : empty.WellFormed := by
  constructor <;> simp [empty]

variable {registry : Registry}

theorem WellFormed.withHosts (formed : registry.WellFormed) {serviceName : Name}
    {hosts : List ClientHost} (good : GoodHosts serviceName hosts) :
    WellFormed { registry with
      availableServices := registry.availableServices.insert serviceName hosts } := by
  refine ⟨?_, formed.clients⟩
  exact Tables.every_insert formed.hosts good

theorem WellFormed.withoutHosts (formed : registry.WellFormed) (serviceName : Name) :
    WellFormed { registry with
      availableServices := registry.availableServices.erase serviceName } := by
  refine ⟨?_, formed.clients⟩
  exact Tables.every_erase formed.hosts serviceName

theorem WellFormed.withClients (formed : registry.WellFormed) {serviceName : Name}
    {clients : Std.ExtTreeSet Nat} (good : GoodClients serviceName clients)
    (hosts : Std.ExtTreeMap Int ClientHost) :
    WellFormed { registry with
      activeClients := registry.activeClients.insert serviceName clients
      tcpServicesMap := hosts } := by
  refine ⟨formed.hosts, ?_⟩
  exact Tables.every_insert formed.clients good

theorem WellFormed.withoutClients (formed : registry.WellFormed) (serviceName : Name)
    (hosts : Std.ExtTreeMap Int ClientHost) :
    WellFormed { registry with
      activeClients := registry.activeClients.erase serviceName
      tcpServicesMap := hosts } := by
  refine ⟨formed.hosts, ?_⟩
  exact Tables.every_erase formed.clients serviceName

theorem filled_insert (clients : Std.ExtTreeSet Nat) (addr : Nat) :
    (clients.insert addr).isEmpty = false := by
  rw [Std.ExtTreeSet.isEmpty_eq_false_iff]
  intro empty
  have there : (clients.insert addr).contains addr = true := Std.ExtTreeSet.contains_insert_self
  rw [empty] at there
  cases there

theorem WellFormed.storeConnection (formed : registry.WellFormed) (sock : TcpSock)
    {serviceName : Name} (named : serviceName ≠ []) (host : ClientHost) :
    (registry.storeConnection sock serviceName host).WellFormed :=
  formed.withClients ⟨named, filled_insert _ sock.addr⟩ _

theorem WellFormed.eraseClient (formed : registry.WellFormed) (sock : TcpSock)
    {serviceName : Name} {clients : Std.ExtTreeSet Nat}
    (there : registry.activeClients[serviceName]? = some clients) :
    (registry.eraseClient sock serviceName clients).WellFormed := by
  unfold Registry.eraseClient
  dsimp only
  split
  next => exact formed.withoutClients serviceName _
  next left =>
    exact formed.withClients
      ⟨(formed.clients serviceName clients there).named, Bool.eq_false_iff.mpr left⟩ _

theorem GoodHosts.push {serviceName : Name} {hosts : List ClientHost} {host : ClientHost}
    (good : GoodHosts serviceName hosts) (unlisted : host.address ∉ hosts.map ClientHost.address) :
    GoodHosts serviceName (hosts ++ [host]) := by
  refine ⟨good.named, List.append_ne_nil_of_right_ne_nil _ (List.cons_ne_nil _ _), ?_⟩
  rw [List.map_append]
  exact List.Nodup.append good.distinct (List.nodup_singleton _)
    (List.disjoint_singleton.mpr unlisted)

theorem GoodHosts.update {serviceName : Name} {hosts : List ClientHost} (host : ClientHost)
    (good : GoodHosts serviceName hosts) : GoodHosts serviceName (updateState host hosts) := by
  have same := address_updateState host hosts
  refine ⟨good.named, ?_, same ▸ good.distinct⟩
  intro empty
  rw [empty, List.map_nil] at same
  exact good.filled (List.map_eq_nil_iff.mp same.symm)

-- The hosts unregister_client_from_service leaves of a list, which is dropped when it is empty.
def leftHosts (host : ClientHost) (hosts : List ClientHost) : Option (List ClientHost) :=
  let left := hosts.filter fun listed => listed.address != host.address
  if left.isEmpty then none else some left

theorem eraseP_distinct {hosts : List ClientHost} (host : ClientHost)
    (distinct : (hosts.map ClientHost.address).Nodup) :
    (hosts.eraseP fun listed => clientHostIsEqual listed host) =
      hosts.filter fun listed => listed.address != host.address := by
  induction hosts with
  | nil => rfl
  | cons listed rest ih =>
    rw [List.map_cons, List.nodup_cons] at distinct
    by_cases same : listed.address = host.address
    · have others : ∀ other ∈ rest, (other.address != host.address) = true := by
        intro other member
        rw [bne_iff_ne, ← same]
        intro equal
        exact distinct.1 (List.mem_map.mpr ⟨other, member, equal⟩)
      rw [List.filter_cons_of_neg (by simp [same]), List.filter_eq_self.mpr others]
      simp [same]
    · rw [List.filter_cons_of_pos (by simp [same]), ← ih distinct.2]
      simp [same]

structure RemovesHost (registry : Registry) (serviceName : Name) (host : ClientHost)
    (after : Registry) : Prop where
  removed : after.availableServices[serviceName]? =
    (registry.availableServices[serviceName]?).bind (leftHosts host)
  otherNames : ∀ other, other ≠ serviceName →
    after.availableServices[other]? = registry.availableServices[other]?
  sameClients : after.activeClients = registry.activeClients
  sameConnections : after.tcpServicesMap = registry.tcpServicesMap

theorem leftHosts_unlisted {serviceName : Name} {hosts : List ClientHost} {host : ClientHost}
    (good : GoodHosts serviceName hosts) (unlisted : host.address ∉ hosts.map ClientHost.address) :
    leftHosts host hosts = some hosts := by
  have whole : hosts.filter (fun listed => listed.address != host.address) = hosts := by
    rw [List.filter_eq_self]
    intro listed member
    rw [bne_iff_ne]
    intro same
    exact unlisted (List.mem_map.mpr ⟨listed, member, same⟩)
  simp only [leftHosts, whole, List.isEmpty_iff]
  rw [if_neg good.filled]

theorem unregister_removes (formed : registry.WellFormed) (serviceName : Name)
    (host : ClientHost) :
    RemovesHost registry serviceName host
      (registry.unregisterClientFromService serviceName host) := by
  have frame := unregister_frame registry serviceName host
  suffices changes : ∀ other,
      (registry.unregisterClientFromService serviceName host).availableServices[other]? =
        if serviceName = other then
          (registry.availableServices[serviceName]?).bind (leftHosts host)
        else registry.availableServices[other]? by
    refine ⟨(changes serviceName).trans (if_pos rfl), ?_, frame.1, frame.2⟩
    exact fun other different => (changes other).trans (if_neg (Ne.symm different))
  intro other
  unfold unregisterClientFromService
  cases found : registry.availableServices[serviceName]? with
  | none =>
    dsimp only
    by_cases same : serviceName = other
    · rw [if_pos same, ← same, found, Option.bind_none]
    · rw [if_neg same]
  | some hosts =>
    have good := formed.hosts serviceName hosts found
    dsimp only
    by_cases listed : (hosts.any fun listed => clientHostIsEqual listed host) = true
    · rw [if_pos listed, eraseP_distinct host good.distinct, Option.bind_some, leftHosts]
      by_cases empty : (hosts.filter fun listed => listed.address != host.address).isEmpty = true
      · simp only [if_pos empty, Std.ExtTreeMap.getElem?_erase, Std.LawfulEqCmp.compare_eq_iff_eq]
      · simp only [if_neg empty, Std.ExtTreeMap.getElem?_insert, Std.LawfulEqCmp.compare_eq_iff_eq]
    · rw [if_neg listed, Option.bind_some]
      rw [any_isEqual] at listed
      by_cases same : serviceName = other
      · rw [if_pos same, ← same, found, leftHosts_unlisted good listed]
      · rw [if_neg same]

theorem WellFormed.unregister (formed : registry.WellFormed) (serviceName : Name)
    (host : ClientHost) :
    (registry.unregisterClientFromService serviceName host).WellFormed := by
  unfold unregisterClientFromService
  cases found : registry.availableServices[serviceName]? with
  | none => exact formed
  | some hosts =>
    have good := formed.hosts serviceName hosts found
    dsimp only
    split
    · split
      next => exact formed.withoutHosts serviceName
      next left =>
        have fewer : List.Sublist (hosts.eraseP fun listed => clientHostIsEqual listed host) hosts :=
          List.eraseP_sublist
        exact formed.withHosts ⟨good.named, fun empty => left (List.isEmpty_iff.mpr empty),
          (fewer.map ClientHost.address).nodup good.distinct⟩
    · exact formed

theorem WellFormed.register (formed : registry.WellFormed) (sock : TcpSock) {serviceName : Name}
    (named : serviceName ≠ []) (host : ClientHost) :
    (registry.registerHost sock serviceName host).2.WellFormed := by
  unfold registerHost
  cases found : registry.availableServices[serviceName]? with
  | some hosts =>
    have good := formed.hosts serviceName hosts found
    dsimp only
    by_cases listed : (hosts.any fun listed => clientHostIsEqual listed host) = true
    · rw [if_pos listed]
      exact formed.withHosts (good.update host)
    · rw [if_neg listed]
      rw [any_isEqual] at listed
      exact (formed.withHosts (good.push listed)).storeConnection sock named host
  | none =>
    dsimp only
    split
    · have alone : GoodHosts serviceName [host] :=
        ⟨named, List.cons_ne_nil _ _, List.nodup_singleton _⟩
      exact (formed.withHosts alone).storeConnection sock named host
    · split
      · exact formed
      · exact formed.storeConnection sock named host

theorem WellFormed.close (formed : registry.WellFormed) (sock : TcpSock) :
    (registry.serverOnClose sock).WellFormed := by
  unfold serverOnClose removeActiveClient
  cases found : registry.firstServiceOf sock.addr with
  | none => exact formed.unregister [] ClientHost.unset
  | some entry =>
    exact (formed.eraseClient sock (firstServiceOf_some found).1).unregister _ _

theorem step_wellFormed {event : Event} {following : Registry} (formed : registry.WellFormed)
    (taken : registry.step event = some following) : following.WellFormed := by
  cases event with
  | register sock req =>
    cases taken
    unfold processRegisterReq
    split
    next => exact formed
    next named => exact formed.register sock named _
  | unregister sock req =>
    cases taken
    unfold processUnregisterReq
    split
    next => exact formed
    next => exact formed.unregister _ _
  | getclient rand req =>
    cases taken
    exact formed
  | close sock =>
    cases taken
    exact formed.close sock

theorem reachable_wellFormed (reached : Transition.Reachable step empty registry) :
    registry.WellFormed :=
  reached.invariant WellFormed wellFormed_empty fun _ _ _ formed _ taken =>
    step_wellFormed formed taken

theorem getclient_found {serviceName : Name} {hosts : List ClientHost}
    (formed : registry.WellFormed)
    (found : registry.availableServices[serviceName]? = some hosts) (rand : Rand) (msgId : UInt32) :
    ∃ host ∈ hosts, registry.processGetclientReq rand { msgId, destName := serviceName } =
      { msgId, retCode := 0, destName := serviceName, destHost := host } := by
  obtain ⟨host, selected⟩ :=
    selectBestHost_filled rand (formed.hosts serviceName hosts found).filled
  refine ⟨host, selectBestHost_member selected, ?_⟩
  simp only [processGetclientReq, found, Option.bind_some, selected]

theorem getclient_missing {serviceName : Name}
    (missing : registry.availableServices[serviceName]? = none) (rand : Rand) (msgId : UInt32) :
    registry.processGetclientReq rand { msgId, destName := serviceName } =
      { msgId, retCode := 1, destName := serviceName, destHost := ClientHost.unset } := by
  simp only [processGetclientReq, missing, Option.bind_none]

structure AnswersGetclient (registry : Registry) (rand : Rand) (req : MsgBusGetClientReq) :
    Prop where
  found_iff : (registry.processGetclientReq rand req).retCode = 0 ↔
    req.destName ∈ registry.availableServices
  listed : (registry.processGetclientReq rand req).retCode = 0 →
    ∃ hosts, registry.availableServices[req.destName]? = some hosts ∧
      (registry.processGetclientReq rand req).destHost ∈ hosts

theorem WellFormed.answersGetclient (formed : registry.WellFormed) (rand : Rand)
    (req : MsgBusGetClientReq) : registry.AnswersGetclient rand req := by
  obtain ⟨msgId, destName⟩ := req
  cases found : registry.availableServices[destName]? with
  | none =>
    have answer := getclient_missing found rand msgId
    have absent : destName ∉ registry.availableServices := by
      rw [Std.ExtTreeMap.mem_iff_isSome_getElem?, found]
      exact Bool.false_ne_true
    constructor <;> simp [answer, absent]
  | some hosts =>
    obtain ⟨host, listed, answer⟩ := getclient_found formed found rand msgId
    have present : destName ∈ registry.availableServices := by
      rw [Std.ExtTreeMap.mem_iff_isSome_getElem?, found]
      rfl
    constructor
    · simp [answer, present]
    · intro _
      exact ⟨hosts, found, by rw [answer]; exact listed⟩

theorem WellFormed.removesHost (formed : registry.WellFormed) (sock : TcpSock)
    (req : MsgBusUnRegisterReq) :
    RemovesHost registry req.serviceName (resolveHost sock req.serviceHost)
      (registry.processUnregisterReq sock req) := by
  unfold processUnregisterReq
  split
  next unnamed =>
    have absent : registry.availableServices[req.serviceName]? = none := by
      cases found : registry.availableServices[req.serviceName]? with
      | none => rfl
      | some hosts => exact absurd unnamed (formed.hosts req.serviceName hosts found).named
    exact ⟨by rw [absent, Option.bind_none], fun _ _ => rfl, rfl, rfl⟩
  next => exact unregister_removes formed _ _

theorem registry_stays_well_formed {registry : Registry}
    (reached : Transition.Reachable step empty registry) :
    registry.WellFormed ∧ (∀ rand req, registry.AnswersGetclient rand req) ∧
      ∀ (sock : TcpSock) (req : MsgBusUnRegisterReq),
        RemovesHost registry req.serviceName (resolveHost sock req.serviceHost)
          (registry.processUnregisterReq sock req) := by
  have formed := reachable_wellFormed reached
  exact ⟨formed, formed.answersGetclient, formed.removesHost⟩

def client (addr : Nat) : TcpSock := { addr, fd := 3 + addr, destIp := 1 }

def registerEvent (addr : Nat) (serviceName : Name) (port : UInt16) : Event :=
  .register (client addr) ⟨0, serviceName, ⟨0, port, 0⟩⟩

-- A service of two hosts, one of which has left.
def providerLeft : List Event :=
  [registerEvent 0 [65] 80, registerEvent 1 [65] 81, .getclient 0 ⟨1, [65]⟩, .close (client 0)]

theorem registry_stays_well_formed_providerLeft :
    ∃ registry, Transition.run step empty providerLeft = some registry ∧
      registry.WellFormed ∧ (∀ rand req, registry.AnswersGetclient rand req) ∧
        ∀ (sock : TcpSock) (req : MsgBusUnRegisterReq),
          RemovesHost registry req.serviceName (resolveHost sock req.serviceHost)
            (registry.processUnregisterReq sock req) :=
  ⟨_, rfl, registry_stays_well_formed (Transition.Reachable.run .start providerLeft rfl)⟩

end Registry
end MessageBus.Server
