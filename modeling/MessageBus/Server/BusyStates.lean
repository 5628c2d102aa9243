import MessageBus.Server.Registry

set_option autoImplicit false

namespace MessageBus.Server

def MsgBusRegisterReq.again (req : MsgBusRegisterReq) (msgId busyState : UInt32) :
    MsgBusRegisterReq :=
  { req with msgId, serviceHost := { req.serviceHost with busyState } }

namespace Registry

structure OnlyBusyState (before after : Registry) (serviceName : Name) (host : ClientHost) :
    Prop where
  active : after.activeClients = before.activeClients
  cached : after.tcpServicesMap = before.tcpServicesMap
  others : ∀ other, other ≠ serviceName →
    after.availableServices[other]? = before.availableServices[other]?
  stored : ∃ (front back : List ClientHost) (listed : ClientHost),
    listed.address = host.address ∧
      before.availableServices[serviceName]? = some (front ++ listed :: back) ∧
      after.availableServices[serviceName]? =
        some (front ++ { listed with busyState := host.busyState } :: back)

-- The answer is 0, and the request only updates the busy state.
def OnlyUpdates (registry : Registry) (sock : TcpSock) (req : MsgBusRegisterReq) : Prop :=
  (registry.processRegisterReq sock req).1.retCode = 0 ∧
    OnlyBusyState registry (registry.processRegisterReq sock req).2 req.serviceName
      (resolveHost sock req.serviceHost)

def RefusedUnchanged (registry : Registry) (sock : TcpSock) (req : MsgBusRegisterReq) : Prop :=
  registry.processRegisterReq sock req =
    (registerAnswer req (some "Register without service port can only be registered once."),
      registry)

variable {registry : Registry} {sock : TcpSock} {serviceName : Name} {host : ClientHost}

theorem updateState_splits {hosts : List ClientHost}
    (listed : host.address ∈ hosts.map ClientHost.address) :
    ∃ (front back : List ClientHost) (entry : ClientHost), entry.address = host.address ∧
      hosts = front ++ entry :: back ∧
      updateState host hosts = front ++ { entry with busyState := host.busyState } :: back := by
  induction hosts with
  | nil => cases listed
  | cons first rest ih =>
    by_cases same : first.address = host.address
    · refine ⟨[], rest, first, same, rfl, ?_⟩
      rw [updateState, if_pos (clientHostIsEqual_iff.mpr same)]
      rfl
    · have later : host.address ∈ rest.map ClientHost.address := by
        rw [List.map_cons, List.mem_cons] at listed
        exact listed.resolve_left (Ne.symm same)
      obtain ⟨front, back, entry, address, parts, updated⟩ := ih later
      refine ⟨first :: front, back, entry, address, by rw [parts]; rfl, ?_⟩
      rw [updateState, if_neg (fun equal => same (clientHostIsEqual_iff.mp equal)), updated]
      rfl

theorem registerHost_listed (listed : host.address ∈ registry.addresses serviceName) :
    (registry.registerHost sock serviceName host).1 = none ∧
      OnlyBusyState registry (registry.registerHost sock serviceName host).2 serviceName host := by
  unfold registerHost
  cases found : registry.availableServices[serviceName]? with
  | none =>
    rw [addresses_of_none found] at listed
    cases listed
  | some hosts =>
    rw [addresses_of_some found] at listed
    obtain ⟨front, back, entry, address, parts, updated⟩ := updateState_splits listed
    dsimp only
    rw [if_pos (any_isEqual.mpr listed)]
    refine ⟨rfl, rfl, rfl, ?_, front, back, entry, address, parts ▸ found, ?_⟩
    · intro other different
      exact (Std.ExtTreeMap.getElem?_insert ..).trans
        (if_neg fun same => different (Std.LawfulEqCmp.compare_eq_iff_eq.mp same).symm)
    · rw [← updated]
      exact Std.ExtTreeMap.getElem?_insert_self

theorem registerHost_leaves (accepted : (registry.registerHost sock serviceName host).1 = none) :
    host.address ∈ (registry.registerHost sock serviceName host).2.addresses serviceName ∨
      host.port = 0 ∧
        (registry.registerHost sock serviceName host).2.availableServices[serviceName]? = none ∧
        (registry.registerHost sock serviceName host).2.activeClients.contains serviceName = true := by
  unfold registerHost at accepted ⊢
  cases found : registry.availableServices[serviceName]? with
  | some hosts =>
    refine .inl ?_
    dsimp only
    split
    next listed =>
      rw [addresses_insert, if_pos rfl, address_updateState]
      exact any_isEqual.mp listed
    next =>
      change host.address ∈ addresses { registry with
        availableServices := registry.availableServices.insert serviceName (hosts ++ [host]) } serviceName
      rw [addresses_insert, if_pos rfl, List.map_append]
      exact List.mem_append_right _ (List.mem_singleton_self _)
  | none =>
    rw [found] at accepted
    dsimp only at accepted ⊢
    by_cases port : host.port = 0
    · rw [if_neg (not_not.mpr port)] at accepted ⊢
      split at accepted
      · cases accepted
      next unique =>
        rw [if_neg unique]
        refine .inr ⟨port, found, ?_⟩
        simp [storeConnection]
    · rw [if_pos port]
      refine .inl ?_
      change host.address ∈ addresses { registry with
        availableServices := registry.availableServices.insert serviceName [host] } serviceName
      rw [addresses_insert, if_pos rfl]
      exact List.mem_singleton_self _

theorem registerHost_portless (missing : registry.availableServices[serviceName]? = none)
    (port : host.port = 0) (taken : registry.activeClients.contains serviceName = true) :
    registry.registerHost sock serviceName host =
      (some "Register without service port can only be registered once.", registry) := by
  simp only [registerHost, missing, port, ne_eq, not_true_eq_false, if_false, taken, if_true]

theorem resolveHost_again (host : ClientHost) (busyState : UInt32) :
    resolveHost sock { host with busyState } = { resolveHost sock host with busyState } := by
  unfold resolveHost
  split <;> rfl

theorem processRegisterReq_accepted {req : MsgBusRegisterReq}
    (answered : (registry.processRegisterReq sock req).1.retCode = 0) :
    req.serviceName ≠ [] ∧
      (registry.registerHost sock req.serviceName (resolveHost sock req.serviceHost)).1 = none ∧
      (registry.processRegisterReq sock req).2 =
        (registry.registerHost sock req.serviceName (resolveHost sock req.serviceHost)).2 := by
  unfold processRegisterReq at answered ⊢
  split at answered
  next => exact absurd answered (by decide : (1 : UInt16) ≠ 0)
  next named =>
    refine ⟨named, ?_, by rw [if_neg named]⟩
    dsimp only at answered
    cases outcome : (registry.registerHost sock req.serviceName
        (resolveHost sock req.serviceHost)).1 with
    | none => rfl
    | some errMsg =>
      rw [outcome] at answered
      exact absurd answered (by decide : (1 : UInt16) ≠ 0)

theorem processRegisterReq_named {req : MsgBusRegisterReq} (named : req.serviceName ≠ []) :
    registry.processRegisterReq sock req =
      (registerAnswer req (registry.registerHost sock req.serviceName
          (resolveHost sock req.serviceHost)).1,
        (registry.registerHost sock req.serviceName (resolveHost sock req.serviceHost)).2) :=
  if_neg named

section Again

variable {req : MsgBusRegisterReq} (named : req.serviceName ≠ []) (msgId busyState : UInt32)

include named

theorem again_updates
    (listed : (resolveHost sock req.serviceHost).address ∈ registry.addresses req.serviceName) :
    registry.OnlyUpdates sock (req.again msgId busyState) := by
  have host : resolveHost sock (req.again msgId busyState).serviceHost =
      { resolveHost sock req.serviceHost with busyState } := resolveHost_again _ _
  have updates := @registerHost_listed registry sock req.serviceName
    { resolveHost sock req.serviceHost with busyState } listed
  have second := @processRegisterReq_named registry sock (req.again msgId busyState) named
  rw [host] at second
  rw [OnlyUpdates, second, host]
  refine ⟨?_, updates.2⟩
  change (registerAnswer _ (registry.registerHost sock req.serviceName _).1).retCode = 0
  rw [updates.1]
  rfl

theorem again_refused (missing : registry.availableServices[req.serviceName]? = none)
    (port : (resolveHost sock req.serviceHost).port = 0)
    (taken : registry.activeClients.contains req.serviceName = true) :
    registry.RefusedUnchanged sock (req.again msgId busyState) := by
  have host : resolveHost sock (req.again msgId busyState).serviceHost =
      { resolveHost sock req.serviceHost with busyState } := resolveHost_again _ _
  have second := @processRegisterReq_named registry sock (req.again msgId busyState) named
  have refused := @registerHost_portless registry sock req.serviceName
    { resolveHost sock req.serviceHost with busyState } missing port taken
  rw [RefusedUnchanged, second, host]
  change (registerAnswer _ (registry.registerHost sock req.serviceName _).1,
    (registry.registerHost sock req.serviceName _).2) = _
  rw [refused]

end Again

theorem registers_again (registry : Registry) (sock : TcpSock) (req : MsgBusRegisterReq)
    (msgId busyState : UInt32) (answered : (registry.processRegisterReq sock req).1.retCode = 0) :
    let once := (registry.processRegisterReq sock req).2
    if req.serviceHost.port ≠ 0 ∨ once.availableServices.contains req.serviceName then
      once.OnlyUpdates sock (req.again msgId busyState)
    else once.RefusedUnchanged sock (req.again msgId busyState) := by
  obtain ⟨named, accepted, after⟩ := processRegisterReq_accepted answered
  have leaves := registerHost_leaves accepted
  rw [← after] at leaves
  rcases leaves with listed | ⟨port, missing, taken⟩
  · have provided : (registry.processRegisterReq sock req).2.availableServices.contains
        req.serviceName = true := by
      rw [Std.ExtTreeMap.contains_eq_isSome_getElem?]
      cases found : (registry.processRegisterReq sock req).2.availableServices[req.serviceName]? with
      | some hosts => rfl
      | none =>
        rw [addresses_of_none found] at listed
        cases listed
    dsimp only
    rw [if_pos (.inr provided)]
    exact again_updates named msgId busyState listed
  · have samePort : (resolveHost sock req.serviceHost).port = req.serviceHost.port := by
      unfold resolveHost
      split <;> rfl
    have notProvided : (registry.processRegisterReq sock req).2.availableServices.contains
        req.serviceName = false := by
      rw [Std.ExtTreeMap.contains_eq_isSome_getElem?, missing]
      rfl
    dsimp only
    rw [if_neg (by simp [← samePort, port, notProvided])]
    exact again_refused named msgId busyState missing port taken

def provider : MsgBusRegisterReq :=
  { msgId := 1, serviceName := [65], serviceHost := { ip := 9, port := 80, busyState := 0 } }

def portless : MsgBusRegisterReq :=
  { provider with serviceHost := { ip := 9, port := 0, busyState := 0 } }

def oneSock : TcpSock := { addr := 1, fd := 7, destIp := 5 }

theorem registers_again_provider :
    (empty.processRegisterReq oneSock provider).1.retCode = 0 ∧
      (empty.processRegisterReq oneSock provider).2.OnlyUpdates oneSock (provider.again 2 3) :=
  ⟨by decide, registers_again empty oneSock provider 2 3 (by decide)⟩

theorem portless_refused_again :
    (empty.processRegisterReq oneSock portless).1.retCode = 0 ∧
      ¬ (empty.processRegisterReq oneSock portless).2.OnlyUpdates oneSock (portless.again 2 3) := by
  refine ⟨by decide, fun updates => ?_⟩
  have answered := updates.1
  revert answered
  decide

end Registry
end MessageBus.Server
