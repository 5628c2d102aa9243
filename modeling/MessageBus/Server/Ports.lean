import MessageBus.Server.WellFormed

set_option autoImplicit false

namespace MessageBus.Server

structure Ports where
  registry : Registry
  closed : Nat -> Bool
  -- The last registration stored for the connection under the name has port 0.
  portless : Name -> Nat -> Bool

namespace Ports

def initial : Ports :=
  { registry := .empty, closed := fun _ => false, portless := fun _ _ => false }

def stored (ports : Ports) (sock : TcpSock) (req : MsgBusRegisterReq) : Name -> Nat -> Bool :=
  let host := Registry.resolveHost sock req.serviceHost
  if req.serviceName ≠ [] ∧ ports.registry.storesConnection req.serviceName host = true then
    Function.update ports.portless req.serviceName
      (Function.update (ports.portless req.serviceName) sock.addr (host.port == 0))
  else ports.portless

def step (ports : Ports) (event : Registry.Event) : Option Ports :=
  (ports.registry.step event).map fun registry =>
    match event with
    | .register sock req => { ports with registry, portless := ports.stored sock req }
    | .close sock => { ports with registry, closed := Function.update ports.closed sock.addr true }
    | _ => { ports with registry }

def HoldsAlone (ports : Ports) (serviceName : Name) (addr : Nat) : Prop :=
  ports.registry.active serviceName addr = true ∧ ports.portless serviceName addr = true ∧
    ports.closed addr = false

structure PortlessApart (ports : Ports) : Prop where
  providers : ∀ (serviceName : Name) (hosts : List ClientHost),
    ports.registry.availableServices[serviceName]? = some hosts → ∀ host ∈ hosts, host.port ≠ 0
  exclusive : ∀ serviceName addr other, ports.HoldsAlone serviceName addr →
    ports.registry.active serviceName other = true → other = addr

-- A registration without a port is of a name that has no provider, and one with a port of a name
-- that no other open connection is registered under without.
def registersApart (ports : Ports) : Registry.Event -> Bool
  | .register sock req =>
    let host := Registry.resolveHost sock req.serviceHost
    req.serviceName == [] || !ports.registry.storesConnection req.serviceName host ||
      if host.port = 0 then !ports.registry.availableServices.contains req.serviceName
      else (ports.registry.activeClients.getD req.serviceName ∅).toList.all fun addr =>
        addr == sock.addr || !ports.portless req.serviceName addr || ports.closed addr
  | _ => true

section Providers

variable {registry : Registry}

def OnlyProviders (registry : Registry) : Prop :=
  ∀ (serviceName : Name) (hosts : List ClientHost),
    registry.availableServices[serviceName]? = some hosts → ∀ host ∈ hosts, host.port ≠ 0

theorem OnlyProviders.withHosts (providers : OnlyProviders registry) {serviceName : Name}
    {hosts : List ClientHost} (ports : ∀ host ∈ hosts, host.port ≠ 0) :
    OnlyProviders { registry with
      availableServices := registry.availableServices.insert serviceName hosts } :=
  Tables.every_insert providers ports

theorem updateState_ports (host : ClientHost) {hosts : List ClientHost}
    (ports : ∀ listed ∈ hosts, listed.port ≠ 0) :
    ∀ listed ∈ Registry.updateState host hosts, listed.port ≠ 0 := by
  induction hosts with
  | nil => exact ports
  | cons first rest ih =>
    rw [List.forall_mem_cons] at ports
    simp only [Registry.updateState]
    split
    · exact List.forall_mem_cons.mpr ⟨ports.1, ports.2⟩
    · exact List.forall_mem_cons.mpr ⟨ports.1, ih ports.2⟩

theorem OnlyProviders.register (providers : OnlyProviders registry) (sock : TcpSock)
    {serviceName : Name} {host : ClientHost}
    (provider : registry.storesConnection serviceName host = true → host.port = 0 →
      registry.availableServices[serviceName]? = none) :
    OnlyProviders (registry.registerHost sock serviceName host).2 := by
  unfold Registry.registerHost
  cases found : registry.availableServices[serviceName]? with
  | some hosts =>
    have ports := providers serviceName hosts found
    dsimp only
    by_cases listed : (hosts.any fun listed => clientHostIsEqual listed host) = true
    · rw [if_pos listed]
      exact providers.withHosts (updateState_ports host ports)
    · rw [if_neg listed]
      have stores : registry.storesConnection serviceName host = true := by
        simp only [Registry.storesConnection, found, Bool.eq_false_iff.mpr listed, Bool.not_false]
      have port : host.port ≠ 0 := by
        intro zero
        rw [provider stores zero] at found
        cases found
      refine providers.withHosts fun listed member => ?_
      rcases List.mem_append.mp member with older | newest
      · exact ports listed older
      · exact List.mem_singleton.mp newest ▸ port
  | none =>
    dsimp only
    split
    next port =>
      exact providers.withHosts fun listed member => List.mem_singleton.mp member ▸ port
    next => split <;> exact providers

theorem OnlyProviders.unregister (providers : OnlyProviders registry) (serviceName : Name)
    (host : ClientHost) :
    OnlyProviders (registry.unregisterClientFromService serviceName host) := by
  unfold Registry.unregisterClientFromService
  cases found : registry.availableServices[serviceName]? with
  | none => exact providers
  | some hosts =>
    dsimp only
    split
    · split
      · exact Tables.every_erase providers serviceName
      · exact providers.withHosts fun listed member =>
          providers serviceName hosts found listed (List.mem_of_mem_eraseP member)
    · exact providers

theorem OnlyProviders.close (providers : OnlyProviders registry) (sock : TcpSock) :
    OnlyProviders (registry.serverOnClose sock) := by
  unfold Registry.serverOnClose Registry.removeActiveClient
  cases registry.firstServiceOf sock.addr with
  | none => exact providers.unregister [] ClientHost.unset
  | some entry =>
    have erased : OnlyProviders (registry.eraseClient sock entry.1 entry.2) := providers
    exact erased.unregister _ _

theorem OnlyProviders.answer (providers : OnlyProviders registry) (rand : Rand)
    (req : MsgBusGetClientReq) (answered : (registry.processGetclientReq rand req).retCode = 0) :
    (registry.processGetclientReq rand req).destHost.port ≠ 0 := by
  unfold Registry.processGetclientReq at answered ⊢
  cases selected : (registry.availableServices[req.destName]?).bind (selectBestHost rand) with
  | none =>
    rw [selected] at answered
    cases answered
  | some host =>
    obtain ⟨hosts, found, chosen⟩ := Option.bind_eq_some_iff.mp selected
    exact providers req.destName hosts found host (selectBestHost_member chosen)

end Providers

variable {ports : Ports}

theorem close_active {registry : Registry} {sock : TcpSock} {serviceName : Name} {addr : Nat}
    (isActive : (registry.serverOnClose sock).active serviceName addr = true) :
    registry.active serviceName addr = true := by
  rcases registry.serverOnClose_correct sock with ⟨_, closed⟩ | ⟨first, closes⟩
  · rw [closed, Registry.active, (Registry.unregister_frame registry _ _).1] at isActive
    exact isActive
  · exact ((closes.active_iff serviceName addr).mp isActive).1

theorem notActive_of_absent {registry : Registry} {serviceName : Name}
    (absent : registry.activeClients.contains serviceName = false) (addr : Nat) :
    registry.active serviceName addr = false := by
  rw [Registry.active, Std.ExtTreeMap.getD_eq_fallback_of_contains_eq_false absent]
  rfl

theorem HoldsAlone.older {following : Ports} {serviceName : Name} {addr : Nat}
    (alone : following.HoldsAlone serviceName addr)
    (isActive : following.registry.active serviceName addr = true →
      ports.registry.active serviceName addr = true)
    (portless : following.portless serviceName addr = ports.portless serviceName addr)
    (closed : following.closed addr = false → ports.closed addr = false) :
    ports.HoldsAlone serviceName addr :=
  ⟨isActive alone.1, portless ▸ alone.2.1, closed alone.2.2⟩

inductive Registers (ports : Ports) (sock : TcpSock) (following : Ports) : Prop where
  | spared (sameActive : following.registry.active = ports.registry.active)
      (samePortless : following.portless = ports.portless)
      (sameClosed : following.closed = ports.closed)
  | stored (serviceName : Name) (portless : Bool)
      (active_iff : ∀ other addr, following.registry.active other addr = true ↔
        ports.registry.active other addr = true ∨ serviceName = other ∧ sock.addr = addr)
      (stores : following.portless = Function.update ports.portless serviceName
        (Function.update (ports.portless serviceName) sock.addr portless))
      (sameClosed : following.closed = ports.closed)
      (lonely : portless = true → ∀ addr, ports.registry.active serviceName addr = false)
      (apart : portless = false → ∀ addr, addr ≠ sock.addr → ¬ ports.HoldsAlone serviceName addr)

theorem Registers.exclusive {following : Ports} {sock : TcpSock}
    (registers : Registers ports sock following)
    (exclusive : ∀ serviceName addr other, ports.HoldsAlone serviceName addr →
      ports.registry.active serviceName other = true → other = addr)
    {serviceName : Name} {addr other : Nat} (alone : following.HoldsAlone serviceName addr)
    (isActive : following.registry.active serviceName other = true) : other = addr := by
  cases registers with
  | spared sameActive samePortless sameClosed =>
    rw [sameActive] at isActive
    refine exclusive serviceName addr other (alone.older ?_ ?_ ?_) isActive
    · exact fun active => sameActive ▸ active
    · rw [samePortless]
    · exact fun isOpen => sameClosed ▸ isOpen
  | stored stored portless active_iff stores sameClosed lonely apart =>
    by_cases same : stored = serviceName
    · subst same
      by_cases own : addr = sock.addr
      · -- The connection just stored: it is alone when it has no port.
        have isPortless := alone.2.1
        rw [stores, own, Function.update_self, Function.update_self] at isPortless
        rcases (active_iff stored other).mp isActive with before | ⟨_, there⟩
        · rw [lonely isPortless other] at before
          cases before
        · exact (own.trans there).symm
      · have older : ports.HoldsAlone stored addr := by
          refine alone.older ?_ ?_ ?_
          · intro active
            rcases (active_iff stored addr).mp active with before | ⟨_, there⟩
            · exact before
            · exact absurd there.symm own
          · rw [stores, Function.update_self, Function.update_of_ne own]
          · exact fun isOpen => sameClosed ▸ isOpen
        rcases (active_iff stored other).mp isActive with before | ⟨_, there⟩
        · exact exclusive stored addr other older before
        · cases portless with
          | true =>
            have nobody := lonely rfl addr
            rw [older.1] at nobody
            cases nobody
          | false => exact absurd older (apart rfl addr own)
    · have unmoved (client : Nat) (active : following.registry.active serviceName client = true) :
          ports.registry.active serviceName client = true := by
        rcases (active_iff serviceName client).mp active with before | ⟨there, _⟩
        · exact before
        · exact absurd there same
      refine exclusive serviceName addr other (alone.older (unmoved addr) ?_ ?_)
        (unmoved other isActive)
      · rw [stores, Function.update_of_ne (Ne.symm same)]
      · exact fun isOpen => sameClosed ▸ isOpen

theorem stored_spared {sock : TcpSock} {req : MsgBusRegisterReq}
    (spared : ¬ (req.serviceName ≠ [] ∧ ports.registry.storesConnection req.serviceName
      (Registry.resolveHost sock req.serviceHost) = true)) :
    ports.stored sock req = ports.portless :=
  if_neg spared

theorem register_correct {sock : TcpSock} {req : MsgBusRegisterReq}
    (meets : ports.registersApart (.register sock req) = true) :
    Registers ports sock { ports with
      registry := (ports.registry.processRegisterReq sock req).2
      portless := ports.stored sock req } := by
  unfold Registry.processRegisterReq
  by_cases unnamed : req.serviceName = []
  · refine .spared ?_ (stored_spared fun both => both.1 unnamed) rfl
    rw [if_pos unnamed]
  · rw [if_neg unnamed]
    generalize same : Registry.resolveHost sock req.serviceHost = host at *
    by_cases stores : ports.registry.storesConnection req.serviceName host = true
    · obtain ⟨listing, result⟩ := Registry.registerHost_stores sock stores
      have portless : ports.stored sock req = Function.update ports.portless req.serviceName
          (Function.update (ports.portless req.serviceName) sock.addr (host.port == 0)) := by
        rw [stored, same]
        exact if_pos ⟨unnamed, stores⟩
      simp only [registersApart, same, stores, Bool.not_true, Bool.or_false, Bool.or_eq_true,
        beq_iff_eq, unnamed, false_or] at meets
      refine .stored req.serviceName (host.port == 0) ?_ portless rfl ?_ ?_
      · intro other addr
        dsimp only
        rw [result, Registry.storeConnection_active]
        rfl
      · intro zero addr
        rw [beq_iff_eq] at zero
        rw [if_pos zero, Bool.not_eq_true'] at meets
        have absent := Std.ExtTreeMap.getElem?_eq_none_of_contains_eq_false meets
        simp only [Registry.storesConnection, absent, zero, bne_self_eq_false, Bool.false_or,
          Bool.not_eq_true'] at stores
        exact notActive_of_absent stores addr
      · intro port addr other alone
        rw [beq_eq_false_iff_ne] at port
        rw [if_neg port] at meets
        have member := Std.ExtTreeSet.mem_toList.mpr (Std.ExtTreeSet.mem_iff_contains.mpr alone.1)
        have apart := List.all_eq_true.mp meets addr member
        simp [other, alone.2.1, alone.2.2] at apart
    · rw [Bool.not_eq_true] at stores
      have spares := Registry.registerHost_spares sock stores
      refine .spared ?_ (stored_spared ?_) rfl
      · funext other addr
        dsimp only
        rw [Registry.active, spares.1]
        rfl
      · rw [same, stores]
        exact fun both => Bool.false_ne_true both.2

theorem register_providers {sock : TcpSock} {req : MsgBusRegisterReq}
    (providers : OnlyProviders ports.registry)
    (meets : ports.registersApart (.register sock req) = true) :
    OnlyProviders (ports.registry.processRegisterReq sock req).2 := by
  unfold Registry.processRegisterReq
  by_cases unnamed : req.serviceName = []
  · rw [if_pos unnamed]
    exact providers
  · rw [if_neg unnamed]
    refine providers.register sock fun stores zero => ?_
    simp only [registersApart, stores, Bool.not_true, Bool.or_false, Bool.or_eq_true,
      beq_iff_eq, unnamed, false_or, if_pos zero, Bool.not_eq_true'] at meets
    exact Std.ExtTreeMap.getElem?_eq_none_of_contains_eq_false meets

theorem portlessApart_initial : initial.PortlessApart := by
  constructor
  · simp [initial, Registry.empty]
  · intro serviceName addr other alone isActive
    simp [initial, Registry.empty, Registry.active] at isActive

theorem step_portlessApart {event : Registry.Event} {following : Ports}
    (apart : ports.PortlessApart) (meets : ports.registersApart event = true)
    (taken : ports.step event = some following) :
    following.PortlessApart := by
  have exclusive := apart.exclusive
  cases event with
  | register sock req =>
    cases taken
    refine ⟨?_, fun _ _ _ => (register_correct meets).exclusive exclusive⟩
    exact register_providers apart.providers meets
  | unregister sock req =>
    cases taken
    unfold Registry.processUnregisterReq
    split
    · exact ⟨apart.providers, exclusive⟩
    · refine ⟨OnlyProviders.unregister apart.providers _ _, ?_⟩
      intro serviceName addr other alone isActive
      have frame := Registry.unregister_frame ports.registry req.serviceName
        (Registry.resolveHost sock req.serviceHost)
      rw [HoldsAlone, Registry.active, frame.1] at alone
      rw [Registry.active, frame.1] at isActive
      exact exclusive serviceName addr other alone isActive
  | getclient rand req =>
    cases taken
    exact ⟨apart.providers, exclusive⟩
  | close sock =>
    cases taken
    refine ⟨OnlyProviders.close apart.providers sock, ?_⟩
    intro serviceName addr other alone isActive
    refine exclusive serviceName addr other ⟨close_active alone.1, alone.2.1, ?_⟩
      (close_active isActive)
    have isOpen : Function.update ports.closed sock.addr true addr = false := alone.2.2
    by_cases same : addr = sock.addr
    · rw [same, Function.update_self] at isOpen
      cases isOpen
    · rwa [Function.update_of_ne same] at isOpen

-- The condition asks for no more than the rule: a step that fails it breaks the rule at once.
theorem step_breaks_rule {event : Registry.Event} {following : Ports}
    (fails : ports.registersApart event = false) (taken : ports.step event = some following) :
    ¬ following.PortlessApart := by
  cases event with
  | unregister sock req => cases fails
  | getclient rand req => cases fails
  | close sock => cases fails
  | register sock req =>
    cases taken
    simp only [registersApart, Bool.or_eq_false_iff, beq_eq_false_iff_ne,
      Bool.not_eq_false'] at fails
    obtain ⟨⟨named, stores⟩, breaks⟩ := fails
    have portless : ports.stored sock req = Function.update ports.portless req.serviceName
        (Function.update (ports.portless req.serviceName) sock.addr
          ((Registry.resolveHost sock req.serviceHost).port == 0)) := if_pos ⟨named, stores⟩
    intro apart
    have providers := apart.providers
    have exclusive := apart.exclusive
    simp only [HoldsAlone, Registry.processRegisterReq, if_neg named, portless]
      at providers exclusive
    generalize Registry.resolveHost sock req.serviceHost = host at *
    by_cases zero : host.port = 0
    · rw [if_pos zero, Bool.not_eq_false', Std.ExtTreeMap.contains_eq_isSome_getElem?,
        Option.isSome_iff_exists] at breaks
      obtain ⟨hosts, found⟩ := breaks
      simp only [Registry.storesConnection, found, Bool.not_eq_true'] at stores
      refine providers req.serviceName (hosts ++ [host]) ?_ host
        (List.mem_append_right _ (List.mem_singleton_self _)) zero
      simp [Registry.registerHost, found, stores, Registry.storeConnection]
    · rw [if_neg zero, List.all_eq_false] at breaks
      obtain ⟨addr, member, breaks⟩ := breaks
      simp only [Bool.not_eq_true, Bool.or_eq_false_iff, beq_eq_false_iff_ne,
        Bool.not_eq_false'] at breaks
      obtain ⟨⟨other, isPortless⟩, isOpen⟩ := breaks
      obtain ⟨listing, result⟩ := Registry.registerHost_stores sock stores
      rw [result] at exclusive
      refine other (exclusive req.serviceName addr sock.addr ⟨?_, ?_, isOpen⟩ ?_).symm
      · refine (Registry.storeConnection_active _ sock _ host _ _).mpr (.inl ?_)
        exact Std.ExtTreeSet.mem_iff_contains.mp (Std.ExtTreeSet.mem_toList.mp member)
      · rw [Function.update_self, Function.update_of_ne other]
        exact isPortless
      · exact (Registry.storeConnection_active _ sock _ host _ _).mpr (.inr ⟨rfl, rfl⟩)

theorem portless_registrations_apart
    (reached : Transition.ReachableWhen step (fun ports event => ports.registersApart event = true)
      initial ports) :
    ports.PortlessApart ∧ ∀ rand req, (ports.registry.processGetclientReq rand req).retCode = 0 →
      (ports.registry.processGetclientReq rand req).destHost.port ≠ 0 := by
  have apart : ports.PortlessApart :=
    reached.invariant PortlessApart portlessApart_initial fun _ _ _ apart meets taken =>
      step_portlessApart apart meets taken
  exact ⟨apart, OnlyProviders.answer apart.providers⟩

open Registry (client registerEvent)

-- A client without a port, one whose refusal keeps it out, and a provider under another name.
def portlessFirst : List Registry.Event :=
  [registerEvent 0 [65] 0, registerEvent 1 [65] 0, registerEvent 2 [66] 80, .close (client 2)]

theorem portless_registrations_apart_portlessFirst :
    ∃ ports, Transition.run (Transition.checkedStep step
        fun ports event => ports.registersApart event = true) initial portlessFirst = some ports ∧
      ports.PortlessApart ∧ ∀ rand req, (ports.registry.processGetclientReq rand req).retCode = 0 →
        (ports.registry.processGetclientReq rand req).destHost.port ≠ 0 :=
  ⟨_, rfl, portless_registrations_apart
    (Transition.ReachableWhen.start.run portlessFirst rfl)⟩

-- The provider first, so that the name is in available_services.
def portlessSecond : List Registry.Event := [registerEvent 0 [65] 80, registerEvent 1 [65] 0]

theorem portless_host_given_out : ∃ ports, Transition.run step initial portlessSecond = some ports ∧
    ¬ ports.PortlessApart ∧ ∃ rand, ports.registry.processGetclientReq rand ⟨7, [65]⟩ =
      { msgId := 7, retCode := 0, destName := [65], destHost := ⟨1, 0, 0⟩ } := by
  refine ⟨_, rfl, ?_, ⟨randMax, by decide⟩, by decide⟩
  intro apart
  have given := OnlyProviders.answer apart.providers ⟨randMax, by decide⟩ ⟨7, [65]⟩
  exact absurd (given (by decide)) (by decide)

end Ports
end MessageBus.Server
