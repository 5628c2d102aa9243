import MessageBus.Server.Registry
import MessageBus.Shared.Transition

set_option autoImplicit false

namespace MessageBus.Server

-- A service and the address of one of its hosts.
abbrev Pair := Name × UInt32 × UInt16

def Registry.listed (registry : Registry) (pair : Pair) : Bool :=
  (registry.addresses pair.1).contains pair.2

structure MsgbusServer where
  registry : Registry
  socks : List TcpSock
  -- The connection whose request pushed a pair that is listed now.
  owner : Pair -> Option Nat

inductive Event where
  | accept (fd : Int) (destIp : UInt32)
  | request (addr : Nat) (request : Registry.Request)
  | close (addr : Nat)
  deriving DecidableEq, Repr

namespace MsgbusServer

def initial : MsgbusServer := { registry := .empty, socks := [], owner := fun _ => none }

def update (server : MsgbusServer) (addr : Nat) (after : Registry) : MsgbusServer :=
  { server with
    registry := after
    owner := fun pair =>
      if after.listed pair then
        if server.registry.listed pair then server.owner pair else some addr
      else none }

def step (server : MsgbusServer) : Event -> Option MsgbusServer
  | .accept fd destIp =>
    if 0 ≤ fd ∧ ∀ sock ∈ server.socks, sock.fd ≠ fd then
      some { server with socks := server.socks ++ [{ addr := server.socks.length, fd, destIp }] }
    else none
  | .request addr request =>
    (server.socks[addr]?).bind fun sock =>
      if sock.fd = -1 then none
      else some (server.update addr (server.registry.processDataFromClient sock request))
  | .close addr =>
    (server.socks[addr]?).bind fun sock =>
      if sock.fd = -1 then none
      else
        let closed := server.update addr (server.registry.serverOnClose sock)
        some { closed with socks := server.socks.set addr sock.close }

structure Consistent (server : MsgbusServer) : Prop where
  addr : ∀ (addr : Nat) (sock : TcpSock), server.socks[addr]? = some sock → sock.addr = addr
  apart : ∀ (i j : Nat) (sock other : TcpSock), server.socks[i]? = some sock →
    server.socks[j]? = some other → sock.fd ≠ -1 → sock.fd = other.fd → i = j
  accepted : ∀ serviceName addr, server.registry.active serviceName addr = true →
    addr < server.socks.length
  keyed : ∀ (serviceName : Name) (addr : Nat) (sock : TcpSock),
    server.socks[addr]? = some sock → sock.fd ≠ -1 →
      server.registry.active serviceName addr = true →
        (server.registry.cachedHost sock.fd).isSome = true
  keyOpen : ∀ fd host, server.registry.cachedHost fd = some host →
    ∃ (addr : Nat) (sock : TcpSock) (serviceName : Name), server.socks[addr]? = some sock ∧
      sock.fd = fd ∧ fd ≠ -1 ∧ server.registry.active serviceName addr = true
  distinct : ∀ serviceName, (server.registry.addresses serviceName).Nodup
  named : server.registry.addresses [] = []
  owned : ∀ pair, server.registry.listed pair = true ↔ (server.owner pair).isSome = true
  owners : ∀ pair addr, server.owner pair = some addr → addr < server.socks.length ∧
    ∀ sock : TcpSock, server.socks[addr]? = some sock → sock.fd ≠ -1 →
      server.registry.active pair.1 addr = true

theorem consistent_initial : initial.Consistent := by
  constructor <;> simp [initial, Registry.empty, Registry.active, Registry.cachedHost,
    Registry.addresses, Registry.listed]

end MsgbusServer

namespace Registry

theorem listed_iff {registry : Registry} {pair : Pair} :
    registry.listed pair = true ↔ pair.2 ∈ registry.addresses pair.1 :=
  List.contains_iff_mem

inductive Serves (registry : Registry) (sock : TcpSock) (after : Registry) : Prop where
  | connected (serviceName : Name) (host : ClientHost)
      (active_iff : ∀ other addr, after.active other addr = true ↔
        registry.active other addr = true ∨ serviceName = other ∧ sock.addr = addr)
      (cachedHost : ∀ fd, after.cachedHost fd =
        if sock.fd = fd then some host else registry.cachedHost fd)
      (lists : ∀ pair, after.listed pair = true →
        registry.listed pair = true ∨ pair.1 = serviceName)
  | unconnected (active_iff : ∀ other addr, after.active other addr = true ↔
        registry.active other addr = true)
      (cachedHost : ∀ fd, after.cachedHost fd = registry.cachedHost fd)
      (lists : ∀ pair, after.listed pair = true → registry.listed pair = true)

theorem Registered.serves {registry after : Registry} {sock : TcpSock} {serviceName : Name}
    {host : ClientHost} {errMsg : Option String}
    (registered : Registered registry sock serviceName host errMsg after) :
    Serves registry sock after := by
  cases registered with
  | known listed sameAddresses sameActive sameHosts =>
    refine .unconnected ?_ ?_ ?_
    · intro other addr
      simp only [active, sameActive]
    · intro fd
      simp only [cachedHost, sameHosts]
    · intro pair there
      simpa only [listed_iff, sameAddresses] using there
  | pushed unlisted pushes sameActive sameHosts =>
    refine .connected serviceName host ?_ ?_ ?_
    · intro other addr
      rw [storeConnection_active, active, sameActive]
      rfl
    · intro fd
      rw [storeConnection_cachedHost, cachedHost, sameHosts]
      rfl
    · intro pair there
      rw [listed_iff] at there ⊢
      have listed := (pushes pair.1) ▸ there
      split at listed
      next same => exact .inr same.symm
      next => exact .inl listed
  | connected unlisted =>
    refine .connected serviceName host ?_ ?_ ?_
    · exact storeConnection_active registry sock serviceName host
    · exact storeConnection_cachedHost registry sock serviceName host
    · exact fun pair there => .inl there
  | refused _ errMsg => exact .unconnected (fun _ _ => Iff.rfl) (fun _ => rfl) fun _ there => there

theorem Registered.changes {registry after : Registry} {sock : TcpSock} {serviceName : Name}
    {host : ClientHost} {errMsg : Option String}
    (registered : Registered registry sock serviceName host errMsg after)
    (other : Name) : after.addresses other = registry.addresses other ∨
      (errMsg = none ∧ serviceName = other ∧ host.address ∉ registry.addresses other ∧
        after.addresses other = registry.addresses other ++ [host.address]) := by
  cases registered with
  | known listed sameAddresses _ _ => exact .inl (congrFun sameAddresses other)
  | pushed unlisted pushes _ _ =>
    by_cases same : serviceName = other
    · exact .inr ⟨rfl, same, same ▸ unlisted, (pushes other).trans (if_pos same)⟩
    · exact .inl ((pushes other).trans (if_neg same))
  | connected _ => exact .inl rfl
  | refused _ _ => exact .inl rfl

theorem Registered.addresses {registry after : Registry} {sock : TcpSock} {serviceName : Name}
    {host : ClientHost} {errMsg : Option String}
    (registered : Registered registry sock serviceName host errMsg after)
    (named : serviceName ≠ []) (distinct : ∀ other, (registry.addresses other).Nodup) :
    (∀ other, (after.addresses other).Nodup) ∧ after.addresses [] = registry.addresses [] := by
  constructor
  · intro other
    rcases registered.changes other with same | ⟨_, _, unlisted, pushed⟩
    · rw [same]
      exact distinct other
    · rw [pushed]
      exact (distinct other).append (List.nodup_singleton _)
        (List.disjoint_singleton.mpr unlisted)
  · rcases registered.changes [] with same | ⟨_, unnamed, _⟩
    · exact same
    · exact absurd unnamed named

theorem unregister_serves (registry : Registry) (sock : TcpSock) (serviceName : Name)
    (host : ClientHost) :
    Serves registry sock (registry.unregisterClientFromService serviceName host) := by
  have frame := unregister_frame registry serviceName host
  refine .unconnected ?_ ?_ ?_
  · intro other addr
    simp only [active, frame.1]
  · intro fd
    simp only [cachedHost, frame.2]
  · intro pair there
    rw [listed_iff, unregister_addresses] at there
    rw [listed_iff]
    split at there
    · exact List.mem_of_mem_erase there
    · exact there

theorem unregister_distinct {registry : Registry}
    (distinct : ∀ other, (registry.addresses other).Nodup) (serviceName : Name)
    (host : ClientHost) (other : Name) :
    ((registry.unregisterClientFromService serviceName host).addresses other).Nodup := by
  rw [unregister_addresses]
  split
  · exact (distinct other).erase _
  · exact distinct other

theorem unregister_unnamed {registry : Registry} (unnamed : registry.addresses [] = [])
    (serviceName : Name) (host : ClientHost) :
    (registry.unregisterClientFromService serviceName host).addresses [] = [] := by
  rw [unregister_addresses, unnamed]
  split <;> rfl

theorem processDataFromClient_serves (registry : Registry) (sock : TcpSock) (request : Request) :
    Serves registry sock (registry.processDataFromClient sock request) := by
  have same : Serves registry sock registry :=
    .unconnected (fun _ _ => Iff.rfl) (fun _ => rfl) fun _ there => there
  cases request with
  | register req =>
    simp only [processDataFromClient, processRegisterReq]
    split
    · exact same
    · exact (registerHost_correct registry sock _ _).serves
  | unregister req =>
    simp only [processDataFromClient, processUnregisterReq]
    split
    · split
      · exact same
      · exact unregister_serves registry sock _ _
    · exact same

theorem processDataFromClient_addresses {registry : Registry}
    (distinct : ∀ other, (registry.addresses other).Nodup) (unnamed : registry.addresses [] = [])
    (sock : TcpSock) (request : Request) :
    (∀ other, ((registry.processDataFromClient sock request).addresses other).Nodup) ∧
      (registry.processDataFromClient sock request).addresses [] = [] := by
  cases request with
  | register req =>
    simp only [processDataFromClient, processRegisterReq]
    split
    · exact ⟨distinct, unnamed⟩
    next named =>
      have registered := registerHost_correct registry sock req.serviceName
        (resolveHost sock req.serviceHost)
      have kept := registered.addresses named distinct
      exact ⟨kept.1, kept.2.trans unnamed⟩
  | unregister req =>
    simp only [processDataFromClient, processUnregisterReq]
    split
    · split
      · exact ⟨distinct, unnamed⟩
      · exact ⟨unregister_distinct distinct _ _, unregister_unnamed unnamed _ _⟩
    · exact ⟨distinct, unnamed⟩

end Registry

namespace MsgbusServer

variable {server : MsgbusServer}

theorem owner_update {server : MsgbusServer} {addr other : Nat} {after : Registry} {pair : Pair}
    (owner : (server.update addr after).owner pair = some other) :
    after.listed pair = true ∧
      (server.owner pair = some other ∨ server.registry.listed pair = false ∧ other = addr) := by
  simp only [update] at owner
  split at owner
  next listed =>
    refine ⟨listed, ?_⟩
    split at owner
    next => exact .inl owner
    next unlisted =>
      exact .inr ⟨Bool.eq_false_iff.mpr unlisted, (Option.some.inj owner).symm⟩
  next => cases owner

theorem owned_update (consistent : server.Consistent) (addr : Nat) (after : Registry)
    (pair : Pair) : after.listed pair = true ↔
      ((server.update addr after).owner pair).isSome = true := by
  have owned := consistent.owned pair
  simp only [update]
  by_cases listed : after.listed pair = true
  · by_cases before : server.registry.listed pair = true
    · simp [listed, before, owned.mp before]
    · simp [listed, before]
  · simp [listed]

theorem Consistent.sock_eq (consistent : server.Consistent) {addr : Nat} {sock other : TcpSock}
    (there : server.socks[addr]? = some sock) (found : server.socks[sock.addr]? = some other) :
    other = sock := by
  rw [consistent.addr addr sock there, there] at found
  exact (Option.some.inj found).symm

theorem request_consistent (consistent : server.Consistent) {addr : Nat} {sock : TcpSock}
    (there : server.socks[addr]? = some sock) (isOpen : sock.fd ≠ -1) {after : Registry}
    (serves : Registry.Serves server.registry sock after)
    (distinct : ∀ other, (after.addresses other).Nodup) (named : after.addresses [] = []) :
    (server.update addr after).Consistent := by
  have same := consistent.addr addr sock there
  have inside : addr < server.socks.length := (List.getElem?_eq_some_iff.mp there).1
  have owned := owned_update consistent addr after
  cases serves with
  | connected serviceName host active_iff cachedHost lists =>
    refine { consistent with
      accepted := ?_, keyed := ?_, keyOpen := ?_, distinct, named, owned, owners := ?_ }
    · intro other client isActive
      rcases (active_iff other client).mp isActive with before | ⟨_, rfl⟩
      · exact consistent.accepted other client before
      · rw [same]
        exact inside
    · intro other client clientSock found clientOpen isActive
      refine (congrArg Option.isSome (cachedHost clientSock.fd)).trans ?_
      split
      next => rfl
      next differs =>
        rcases (active_iff other client).mp isActive with before | ⟨_, rfl⟩
        · exact consistent.keyed other client clientSock found clientOpen before
        · rw [consistent.sock_eq there found] at differs
          exact absurd rfl differs
    · intro fd found key
      have known := (cachedHost fd).symm.trans key
      split at known
      next equal =>
        refine ⟨addr, sock, serviceName, there, equal, equal ▸ isOpen, ?_⟩
        exact (active_iff serviceName addr).mpr (.inr ⟨rfl, same⟩)
      next =>
        obtain ⟨client, clientSock, other, clientThere, fdSame, fdOpen, isActive⟩ :=
          consistent.keyOpen fd found known
        exact ⟨client, clientSock, other, clientThere, fdSame, fdOpen,
          (active_iff other client).mpr (.inl isActive)⟩
    · intro pair client owner
      obtain ⟨listed, before | ⟨unlisted, rfl⟩⟩ := owner_update owner
      · have old := consistent.owners pair client before
        exact ⟨old.1, fun clientSock found clientOpen =>
          (active_iff pair.1 client).mpr (.inl (old.2 clientSock found clientOpen))⟩
      · refine ⟨inside, fun _ _ _ => (active_iff pair.1 client).mpr (.inr ⟨?_, same⟩)⟩
        rcases lists pair listed with already | sameName
        · rw [already] at unlisted
          cases unlisted
        · exact sameName.symm
  | unconnected active_iff cachedHost lists =>
    refine { consistent with
      accepted := ?_, keyed := ?_, keyOpen := ?_, distinct, named, owned, owners := ?_ }
    · exact fun other client isActive =>
        consistent.accepted other client ((active_iff other client).mp isActive)
    · intro other client clientSock found clientOpen isActive
      refine (congrArg Option.isSome (cachedHost clientSock.fd)).trans ?_
      exact consistent.keyed other client clientSock found clientOpen
        ((active_iff other client).mp isActive)
    · intro fd found key
      obtain ⟨client, clientSock, other, clientThere, fdSame, fdOpen, isActive⟩ :=
        consistent.keyOpen fd found ((cachedHost fd).symm.trans key)
      exact ⟨client, clientSock, other, clientThere, fdSame, fdOpen,
        (active_iff other client).mpr isActive⟩
    · intro pair client owner
      obtain ⟨listed, before | ⟨unlisted, _⟩⟩ := owner_update owner
      · have old := consistent.owners pair client before
        exact ⟨old.1, fun clientSock found clientOpen =>
          (active_iff pair.1 client).mpr (old.2 clientSock found clientOpen)⟩
      · rw [lists pair listed] at unlisted
        cases unlisted

theorem accept_consistent (consistent : server.Consistent) {fd : Int} (destIp : UInt32)
    (unused : ∀ sock ∈ server.socks, sock.fd ≠ fd) :
    Consistent { server with
      socks := server.socks ++ [{ addr := server.socks.length, fd, destIp }] } := by
  have longer : server.socks.length ≤ (server.socks ++
      [({ addr := server.socks.length, fd, destIp } : TcpSock)]).length := by simp
  refine { consistent with
    addr := ?_, apart := ?_, accepted := ?_, keyed := ?_, keyOpen := ?_, owners := ?_ }
  · intro addr sock there
    rcases Transition.found_in_concat there with older | ⟨rfl, rfl⟩
    · exact consistent.addr addr sock older
    · rfl
  · intro i j sock other there otherThere isOpen same
    rcases Transition.found_in_concat there with older | ⟨rfl, rfl⟩ <;>
      rcases Transition.found_in_concat otherThere with otherOlder | ⟨rfl, rfl⟩
    · exact consistent.apart i j sock other older otherOlder isOpen same
    · exact absurd same (unused sock (List.mem_of_getElem? older))
    · exact absurd same.symm (unused other (List.mem_of_getElem? otherOlder))
    · rfl
  · exact fun serviceName addr isActive =>
      Nat.lt_of_lt_of_le (consistent.accepted serviceName addr isActive) longer
  · intro serviceName addr sock there isOpen isActive
    rcases Transition.found_in_concat there with older | ⟨rfl, rfl⟩
    · exact consistent.keyed serviceName addr sock older isOpen isActive
    · exact absurd (consistent.accepted serviceName _ isActive) (Nat.lt_irrefl _)
  · intro key host found
    obtain ⟨addr, sock, serviceName, there, rest⟩ := consistent.keyOpen key host found
    have inside := (List.getElem?_eq_some_iff.mp there).1
    exact ⟨addr, sock, serviceName, (List.getElem?_append_left inside).trans there, rest⟩
  · intro pair addr owner
    have old := consistent.owners pair addr owner
    refine ⟨Nat.lt_of_lt_of_le old.1 longer, ?_⟩
    intro sock there isOpen
    rcases Transition.found_in_concat there with older | ⟨rfl, rfl⟩
    · exact old.2 sock older isOpen
    · exact absurd old.1 (Nat.lt_irrefl _)

structure Shrinks (server : MsgbusServer) (sock : TcpSock) (after : Registry) : Prop where
  others : ∀ serviceName client, client ≠ sock.addr →
    (after.active serviceName client = true ↔ server.registry.active serviceName client = true)
  active : ∀ serviceName client, after.active serviceName client = true →
    server.registry.active serviceName client = true
  cachedHost : ∀ fd, after.cachedHost fd =
    if sock.fd = fd then none else server.registry.cachedHost fd
  listed : ∀ pair, after.listed pair = true → server.registry.listed pair = true
  distinct : ∀ serviceName, (after.addresses serviceName).Nodup
  named : after.addresses [] = []

theorem Consistent.noHost (consistent : server.Consistent) {addr : Nat} {sock : TcpSock}
    (there : server.socks[addr]? = some sock)
    (inactive : ∀ serviceName, server.registry.active serviceName sock.addr = false) :
    server.registry.cachedHost sock.fd = none := by
  cases found : server.registry.cachedHost sock.fd with
  | none => rfl
  | some host =>
    obtain ⟨client, clientSock, serviceName, clientThere, sameFd, isOpen, isActive⟩ :=
      consistent.keyOpen sock.fd host found
    have sameClient := consistent.apart client addr clientSock sock clientThere there
      (sameFd ▸ isOpen) sameFd
    rw [sameClient, ← consistent.addr addr sock there, inactive] at isActive
    cases isActive

theorem close_shrinks (consistent : server.Consistent) {addr : Nat} {sock : TcpSock}
    (there : server.socks[addr]? = some sock) :
    server.Shrinks sock (server.registry.serverOnClose sock) := by
  rcases server.registry.serverOnClose_correct sock with ⟨inactive, closed⟩ | ⟨first, closes⟩
  · have noHost := consistent.noHost there inactive
    have frame := Registry.unregister_frame server.registry [] ClientHost.unset
    rw [closed]
    refine ⟨?_, ?_, ?_, ?_, ?_, ?_⟩
    · intro serviceName client _
      rw [Registry.active, frame.1]
      rfl
    · intro serviceName client isActive
      rw [Registry.active, frame.1] at isActive
      exact isActive
    · intro fd
      refine (congrArg (fun hosts => hosts[fd]?) frame.2).trans ?_
      split
      next same => exact same ▸ noHost
      next => rfl
    · intro pair listed
      rw [Registry.listed_iff, Registry.unregister_addresses] at listed
      rw [Registry.listed_iff]
      split at listed
      · exact List.mem_of_mem_erase listed
      · exact listed
    · exact Registry.unregister_distinct consistent.distinct _ _
    · exact Registry.unregister_unnamed consistent.named _ _
  · refine ⟨?_, ?_, closes.cachedHost, ?_, ?_, ?_⟩
    · intro serviceName client different
      rw [closes.active_iff]
      simp [different]
    · exact fun serviceName client isActive => ((closes.active_iff serviceName client).mp isActive).1
    · intro pair listed
      rw [Registry.listed_iff, closes.addresses] at listed
      rw [Registry.listed_iff]
      split at listed
      · exact List.mem_of_mem_erase listed
      · exact listed
    · intro serviceName
      rw [closes.addresses]
      split
      · exact (consistent.distinct serviceName).erase _
      · exact consistent.distinct serviceName
    · rw [closes.addresses, consistent.named]
      split <;> rfl

theorem open_of_set {addr client : Nat} {socks : List TcpSock} {sock clientSock : TcpSock}
    (found : (socks.set addr sock.close)[client]? = some clientSock) (isOpen : clientSock.fd ≠ -1) :
    client ≠ addr ∧ socks[client]? = some clientSock := by
  rcases Transition.found_in_set found with ⟨_, rfl⟩ | older
  · exact absurd rfl isOpen
  · exact older

theorem close_consistent (consistent : server.Consistent) {addr : Nat} {sock : TcpSock}
    (there : server.socks[addr]? = some sock) :
    Consistent { server.update addr (server.registry.serverOnClose sock) with
      socks := server.socks.set addr sock.close } := by
  have sameAddr := consistent.addr addr sock there
  have shrinks := close_shrinks consistent there
  have sameLength : (server.socks.set addr sock.close).length = server.socks.length :=
    List.length_set
  constructor
  case addr =>
    intro client clientSock found
    rcases Transition.found_in_set found with ⟨rfl, rfl⟩ | older
    · exact sameAddr
    · exact consistent.addr client clientSock older.2
  case apart =>
    intro i j first second firstFound secondFound isOpen same
    have firstOld := open_of_set firstFound isOpen
    have secondOld := open_of_set secondFound (same ▸ isOpen)
    exact consistent.apart i j first second firstOld.2 secondOld.2 isOpen same
  case accepted =>
    intro serviceName client isActive
    rw [sameLength]
    exact consistent.accepted serviceName client (shrinks.active serviceName client isActive)
  case keyed =>
    intro serviceName client clientSock found isOpen isActive
    have old := open_of_set found isOpen
    have host := consistent.keyed serviceName client clientSock old.2 isOpen
      (shrinks.active serviceName client isActive)
    refine (congrArg Option.isSome (shrinks.cachedHost clientSock.fd)).trans ?_
    split
    next sameFd =>
      have sameClient := consistent.apart client addr clientSock sock old.2 there isOpen sameFd.symm
      exact absurd sameClient old.1
    next => exact host
  case keyOpen =>
    intro fd host found
    have known := (shrinks.cachedHost fd).symm.trans found
    split at known
    next => cases known
    next otherFd =>
      obtain ⟨client, clientSock, serviceName, clientThere, sameFd, isOpen, isActive⟩ :=
        consistent.keyOpen fd host known
      have different : addr ≠ client := by
        intro same
        rw [← same, there] at clientThere
        cases clientThere
        exact otherFd sameFd
      refine ⟨client, clientSock, serviceName, ?_, sameFd, isOpen, ?_⟩
      · exact (List.getElem?_set_ne different).trans clientThere
      · exact (shrinks.others serviceName client (sameAddr ▸ Ne.symm different)).mpr isActive
  case distinct => exact shrinks.distinct
  case named => exact shrinks.named
  case owned => exact owned_update consistent addr _
  case owners =>
    intro pair client owner
    obtain ⟨listed, before | ⟨unlisted, _⟩⟩ := owner_update owner
    · have old := consistent.owners pair client before
      refine ⟨sameLength ▸ old.1, ?_⟩
      intro clientSock found isOpen
      have clientOld := open_of_set found isOpen
      exact (shrinks.others pair.1 client (sameAddr ▸ clientOld.1)).mpr
        (old.2 clientSock clientOld.2 isOpen)
    · rw [shrinks.listed pair listed] at unlisted
      cases unlisted

theorem reachable_consistent {server : MsgbusServer}
    (reached : Transition.Reachable step initial server) : server.Consistent := by
  refine reached.invariant Consistent consistent_initial ?_
  intro server event following consistent _ taken
  cases event with
  | accept fd destIp =>
    simp only [step] at taken
    split at taken
    next fresh =>
      cases taken
      exact accept_consistent consistent destIp fresh.2
    next => cases taken
  | request addr request =>
    simp only [step, Option.bind_eq_some_iff] at taken
    obtain ⟨sock, there, taken⟩ := taken
    split at taken
    next => cases taken
    next isOpen =>
      cases taken
      have kept := Registry.processDataFromClient_addresses consistent.distinct consistent.named
        sock request
      exact request_consistent consistent there isOpen
        (Registry.processDataFromClient_serves server.registry sock request) kept.1 kept.2
  | close addr =>
    simp only [step, Option.bind_eq_some_iff] at taken
    obtain ⟨sock, there, taken⟩ := taken
    split at taken
    next => cases taken
    next =>
      cases taken
      exact close_consistent consistent there

end MsgbusServer
end MessageBus.Server
