import MessageBus.Server.Connections

set_option autoImplicit false

namespace MessageBus.Server.MsgbusServer

open Registry

variable {server following : MsgbusServer} {sock : TcpSock}

section Samples

def afterEvents (events : List Event) : MsgbusServer :=
  (Transition.run step initial events).getD initial

def registerEvent (addr : Nat) (serviceName : Name) (port : UInt16) : Event :=
  .request addr (.register
    { msgId := 1, serviceName, serviceHost := { ip := 9, port, busyState := 0 } })

def unregisterEvent (addr : Nat) (serviceName : Name) (port : UInt16) : Event :=
  .request addr (.unregister { serviceName, serviceHost := { ip := 9, port, busyState := 0 } })

def twoClients : List Event :=
  [.accept 3 1, .accept 4 2, registerEvent 0 [65] 80, registerEvent 1 [66] 81]

end Samples

section Answers

-- What the answer to a register request promises the client.
structure AnswersTruly (server : MsgbusServer) (sock : TcpSock) (req : MsgBusRegisterReq) :
    Prop where
  accepted : (server.registry.processRegisterReq sock req).1.retCode = 0 →
    (server.registry.processRegisterReq sock req).2.active req.serviceName sock.addr = true ∧
      (server.registry.processRegisterReq sock req).2.checkRegisterClient sock = true
  refused : (server.registry.processRegisterReq sock req).1.retCode = 1 →
    (server.registry.processRegisterReq sock req).2 = server.registry

-- The host is listed already, by a connection that is not the one that asks.
def TakesKnownHost (server : MsgbusServer) (sock : TcpSock) (req : MsgBusRegisterReq) : Prop :=
  req.serviceName ≠ [] ∧
    (resolveHost sock req.serviceHost).address ∈ server.registry.addresses req.serviceName ∧
      server.registry.active req.serviceName sock.addr = false

theorem checkRegisterClient_iff {registry : Registry} :
    registry.checkRegisterClient sock = true ↔ (registry.cachedHost sock.fd).isSome = true := by
  rw [checkRegisterClient, cachedHost, Std.ExtTreeMap.contains_eq_isSome_getElem?]

theorem answersTruly_iff (consistent : server.Consistent) {addr : Nat}
    (there : server.socks[addr]? = some sock) (isOpen : sock.fd ≠ -1) (req : MsgBusRegisterReq) :
    server.AnswersTruly sock req ↔ ¬ server.TakesKnownHost sock req := by
  have sameAddr := consistent.addr addr sock there
  by_cases named : req.serviceName = []
  · have answer : server.registry.processRegisterReq sock req =
        (registerAnswer req (some "empty name is not allowed."), server.registry) := if_pos named
    have refuses : server.AnswersTruly sock req := by
      constructor
      · intro zero
        rw [answer] at zero
        cases zero
      · intro _
        rw [answer]
    simp [refuses, TakesKnownHost, named]
  · have answer : server.registry.processRegisterReq sock req =
        (registerAnswer req (server.registry.registerHost sock req.serviceName
          (resolveHost sock req.serviceHost)).1, (server.registry.registerHost sock req.serviceName
          (resolveHost sock req.serviceHost)).2) := if_neg named
    have registered := registerHost_correct server.registry sock req.serviceName
      (resolveHost sock req.serviceHost)
    generalize (server.registry.registerHost sock req.serviceName
      (resolveHost sock req.serviceHost)).1 = errMsg at answer registered
    generalize (server.registry.registerHost sock req.serviceName
      (resolveHost sock req.serviceHost)).2 = after at answer registered
    have stores (between : Registry) (equal : after = between.storeConnection sock req.serviceName
        (resolveHost sock req.serviceHost)) : after.active req.serviceName sock.addr = true ∧
          after.checkRegisterClient sock = true := by
      rw [equal, storeConnection_active, checkRegisterClient_iff, storeConnection_cachedHost]
      simp
    have truly (unlisted : (resolveHost sock req.serviceHost).address ∉
          server.registry.addresses req.serviceName)
        (accepted : errMsg = none → after.active req.serviceName sock.addr = true ∧
          after.checkRegisterClient sock = true)
        (refused : ∀ text, errMsg = some text → after = server.registry) :
        server.AnswersTruly sock req ↔ ¬ server.TakesKnownHost sock req := by
      refine iff_of_true ⟨?_, ?_⟩ fun taken => unlisted taken.2.1
      · intro zero
        rw [answer] at zero ⊢
        cases errMsg with
        | none => exact accepted rfl
        | some text => cases zero
      · intro one
        rw [answer] at one ⊢
        cases errMsg with
        | none => cases one
        | some text => exact refused text rfl
    cases registered with
    | known listed sameAddresses sameActive sameHosts =>
      have activeAfter : after.active req.serviceName sock.addr =
          server.registry.active req.serviceName sock.addr := by
        simp only [active, sameActive]
      constructor
      · intro truly taken
        have accepted := truly.accepted (by rw [answer]; rfl)
        rw [answer] at accepted
        rw [activeAfter, taken.2.2] at accepted
        cases accepted.1
      · intro untaken
        have isActive : server.registry.active req.serviceName sock.addr = true := by
          by_contra inactive
          exact untaken ⟨named, listed, Bool.eq_false_iff.mpr inactive⟩
        refine ⟨?_, ?_⟩
        · intro _
          rw [answer]
          refine ⟨activeAfter.trans isActive, checkRegisterClient_iff.mpr ?_⟩
          simp only [cachedHost, sameHosts]
          exact consistent.keyed req.serviceName addr sock there isOpen (sameAddr ▸ isActive)
        · intro one
          rw [answer] at one
          cases one
    | pushed unlisted _ _ _ => exact truly unlisted (fun _ => stores _ rfl) (fun _ text => by cases text)
    | connected unlisted => exact truly unlisted (fun _ => stores _ rfl) (fun _ text => by cases text)
    | refused unlisted errMsg => exact truly unlisted (fun none => by cases none) (fun _ _ => rfl)

theorem register_answers_truly_iff (server : MsgbusServer)
    (reached : Transition.Reachable step initial server) (addr : Nat) (sock : TcpSock)
    (there : server.socks[addr]? = some sock) (isOpen : sock.fd ≠ -1) (req : MsgBusRegisterReq) :
    server.AnswersTruly sock req ↔ ¬ server.TakesKnownHost sock req :=
  answersTruly_iff (reachable_consistent reached) there isOpen req

theorem register_answers_truly_twoClients :
    (afterEvents twoClients).AnswersTruly { addr := 1, fd := 4, destIp := 2 }
        { msgId := 1, serviceName := [65], serviceHost := { ip := 9, port := 80, busyState := 0 } } ↔
      ¬ (afterEvents twoClients).TakesKnownHost { addr := 1, fd := 4, destIp := 2 }
        { msgId := 1, serviceName := [65], serviceHost := { ip := 9, port := 80, busyState := 0 } } :=
  register_answers_truly_iff (afterEvents twoClients) (.run .start twoClients rfl) 1
    { addr := 1, fd := 4, destIp := 2 } rfl (by decide) _

theorem known_host_answered_untruly :
    ¬ ∀ server, Transition.Reachable step initial server →
      ∀ (addr : Nat) (sock : TcpSock), server.socks[addr]? = some sock → sock.fd ≠ -1 →
        ∀ req, server.AnswersTruly sock req := by
  intro always
  have truly := always (afterEvents twoClients) (.run .start twoClients rfl) 1
    { addr := 1, fd := 4, destIp := 2 } rfl (by decide)
    { msgId := 1, serviceName := [65], serviceHost := { ip := 9, port := 80, busyState := 0 } }
  exact absurd (truly.accepted (by decide)).1 (by decide)

end Answers

section Close

theorem step_close {addr : Nat} (there : server.socks[addr]? = some sock)
    (taken : server.step (.close addr) = some following) :
    following = { server.update addr (server.registry.serverOnClose sock) with
      socks := server.socks.set addr sock.close } := by
  simp only [step, there, Option.bind_some] at taken
  split at taken
  next => cases taken
  next => exact (Option.some.inj taken).symm

-- Nothing of the connection is left in the tables.
structure Cleaned (following : MsgbusServer) (sock : TcpSock) : Prop where
  inactive : ∀ serviceName, following.registry.active serviceName sock.addr = false
  noHost : following.registry.cachedHost sock.fd = none
  noPair : ∀ pair, following.owner pair ≠ some sock.addr

structure RegisteredOnce (server : MsgbusServer) (sock : TcpSock) : Prop where
  oneService : ∀ serviceName other, server.registry.active serviceName sock.addr = true →
    server.registry.active other sock.addr = true → serviceName = other
  ownPairs : ∀ pair, server.owner pair = some sock.addr →
    ∃ host, server.registry.cachedHost sock.fd = some host ∧ pair.2 = host.address

theorem owner_close {addr : Nat} (consistent : server.Consistent)
    (there : server.socks[addr]? = some sock) (pair : Pair) (client : Nat) :
    (server.update addr (server.registry.serverOnClose sock)).owner pair = some client ↔
      (server.registry.serverOnClose sock).listed pair = true ∧ server.owner pair = some client := by
  have shrinks := close_shrinks consistent there
  constructor
  · intro owner
    obtain ⟨listed, before | ⟨unlisted, _⟩⟩ := owner_update owner
    · exact ⟨listed, before⟩
    · rw [shrinks.listed pair listed] at unlisted
      cases unlisted
  · intro both
    simp only [update, both.1, shrinks.listed pair both.1, if_true, both.2]

theorem close_cleans_iff (server : MsgbusServer)
    (reached : Transition.Reachable step initial server) (addr : Nat) (sock : TcpSock)
    (there : server.socks[addr]? = some sock) (isOpen : sock.fd ≠ -1) (following : MsgbusServer)
    (taken : server.step (.close addr) = some following) :
    following.Cleaned sock ↔ server.RegisteredOnce sock := by
  have consistent := reachable_consistent reached
  have sameAddr := consistent.addr addr sock there
  have owners := owner_close consistent there
  have shrinks := close_shrinks consistent there
  rw [step_close there taken]
  rcases server.registry.serverOnClose_correct sock with ⟨inactive, closed⟩ | ⟨first, closes⟩
  · -- A connection under no service owns no pair, and no host is kept for its fd.
    have none (pair : Pair) : server.owner pair ≠ some sock.addr := by
      intro owner
      have isActive := (consistent.owners pair sock.addr owner).2 sock (sameAddr ▸ there) isOpen
      rw [inactive] at isActive
      cases isActive
    refine iff_of_true ⟨?_, ?_, ?_⟩ ⟨?_, ?_⟩
    · intro serviceName
      rw [Bool.eq_false_iff]
      intro isActive
      have before := shrinks.active serviceName sock.addr isActive
      rw [inactive] at before
      cases before
    · exact (shrinks.cachedHost sock.fd).trans (if_pos rfl)
    · exact fun pair owner => none pair ((owners pair sock.addr).mp owner).2
    · intro serviceName other isActive
      rw [inactive] at isActive
      cases isActive
    · exact fun pair owner => absurd owner (none pair)
  · obtain ⟨host, kept⟩ := Option.isSome_iff_exists.mp
      (consistent.keyed first addr sock there isOpen (sameAddr ▸ closes.first.isActive))
    have addresses := closes.addresses
    rw [kept] at addresses
    constructor
    · intro cleaned
      have onlyFirst (serviceName : Name)
          (isActive : server.registry.active serviceName sock.addr = true) :
          serviceName = first := by
        by_contra different
        have after := (closes.active_iff serviceName sock.addr).mpr
          ⟨isActive, fun both => different both.1⟩
        have inactive := cleaned.inactive serviceName
        rw [show (server.registry.serverOnClose sock).active serviceName sock.addr = false
          from inactive] at after
        cases after
      refine ⟨?_, ?_⟩
      · intro serviceName other isActive otherActive
        rw [onlyFirst serviceName isActive, onlyFirst other otherActive]
      · intro pair owner
        refine ⟨host, kept, ?_⟩
        have before := listed_iff.mp ((consistent.owned pair).mpr (by rw [owner]; rfl))
        by_contra different
        apply cleaned.noPair pair
        refine (owners pair sock.addr).mpr ⟨listed_iff.mpr ?_, owner⟩
        rw [addresses]
        split
        · exact (List.mem_erase_of_ne different).mpr before
        · exact before
    · intro once
      refine ⟨?_, ?_, ?_⟩
      · intro serviceName
        rw [Bool.eq_false_iff]
        intro isActive
        obtain ⟨before, different⟩ := (closes.active_iff serviceName sock.addr).mp isActive
        exact different ⟨once.oneService serviceName first before closes.first.isActive, rfl⟩
      · exact (shrinks.cachedHost sock.fd).trans (if_pos rfl)
      · intro pair owner
        obtain ⟨listed, before⟩ := (owners pair sock.addr).mp owner
        obtain ⟨own, ownKept, address⟩ := once.ownPairs pair before
        have isActive := (consistent.owners pair sock.addr before).2 sock (sameAddr ▸ there) isOpen
        have sameName := once.oneService pair.1 first isActive closes.first.isActive
        rw [kept] at ownKept
        cases ownKept
        rw [listed_iff, addresses, if_pos sameName.symm, address] at listed
        exact (consistent.distinct pair.1).not_mem_erase listed

def oneClient : List Event := [.accept 3 1, registerEvent 0 [65] 80]

theorem close_cleans_oneClient :
    (afterEvents (oneClient ++ [.close 0])).Cleaned { addr := 0, fd := 3, destIp := 1 } ↔
      (afterEvents oneClient).RegisteredOnce { addr := 0, fd := 3, destIp := 1 } :=
  close_cleans_iff (afterEvents oneClient) (.run .start oneClient rfl) 0
    { addr := 0, fd := 3, destIp := 1 } rfl (by decide) _ rfl

theorem second_service_left :
    ¬ ∀ server, Transition.Reachable step initial server →
      ∀ (addr : Nat) (sock : TcpSock), server.socks[addr]? = some sock → sock.fd ≠ -1 →
        ∀ following, server.step (.close addr) = some following → following.Cleaned sock := by
  intro always
  have cleaned := always (afterEvents (oneClient ++ [registerEvent 0 [66] 81]))
    (.run .start (oneClient ++ [registerEvent 0 [66] 81]) rfl) 0
    { addr := 0, fd := 3, destIp := 1 } rfl (by decide) _ rfl
  exact absurd (cleaned.inactive [66]) (by decide)

structure Unhurt (server following : MsgbusServer) (other : TcpSock) : Prop where
  pairs : ∀ pair, server.owner pair = some other.addr → following.registry.listed pair = true
  active : ∀ serviceName, following.registry.active serviceName other.addr =
    server.registry.active serviceName other.addr
  host : following.registry.cachedHost other.fd = server.registry.cachedHost other.fd

-- The pair that server_onClose unregisters was pushed by the other connection.
def ClosesPairOf (server : MsgbusServer) (sock other : TcpSock) : Prop :=
  ∃ serviceName host, server.registry.IsFirst sock.addr serviceName ∧
    server.registry.cachedHost sock.fd = some host ∧
      server.owner (serviceName, host.address) = some other.addr

theorem close_spares_iff (server : MsgbusServer)
    (reached : Transition.Reachable step initial server) (addr : Nat) (sock : TcpSock)
    (there : server.socks[addr]? = some sock) (isOpen : sock.fd ≠ -1) (client : Nat)
    (other : TcpSock) (otherThere : server.socks[client]? = some other)
    (otherOpen : other.fd ≠ -1) (different : client ≠ addr) (following : MsgbusServer)
    (taken : server.step (.close addr) = some following) :
    server.Unhurt following other ↔ ¬ server.ClosesPairOf sock other := by
  have consistent := reachable_consistent reached
  have sameAddr := consistent.addr addr sock there
  have sameClient := consistent.addr client other otherThere
  have shrinks := close_shrinks consistent there
  rw [step_close there taken]
  have active (serviceName : Name) :
      (server.registry.serverOnClose sock).active serviceName other.addr =
        server.registry.active serviceName other.addr :=
    Bool.eq_iff_iff.mpr (shrinks.others serviceName other.addr (by rwa [sameClient, sameAddr]))
  have host : (server.registry.serverOnClose sock).cachedHost other.fd =
      server.registry.cachedHost other.fd := by
    refine (shrinks.cachedHost other.fd).trans (if_neg ?_)
    exact fun same => different (consistent.apart client addr other sock otherThere there
      otherOpen same.symm)
  have before (pair : Pair) (owner : server.owner pair = some other.addr) :
      pair.2 ∈ server.registry.addresses pair.1 :=
    listed_iff.mp ((consistent.owned pair).mpr (by rw [owner]; rfl))
  rcases server.registry.serverOnClose_correct sock with ⟨inactive, closed⟩ | ⟨first, closes⟩
  · refine iff_of_true ⟨?_, active, host⟩ ?_
    · intro pair owner
      have listed := before pair owner
      have named : [] ≠ pair.1 := by
        intro empty
        rw [← empty, consistent.named] at listed
        cases listed
      have kept := unregister_addresses server.registry [] ClientHost.unset pair.1
      rw [if_neg named, ← closed] at kept
      refine listed_iff.mpr ((congrArg (pair.2 ∈ ·) kept).mpr ?_)
      exact listed
    · rintro ⟨serviceName, _, isFirst, _⟩
      have isActive := isFirst.isActive
      rw [inactive] at isActive
      cases isActive
  · obtain ⟨own, kept⟩ := Option.isSome_iff_exists.mp
      (consistent.keyed first addr sock there isOpen (sameAddr ▸ closes.first.isActive))
    have addresses := closes.addresses
    rw [kept] at addresses
    constructor
    · rintro unhurt ⟨serviceName, cached, isFirst, found, owner⟩
      have listed := listed_iff.mp (unhurt.pairs _ owner)
      rw [kept] at found
      cases found
      have erased := addresses serviceName
      rw [if_pos (closes.first.unique isFirst)] at erased
      exact (consistent.distinct serviceName).not_mem_erase
        ((congrArg (own.address ∈ ·) erased).mp listed)
    · intro spared
      refine ⟨?_, active, host⟩
      intro pair owner
      have listed := before pair owner
      refine listed_iff.mpr ((congrArg (pair.2 ∈ ·) (addresses pair.1)).mpr ?_)
      split
      next sameName =>
        refine (List.mem_erase_of_ne ?_).mpr listed
        intro sameAddress
        refine spared ⟨first, own, closes.first, kept, ?_⟩
        rw [sameName]
        exact sameAddress ▸ owner
      next => exact listed

theorem close_spares_twoClients :
    (afterEvents twoClients).Unhurt (afterEvents (twoClients ++ [.close 0]))
        { addr := 1, fd := 4, destIp := 2 } ↔
      ¬ (afterEvents twoClients).ClosesPairOf { addr := 0, fd := 3, destIp := 1 }
        { addr := 1, fd := 4, destIp := 2 } :=
  close_spares_iff (afterEvents twoClients) (.run .start twoClients rfl) 0
    { addr := 0, fd := 3, destIp := 1 } rfl (by decide) 1 { addr := 1, fd := 4, destIp := 2 } rfl
    (by decide) (by decide) _ rfl

-- The first client unregisters its host, a second one registers the same host, the first leaves.
def hostReused : List Event :=
  oneClient ++ [unregisterEvent 0 [65] 80, .accept 4 2, registerEvent 1 [65] 80]

theorem reused_host_removed :
    ¬ ∀ server, Transition.Reachable step initial server →
      ∀ (addr : Nat) (sock : TcpSock), server.socks[addr]? = some sock → sock.fd ≠ -1 →
        ∀ (client : Nat) (other : TcpSock), server.socks[client]? = some other → other.fd ≠ -1 →
          client ≠ addr → ∀ following, server.step (.close addr) = some following →
            server.Unhurt following other := by
  intro always
  have unhurt := always (afterEvents hostReused) (.run .start hostReused rfl) 0
    { addr := 0, fd := 3, destIp := 1 } rfl (by decide) 1 { addr := 1, fd := 4, destIp := 2 } rfl
    (by decide) (by decide) _ rfl
  exact absurd (unhurt.pairs ([65], 9, 80) (by decide)) (by decide)

end Close
end MessageBus.Server.MsgbusServer
