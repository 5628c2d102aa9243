import MessageBus.Server.Connections
import MessageBus.Server.RegistrarRuns

set_option autoImplicit false

namespace MessageBus.Server

variable {serviceName : Name} {address : UInt32 × UInt16} {op : TableOp}

def TableOp.Offers (serviceName : Name) (address : UInt32 × UInt16) : TableOp -> Prop
  | .registerHost _ name host => name = serviceName ∧ host.address = address
  | _ => False

def TableOp.Withdraws (serviceName : Name) (address : UInt32 × UInt16) : TableOp -> Prop
  | .unregisterClientFromService name host => name = serviceName ∧ host.address = address
  | _ => False

namespace Registry

section Addresses

def Lists (serviceName : Name) (address : UInt32 × UInt16) (registry : Registry) : Prop :=
  address ∈ registry.addresses serviceName

def Distinct (registry : Registry) : Prop := ∀ other, (registry.addresses other).Nodup

variable {registry : Registry}

theorem empty_lists (serviceName : Name) (address : UInt32 × UInt16) :
    ¬ Lists serviceName address .empty := by
  simp [Lists, empty, addresses]

theorem empty_distinct : Distinct .empty := by
  simp [Distinct, empty, addresses]

theorem removeActiveClient_addresses (registry : Registry) (sock : TcpSock) :
    (registry.removeActiveClient sock).1.addresses = registry.addresses := by
  cases found : registry.firstServiceOf sock.addr with
  | none => rw [removeActiveClient_none found]
  | some entry =>
    obtain ⟨after, result, removed⟩ := removeActiveClient_some found
    rw [result]
    exact removed.sameAddresses

theorem serve_addresses (registry : Registry) (op : TableOp) (serviceName : Name) :
    (registry.serve op).2.addresses serviceName = registry.addresses serviceName ∨
      (∃ address, op.Withdraws serviceName address ∧
        (registry.serve op).2.addresses serviceName =
          (registry.addresses serviceName).erase address) ∨
      ∃ address, op.Offers serviceName address ∧ (registry.serve op).1 = .registered none ∧
        address ∉ registry.addresses serviceName ∧
        (registry.serve op).2.addresses serviceName =
          registry.addresses serviceName ++ [address] := by
  cases op with
  | registerHost sock name host =>
    have registered := registerHost_correct registry sock name host
    rcases registered.changes serviceName with same | ⟨accepted, named, unlisted, pushed⟩
    · exact .inl same
    · exact .inr (.inr ⟨host.address, ⟨named, rfl⟩, congrArg TableAnswer.registered accepted,
        unlisted, pushed⟩)
  | unregisterClientFromService name host =>
    have erased := unregister_addresses registry name host serviceName
    by_cases named : name = serviceName
    · exact .inr (.inl ⟨host.address, ⟨named, rfl⟩, erased.trans (if_pos named)⟩)
    · exact .inl (erased.trans (if_neg named))
  | getClient rand destName => exact .inl rfl
  | removeActiveClient sock =>
    exact .inl (congrFun (removeActiveClient_addresses registry sock) serviceName)

theorem serve_distinct (registry : Registry) (op : TableOp) (distinct : registry.Distinct) :
    (registry.serve op).2.Distinct := by
  intro other
  rcases serve_addresses registry op other with
    same | ⟨_, _, erased⟩ | ⟨address, _, _, unlisted, pushed⟩
  · rw [same]
    exact distinct other
  · rw [erased]
    exact (distinct other).erase _
  · rw [pushed]
    exact (distinct other).append (List.nodup_singleton _)
      (List.disjoint_singleton.mpr unlisted)

theorem serve_offers (unlisted : ¬ registry.Lists serviceName address)
    (listed : (registry.serve op).2.Lists serviceName address) :
    op.Offers serviceName address ∧ (registry.serve op).1 = .registered none := by
  unfold Lists at listed
  rcases serve_addresses registry op serviceName with
    same | ⟨_, _, erased⟩ | ⟨_, offers, accepted, _, pushed⟩
  · rw [same] at listed
    exact absurd listed unlisted
  · rw [erased] at listed
    exact absurd (List.mem_of_mem_erase listed) unlisted
  · rw [pushed] at listed
    rcases List.mem_append.mp listed with older | new
    · exact absurd older unlisted
    · exact ⟨List.mem_singleton.mp new ▸ offers, accepted⟩

theorem serve_withdraws (registry : Registry) (op : TableOp) (distinct : registry.Distinct)
    (withdraws : op.Withdraws serviceName address) :
    ¬ (registry.serve op).2.Lists serviceName address := by
  cases op with
  | unregisterClientFromService name host =>
    obtain ⟨rfl, rfl⟩ := withdraws
    rw [Lists, serve, unregister_addresses, if_pos rfl]
    exact (distinct name).not_mem_erase
  | registerHost | getClient | removeActiveClient => exact withdraws.elim

theorem serve_stays (registry : Registry) (op : TableOp)
    (listed : registry.Lists serviceName address) (stays : ¬ op.Withdraws serviceName address) :
    (registry.serve op).2.Lists serviceName address := by
  unfold Lists
  rcases serve_addresses registry op serviceName with
    same | ⟨other, withdraws, erased⟩ | ⟨_, _, _, _, pushed⟩
  · rw [same]
    exact listed
  · rw [erased]
    refine (List.mem_erase_of_ne ?_).mpr listed
    rintro rfl
    exact stays withdraws
  · rw [pushed]
    exact List.mem_append_left _ listed

theorem serve_provides (registry : Registry) (sock : TcpSock) (serviceName : Name)
    {host : ClientHost} (port : host.port ≠ 0) :
    (registry.serve (.registerHost sock serviceName host)).2.Lists serviceName host.address := by
  simp only [Lists, serve, registerHost]
  cases found : registry.availableServices[serviceName]? with
  | some hosts =>
    have here := addresses_of_some found
    dsimp only
    by_cases listed : (hosts.any fun listed => clientHostIsEqual listed host) = true
    · rw [if_pos listed, addresses_insert, if_pos rfl, address_updateState]
      rwa [any_isEqual] at listed
    · rw [if_neg listed]
      refine (addresses_insert registry serviceName _ serviceName).symm ▸ ?_
      rw [if_pos rfl, List.map_append]
      exact List.mem_append_right _ (List.mem_singleton_self _)
  | none =>
    dsimp only
    rw [if_pos port]
    refine (addresses_insert registry serviceName _ serviceName).symm ▸ ?_
    rw [if_pos rfl]
    exact List.mem_singleton_self _

theorem gotClient_lists {rand : Rand} {found : Option ClientHost}
    (answer : (registry.serve (.getClient rand serviceName)).1 = .gotClient found) :
    (∀ host, found = some host → registry.Lists serviceName host.address) ∧
      (found = none → registry.addresses serviceName = []) := by
  have selected : (registry.availableServices[serviceName]?).bind (selectBestHost rand) = found :=
    TableAnswer.gotClient.inj answer
  unfold Lists
  cases there : registry.availableServices[serviceName]? with
  | none =>
    rw [there] at selected
    subst selected
    exact ⟨fun _ impossible => (Option.some_ne_none _ impossible.symm).elim,
      fun _ => addresses_of_none there⟩
  | some hosts =>
    rw [there] at selected
    rw [addresses_of_some there]
    refine ⟨fun host chosen => ?_, fun missing => ?_⟩
    · exact List.mem_map_of_mem (selectBestHost_member (selected.trans chosen))
    · cases hosts with
      | nil => rfl
      | cons first rest => cases selected.trans missing

end Addresses

end Registry

namespace Registrar

section Lookup

-- A client has registered the address under the name, and it was not withdrawn since.
def Offered (registrar : Registrar) (history : List (Serial.Entry Nat TableOp TableAnswer))
    (serviceName : Name) (address : UInt32 × UInt16) : Prop :=
  ∃ before registration since number, history = before ++ registration :: since ∧
    registration.call = some number ∧ registration.answer = .registered none ∧
    registrar.AskedAs number (fun connection request => ∃ host given,
      request = .register serviceName host ∧ GivenHost connection host given ∧
        given.address = address) ∧
    ∀ entry ∈ since, ¬ entry.op.Withdraws serviceName address

-- All providers that have registered under the name were withdrawn since.
def Withdrawn (history : List (Serial.Entry Nat TableOp TableAnswer)) (serviceName : Name) :
    Prop :=
  ∀ before registration since sock host, history = before ++ registration :: since →
    registration.op = .registerHost sock serviceName host → host.port ≠ 0 →
      ∃ entry ∈ since, entry.op.Withdraws serviceName host.address

def Finds (registrar : Registrar) (history : List (Serial.Entry Nat TableOp TableAnswer))
    (serviceName : Name) : Option ClientHost -> Prop
  | some host => registrar.Offered history serviceName host.address
  | none => Withdrawn history serviceName

-- A lookup is answered from the tables as they were in its turn.
def LookedUp (registrar : Registrar) (number : Nat) (found : Option ClientHost) : Prop :=
  ∃ destName before lookup after, registrar.history = before ++ lookup :: after ∧
    lookup.call = some number ∧
    registrar.AskedAs number (fun _ request => request = .getClient destName) ∧
    registrar.Finds before destName found

structure NamesServed (registrar : Registrar) : Prop where
  served : Serial.Served Registry.serve .empty registrar.history registrar.registry
  own : ∀ entry ∈ registrar.history, ∀ number, entry.call = some number →
    registrar.AskedAs number fun connection request => request.Means connection entry.op
  told : ∀ answer ∈ registrar.answered, registrar.Given answer.1 answer.2
  answeredOnce : (registrar.answered.map Prod.fst).Nodup
  lookedUp : ∀ number found, (number, .gotClient found) ∈ registrar.answered →
    registrar.LookedUp number found
  lasting : ∀ event following, registrar.step event = some following →
    registrar.history <+: following.history ∧ registrar.answered <+: following.answered

variable {registrar : Registrar} {registry : Registry}
  {before after : List (Serial.Entry Nat TableOp TableAnswer)} {number : Nat}

theorem AskedAs.imp {holds implied : AcceptedSock -> NameRequest -> Prop}
    (asked : registrar.AskedAs number holds)
    (implies : ∀ connection request, holds connection request → implied connection request) :
    registrar.AskedAs number implied := by
  obtain ⟨addr, request, connection, there, found, held⟩ := asked
  exact ⟨addr, request, connection, there, found, implies _ _ held⟩

theorem Sound.offered (sound : registrar.Sound) (history : registrar.history = before ++ after)
    (serves : Serial.Serves Registry.serve .empty before registry)
    (listed : registry.Lists serviceName address) :
    registrar.Offered before serviceName address := by
  obtain ⟨earlier, registration, since, between, rfl, unlisted, there, answer, stays⟩ :=
    serves.cause Registry.serve_distinct
      (fun state op => Registry.serve_withdraws state op)
      Registry.empty_distinct (Registry.empty_lists serviceName address) listed
  have member : registration ∈ registrar.history := by
    rw [history]
    exact List.mem_append_left _ (List.mem_append_right _ List.mem_cons_self)
  obtain ⟨offers, accepted⟩ := Registry.serve_offers unlisted there
  have own := sound.own registration member
  have leaves := sound.leaves registration member
  obtain ⟨call, op, given⟩ := registration
  cases op with
  | registerHost sock name host =>
    obtain ⟨rfl, rfl⟩ := offers
    cases call with
    | none => exact absurd rfl (leaves rfl sock name host)
    | some other =>
      refine ⟨earlier, _, since, other, rfl, rfl, answer.symm.trans accepted, ?_, stays⟩
      refine (own other rfl).imp fun connection request means => ?_
      cases request with
      | register asked asGiven =>
        obtain ⟨rfl, resolved⟩ := means
        exact ⟨asGiven, host, rfl, resolved, rfl⟩
      | unregister | getClient => exact means.elim
  | unregisterClientFromService | getClient | removeActiveClient => exact offers.elim

theorem withdrawn_of_empty (serves : Serial.Serves Registry.serve .empty before registry)
    (empty : registry.addresses serviceName = []) : Withdrawn before serviceName := by
  rintro earlier registration since sock host rfl registers port
  by_contra unended
  obtain ⟨between, _, _, later⟩ := Serial.serves_append.mp serves
  rw [registers] at later
  have listed := later.keeps (TableOp.Withdraws serviceName host.address)
    (fun state op => Registry.serve_stays state op)
    (Registry.serve_provides between sock serviceName port)
    fun entry member withdraws => unended ⟨entry, member, withdraws⟩
  rw [Registry.Lists, empty] at listed
  exact List.not_mem_nil listed

theorem Sound.lookedUp (sound : registrar.Sound) {found : Option ClientHost}
    (answered : (number, .gotClient found) ∈ registrar.answered) :
    registrar.LookedUp number found := by
  rcases sound.told _ answered with ⟨impossible, _⟩ | ⟨lookup, member, call, answer⟩
  · cases impossible
  have own := sound.own lookup member number call
  obtain ⟨before, after, history⟩ := List.append_of_mem member
  have serves := sound.served.serves
  rw [history] at serves
  obtain ⟨registry, led, served, _⟩ := Serial.serves_append.mp serves
  obtain ⟨_, op, _⟩ := lookup
  cases answer
  cases op with
  | getClient rand destName =>
    have lists := Registry.gotClient_lists served
    refine ⟨destName, before, _, after, history, call, own.imp fun connection request means => ?_, ?_⟩
    · cases request with
      | getClient asked =>
        cases means
        rfl
      | register | unregister => exact means.elim
    · cases found with
      | some host => exact sound.offered history led (lists.1 host rfl)
      | none => exact withdrawn_of_empty led (lists.2 rfl)
  | registerHost | unregisterClientFromService | removeActiveClient => cases served

end Lookup

theorem names_served_in_turn {registrar : Registrar}
    (reached : Transition.Reachable step initial registrar) : registrar.NamesServed := by
  have sound := sound_of_reachable reached
  constructor
  · exact sound.served
  · exact sound.own
  · exact sound.told
  · exact sound.apart.of_append_left
  · exact fun number found answered => sound.lookedUp answered
  · intro event following taken
    have grows := change_grows (step_changes taken)
    exact ⟨grows.history, grows.answered⟩

def drawn : Rand := ⟨0, Nat.zero_lt_succ _⟩

-- The second client finds the first under the name "A", but no more once the first has gone.
def oneProvider : List RegistrarEvent :=
  [.accept 5 10, .accept 6 11, .read 0 (.register [65] ⟨0, 80, 0⟩),
    .read 1 (.register [66] ⟨0, 0, 0⟩), .take, .take, .work 1 drawn, .work 0 drawn,
    .work 1 drawn, .work 0 drawn, .work 0 drawn, .work 1 drawn, .work 1 drawn, .work 0 drawn,
    .read 1 (.getClient [65]), .read 1 (.getClient [65]), .take, .work 0 drawn, .work 0 drawn,
    .removeClient 0, .take, .work 1 drawn, .unregisterClient 0, .work 1 drawn, .work 1 drawn,
    .work 0 drawn, .close 0]

def oneProviderAnswers : List (Nat × TableAnswer) :=
  [(1, .registered none), (0, .registered none), (3, .gotClient none),
    (2, .gotClient (some ⟨10, 80, 0⟩))]

theorem oneProvider_answered : (Transition.run step initial oneProvider).map Registrar.answered =
    some oneProviderAnswers := by decide +kernel

theorem names_served_in_turn_oneProvider : ∃ registrar : Registrar,
    Transition.run step initial oneProvider = some registrar ∧
      registrar.answered = oneProviderAnswers ∧ registrar.NamesServed := by
  obtain ⟨registrar, ran, answered⟩ := Option.map_eq_some_iff.mp oneProvider_answered
  exact ⟨registrar, ran, answered, names_served_in_turn (.run .start oneProvider ran)⟩

end Registrar
end MessageBus.Server
