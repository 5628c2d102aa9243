import MessageBus.Server.Registrar

set_option autoImplicit false

namespace MessageBus.Server

-- The host of a request as the server takes it: an ip that is left out is the peer's. Once the
-- connection is closed, the server finds none.
def GivenHost (connection : AcceptedSock) (host given : ClientHost) : Prop :=
  (host.ip ≠ 0 → given = host) ∧
    (host.ip = 0 → given = { host with ip := connection.peer } ∨
      connection.closing = .closed ∧ given = host)

-- The operation that a request from the connection asks for.
def NameRequest.Means (connection : AcceptedSock) : NameRequest -> TableOp -> Prop
  | .register serviceName host, .registerHost _ name given =>
    name = serviceName ∧ GivenHost connection host given
  | .unregister serviceName host, .unregisterClientFromService name given =>
    name = serviceName ∧ GivenHost connection host given
  | .getClient destName, .getClient _ name => name = destName
  | _, _ => False

-- The socket of a connection knows its peer until it is closed.
def AcceptedSock.Located (connection : AcceptedSock) : Prop :=
  connection.sock.destIp = connection.peer ∨
    connection.closing = .closed ∧ connection.sock.destIp = 0

theorem AcceptedSock.Located.resolves {connection : AcceptedSock} (located : connection.Located)
    (host : ClientHost) : GivenHost connection host (Registry.resolveHost connection.sock host) := by
  constructor
  · intro own
    rw [Registry.resolveHost, if_neg own]
  · intro none
    rw [Registry.resolveHost, if_pos none]
    rcases located with peer | ⟨closed, unknown⟩
    · exact .inl (by rw [peer])
    · refine .inr ⟨closed, ?_⟩
      rw [unknown, ← none]

def NameRequest.host : NameRequest -> Option ClientHost
  | .register _ host | .unregister _ host => some host
  | .getClient _ => none

section Advance

variable {request : NameRequest} {registry : Registry} {sock : TcpSock} {rand : Rand}
  {stage next : NameStage} {op : TableOp} {connection : AcceptedSock}

theorem advance_serves (outcome : request.advance registry sock rand stage = .serves op)
    (resolved : ∀ given, stage = .resolved given →
      ∀ host, request.host = some host → GivenHost connection host given) :
    request.Means connection op ∧ ∀ answer, stage ≠ .answering answer := by
  cases stage with
  | taken =>
    cases request with
    | register => cases outcome
    | unregister | getClient =>
      simp only [NameRequest.advance] at outcome
      split at outcome <;> cases outcome
  | checked =>
    cases request with
    | register | unregister =>
      simp only [NameRequest.advance] at outcome
      split at outcome <;> cases outcome
    | getClient =>
      cases outcome
      exact ⟨rfl, fun _ impossible => by cases impossible⟩
  | resolved given =>
    cases request with
    | register | unregister =>
      cases outcome
      exact ⟨⟨rfl, resolved given rfl _ rfl⟩, fun _ impossible => by cases impossible⟩
    | getClient => cases outcome
  | answering answer => cases outcome

theorem advance_goes
    (outcome : request.advance registry connection.sock rand stage = .goes next)
    (located : connection.Located) :
    (∀ answer, stage ≠ .answering answer) ∧
      (∀ answer, next = .answering answer →
        answer = emptyNameAnswer ∧ ∃ host, request = .register [] host) ∧
      ∀ given, next = .resolved given →
        ∀ host, request.host = some host → GivenHost connection host given := by
  cases stage with
  | taken =>
    cases request with
    | register =>
      cases outcome
      simp
    | unregister | getClient =>
      simp only [NameRequest.advance] at outcome
      split at outcome <;> cases outcome
      simp
  | checked =>
    cases request with
    | register serviceName host =>
      simp only [NameRequest.advance] at outcome
      split at outcome <;> cases outcome
      · next empty =>
        subst empty
        simp
      · refine ⟨by simp, by simp, ?_⟩
        rintro _ ⟨⟩ _ ⟨⟩
        exact located.resolves host
    | unregister serviceName host =>
      simp only [NameRequest.advance] at outcome
      split at outcome <;> cases outcome
      refine ⟨by simp, by simp, ?_⟩
      rintro _ ⟨⟩ _ ⟨⟩
      exact located.resolves host
    | getClient => cases outcome
  | resolved given => cases request <;> cases outcome
  | answering answer => cases outcome

theorem TableAnswer.stage_some {answer : TableAnswer} (waits : answer.stage = some next) :
    next = .answering answer := by
  cases answer <;> cases waits <;> rfl

end Advance

section Kept

structure ConnectionKept (connection after : AcceptedSock) : Prop where
  peer : after.peer = connection.peer
  closed : connection.closing = .closed → after.closing = .closed

theorem connectionKept_refl (connection : AcceptedSock) : ConnectionKept connection connection :=
  ⟨rfl, id⟩

theorem GivenHost.kept {connection after : AcceptedSock} {host given : ClientHost}
    (kept : ConnectionKept connection after) (own : GivenHost connection host given) :
    GivenHost after host given := by
  refine ⟨own.1, fun none => ?_⟩
  rcases own.2 none with peer | ⟨closed, same⟩
  · exact .inl (kept.peer ▸ peer)
  · exact .inr ⟨kept.closed closed, same⟩

theorem NameRequest.Means.kept {connection after : AcceptedSock} {request : NameRequest}
    {op : TableOp} (kept : ConnectionKept connection after) (means : request.Means connection op) :
    request.Means after op := by
  cases request <;> cases op <;> first
    | exact means
    | exact ⟨means.1, means.2.kept kept⟩

end Kept

namespace Registrar

section Growth

structure Grows (registrar later : Registrar) : Prop where
  requests : registrar.requests <+: later.requests
  connections : InPlace.Kept ConnectionKept registrar.connections later.connections
  history : registrar.history <+: later.history
  answered : registrar.answered <+: later.answered

variable {registrar following : Registrar}

theorem Grows.refl (registrar : Registrar) : registrar.Grows registrar where
  requests := List.prefix_rfl
  connections := .refl connectionKept_refl _
  history := List.prefix_rfl
  answered := List.prefix_rfl

theorem putStage_grows {registrar following : Registrar} (grows : registrar.Grows following)
    (worker number : Nat) (stage : Option NameStage) :
    registrar.Grows (following.putStage worker number stage) := by
  cases stage <;> exact ⟨grows.requests, grows.connections, grows.history, grows.answered⟩

theorem serve_grows (registrar : Registrar) (call : Option Nat) (op : TableOp) :
    registrar.Grows (registrar.serve call op) :=
  { Grows.refl registrar with history := List.prefix_append _ _ }

theorem change_grows (change : Change registrar following) : registrar.Grows following := by
  have same := Grows.refl registrar
  have kept {addr : Nat} {connection after : AcceptedSock}
      (found : registrar.connections[addr]? = some connection)
      (same : ConnectionKept connection after) :
      InPlace.Kept ConnectionKept registrar.connections (registrar.connections.set addr after) :=
    InPlace.kept_set connectionKept_refl found same
  cases change with
  | accept fd peer =>
    exact { same with connections := InPlace.kept_append connectionKept_refl _ _ }
  | read addr request connection found =>
    exact { same with requests := List.prefix_append _ _ }
  | take number workTasks front => exact { same with }
  | goes worker number addr stage next request connection rand there asked found outcome =>
    exact { same with }
  | serves worker number addr stage op request connection rand there asked found outcome =>
    exact putStage_grows (serve_grows registrar _ op) worker number _
  | sends worker number answer there => exact { same with answered := List.prefix_append _ _ }
  | returns worker => exact { same with }
  | onClose addr connection closing op found opened leaves =>
    exact { serve_grows registrar none op with
      connections := kept found ⟨rfl, fun closed => absurd closed opened⟩ }
  | close addr connection found =>
    exact { same with connections := kept found ⟨rfl, fun _ => rfl⟩ }

end Growth

section Sound

def calls (registrar : Registrar) : List Nat := Serial.calls registrar.history

def numbers (registrar : Registrar) : List Nat :=
  registrar.answered.map Prod.fst ++ (registrar.workTasks ++ registrar.workers.map Prod.fst)

-- The request of this number is such a one, from such a connection.
def AskedAs (registrar : Registrar) (number : Nat)
    (holds : AcceptedSock -> NameRequest -> Prop) : Prop :=
  ∃ addr request connection, registrar.requests[number]? = some (addr, request) ∧
    registrar.connections[addr]? = some connection ∧ holds connection request

-- An answer is what the tables gave, but for a request without a name.
def Given (registrar : Registrar) (number : Nat) (answer : TableAnswer) : Prop :=
  (answer = emptyNameAnswer ∧
    registrar.AskedAs number fun _ request => ∃ host, request = .register [] host) ∨
  ∃ entry ∈ registrar.history, entry.call = some number ∧ entry.answer = answer

def StageSound (registrar : Registrar) (number : Nat) : NameStage -> Prop
  | .taken | .checked => number ∉ registrar.calls
  | .resolved given => number ∉ registrar.calls ∧
    registrar.AskedAs number fun connection request =>
      ∀ host, request.host = some host → GivenHost connection host given
  | .answering answer => registrar.Given number answer

structure Sound (registrar : Registrar) : Prop where
  served : Serial.Served Registry.serve .empty registrar.history registrar.registry
  apart : registrar.numbers.Nodup
  queued : ∀ number ∈ registrar.numbers, number < registrar.requests.length
  called : ∀ number ∈ registrar.calls, number < registrar.requests.length
  waiting : ∀ number ∈ registrar.workTasks, number ∉ registrar.calls
  workers : ∀ worker ∈ registrar.workers, registrar.StageSound worker.1 worker.2
  located : ∀ connection ∈ registrar.connections, connection.Located
  own : ∀ entry ∈ registrar.history, ∀ number, entry.call = some number →
    registrar.AskedAs number fun connection request => request.Means connection entry.op
  leaves : ∀ entry ∈ registrar.history, entry.call = none →
    ∀ sock serviceName host, entry.op ≠ .registerHost sock serviceName host
  told : ∀ answer ∈ registrar.answered, registrar.Given answer.1 answer.2

theorem sound_initial : initial.Sound := by
  constructor
  case served => exact Serial.served_nil _
  all_goals simp [initial, calls, Serial.calls, numbers]

variable {registrar following later : Registrar} {number : Nat}
  {holds : AcceptedSock -> NameRequest -> Prop}

theorem Grows.askedAs (grows : registrar.Grows later) (asked : registrar.AskedAs number holds)
    (stable : ∀ connection after request, ConnectionKept connection after →
      holds connection request → holds after request) : later.AskedAs number holds := by
  obtain ⟨addr, request, connection, there, found, held⟩ := asked
  obtain ⟨after, afterFound, kept⟩ := grows.connections addr connection found
  exact ⟨addr, request, after, InPlace.found_in_prefix grows.requests there, afterFound,
    stable _ _ _ kept held⟩

theorem Grows.given (grows : registrar.Grows later) {answer : TableAnswer}
    (given : registrar.Given number answer) : later.Given number answer := by
  rcases given with ⟨empty, asked⟩ | ⟨entry, member, call, answered⟩
  · exact .inl ⟨empty, grows.askedAs asked fun _ _ _ _ same => same⟩
  · exact .inr ⟨entry, grows.history.subset member, call, answered⟩

theorem StageSound.unserved {stage : NameStage} (sound : registrar.StageSound number stage)
    (silent : ∀ answer, stage ≠ .answering answer) : number ∉ registrar.calls := by
  cases stage with
  | taken | checked => exact sound
  | resolved given => exact sound.1
  | answering answer => exact absurd rfl (silent answer)

theorem StageSound.kept {stage : NameStage} (sound : registrar.StageSound number stage)
    (grows : registrar.Grows later)
    (unserved : number ∉ registrar.calls → number ∉ later.calls) :
    later.StageSound number stage := by
  cases stage with
  | taken | checked => exact unserved sound
  | resolved given =>
    refine ⟨unserved sound.1, grows.askedAs sound.2 fun _ _ _ kept own => ?_⟩
    exact fun host named => (own host named).kept kept
  | answering answer => exact grows.given sound

theorem serve_calls (registrar : Registrar) (call : Option Nat) (op : TableOp) :
    (registrar.serve call op).calls = registrar.calls ++ call.toList := by
  simp only [calls, Serial.calls, serve, List.filterMap_append]
  cases call <;> rfl

theorem Sound.tells (sound : registrar.Sound) (grows : registrar.Grows following) :
    ∀ answer ∈ registrar.answered, following.Given answer.1 answer.2 :=
  fun answer member => grows.given (sound.told answer member)

theorem Sound.keeps (sound : registrar.Sound) (grows : registrar.Grows following)
    (registry : following.registry = registrar.registry)
    (history : following.history = registrar.history)
    (apart : following.numbers.Nodup)
    (queued : ∀ number ∈ following.numbers, number < following.requests.length)
    (waiting : ∀ number ∈ following.workTasks, number ∉ registrar.calls)
    (workers : ∀ worker ∈ following.workers, following.StageSound worker.1 worker.2)
    (located : ∀ connection ∈ following.connections, connection.Located)
    (told : ∀ answer ∈ following.answered, following.Given answer.1 answer.2) :
    following.Sound where
  served := by
    rw [registry, history]
    exact sound.served
  apart := apart
  queued := queued
  called := by
    rw [calls, history]
    exact fun number member => (sound.called number member).trans_le grows.requests.length_le
  waiting := by
    rw [calls, history]
    exact waiting
  workers := workers
  located := located
  own := by
    rw [history]
    exact fun entry member number call =>
      grows.askedAs (sound.own entry member number call) fun _ _ _ kept means => means.kept kept
  leaves := by
    rw [history]
    exact sound.leaves
  told := told

theorem Sound.moves (sound : registrar.Sound) (grows : registrar.Grows following)
    (registry : following.registry = registrar.registry)
    (history : following.history = registrar.history)
    (numbers : following.numbers.Subperm registrar.numbers)
    (workTasks : following.workTasks ⊆ registrar.workTasks)
    (workers : ∀ worker ∈ following.workers, following.StageSound worker.1 worker.2)
    (located : ∀ connection ∈ following.connections, connection.Located)
    (told : ∀ answer ∈ following.answered, following.Given answer.1 answer.2) :
    following.Sound := by
  obtain ⟨kept, same, fewer⟩ := numbers
  have apart := same.nodup_iff.mp (sound.apart.sublist fewer)
  refine sound.keeps grows registry history apart ?_
    (fun number member => sound.waiting number (workTasks member)) workers located told
  intro number member
  have queued := sound.queued number (fewer.subset (same.symm.subset member))
  exact queued.trans_le grows.requests.length_le

section Steps

variable {worker addr : Nat} {stage : NameStage}

theorem Sound.located_set (sound : registrar.Sound) {after : AcceptedSock}
    (located : after.Located) :
    ∀ other ∈ registrar.connections.set addr after, other.Located := by
  intro other member
  rcases List.mem_or_eq_of_mem_set member with older | rfl
  · exact sound.located other older
  · exact located

theorem workers_set (there : registrar.workers[worker]? = some (number, stage))
    (next : NameStage) :
    (registrar.workers.set worker (number, next)).map Prod.fst = registrar.workers.map Prod.fst :=
  Transition.map_set_same there rfl

theorem erased_sublist (registrar : Registrar) (worker : Nat) :
    (numbers { registrar with workers := registrar.workers.eraseIdx worker }).Sublist
      registrar.numbers :=
  (List.Sublist.refl _).append
    ((List.Sublist.refl _).append ((List.eraseIdx_sublist _ _).map _))

theorem Sound.read (sound : registrar.Sound) (addr : Nat) (request : NameRequest) :
    Sound { registrar with
      requests := registrar.requests ++ [(addr, request)]
      workTasks := registrar.workTasks ++ [registrar.requests.length] } := by
  have grows : registrar.Grows { registrar with
      requests := registrar.requests ++ [(addr, request)]
      workTasks := registrar.workTasks ++ [registrar.requests.length] } :=
    { Grows.refl registrar with requests := List.prefix_append _ _ }
  have new : registrar.requests.length ∉ registrar.numbers :=
    fun member => Nat.lt_irrefl _ (sound.queued _ member)
  have more : (registrar.answered.map Prod.fst ++ (registrar.workTasks ++
      [registrar.requests.length] ++ registrar.workers.map Prod.fst)).Perm
      (registrar.requests.length :: registrar.numbers) := by
    have middle := @List.perm_middle _ registrar.requests.length
      (registrar.answered.map Prod.fst ++ registrar.workTasks) (registrar.workers.map Prod.fst)
    simpa only [numbers, List.append_assoc, List.singleton_append] using middle
  refine sound.keeps grows rfl rfl ?_ ?_ ?_ ?_ sound.located (sound.tells grows)
  · exact more.nodup_iff.mpr (List.nodup_cons.mpr ⟨new, sound.apart⟩)
  · intro number member
    rw [List.length_append, List.length_singleton]
    rcases List.mem_cons.mp (more.subset member) with rfl | older
    · exact Nat.lt_succ_self _
    · exact Nat.lt_succ_of_lt (sound.queued number older)
  · intro number member
    rcases List.mem_append.mp member with older | last
    · exact sound.waiting number older
    · rw [List.mem_singleton.mp last]
      exact fun served => Nat.lt_irrefl _ (sound.called _ served)
  · exact fun worker member => (sound.workers worker member).kept grows id

theorem Sound.take (sound : registrar.Sound) {workTasks : List Nat}
    (front : registrar.workTasks = number :: workTasks) :
    Sound { registrar with workTasks, workers := registrar.workers ++ [(number, .taken)] } := by
  have grows : registrar.Grows
      { registrar with workTasks, workers := registrar.workers ++ [(number, .taken)] } :=
    { Grows.refl registrar with }
  have same : (registrar.answered.map Prod.fst ++ (workTasks ++ (registrar.workers ++
      [(number, NameStage.taken)]).map Prod.fst)).Perm registrar.numbers := by
    rw [numbers, front, List.map_append, ← List.append_assoc workTasks]
    exact (List.perm_append_singleton _ _).append_left _
  have queue : workTasks ⊆ registrar.workTasks := by
    rw [front]
    exact List.subset_cons_self _ _
  refine sound.moves grows rfl rfl same.subperm queue ?_ sound.located (sound.tells grows)
  intro worker member
  rcases List.mem_append.mp member with older | last
  · exact (sound.workers worker older).kept grows id
  · rw [List.mem_singleton.mp last]
    exact sound.waiting number (front ▸ List.mem_cons_self)

theorem Sound.goes (sound : registrar.Sound) {next : NameStage}
    (there : registrar.workers[worker]? = some (number, stage))
    (stays : registrar.StageSound number next) :
    Sound { registrar with workers := registrar.workers.set worker (number, next) } := by
  have grows : registrar.Grows
      { registrar with workers := registrar.workers.set worker (number, next) } :=
    { Grows.refl registrar with }
  have same : numbers { registrar with workers := registrar.workers.set worker (number, next) } =
      registrar.numbers := by
    simp only [numbers, workers_set there next]
  refine sound.moves grows rfl rfl (List.Perm.of_eq same).subperm (List.Subset.refl _) ?_
    sound.located (sound.tells grows)
  intro other member
  rcases List.mem_or_eq_of_mem_set member with older | rfl
  · exact (sound.workers other older).kept grows id
  · exact stays.kept grows id

theorem Sound.returns (sound : registrar.Sound) (worker : Nat) :
    Sound { registrar with workers := registrar.workers.eraseIdx worker } := by
  have grows : registrar.Grows
      { registrar with workers := registrar.workers.eraseIdx worker } :=
    { Grows.refl registrar with }
  refine sound.moves grows rfl rfl (erased_sublist registrar worker).subperm
    (List.Subset.refl _) ?_ sound.located (sound.tells grows)
  intro other member
  exact (sound.workers other (List.mem_of_mem_eraseIdx member)).kept grows id

theorem Sound.other_worker (sound : registrar.Sound) {other : Nat × NameStage} {place : Nat}
    (there : registrar.workers[worker]? = some (number, stage))
    (otherThere : registrar.workers[place]? = some other) (apart : worker ≠ place) :
    other.1 ≠ number := by
  intro same
  have distinct := sound.apart.of_append_right.of_append_right
  exact apart (Transition.index_of_value distinct there otherThere same.symm)

theorem Sound.serves (sound : registrar.Sound) {op : TableOp}
    (there : registrar.workers[worker]? = some (number, stage))
    (unserved : number ∉ registrar.calls)
    (asked : registrar.AskedAs number fun connection request => request.Means connection op) :
    Sound ((registrar.serve (some number) op).putStage worker number
      (registrar.registry.serve op).1.stage) := by
  have grows := putStage_grows (serve_grows registrar (some number) op) worker number
    (registrar.registry.serve op).1.stage
  have inHand : number ∈ registrar.workers.map Prod.fst :=
    List.mem_map_of_mem (List.mem_of_getElem? there)
  have calls := serve_calls registrar (some number) op
  have kept {other : Nat} (apart : other ≠ number) (before : other ∉ registrar.calls) :
      other ∉ (registrar.serve (some number) op).calls := by
    rw [calls, List.mem_append]
    rintro (older | last)
    · exact before older
    · exact apart (List.mem_singleton.mp last)
  have others {following : Registrar} (grows : registrar.Grows following)
      (same : following.calls = (registrar.serve (some number) op).calls)
      {place : Nat} {other : Nat × NameStage} (apart : worker ≠ place)
      (otherThere : registrar.workers[place]? = some other) :
      following.StageSound other.1 other.2 := by
    refine (sound.workers other (List.mem_of_getElem? otherThere)).kept grows ?_
    rw [same]
    exact kept (sound.other_worker there otherThere apart)
  have served := sound.served.concat
    (fun own (same : some number = some own) => Option.some.inj same ▸ unserved) op
  have called : ∀ other ∈ (registrar.serve (some number) op).calls,
      other < registrar.requests.length := by
    rw [calls]
    intro other member
    rcases List.mem_append.mp member with older | last
    · exact sound.called other older
    · rw [List.mem_singleton.mp last]
      exact sound.queued number (List.mem_append_right _ (List.mem_append_right _ inHand))
  have waiting : ∀ other ∈ registrar.workTasks,
      other ∉ (registrar.serve (some number) op).calls := by
    intro other member
    refine kept ?_ (sound.waiting other member)
    rintro rfl
    exact (List.nodup_append.mp sound.apart.of_append_right).2.2 other member other inHand rfl
  have own : ∀ entry ∈ (registrar.serve (some number) op).history, ∀ other,
      entry.call = some other → registrar.AskedAs other fun connection request =>
        request.Means connection entry.op := by
    intro entry member other call
    rcases List.mem_append.mp member with older | last
    · exact sound.own entry older other call
    · rw [List.mem_singleton.mp last] at call ⊢
      cases call
      exact asked
  have leaves : ∀ entry ∈ (registrar.serve (some number) op).history, entry.call = none →
      ∀ sock serviceName host, entry.op ≠ .registerHost sock serviceName host := by
    intro entry member silent
    rcases List.mem_append.mp member with older | last
    · exact sound.leaves entry older silent
    · rw [List.mem_singleton.mp last] at silent
      cases silent
  cases answer : (registrar.registry.serve op).1.stage with
  | some next =>
    rw [answer] at grows
    have same := workers_set there next
    refine ⟨served, ?_, ?_, called, waiting, ?_, sound.located, own, leaves,
      sound.tells grows⟩
    · simp only [numbers, putStage, serve, same]
      exact sound.apart
    · simp only [numbers, putStage, serve, same]
      exact sound.queued
    · intro other member
      obtain ⟨place, otherThere⟩ := List.mem_iff_getElem?.mp member
      rcases Transition.found_in_set otherThere with ⟨_, rfl⟩ | ⟨apart, older⟩
      · rw [TableAnswer.stage_some answer]
        exact .inr ⟨_, List.mem_append_right _ (List.mem_singleton_self _), rfl, rfl⟩
      · exact others grows rfl apart.symm older
  | none =>
    rw [answer] at grows
    have fewer := erased_sublist registrar worker
    refine ⟨served, sound.apart.sublist fewer, ?_, called, waiting, ?_, sound.located, own, leaves,
      sound.tells grows⟩
    · exact fun other member => sound.queued other (fewer.subset member)
    · intro other member
      obtain ⟨place, apart, older⟩ := List.mem_eraseIdx_iff_getElem?.mp member
      exact others grows rfl apart.symm older

theorem Sound.sends (sound : registrar.Sound) {answer : TableAnswer}
    (there : registrar.workers[worker]? = some (number, .answering answer)) :
    Sound { registrar with
      workers := registrar.workers.eraseIdx worker
      answered := registrar.answered ++ [(number, answer)] } := by
  have grows : registrar.Grows { registrar with
      workers := registrar.workers.eraseIdx worker
      answered := registrar.answered ++ [(number, answer)] } :=
    { Grows.refl registrar with answered := List.prefix_append _ _ }
  obtain ⟨bound, value⟩ := List.getElem?_eq_some_iff.mp there
  have taken := (List.getElem_cons_eraseIdx_perm bound).map Prod.fst
  rw [value] at taken
  have same : ((registrar.answered ++ [(number, answer)]).map Prod.fst ++ (registrar.workTasks ++
      (registrar.workers.eraseIdx worker).map Prod.fst)).Perm registrar.numbers := by
    rw [List.map_append, List.append_assoc]
    exact (List.perm_middle.symm.trans (taken.append_left _)).append_left _
  refine sound.moves grows rfl rfl same.subperm (List.Subset.refl _) ?_ sound.located ?_
  · intro other member
    exact (sound.workers other (List.mem_of_mem_eraseIdx member)).kept grows id
  · intro other member
    rcases List.mem_append.mp member with older | last
    · exact sound.tells grows other older
    · rw [List.mem_singleton.mp last]
      exact grows.given (sound.workers _ (List.mem_of_getElem? there))

theorem Sound.relocates (sound : registrar.Sound) {connections : List AcceptedSock}
    (kept : InPlace.Kept ConnectionKept registrar.connections connections)
    (located : ∀ connection ∈ connections, connection.Located) :
    Sound { registrar with connections } := by
  have grows : registrar.Grows { registrar with connections } :=
    { Grows.refl registrar with connections := kept }
  exact sound.moves grows rfl rfl (List.Subperm.refl _) (List.Subset.refl _)
    (fun worker member => (sound.workers worker member).kept grows id) located (sound.tells grows)

theorem Sound.servesClose (sound : registrar.Sound) {op : TableOp}
    (leaves : ∀ sock serviceName host, op ≠ .registerHost sock serviceName host) :
    (registrar.serve none op).Sound := by
  have grows := serve_grows registrar none op
  have calls : (registrar.serve none op).calls = registrar.calls := by
    rw [serve_calls]
    exact List.append_nil _
  have unserved {number : Nat} (before : number ∉ registrar.calls) :
      number ∉ (registrar.serve none op).calls := by
    rw [calls]
    exact before
  refine ⟨sound.served.concat (fun own same => by cases same) op, sound.apart, sound.queued, ?_,
    fun number member => unserved (sound.waiting number member),
    fun worker member => (sound.workers worker member).kept grows unserved, sound.located, ?_, ?_,
    sound.tells grows⟩
  · rw [calls]
    exact sound.called
  · intro entry member number call
    rcases List.mem_append.mp member with older | last
    · exact sound.own entry older number call
    · rw [List.mem_singleton.mp last] at call
      cases call
  · intro entry member silent
    rcases List.mem_append.mp member with older | last
    · exact sound.leaves entry older silent
    · rw [List.mem_singleton.mp last]
      exact leaves

end Steps

theorem change_sound (sound : registrar.Sound) (change : Change registrar following) :
    following.Sound := by
  cases change with
  | accept fd peer =>
    refine sound.relocates (InPlace.kept_append connectionKept_refl _ _) ?_
    intro connection member
    rcases List.mem_append.mp member with older | last
    · exact sound.located connection older
    · rw [List.mem_singleton.mp last]
      exact .inl rfl
  | read addr request connection found => exact sound.read addr request
  | take number workTasks front => exact sound.take front
  | goes worker number addr stage next request connection rand there asked found outcome =>
    have stays := sound.workers _ (List.mem_of_getElem? there)
    obtain ⟨silent, answers, resolves⟩ :=
      advance_goes outcome (sound.located connection (List.mem_of_getElem? found))
    have unserved := stays.unserved silent
    refine sound.goes there ?_
    cases next with
    | taken | checked => exact unserved
    | resolved given =>
      exact ⟨unserved, addr, request, connection, asked, found, resolves given rfl⟩
    | answering answer =>
      obtain ⟨empty, named⟩ := answers answer rfl
      exact .inl ⟨empty, addr, request, connection, asked, found, named⟩
  | serves worker number addr stage op request connection rand there asked found outcome =>
    have stays := sound.workers _ (List.mem_of_getElem? there)
    have resolved : ∀ given, stage = .resolved given →
        ∀ host, request.host = some host → GivenHost connection host given := by
      rintro given rfl host holds
      obtain ⟨_, _, _, _, ownAsked, ownFound, ownGiven⟩ := stays
      obtain ⟨rfl, rfl⟩ := Prod.mk.inj (Option.some.inj (asked.symm.trans ownAsked))
      obtain rfl := Option.some.inj (found.symm.trans ownFound)
      exact ownGiven host holds
    obtain ⟨means, silent⟩ := advance_serves outcome resolved
    exact sound.serves there (stays.unserved silent)
      ⟨addr, request, connection, asked, found, means⟩
  | sends worker number answer there => exact sound.sends there
  | returns worker => exact sound.returns worker
  | onClose addr connection closing op found opened leaves =>
    have served := sound.servesClose leaves
    have kept : ConnectionKept connection { connection with closing } :=
      ⟨rfl, fun closed => absurd closed opened⟩
    refine served.relocates (InPlace.kept_set connectionKept_refl found kept) ?_
    refine served.located_set ?_
    rcases sound.located connection (List.mem_of_getElem? found) with peer | ⟨closed, _⟩
    · exact .inl peer
    · exact absurd closed opened
  | close addr connection found =>
    have kept : ConnectionKept connection
        { connection with sock := connection.sock.close, closing := .closed } := ⟨rfl, fun _ => rfl⟩
    refine sound.relocates (InPlace.kept_set connectionKept_refl found kept) ?_
    exact sound.located_set (.inr ⟨rfl, rfl⟩)

theorem sound_of_reachable (reachable : Transition.Reachable step initial registrar) :
    registrar.Sound :=
  reachable.invariant Sound sound_initial
    fun _ _ _ sound _ taken => change_sound sound (step_changes taken)

end Sound

end Registrar
end MessageBus.Server
