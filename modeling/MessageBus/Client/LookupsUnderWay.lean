import MessageBus.Client.NamedPosts

set_option autoImplicit false

namespace MessageBus.Client.NamedPosts

inductive LookupUnderWay (state : NamedPosts) (clientname : ClientName) : Prop where
  | calling (name : Bytes) (asks : (state.workers name).phase.asks = some clientname)
  | outstanding (msgId : UInt32) (future : FutureRef)
      (inTable : state.futureMgr.sendmsgRspContainer[msgId]? = some future)
      (lookup : state.isLookup future = true) (sent : (future, clientname) ∈ state.asked)
  -- HandleRspGetClient runs for it and has not taken the tasks yet.
  | answered (future : FutureRef) (rsp : Option GetClientRsp)
      (answering : state.answering = .found future rsp) (sent : (future, clientname) ∈ state.asked)

def NoneStuck (state : NamedPosts) : Prop :=
  ∀ clientname, state.waiting clientname ≠ [] → state.LookupUnderWay clientname

-- ReqReceiverInfo finds the server connected, an id that is not in use and a connection that takes
-- the request, and an answer to it comes after it and names the client it asked for.
def lookupsSucceed (state : NamedPosts) : Event -> Bool
  | .worker _ .testConnecting => state.serverConnecting
  | .worker _ (.insertFuture _) =>
    (state.futureMgr.sendmsgRspContainer[state.futureMgr.nextFutureId]?).isNone
  | .worker _ (.sendRequest accepted) => state.serverTcp && accepted
  | .frame msgId rsp =>
    (state.futureMgr.sendmsgRspContainer[msgId]?).all fun future =>
      !state.isLookup future ||
        (state.asked.any fun request => request.1 == future) &&
          state.asked.all fun request =>
            request.1 != future || rsp.any fun rsp => rsp.destName == request.2
  | _ => true

structure Attended (state : NamedPosts) : Prop where
  waiting : state.NoneStuck
  asked : ∀ request ∈ state.asked, request.1 < state.futureMgr.futures.length
  sending : ∀ name clientname msgId future,
    (state.workers name).phase = .sending clientname msgId future →
      state.futureMgr.sendmsgRspContainer[msgId]? = some future ∧ state.isLookup future = true ∧
        ∀ request ∈ state.asked, request.1 ≠ future
  apart : ∀ name other clientname otherClient msgId otherId future,
    (state.workers name).phase = .sending clientname msgId future →
      (state.workers other).phase = .sending otherClient otherId future → name = other
  answers : ∀ future rsp, state.answering = .found future rsp →
    (∃ request ∈ state.asked, request.1 = future) ∧
      ∃ answer : GetClientRsp, rsp = some answer ∧
        ∀ request ∈ state.asked, request.1 = future → request.2 = answer.destName

theorem attended_initial : initial.Attended := by
  constructor <;> simp [initial, NoneStuck]

variable {state following : NamedPosts}

theorem LookupUnderWay.kept {clientname : ClientName}
    (underWay : state.LookupUnderWay clientname)
    (table : ∀ (msgId : UInt32) (future : FutureRef),
      state.futureMgr.sendmsgRspContainer[msgId]? = some future → state.isLookup future = true →
        following.futureMgr.sendmsgRspContainer[msgId]? = some future ∧
          following.isLookup future = true)
    (asked : ∀ request ∈ state.asked, request ∈ following.asked)
    (found : ∀ future rsp, state.answering = .found future rsp →
      following.answering = .found future rsp)
    (calling : ∀ name, (state.workers name).phase.asks = some clientname →
      following.LookupUnderWay clientname) : following.LookupUnderWay clientname := by
  cases underWay with
  | calling name asks => exact calling name asks
  | outstanding msgId future inTable lookup sent =>
    obtain ⟨stillThere, stillLookup⟩ := table msgId future inTable lookup
    exact .outstanding msgId future stillThere stillLookup (asked _ sent)
  | answered future rsp answering sent =>
    exact .answered future rsp (found future rsp answering) (asked _ sent)

theorem Attended.sameTable (attended : state.Attended)
    (sameMgr : following.futureMgr = state.futureMgr) (sameAsked : following.asked = state.asked)
    (found : ∀ future rsp, following.answering = .found future rsp ↔
      state.answering = .found future rsp)
    (asks : ∀ name clientname, (state.workers name).phase.asks = some clientname →
      (following.workers name).phase.asks = some clientname)
    (sending : ∀ name clientname msgId future,
      (following.workers name).phase = .sending clientname msgId future →
        (state.workers name).phase = .sending clientname msgId future)
    (waits : ∀ clientname, following.waiting clientname ≠ [] → state.waiting clientname ≠ [] ∨
      ∃ name, (following.workers name).phase.asks = some clientname) : following.Attended := by
  constructor
  · intro clientname someWait
    rcases waits clientname someWait with waited | ⟨name, asked⟩
    · apply (attended.waiting clientname waited).kept
      · intro msgId future inTable lookup
        rw [isLookup, sameMgr]
        exact ⟨inTable, lookup⟩
      · exact fun request member => sameAsked ▸ member
      · exact fun future rsp => (found future rsp).mpr
      · exact fun name asking => .calling name (asks name clientname asking)
    · exact .calling name asked
  · rw [sameAsked, sameMgr]
    exact attended.asked
  · intro name clientname msgId future phase
    rw [sameAsked, isLookup, sameMgr]
    exact attended.sending name clientname msgId future (sending _ _ _ _ phase)
  · intro name other clientname otherClient msgId otherId future phase otherPhase
    exact attended.apart name other clientname otherClient msgId otherId future
      (sending _ _ _ _ phase) (sending _ _ _ _ otherPhase)
  · intro future rsp answering
    rw [sameAsked]
    exact attended.answers future rsp ((found future rsp).mp answering)

section Workers

variable {name other : Bytes} {worker : Worker}

theorem setWorker_asks {clientname : ClientName}
    (kept : ∀ clientname, (state.workers name).phase.asks = some clientname →
      worker.phase.asks = some clientname)
    (asks : (state.workers other).phase.asks = some clientname) :
    ((state.setWorker name worker).workers other).phase.asks = some clientname := by
  by_cases same : other = name
  · subst same
    simp only [setWorker, Function.update_self]
    exact kept clientname asks
  · simp only [setWorker, Function.update_of_ne same]
    exact asks

theorem setWorker_sending {clientname : ClientName} {msgId : UInt32} {future : FutureRef}
    (unsent : worker.phase ≠ .sending clientname msgId future)
    (sends : ((state.setWorker name worker).workers other).phase =
      .sending clientname msgId future) :
    (state.workers other).phase = .sending clientname msgId future := by
  by_cases same : other = name
  · subst same
    simp only [setWorker, Function.update_self] at sends
    exact absurd sends unsent
  · simpa only [setWorker, Function.update_of_ne same] using sends

theorem Attended.workerMoves (attended : state.Attended)
    {waiting : ClientName -> List Req2ReceiverTask}
    {cachedClientInfo : ClientName -> Option LocalHostInfo} {handed : List Req2ReceiverTask}
    {dropped : List (Req2ReceiverTask × DropReason)}
    (kept : ∀ clientname, (state.workers name).phase.asks = some clientname →
      worker.phase.asks = some clientname)
    (unsent : ∀ clientname msgId future, worker.phase ≠ .sending clientname msgId future)
    (waits : ∀ clientname, waiting clientname ≠ [] →
      state.waiting clientname ≠ [] ∨ worker.phase.asks = some clientname) :
    Attended { state.setWorker name worker with waiting, cachedClientInfo, handed, dropped } := by
  refine attended.sameTable rfl rfl (fun _ _ => Iff.rfl) ?_ ?_ ?_
  · exact fun other clientname asks => setWorker_asks kept asks
  · exact fun other clientname msgId future sends =>
      setWorker_sending (unsent clientname msgId future) sends
  · intro clientname someWait
    refine (waits clientname someWait).imp_right fun asks => ⟨name, ?_⟩
    simp only [setWorker, Function.update_self]
    exact asks

end Workers

section Table

variable {mgr : FutureMgr}

theorem insert_keeps (callback : Bool) (now : Int) {msgId : UInt32} {future : FutureRef}
    (inTable : mgr.sendmsgRspContainer[msgId]? = some future) :
    (mgr.safeInsertFuture callback now).2.sendmsgRspContainer[msgId]? = some future := by
  cases taken : mgr.sendmsgRspContainer[mgr.nextFutureId]? with
  | none =>
    exact (FutureMgr.insertIsFresh_of_free callback now taken).kept msgId future inTable
  | some present =>
    rw [FutureMgr.safeInsertFuture_clash callback now taken]
    exact inTable

theorem insert_inside (callback : Bool) (now : Int) {future : FutureRef}
    (inside : future < mgr.futures.length) :
    future < (mgr.safeInsertFuture callback now).2.futures.length := by
  rw [FutureMgr.safeInsertFuture_futures, List.length_append]
  exact Nat.lt_add_right _ inside

theorem lookup_inside {future : FutureRef} (lookup : state.isLookup future = true) :
    future < state.futureMgr.futures.length := by
  rw [isLookup, Option.any_eq_true] at lookup
  obtain ⟨_, there, _⟩ := lookup
  exact (List.getElem?_eq_some_iff.mp there).1

theorem insert_lookup (callback : Bool) (now : Int) {future : FutureRef}
    (lookup : state.isLookup future = true) :
    isLookup { state with futureMgr := (state.futureMgr.safeInsertFuture callback now).2 } future =
      true := by
  simp only [isLookup, FutureMgr.safeInsertFuture_futures]
  rw [List.getElem?_append_left (lookup_inside lookup)]
  exact lookup

end Table

theorem Attended.otherRequest (attended : state.Attended) (now : Int) :
    Attended { state with futureMgr := (state.futureMgr.safeInsertFuture false now).2 } := by
  constructor
  · intro clientname someWait
    apply (attended.waiting clientname someWait).kept
    · intro msgId future inTable lookup
      exact ⟨insert_keeps false now inTable, insert_lookup false now lookup⟩
    · exact fun request member => member
    · exact fun future rsp answering => answering
    · exact fun name asks => .calling name asks
  · intro request member
    exact insert_inside false now (attended.asked request member)
  · intro name clientname msgId future phase
    obtain ⟨inTable, lookup, unasked⟩ := attended.sending name clientname msgId future phase
    exact ⟨insert_keeps false now inTable, insert_lookup false now lookup, unasked⟩
  · exact attended.apart
  · exact attended.answers

theorem Attended.insertFuture (attended : state.Attended) {name : Bytes} {clientname : ClientName}
    (now : Int) (phase : (state.workers name).phase = .inserting clientname)
    (free : state.futureMgr.sendmsgRspContainer[state.futureMgr.nextFutureId]? = none) :
    Attended { state.setPhase name (.sending clientname state.futureMgr.nextFutureId
        state.futureMgr.futures.length) with
      futureMgr := (state.futureMgr.safeInsertFuture true now).2 } := by
  have inserted := FutureMgr.safeInsertFuture_fresh true now free
  have asks {other : Bytes} {asked : ClientName}
      (asking : (state.workers other).phase.asks = some asked) :
      ((state.setPhase name (.sending clientname state.futureMgr.nextFutureId
        state.futureMgr.futures.length)).workers other).phase.asks = some asked := by
    refine setWorker_asks ?_ asking
    intro _ wasAsking
    rw [phase] at wasAsking
    exact wasAsking
  -- A sending worker is the one that has inserted, or was sending before.
  have sends {other : Bytes} {client : ClientName} {msgId : UInt32} {future : FutureRef}
      (sending : ((state.setPhase name (.sending clientname state.futureMgr.nextFutureId
        state.futureMgr.futures.length)).workers other).phase = .sending client msgId future) :
      (other = name ∧ msgId = state.futureMgr.nextFutureId ∧
        future = state.futureMgr.futures.length) ∨
        (state.workers other).phase = .sending client msgId future := by
    by_cases same : other = name
    · subst same
      simp only [setPhase, setWorker, Function.update_self] at sending
      cases sending
      exact .inl ⟨rfl, rfl, rfl⟩
    · simp only [setPhase, setWorker, Function.update_of_ne same] at sending
      exact .inr sending
  constructor
  · intro client someWait
    apply (attended.waiting client someWait).kept
    · intro msgId future inTable lookup
      exact ⟨insert_keeps true now inTable, insert_lookup true now lookup⟩
    · exact fun request member => member
    · exact fun future rsp answering => answering
    · exact fun other asking => .calling other (asks asking)
  · intro request member
    exact insert_inside true now (attended.asked request member)
  · intro other client msgId future sending
    rcases sends sending with ⟨_, rfl, rfl⟩ | before
    · refine ⟨?_, ?_, fun request member => (attended.asked request member).ne⟩
      · rw [inserted]
        exact Std.ExtTreeMap.getElem?_insert_self
      · simp only [isLookup, FutureMgr.safeInsertFuture_futures, List.getElem?_concat_length]
        rfl
    · obtain ⟨inTable, lookup, unasked⟩ := attended.sending other client msgId future before
      exact ⟨insert_keeps true now inTable, insert_lookup true now lookup, unasked⟩
  · intro one other client otherClient msgId otherId future sending otherSending
    have older {worker : Bytes} {asked : ClientName} {id : UInt32}
        (before : (state.workers worker).phase = .sending asked id future) :
        future < state.futureMgr.futures.length :=
      lookup_inside (attended.sending worker asked id future before).2.1
    rcases sends sending with ⟨rfl, _, last⟩ | before <;>
      rcases sends otherSending with ⟨rfl, _, otherLast⟩ | otherBefore
    · rfl
    · exact absurd last (older otherBefore).ne
    · exact absurd otherLast (older before).ne
    · exact attended.apart one other client otherClient msgId otherId future before otherBefore
  · exact attended.answers

theorem Attended.sendRequest (attended : state.Attended) {name : Bytes} {clientname : ClientName}
    {msgId : UInt32} {future : FutureRef}
    (phase : (state.workers name).phase = .sending clientname msgId future) :
    Attended { state.setPhase name .idle with asked := state.asked ++ [(future, clientname)] } := by
  obtain ⟨inTable, lookup, unasked⟩ := attended.sending name clientname msgId future phase
  have sends {other : Bytes} {client : ClientName} {id : UInt32} {sent : FutureRef}
      (sending : ((state.setPhase name .idle).workers other).phase = .sending client id sent) :
      (state.workers other).phase = .sending client id sent :=
    setWorker_sending (by simp) sending
  constructor
  · intro client someWait
    apply (attended.waiting client someWait).kept
    · exact fun id sent inTable lookup => ⟨inTable, lookup⟩
    · exact fun request member => List.mem_append_left _ member
    · exact fun sent rsp answering => answering
    · intro other asks
      by_cases same : other = name
      · subst same
        rw [phase] at asks
        cases asks
        exact .outstanding msgId future inTable lookup
          (List.mem_append_right _ (List.mem_singleton_self _))
      · apply LookupUnderWay.calling other
        simpa only [setPhase, setWorker, Function.update_of_ne same] using asks
  · intro request member
    rcases List.mem_append.mp member with older | newer
    · exact attended.asked request older
    · rw [List.mem_singleton.mp newer]
      exact lookup_inside lookup
  · intro other client id sent sending
    have before := sends sending
    obtain ⟨otherInTable, otherLookup, otherUnasked⟩ :=
      attended.sending other client id sent before
    refine ⟨otherInTable, otherLookup, ?_⟩
    intro request member
    rcases List.mem_append.mp member with older | newer
    · exact otherUnasked request older
    · rw [List.mem_singleton.mp newer]
      rintro rfl
      have same := attended.apart name other clientname client msgId id future phase before
      subst same
      simp [setPhase, setWorker] at sending
  · intro one other client otherClient id otherId sent sending otherSending
    exact attended.apart one other client otherClient id otherId sent (sends sending)
      (sends otherSending)
  · intro answering rsp isFound
    obtain ⟨⟨request, member, known⟩, answer, isSome, names⟩ :=
      attended.answers answering rsp isFound
    refine ⟨⟨request, List.mem_append_left _ member, known⟩, answer, isSome, ?_⟩
    intro other otherMember otherKnown
    rcases List.mem_append.mp otherMember with older | newer
    · exact names other older otherKnown
    · rw [List.mem_singleton.mp newer] at otherKnown
      exact absurd (known.trans otherKnown.symm) (unasked request member)

theorem Attended.frame (attended : state.Attended) {msgId : UInt32} {rsp : Option GetClientRsp}
    (meets : state.lookupsSucceed (.frame msgId rsp) = true)
    (taken : state.step (.frame msgId rsp) = some following) : following.Attended := by
  cases step_moves taken with
  | frame _ _ idle =>
    cases found : state.futureMgr.sendmsgRspContainer[msgId]? with
    | none =>
      simp only [FutureMgr.safeGetFuture, found, setResult]
      exact attended.sameTable rfl rfl (fun future rsp => by rw [idle]) (fun _ _ asks => asks)
        (fun _ _ _ _ sends => sends) fun _ someWait => .inl someWait
    | some future =>
      simp only [FutureMgr.safeGetFuture, found, if_true, setResult]
      have known (lookup : state.isLookup future = true) :
          (∃ request ∈ state.asked, request.1 = future) ∧
            ∃ answer : GetClientRsp, rsp = some answer ∧
              ∀ request ∈ state.asked, request.1 = future → request.2 = answer.destName := by
        simp only [lookupsSucceed, found, Option.all_some, lookup, Bool.not_true, Bool.false_or,
          Bool.and_eq_true, List.any_eq_true, List.all_eq_true, beq_iff_eq, Bool.or_eq_true,
          bne_iff_ne] at meets
        obtain ⟨⟨request, member, asked⟩, names⟩ := meets
        refine ⟨⟨request, member, asked⟩, ?_⟩
        have first := (names request member).resolve_left (not_not_intro asked)
        rw [Option.any_eq_true] at first
        obtain ⟨answer, isSome, _⟩ := first
        refine ⟨answer, isSome, ?_⟩
        intro other otherMember otherAsked
        have same := (names other otherMember).resolve_left (not_not_intro otherAsked)
        rw [isSome] at same
        exact (beq_iff_eq.mp same).symm
      have elsewhere {id : UInt32} {other : FutureRef} (different : msgId ≠ id)
          (inTable : state.futureMgr.sendmsgRspContainer[id]? = some other) :
          (state.futureMgr.sendmsgRspContainer.erase msgId)[id]? = some other := by
        rw [Std.ExtTreeMap.getElem?_erase, if_neg]
        · exact inTable
        · rwa [Std.LawfulEqCmp.compare_eq_iff_eq]
      constructor
      · intro clientname someWait
        cases attended.waiting clientname someWait with
        | calling name asks => exact .calling name asks
        | outstanding id other inTable lookup sent =>
          by_cases same : msgId = id
          · subst same
            rw [found] at inTable
            cases inTable
            exact .answered future rsp (if_pos lookup) sent
          · exact .outstanding id other (elsewhere same inTable) lookup sent
        | answered other rsp answering sent =>
          rw [idle] at answering
          cases answering
      · exact attended.asked
      · intro name clientname id other phase
        obtain ⟨inTable, lookup, unasked⟩ := attended.sending name clientname id other phase
        refine ⟨elsewhere ?_ inTable, lookup, unasked⟩
        rintro rfl
        rw [found] at inTable
        cases inTable
        obtain ⟨⟨request, member, asked⟩, _⟩ := known lookup
        exact unasked request member asked
      · exact attended.apart
      · intro other answer answering
        change (if state.isLookup future = true then _ else _) = _ at answering
        split at answering
        next lookup =>
          cases answering
          exact known lookup
        next => cases answering

theorem Attended.takePending (attended : state.Attended)
    (taken : state.step .takePending = some following) : following.Attended := by
  cases step_moves taken with
  | unreadable future answering =>
    obtain ⟨_, answer, isSome, _⟩ := attended.answers future none answering
    cases isSome
  | takePending future rsp answering =>
    constructor
    · intro clientname someWait
      obtain ⟨_, answer, isSome, names⟩ := attended.answers future (some rsp) answering
      cases isSome
      by_cases same : clientname = rsp.destName
      · subst same
        exact absurd (Function.update_self _ _ _) someWait
      · have waited : state.waiting clientname ≠ [] := by
          rwa [← Function.update_of_ne same ([] : List Req2ReceiverTask) state.waiting]
        cases attended.waiting clientname waited with
        | calling name asks => exact .calling name asks
        | outstanding msgId other inTable lookup sent =>
          exact .outstanding msgId other inTable lookup sent
        | answered other otherRsp otherAnswering sent =>
          rw [answering] at otherAnswering
          cases otherAnswering
          exact absurd (names _ sent rfl) same
    · exact attended.asked
    · exact attended.sending
    · exact attended.apart
    · intro other otherRsp isFound
      cases isFound

theorem worker_attended (attended : state.Attended) {name : Bytes} {event : WorkerEvent}
    (meets : state.lookupsSucceed (.worker name event) = true)
    (taken : state.workerStep name event = some following) : following.Attended := by
  -- Until it parks a task the worker asks for nothing.
  have silent {phase next : WorkerPhase} (was : (state.workers name).phase = phase)
      (silent : phase.asks = none) (clientname : ClientName)
      (asks : (state.workers name).phase.asks = some clientname) : next.asks = some clientname := by
    rw [was, silent] at asks
    cases asks
  have asksOn {phase next : WorkerPhase} (was : (state.workers name).phase = phase)
      (same : phase.asks = next.asks) (clientname : ClientName)
      (asks : (state.workers name).phase.asks = some clientname) : next.asks = some clientname := by
    rwa [was, same] at asks
  cases workerStep_moves taken with
  | take task rest worker =>
    exact attended.workerMoves (silent (congrArg Worker.phase worker) rfl) (by simp) fun _ => .inl
  | unnamed task phase | cached task host phase | uncached task phase | noCachedInfo task phase =>
    exact attended.workerMoves (silent phase rfl) (by simp) fun _ => .inl
  | askAgain task host phase | connectFailed task host phase | noTcpSock task host phase
  | sendFailed task host phase | sent task host phase =>
    exact attended.workerMoves (silent phase rfl) (by simp) fun _ => .inl
  | queueWaitingTask task connectFailed phase =>
    have asks : WorkerPhase.asks
        (if connectFailed then .erasing task.clientname else .asking task.clientname) =
          some task.clientname := by
      cases connectFailed <;> rfl
    refine attended.workerMoves (silent phase rfl) ?_ ?_
    · cases connectFailed <;> simp
    · intro clientname someWait
      by_cases same : clientname = task.clientname
      · exact .inr (same ▸ asks)
      · rw [Function.update_of_ne same] at someWait
        exact .inl someWait
  | removeCachedHostInfo clientname phase =>
    exact attended.workerMoves (asksOn phase rfl) (by simp) fun _ => .inl
  | testConnecting clientname phase =>
    change state.serverConnecting = true at meets
    rw [if_pos meets]
    exact attended.workerMoves (asksOn phase rfl) (by simp) fun _ => .inl
  | insertFuture now clientname phase =>
    have free := Option.isNone_iff_eq_none.mp meets
    have inserted := attended.insertFuture now phase free
    rw [FutureMgr.safeInsertFuture_fresh true now free] at inserted ⊢
    exact inserted
  | sendRequest accepted clientname msgId future phase =>
    change (state.serverTcp && accepted) = true at meets
    rw [if_pos meets]
    exact attended.sendRequest phase

theorem step_attended {event : Event} (attended : state.Attended)
    (meets : state.lookupsSucceed event = true) (taken : state.step event = some following) :
    following.Attended := by
  have answers {next : NamedPosts} (workers : next.workers = state.workers)
      (same : next.waiting = state.waiting ∧ next.futureMgr = state.futureMgr ∧
        next.asked = state.asked)
      (found : ∀ future rsp, next.answering = .found future rsp ↔
        state.answering = .found future rsp) : next.Attended := by
    refine attended.sameTable same.2.1 same.2.2 found ?_ ?_ ?_
    · exact fun name clientname asks => workers ▸ asks
    · exact fun name clientname msgId future sends => workers ▸ sends
    · exact fun clientname someWait => .inl (same.1 ▸ someWait)
  cases step_moves taken with
  | post | syncLookup | serverConnected | serverLost =>
    exact answers rfl ⟨rfl, rfl, rfl⟩ fun _ _ => Iff.rfl
  | dispatch task rest =>
    have samePhase (name : Bytes) : ((state.setWorker (threadName task.clientname)
        { state.workers (threadName task.clientname) with
          tasks := (state.workers (threadName task.clientname)).tasks ++ [task] }).workers
            name).phase = (state.workers name).phase := by
      by_cases same : name = threadName task.clientname
      · subst same
        simp [setWorker]
      · simp [setWorker, Function.update_of_ne same]
    refine attended.sameTable rfl rfl (fun _ _ => Iff.rfl) ?_ ?_ fun _ => .inl
    · exact fun name clientname asks => (congrArg WorkerPhase.asks (samePhase name)).trans asks
    · exact fun name clientname msgId future sends => (samePhase name).symm.trans sends
  | worker name event following stepped => exact worker_attended attended meets stepped
  | frame msgId rsp => exact attended.frame meets taken
  | unreadable | takePending => exact attended.takePending taken
  | cacheHostInfo rsp pendingtasks answering | serverError rsp pendingtasks answering
  | requeue clientname task rest answering | requeued clientname answering
  | removeFuture task rest answering | removed answering =>
    exact answers rfl ⟨rfl, rfl, rfl⟩ fun _ _ => by simp [answering]
  | otherRequest now => exact attended.otherRequest now

theorem waiting_tasks_looked_up (state : NamedPosts)
    (reached : Transition.ReachableWhen step
      (fun state event => state.lookupsSucceed event = true) initial state) : state.NoneStuck :=
  (reached.invariant Attended attended_initial fun _ _ _ attended meets taken =>
    step_attended attended meets taken).waiting

theorem waiting_tasks_looked_up_one :
    ∃ state : NamedPosts, state.waiting someClient ≠ [] ∧ state.NoneStuck := by
  obtain ⟨state, ran, waits⟩ : ∃ state, Transition.run (Transition.checkedStep step
      fun state event => state.lookupsSucceed event = true) initial
        (.serverConnected :: lookupRun true) = some state ∧
      (state.waiting someClient).isEmpty = false := ⟨_, rfl, rfl⟩
  exact ⟨state, List.isEmpty_eq_false_iff.mp waits,
    waiting_tasks_looked_up state (Transition.ReachableWhen.start.run _ ran)⟩

-- The connection does not take the request, and ReqReceiverInfo returns false to nobody.
theorem waiting_task_stuck : ¬ ∀ state, Transition.Reachable step initial state → state.NoneStuck := by
  intro noneStuck
  obtain ⟨state, ran, waits, idle, asked⟩ : ∃ state,
      Transition.run step initial (.serverConnected :: lookupRun false) = some state ∧
        (state.waiting someClient).isEmpty = false ∧
        (∀ name, (state.workers name).phase.asks = none) ∧ state.asked = [] := by
    refine ⟨_, rfl, rfl, ?_, rfl⟩
    intro name
    simp [setPhase, setWorker, initial, queueReqTask, Req2ReceiverTask.posted, WorkerPhase.asks]
  cases noneStuck state (Transition.Reachable.run .start _ ran) someClient
      (List.isEmpty_eq_false_iff.mp waits) with
  | calling name asks =>
    rw [idle name] at asks
    cases asks
  | outstanding msgId future inTable lookup sent =>
    rw [asked] at sent
    cases sent
  | answered future rsp answering sent =>
    rw [asked] at sent
    cases sent

end MessageBus.Client.NamedPosts
