import MessageBus.Client.RemoteCalls
import MessageBus.Client.ServerConnMgr
import MessageBus.Shared.Reservations

set_option autoImplicit false

namespace MessageBus.Client

open Reservations

namespace FutureMgr

def desk (mgr : FutureMgr) (reservations : List (Reservation UInt32 FutureRef)) :
    Desk UInt32 FutureRef :=
  { table := fun id => mgr.sendmsgRspContainer[id]?, reservations }

-- The id that comes next is in no entry, and no call still under way has it.
def nextIsFree (mgr : FutureMgr) (reservations : List (Reservation UInt32 FutureRef)) : Bool :=
  (mgr.sendmsgRspContainer[mgr.nextFutureId]?).isNone &&
    reservations.all fun held => held.status != .underWay || held.id != mgr.nextFutureId

structure Answers (mgr : FutureMgr) (reservations : List (Reservation UInt32 FutureRef))
    (gone : Set FutureRef) : Prop where
  ready : ∀ (future : FutureRef) (netFuture : NetFuture),
    mgr.futures[future]? = some netFuture → netFuture.ready = true → future ∈ gone
  gone : ∀ future ∈ gone, future < mgr.futures.length
  held : ∀ held ∈ reservations, held.ref < mgr.futures.length

variable {mgr : FutureMgr} {reservations : List (Reservation UInt32 FutureRef)}
  {gone : Set FutureRef} {takes : UInt32 -> FutureRef -> Prop}

theorem erase_table (id : UInt32) : (fun other => (mgr.sendmsgRspContainer.erase id)[other]?) =
    Function.update (fun other => mgr.sendmsgRspContainer[other]?) id none := by
  funext other
  rw [Std.ExtTreeMap.getElem?_erase, Function.update_apply]
  simp only [Std.LawfulEqCmp.compare_eq_iff_eq, @eq_comm _ id other]

theorem insert_table (id : UInt32) (future : FutureRef) :
    (fun other => (mgr.sendmsgRspContainer.insert id future)[other]?) =
      Function.update (fun other => mgr.sendmsgRspContainer[other]?) id (some future) := by
  funext other
  rw [Std.ExtTreeMap.getElem?_insert, Function.update_apply]
  simp only [Std.LawfulEqCmp.compare_eq_iff_eq, @eq_comm _ id other]

theorem nextIsFree_iff : mgr.nextIsFree reservations = true ↔
    (mgr.desk reservations).Free mgr.nextFutureId := by
  simp only [nextIsFree, Bool.and_eq_true, Option.isNone_iff_eq_none, List.all_eq_true,
    Bool.or_eq_true, bne_iff_ne, ← imp_iff_not_or, ne_eq]
  exact ⟨fun free => ⟨free.1, free.2⟩, fun free => ⟨free.entry, free.holders⟩⟩

variable (takes) in
theorem insert_moves (answers : mgr.Answers reservations gone)
    (free : mgr.nextIsFree reservations = true) (callback : Bool) (now : Int) :
    Move (mgr.desk reservations) gone takes
      ((mgr.safeInsertFuture callback now).2.desk (reservations ++
        [⟨(mgr.safeInsertFuture callback now).1.futureId,
          (mgr.safeInsertFuture callback now).1.future, .underWay⟩])) gone := by
  have free := nextIsFree_iff.mp free
  rw [safeInsertFuture_fresh callback now free.entry]
  simp only [desk, insert_table]
  refine .reserve mgr.nextFutureId mgr.futures.length free ?_ ?_
  · exact fun member => Nat.lt_irrefl _ (answers.gone _ member)
  · exact fun held member => Nat.ne_of_lt (answers.held held member)

theorem insert_answers (answers : mgr.Answers reservations gone)
    (free : mgr.nextIsFree reservations = true) (callback : Bool) (now : Int) :
    (mgr.safeInsertFuture callback now).2.Answers (reservations ++
      [⟨(mgr.safeInsertFuture callback now).1.futureId,
        (mgr.safeInsertFuture callback now).1.future, .underWay⟩]) gone := by
  have free := nextIsFree_iff.mp free
  rw [safeInsertFuture_fresh callback now free.entry]
  refine ⟨?_, ?_, ?_⟩
  · intro future netFuture there ready
    rcases Transition.found_in_concat there with older | ⟨_, rfl⟩
    · exact answers.ready future netFuture older ready
    · cases ready
  · intro future member
    exact List.length_append ▸ Nat.lt_add_right _ (answers.gone future member)
  · simp only [List.forall_mem_append, List.forall_mem_singleton, List.length_append,
      List.length_singleton]
    exact ⟨fun held member => Nat.lt_succ_of_lt (answers.held held member), Nat.lt_succ_self _⟩

theorem get_moves (futureSid : UInt32) {future : FutureRef}
    (found : mgr.sendmsgRspContainer[futureSid]? = some future) (meant : takes futureSid future) :
    Move (mgr.desk reservations) gone takes
      ((mgr.safeGetFuture futureSid true).2.desk reservations) (insert future gone) := by
  simp only [safeGetFuture, found, desk, if_true, erase_table]
  exact .answer futureSid future found meant

theorem get_answers (answers : mgr.Answers reservations gone)
    (sound : (mgr.desk reservations).Sound gone) (futureSid : UInt32) {future : FutureRef}
    (found : mgr.sendmsgRspContainer[futureSid]? = some future) :
    (mgr.safeGetFuture futureSid true).2.Answers reservations (insert future gone) := by
  have same := mgr.safeGetFuture_futures futureSid true
  refine ⟨?_, ?_, same ▸ answers.held⟩
  · rw [same]
    exact fun other netFuture there ready => .inr (answers.ready other netFuture there ready)
  · rw [same]
    rintro other (rfl | before)
    · obtain ⟨_, held, member, own⟩ := sound.held futureSid other found
      exact own ▸ answers.held held member
    · exact answers.gone other before

theorem Answers.modify (answers : mgr.Answers reservations gone) {future : FutureRef}
    (answered : future ∈ gone) (change : NetFuture -> NetFuture) :
    Answers { mgr with futures := mgr.futures.modify future change } reservations gone := by
  refine ⟨?_, ?_, ?_⟩
  · intro other netFuture there ready
    rw [List.getElem?_modify] at there
    by_cases same : future = other
    · exact same ▸ answered
    · simp only [same, if_false, id_map'] at there
      exact answers.ready other netFuture there ready
  · simpa only [List.length_modify] using answers.gone
  · simpa only [List.length_modify] using answers.held

theorem clear_moves (now : Int) (meant : ∀ id future, mgr.refIsBad now future = true → takes id future) :
    Move (mgr.desk reservations) gone takes ((mgr.safeClearBadFuture now).desk reservations) gone := by
  have cleared : (mgr.safeClearBadFuture now).desk reservations =
      { mgr.desk reservations with table := fun id =>
          ((mgr.desk reservations).table id).filter fun future => !mgr.refIsBad now future } := by
    simp only [desk, safeClearBadFuture, Std.ExtTreeMap.getElem?_filter']
  rw [cleared]
  exact .clear (mgr.refIsBad now) meant

theorem remove_moves {index : Nat} {held : Reservation UInt32 FutureRef} (status : Status)
    (there : reservations[index]? = some held) (underWay : held.status = .underWay)
    (meant : takes held.id held.ref) :
    Move (mgr.desk reservations) gone takes
      ((mgr.safeRemoveFuture held.id).desk (reservations.set index { held with status })) gone := by
  simp only [safeRemoveFuture, desk, erase_table]
  exact .withdraw index held status there underWay meant

theorem Answers.settle (answers : mgr.Answers reservations gone) {index : Nat}
    {held : Reservation UInt32 FutureRef} (there : reservations[index]? = some held)
    (status : Status) : mgr.Answers (reservations.set index { held with status }) gone := by
  refine ⟨answers.ready, answers.gone, fun other member => ?_⟩
  rcases List.mem_or_eq_of_mem_set member with older | rfl
  · exact answers.held other older
  · exact answers.held held (List.mem_of_getElem? there)

end FutureMgr

namespace Call

def status (call : Call) : Status :=
  match call.phase with
  | .returned result => if call.sync || !result then .ended else .handedOver
  | _ => .underWay

def reservation (call : Call) : Reservation UInt32 FutureRef :=
  { id := call.futureId, ref := call.future, status := call.status }

def OwnFuture (call : Call) (gone : Set FutureRef) : Prop :=
  match call.phase with
  | .writing (some future) | .waiting future => future = call.future
  | .joined future => future = call.future ∧ future ∈ gone
  | _ => True

theorem OwnFuture.later {call : Call} {gone later : Set FutureRef} (own : call.OwnFuture gone)
    (more : gone ⊆ later) : call.OwnFuture later := by
  unfold OwnFuture at own ⊢
  split <;> simp_all
  exact more (own.1 ▸ own.2)

structure Settles (call : Call) (mgr : FutureMgr) (gone : Set FutureRef) (event : CallEvent)
    (next : Call × FutureMgr) : Prop where
  underWay : call.status = .underWay
  same : next.1.reservation = { call.reservation with status := next.1.status }
  own : next.1.OwnFuture gone
  table : (next.2 = mgr ∧ (next.1.status = .ended → call.future ∈ gone)) ∨
    (event = .removeFuture ∧ next.2 = mgr.safeRemoveFuture call.futureId)

theorem step_settles {call : Call} {mgr : FutureMgr} {gone : Set FutureRef} {event : CallEvent}
    {next : Call × FutureMgr} (own : call.OwnFuture gone)
    (table : call.status = .underWay → ∀ future : FutureRef,
      mgr.sendmsgRspContainer[call.futureId]? = some future → future = call.future)
    (ready : ∀ (future : FutureRef) (netFuture : NetFuture), mgr.futures[future]? = some netFuture →
      netFuture.ready = true → future ∈ gone)
    (taken : call.step mgr event = some next) : call.Settles mgr gone event next := by
  unfold OwnFuture at own
  cases step_moves taken with
  | connected created | notConnected created =>
    exact ⟨by rw [status, created], rfl, trivial, .inl ⟨rfl, by rintro ⟨⟩⟩⟩
  | getFuture connected curSendmsgRsp found =>
    have underWay : call.status = .underWay := by rw [status, connected]
    refine ⟨underWay, rfl, ?_, .inl ⟨rfl, by rintro ⟨⟩⟩⟩
    cases curSendmsgRsp with
    | none => trivial
    | some future => exact table underWay future (found future rfl)
  | sendFailed _ writing | noFuture writing =>
    exact ⟨by rw [status, writing], rfl, trivial, .inl ⟨rfl, by rintro ⟨⟩⟩⟩
  | posted _ writing async =>
    refine ⟨by rw [status, writing], rfl, trivial, .inl ⟨rfl, fun ended => ?_⟩⟩
    simp [status, async] at ended
  | sent future writing =>
    rw [writing] at own
    exact ⟨by rw [status, writing], rfl, own, .inl ⟨rfl, by rintro ⟨⟩⟩⟩
  | join future netFuture waiting there isReady =>
    rw [waiting] at own
    exact ⟨by rw [status, waiting], rfl, ⟨own, ready future netFuture there isReady⟩,
      .inl ⟨rfl, by rintro ⟨⟩⟩⟩
  | timeout future waiting =>
    exact ⟨by rw [status, waiting], rfl, trivial, .inl ⟨rfl, by rintro ⟨⟩⟩⟩
  | readContent future netFuture joined =>
    rw [joined] at own
    exact ⟨by rw [status, joined], rfl, trivial, .inl ⟨rfl, fun _ => own.1 ▸ own.2⟩⟩
  | removeFuture removals failed =>
    refine ⟨by rw [status, failed], rfl, ?_, .inr ⟨rfl, rfl⟩⟩
    cases removals <;> trivial

end Call

namespace Req2ReceiverMgr

def desk (mgr : Req2ReceiverMgr) : Desk UInt32 FutureRef :=
  mgr.futureMgr.desk (mgr.calls.map Call.reservation)

-- Answered by a frame, cleared for its age, or removed by its own call.
def takesOut (mgr : Req2ReceiverMgr) (event : Event) (id : UInt32) (future : FutureRef) : Prop :=
  match event with
  | .frame _ futureSid _ => futureSid = id
  | .clearBadFuture now => mgr.futureMgr.refIsBad now future = true
  | .call index .removeFuture => ∃ call, mgr.calls[index]? = some call ∧ call.future = future
  | _ => False

-- No id is given out while an entry or a call still has it.
def idsApart (mgr : Req2ReceiverMgr) : Event -> Bool
  | .sendMsgDirectToClient destIp _ | .postMsgDirectToClient destIp _ _ =>
    destIp.isEmpty || !mgr.running || mgr.futureMgr.nextIsFree (mgr.calls.map Call.reservation)
  | _ => true

structure Related (mgr : Req2ReceiverMgr) (gone : Set FutureRef) : Prop where
  answers : mgr.futureMgr.Answers (mgr.calls.map Call.reservation) gone
  reading : ∀ (conn : ConnId) (delivery : Delivery), mgr.reading[conn]? = some delivery →
    delivery.future ∈ gone
  own : ∀ call ∈ mgr.calls, call.OwnFuture gone

theorem related_initial : initial.Related ∅ := by
  constructor
  case answers => constructor <;> simp [initial, FutureMgr.initial]
  all_goals simp [initial]

theorem sound_initial : initial.desk.Sound ∅ := by
  constructor <;> simp [initial, desk, FutureMgr.desk, FutureMgr.initial]

variable {mgr following : Req2ReceiverMgr} {gone : Set FutureRef}

theorem startCall_moves (related : mgr.Related gone)
    (free : mgr.futureMgr.nextIsFree (mgr.calls.map Call.reservation) = true)
    (sync callback : Bool) (now : Int) (takes : UInt32 -> FutureRef -> Prop) :
    (mgr.startCall sync callback now).Related gone ∧
      Move mgr.desk gone takes (mgr.startCall sync callback now).desk gone := by
  have answers := FutureMgr.insert_answers related.answers free callback now
  have move := FutureMgr.insert_moves takes related.answers free callback now
  refine ⟨⟨?_, related.reading, ?_⟩, ?_⟩
  · simpa [startCall, Call.reservation, Call.status] using answers
  · intro call member
    rcases List.mem_append.mp member with older | newer
    · exact related.own call older
    · rw [List.mem_singleton.mp newer]
      trivial
  · simpa [startCall, desk, Call.reservation, Call.status] using move

theorem call_moves (related : mgr.Related gone) (sound : mgr.desk.Sound gone) {index : Nat}
    {call : Call} (there : mgr.calls[index]? = some call) {event : CallEvent}
    {next : Call × FutureMgr} (taken : call.step mgr.futureMgr event = some next) :
    Related { mgr with calls := mgr.calls.set index next.1, futureMgr := next.2 } gone ∧
      Move mgr.desk gone (mgr.takesOut (.call index event))
        (desk { mgr with calls := mgr.calls.set index next.1, futureMgr := next.2 }) gone := by
  have member := List.mem_of_getElem? there
  have present : (mgr.calls.map Call.reservation)[index]? = some call.reservation := by
    rw [List.getElem?_map, there, Option.map_some]
  have reserved := List.mem_of_getElem? present
  have settles := Call.step_settles (related.own call member)
    (fun underWay => sound.own call.reservation reserved underWay) related.answers.ready taken
  have calls : (mgr.calls.set index next.1).map Call.reservation =
      (mgr.calls.map Call.reservation).set index
        { call.reservation with status := next.1.status } := by
    rw [List.map_set, settles.same]
  have own : ∀ other ∈ mgr.calls.set index next.1, other.OwnFuture gone := by
    intro other inside
    rcases List.mem_or_eq_of_mem_set inside with older | rfl
    · exact related.own other older
    · exact settles.own
  have answers := related.answers.settle present next.1.status
  rcases settles.table with ⟨same, clean⟩ | ⟨rfl, removed⟩
  · refine ⟨⟨?_, related.reading, own⟩, ?_⟩
    · rw [calls, same]
      exact answers
    · simp only [desk, calls, same]
      exact .leave index call.reservation next.1.status present settles.underWay
        fun ended => .inr (clean ended)
  · refine ⟨⟨?_, related.reading, own⟩, ?_⟩
    · rw [calls, removed]
      exact ⟨answers.ready, answers.gone, answers.held⟩
    · simp only [desk, calls, removed]
      exact FutureMgr.remove_moves next.1.status present settles.underWay ⟨call, there, rfl⟩

theorem step_moves (related : mgr.Related gone) (sound : mgr.desk.Sound gone) {event : Event}
    (meets : mgr.idsApart event = true) (taken : mgr.step event = some following) :
    ∃ later, following.Related later ∧
      Move mgr.desk gone (mgr.takesOut event) following.desk later := by
  cases event with
  | setRunning running =>
    cases taken
    exact ⟨gone, ⟨related.answers, related.reading, related.own⟩, .stay⟩
  | sendMsgDirectToClient destIp now | postMsgDirectToClient destIp _ now =>
    simp only [step] at taken
    split at taken <;> cases taken
    next => exact ⟨gone, related, .stay⟩
    next open' =>
      have free : mgr.futureMgr.nextIsFree (mgr.calls.map Call.reservation) = true := by
        simp only [idsApart, Bool.or_eq_true] at meets
        simp only [Bool.or_eq_true] at open'
        tauto
      exact ⟨gone, startCall_moves related free _ _ now _⟩
  | call index event =>
    obtain ⟨call, there, stepped⟩ := Option.bind_eq_some_iff.mp taken
    obtain ⟨next, changed, rfl⟩ := Option.map_eq_some_iff.mp stepped
    exact ⟨gone, call_moves related sound there changed⟩
  | frame conn futureSid pdata =>
    simp only [step] at taken
    split at taken
    next => cases taken
    next idle =>
      cases found : mgr.futureMgr.sendmsgRspContainer[futureSid]? with
      | none =>
        have unknown : mgr.futureMgr.safeGetFuture futureSid true = (none, mgr.futureMgr) := by
          simp only [FutureMgr.safeGetFuture, found]
        simp only [unknown, Option.some.injEq] at taken
        subst taken
        exact ⟨gone, ⟨related.answers, related.reading, related.own⟩, .stay⟩
      | some future =>
        have known : (mgr.futureMgr.safeGetFuture futureSid true).1 = some future := by
          simp only [FutureMgr.safeGetFuture, found]
        simp only [known, Option.some.injEq] at taken
        subst taken
        have more : gone ⊆ insert future gone := Set.subset_insert future gone
        refine ⟨insert future gone, ⟨FutureMgr.get_answers related.answers sound futureSid found,
          ?_, fun call member => (related.own call member).later more⟩,
          FutureMgr.get_moves futureSid found rfl⟩
        have older (reader : ConnId) (delivery : Delivery)
            (there : mgr.reading[reader]? = some delivery) : delivery.future ∈ insert future gone :=
          more (related.reading reader delivery there)
        exact Tables.every_insert older (.inl rfl)
  | store conn =>
    simp only [step] at taken
    split at taken
    next future pdata found =>
      cases taken
      have answered := related.reading conn _ found
      refine ⟨gone, ⟨related.answers.modify answered _, ?_, related.own⟩, .stay⟩
      exact Tables.every_insert related.reading answered
    next => cases taken
  | callback conn =>
    simp only [step] at taken
    split at taken
    next future pdata found =>
      obtain ⟨netFuture, _, rfl⟩ := Option.map_eq_some_iff.mp taken
      refine ⟨gone, ⟨related.answers, ?_, related.own⟩, .stay⟩
      exact Tables.every_erase related.reading conn
    next => cases taken
  | clearBadFuture now =>
    cases taken
    refine ⟨gone, ⟨⟨related.answers.ready, related.answers.gone, related.answers.held⟩,
      related.reading, related.own⟩, FutureMgr.clear_moves now fun _ _ bad => bad⟩

end Req2ReceiverMgr

namespace ServerCall

-- Nobody waits for a request that was given a callback.
def status (call : ServerCall) : Status :=
  match call.phase with
  | .returned _ => if call.request.callback then .handedOver else .ended
  | _ => .underWay

def reservation (call : ServerCall) : Reservation UInt32 FutureRef :=
  { id := call.futureId, ref := call.future, status := call.status }

def givesUp (serverTcp : Bool) : ServerCallEvent -> Bool
  | .testServerTcp => !serverTcp
  | .sendData ok => !ok
  | .timeout => true
  | .join | .readContent => false

theorem waits_of_ended {next : ServerCall} {request : ServerRequest} {result : Bool}
    (ended : next.status = .ended) (same : next.request = request)
    (returned : next.phase = .returned result) : request.callback = false := by
  simpa [status, returned, same] using ended

structure Settles (call : ServerCall) (gone : Set FutureRef) (serverTcp : Bool)
    (event : ServerCallEvent) (next : ServerCall) : Prop where
  underWay : call.status = .underWay
  same : next.reservation = { call.reservation with status := next.status }
  joined : next.phase = .joined → call.future ∈ gone
  ended : next.status = .ended → call.request.callback = false ∧
    (givesUp serverTcp event = true ∨ call.future ∈ gone)

theorem step_settles {call next : ServerCall} {mgr : FutureMgr} {gone : Set FutureRef}
    {serverTcp : Bool} {event : ServerCallEvent}
    (joined : call.phase = .joined → call.future ∈ gone)
    (ready : ∀ (future : FutureRef) (netFuture : NetFuture), mgr.futures[future]? = some netFuture →
      netFuture.ready = true → future ∈ gone)
    (taken : call.step mgr serverTcp event = some next) :
    call.Settles gone serverTcp event next := by
  cases event with
  | testServerTcp =>
    simp only [step] at taken
    split at taken <;> cases taken
    next inserted =>
      have underWay : call.status = .underWay := by rw [status, inserted]
      cases serverTcp with
      | true => exact ⟨underWay, rfl, by rintro ⟨⟩, by rintro ⟨⟩⟩
      | false => exact ⟨underWay, rfl, by rintro ⟨⟩, fun ended => ⟨waits_of_ended ended rfl rfl, .inl rfl⟩⟩
  | sendData ok =>
    simp only [step] at taken
    split at taken
    next sending =>
      have underWay : call.status = .underWay := by rw [status, sending]
      cases ok with
      | false =>
        cases taken
        exact ⟨underWay, rfl, by rintro ⟨⟩, fun ended => ⟨waits_of_ended ended rfl rfl, .inl rfl⟩⟩
      | true =>
        cases async : call.request.callback with
        | true =>
          simp only [async] at taken
          cases taken
          refine ⟨underWay, rfl, by rintro ⟨⟩, fun ended => ?_⟩
          exact absurd (async.symm.trans (waits_of_ended ended rfl rfl)) Bool.noConfusion
        | false =>
          simp only [async] at taken
          cases taken
          exact ⟨underWay, rfl, by rintro ⟨⟩, by rintro ⟨⟩⟩
    next => cases taken
  | join =>
    simp only [step] at taken
    split at taken
    next waiting =>
      split at taken <;> cases taken
      next answered =>
        rw [Option.any_eq_true] at answered
        obtain ⟨netFuture, there, isReady⟩ := answered
        exact ⟨by rw [status, waiting], rfl, fun _ => ready call.future netFuture there isReady,
          by rintro ⟨⟩⟩
    next => cases taken
  | timeout =>
    simp only [step] at taken
    split at taken <;> cases taken
    next waiting =>
      exact ⟨by rw [status, waiting], rfl, by rintro ⟨⟩,
        fun ended => ⟨waits_of_ended ended rfl rfl, .inl rfl⟩⟩
  | readContent =>
    simp only [step] at taken
    split at taken
    next answered =>
      obtain ⟨netFuture, _, read⟩ := Option.bind_eq_some_iff.mp taken
      split at read <;> cases read
      exact ⟨by rw [status, answered], rfl, by rintro ⟨⟩,
        fun ended => ⟨waits_of_ended ended rfl rfl, .inr (joined answered)⟩⟩
    next => cases taken

end ServerCall

namespace ServerConnMgr

def desk (mgr : ServerConnMgr) : Desk UInt32 FutureRef :=
  mgr.futureMgr.desk (mgr.calls.map ServerCall.reservation)

-- Nothing clears the table of a ServerConnMgr.
def takesOut (_ : ServerConnMgr) (event : Event) (id : UInt32) (_ : FutureRef) : Prop :=
  match event with
  | .rsp msgId _ => msgId = id
  | _ => False

-- No id is given out while an entry or a call still has it, and a blocking call returns without an
-- answer only when an answer has come for it all the same.
def answeredFirst (mgr : ServerConnMgr) : Event -> Bool
  | .insertFuture _ _ => mgr.futureMgr.nextIsFree (mgr.calls.map ServerCall.reservation)
  | .call index event => (mgr.calls[index]?).all fun call =>
    call.request.callback || !ServerCall.givesUp mgr.serverTcp event ||
      (mgr.futureMgr.sendmsgRspContainer[call.futureId]?).isNone
  | _ => true

structure Related (mgr : ServerConnMgr) (gone : Set FutureRef) : Prop where
  answers : mgr.futureMgr.Answers (mgr.calls.map ServerCall.reservation) gone
  answering : ∀ future rsp, mgr.answering = some (future, rsp) → future ∈ gone
  joined : ∀ call ∈ mgr.calls, call.phase = .joined → call.future ∈ gone

theorem related_initial : initial.Related ∅ := by
  constructor
  case answers => constructor <;> simp [initial, FutureMgr.initial]
  all_goals simp [initial]

theorem sound_initial : initial.desk.Sound ∅ := by
  constructor <;> simp [initial, desk, FutureMgr.desk, FutureMgr.initial]

variable {mgr following : ServerConnMgr} {gone : Set FutureRef}

theorem startRequest_moves (related : mgr.Related gone) (request : ServerRequest)
    (takes : UInt32 -> FutureRef -> Prop) : (mgr.startRequest request).Related gone ∧
      Move mgr.desk gone takes (mgr.startRequest request).desk gone := by
  unfold startRequest
  split
  · exact ⟨⟨related.answers, related.answering, related.joined⟩, .stay⟩
  · exact ⟨related, .stay⟩

theorem call_moves (related : mgr.Related gone) {index : Nat} {call next : ServerCall}
    (there : mgr.calls[index]? = some call) {event : ServerCallEvent}
    (meets : mgr.answeredFirst (.call index event) = true)
    (taken : call.step mgr.futureMgr mgr.serverTcp event = some next)
    (takes : UInt32 -> FutureRef -> Prop) :
    Related { mgr with calls := mgr.calls.set index next } gone ∧
      Move mgr.desk gone takes (desk { mgr with calls := mgr.calls.set index next }) gone := by
  have member := List.mem_of_getElem? there
  have present : (mgr.calls.map ServerCall.reservation)[index]? = some call.reservation := by
    rw [List.getElem?_map, there, Option.map_some]
  have settles := ServerCall.step_settles (related.joined call member) related.answers.ready taken
  have calls : (mgr.calls.set index next).map ServerCall.reservation =
      (mgr.calls.map ServerCall.reservation).set index
        { call.reservation with status := next.status } := by
    rw [List.map_set, settles.same]
  refine ⟨⟨?_, related.answering, ?_⟩, ?_⟩
  · rw [calls]
    exact related.answers.settle present next.status
  · intro other inside atJoined
    rcases List.mem_or_eq_of_mem_set inside with older | rfl
    · exact related.joined other older atJoined
    · have same : other.future = call.future := congrArg Reservation.ref settles.same
      exact same ▸ settles.joined atJoined
  · simp only [desk, calls]
    refine .leave index call.reservation next.status present settles.underWay fun ended => ?_
    obtain ⟨waits, gaveUp | answered⟩ := settles.ended ended
    · simp only [answeredFirst, there, Option.all_some, waits, gaveUp, Bool.not_true, Bool.or_false,
        Bool.false_or, Option.isNone_iff_eq_none] at meets
      exact .inl meets
    · exact .inr answered

theorem step_moves (related : mgr.Related gone) (sound : mgr.desk.Sound gone) {event : Event}
    (meets : mgr.answeredFirst event = true) (taken : mgr.step event = some following) :
    ∃ later, following.Related later ∧
      Move mgr.desk gone (mgr.takesOut event) following.desk later := by
  cases event with
  | setServerConnecting | setServerTcp =>
    cases taken
    exact ⟨gone, ⟨related.answers, related.answering, related.joined⟩, .stay⟩
  | request request =>
    cases taken
    exact ⟨gone, startRequest_moves related request _⟩
  | updateReceiverBusyState =>
    simp only [step] at taken
    split at taken <;> cases taken
    · exact ⟨gone, startRequest_moves related _ _⟩
    · exact ⟨gone, related, .stay⟩
  | unRegisterNetMsgBusReceiver sent =>
    simp only [step] at taken
    split at taken <;> cases taken
    · exact ⟨gone, ⟨related.answers, related.answering, related.joined⟩, .stay⟩
    · exact ⟨gone, related, .stay⟩
  | insertFuture index now =>
    obtain ⟨request, _, rfl⟩ := Option.map_eq_some_iff.mp taken
    have answers := FutureMgr.insert_answers related.answers meets request.callback now
    have move := FutureMgr.insert_moves (mgr.takesOut (.insertFuture index now))
      related.answers meets request.callback now
    refine ⟨gone, ⟨?_, related.answering, ?_⟩, ?_⟩
    · simpa [ServerCall.reservation, ServerCall.status] using answers
    · intro call member
      rcases List.mem_append.mp member with older | newer
      · exact related.joined call older
      · rw [List.mem_singleton.mp newer]
        rintro ⟨⟩
    · simpa [desk, ServerCall.reservation, ServerCall.status] using move
  | call index event =>
    obtain ⟨call, there, stepped⟩ := Option.bind_eq_some_iff.mp taken
    obtain ⟨next, changed, rfl⟩ := Option.map_eq_some_iff.mp stepped
    exact ⟨gone, call_moves related there meets changed _⟩
  | rsp msgId rsp =>
    simp only [step] at taken
    split at taken
    next => cases taken
    next =>
      split at taken
      next =>
        cases taken
        exact ⟨gone, related, .stay⟩
      next =>
        have noted : (mgr.noteRsp rsp).calls = mgr.calls := by cases rsp <;> rfl
        cases found : mgr.futureMgr.sendmsgRspContainer[msgId]? with
        | none =>
          simp only [FutureMgr.safeGetFuture, found, Option.map_none, Option.some.injEq] at taken
          subst taken
          refine ⟨gone, ⟨noted ▸ related.answers, (fun _ _ none => by cases none),
            noted ▸ related.joined⟩, ?_⟩
          simp only [desk, noted]
          exact .stay
        | some future =>
          have known : (mgr.futureMgr.safeGetFuture msgId true).1 = some future := by
            simp only [FutureMgr.safeGetFuture, found]
          simp only [known, Option.map_some, Option.some.injEq] at taken
          subst taken
          refine ⟨insert future gone, ⟨?_, ?_, ?_⟩, ?_⟩
          · rw [noted]
            exact FutureMgr.get_answers related.answers sound msgId found
          · rintro other _ ⟨⟩
            exact .inl rfl
          · rw [noted]
            exact fun call member atJoined => .inr (related.joined call member atJoined)
          · simp only [desk, noted]
            exact FutureMgr.get_moves msgId found rfl
  | setAnswer =>
    obtain ⟨⟨future, rsp⟩, found, rfl⟩ := Option.map_eq_some_iff.mp taken
    exact ⟨gone, ⟨related.answers.modify (related.answering future rsp found) _,
      (fun _ _ none => by cases none), related.joined⟩, .stay⟩

end ServerConnMgr

theorem blocking_calls_leave_nothing_when (mgr : Req2ReceiverMgr) (serverConnMgr : ServerConnMgr)
    (reached : Transition.ReachableWhen Req2ReceiverMgr.step
      (fun mgr event => mgr.idsApart event = true) .initial mgr)
    (serverReached : Transition.ReachableWhen ServerConnMgr.step
      (fun mgr event => mgr.answeredFirst event = true) .initial serverConnMgr) :
    LeavesNothing Req2ReceiverMgr.step Req2ReceiverMgr.idsApart Req2ReceiverMgr.desk
      Req2ReceiverMgr.takesOut mgr ∧
    LeavesNothing ServerConnMgr.step ServerConnMgr.answeredFirst ServerConnMgr.desk
      ServerConnMgr.takesOut serverConnMgr := by
  constructor
  · exact leavesNothing_of_moves Req2ReceiverMgr.related_initial Req2ReceiverMgr.sound_initial
      (fun _ _ _ _ related sound meets taken =>
        Req2ReceiverMgr.step_moves related sound meets taken) reached
  · exact leavesNothing_of_moves ServerConnMgr.related_initial ServerConnMgr.sound_initial
      (fun _ _ _ _ related sound meets taken =>
        ServerConnMgr.step_moves related sound meets taken) serverReached

def Req2ReceiverMgr.failing : List Event :=
  [.setRunning true, .sendMsgDirectToClient [49] 0, .sendMsgDirectToClient [49] 0,
    .call 0 (.connect false), .call 1 (.connect true), .call 1 .getFuture, .call 1 (.sendData true),
    .call 1 .timeout]

def ServerConnMgr.registering : List ServerConnMgr.Event :=
  [.setServerTcp true, .setServerConnecting true, .request .registerNetMsgBusReceiver,
    .insertFuture 0 0, .call 0 .testServerTcp, .call 0 (.sendData true)]

def ServerConnMgr.registered : List ServerConnMgr.Event :=
  registering ++ [.rsp 1 (.register 0 [65] []), .setAnswer, .call 0 .join]

theorem blocking_calls_leave_nothing_registered : ∃ mgr failed serverConnMgr registered,
    Transition.run Req2ReceiverMgr.step .initial Req2ReceiverMgr.failing = some mgr ∧
      mgr.step (.call 1 .removeFuture) = some failed ∧
        failed.futureMgr.sendmsgRspContainer[(2 : UInt32)]? = none ∧
    Transition.run ServerConnMgr.step .initial ServerConnMgr.registered = some serverConnMgr ∧
      serverConnMgr.step (.call 0 .readContent) = some registered ∧
        registered.futureMgr.sendmsgRspContainer[(1 : UInt32)]? = none := by
  have leaves := blocking_calls_leave_nothing_when _ _
    (Transition.ReachableWhen.run .start Req2ReceiverMgr.failing rfl)
    (Transition.ReachableWhen.run .start ServerConnMgr.registered rfl)
  refine ⟨_, _, _, _, rfl, rfl, ?_, rfl, rfl, ?_⟩
  · exact leaves.1.returned (.call 1 .removeFuture) _ 1 ⟨2, 1, .underWay⟩ ⟨2, 1, .ended⟩
      rfl rfl rfl rfl rfl rfl
  · exact leaves.2.returned (.call 0 .readContent) _ 0 ⟨1, 0, .underWay⟩ ⟨1, 0, .ended⟩
      rfl rfl rfl rfl rfl rfl

theorem future_left_after_timeout : ¬ ∀ mgr : ServerConnMgr,
    Transition.Reachable ServerConnMgr.step .initial mgr →
      LeavesNothing ServerConnMgr.step (fun _ _ => true) ServerConnMgr.desk ServerConnMgr.takesOut
        mgr := by
  intro always
  have ran : ∃ mgr following,
      Transition.run ServerConnMgr.step .initial ServerConnMgr.registering = some mgr ∧
        mgr.step (.call 0 .timeout) = some following ∧
        mgr.desk.reservations[0]? = some ⟨1, 0, .underWay⟩ ∧
        following.desk.reservations[0]? = some ⟨1, 0, .ended⟩ ∧ following.desk.table 1 = some 0 :=
    ⟨_, _, rfl, rfl, rfl, rfl, rfl⟩
  obtain ⟨mgr, following, ran, taken, waits, timedOut, stays⟩ := ran
  have gone := (always mgr (.run .start _ ran)).returned (.call 0 .timeout) following 0 _ _ rfl taken
    waits rfl timedOut rfl
  cases stays.symm.trans gone

end MessageBus.Client
