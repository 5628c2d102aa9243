import MessageBus.Client.ServerConnMgr
import MessageBus.Shared.InPlace

set_option autoImplicit false

-- What a ServerConnMgr makes of the answers it hears.
namespace MessageBus.Client

namespace FutureMgr

theorem safeInsertFuture_entries (mgr : FutureMgr) (callback : Bool) (now : Int) :
    (mgr.safeInsertFuture callback now).1.futureId = mgr.nextFutureId ∧
    (mgr.safeInsertFuture callback now).2.sendmsgRspContainer[mgr.nextFutureId]? =
      some (mgr.safeInsertFuture callback now).1.future ∧
    ∀ id future, (mgr.safeInsertFuture callback now).2.sendmsgRspContainer[id]? = some future →
      mgr.sendmsgRspContainer[id]? = some future ∨
        id = mgr.nextFutureId ∧ future = mgr.futures.length := by
  cases found : mgr.sendmsgRspContainer[mgr.nextFutureId]? with
  | none =>
    rw [safeInsertFuture_fresh callback now found]
    refine ⟨rfl, Std.ExtTreeMap.getElem?_insert_self, ?_⟩
    intro id future there
    rcases Tables.of_insert there with ⟨same, ofFuture⟩ | ⟨_, older⟩
    · exact .inr ⟨same.symm, ofFuture.symm⟩
    · exact .inl older
  | some present =>
    rw [safeInsertFuture_clash callback now found]
    exact ⟨rfl, found, fun _ _ there => .inl there⟩

theorem safeGetFuture_found {mgr : FutureMgr} {futureSid : UInt32} {erase : Bool}
    {future : FutureRef} (found : (mgr.safeGetFuture futureSid erase).1 = some future) :
    mgr.sendmsgRspContainer[futureSid]? = some future := by
  unfold safeGetFuture at found
  split at found
  next present there => exact there.trans found
  next => cases found

theorem safeGetFuture_within {mgr : FutureMgr} {futureSid id : UInt32} {erase : Bool}
    {future : FutureRef}
    (there : (mgr.safeGetFuture futureSid erase).2.sendmsgRspContainer[id]? = some future) :
    mgr.sendmsgRspContainer[id]? = some future := by
  unfold safeGetFuture at there
  split at there
  · cases erase with
    | false => exact there
    | true => exact (Tables.of_erase there).2
  · exact there

end FutureMgr

namespace ServerCall

def unsent (call : ServerCall) : Bool :=
  match call.phase with
  | .inserted | .sending => true
  | _ => false

structure Goes (call : ServerCall) (mgr : FutureMgr) (event : ServerCallEvent)
    (next : ServerCall) : Prop where
  request : next.request = call.request
  futureId : next.futureId = call.futureId
  future : next.future = call.future
  unsent : next.unsent = true → call.unsent = true
  sendData : ∀ ok, event = .sendData ok → call.unsent = true ∧ next.unsent = false
  joined : next.phase = .joined →
    ∃ netFuture, mgr.futures[call.future]? = some netFuture ∧ netFuture.ready = true
  returned : call.request = .postNetMsgUseServerRelay → next.phase = .returned true →
    call.phase = .joined ∧
      ∃ netFuture, mgr.futures[call.future]? = some netFuture ∧ netFuture.hasError = false

theorem step_goes {call next : ServerCall} {mgr : FutureMgr} {serverTcp : Bool}
    {event : ServerCallEvent} (taken : call.step mgr serverTcp event = some next) :
    call.Goes mgr event next := by
  cases event with
  | testServerTcp =>
    simp only [step] at taken
    split at taken <;> cases taken
    next inserted => constructor <;> cases serverTcp <;> simp [ServerCall.unsent, inserted]
  | sendData ok =>
    simp only [step] at taken
    split at taken
    next sending =>
      split_ifs at taken with failed async <;> cases taken
      · constructor <;> simp [ServerCall.unsent, sending]
      · constructor <;> simp [ServerCall.unsent, sending]
        intro post
        rw [post] at async
        cases async
      · constructor <;> simp [ServerCall.unsent, sending]
    next => cases taken
  | join =>
    simp only [step] at taken
    split at taken
    next waiting =>
      split at taken <;> cases taken
      next answered =>
        rw [Option.any_eq_true] at answered
        constructor <;> simp [ServerCall.unsent, answered]
    next => cases taken
  | timeout =>
    simp only [step] at taken
    split at taken <;> cases taken
    constructor <;> simp [ServerCall.unsent]
  | readContent =>
    simp only [step] at taken
    split at taken
    next joined =>
      obtain ⟨netFuture, there, read⟩ := Option.bind_eq_some_iff.mp taken
      split at read <;> cases read
      next result host made =>
        constructor <;> simp [ServerCall.unsent, joined, there]
        rintro post rfl
        rw [post] at made
        simp only [ServerRequest.result, Except.ok.injEq, Prod.mk.injEq, Bool.not_eq_true'] at made
        exact made.1
    next => cases taken

end ServerCall

namespace ServerConnMgr

variable {mgr following : ServerConnMgr} {heard : List (UInt32 × ServerRsp)}

-- The answers that have come, each with the id it was for.
def heardAfter (heard : List (UInt32 × ServerRsp)) : Event -> List (UInt32 × ServerRsp)
  | .rsp msgId rsp => heard ++ [(msgId, rsp)]
  | _ => heard

def HeardNoError (heard : List (UInt32 × ServerRsp)) (futureId : UInt32) : Prop :=
  ∃ rsp isreceiverRegistered, (futureId, rsp) ∈ heard ∧
    (rsp.answer isreceiverRegistered).1 = false

structure Answered (idOf : FutureRef -> UInt32) (mgr : ServerConnMgr)
    (heard : List (UInt32 × ServerRsp)) : Prop where
  table : ∀ id future, mgr.futureMgr.sendmsgRspContainer[id]? = some future →
    idOf future = id ∧ future < mgr.futureMgr.futures.length
  called : ∀ call ∈ mgr.calls,
    idOf call.future = call.futureId ∧ call.future < mgr.futureMgr.futures.length
  answering : ∀ future rsp, mgr.answering = some (future, rsp) →
    (idOf future, rsp) ∈ heard ∧ future < mgr.futureMgr.futures.length
  ready : ∀ future netFuture, mgr.futureMgr.futures[future]? = some netFuture →
    netFuture.ready = true → netFuture.hasError = false → HeardNoError heard (idOf future)
  joined : ∀ call ∈ mgr.calls, call.phase = .joined →
    ∃ netFuture, mgr.futureMgr.futures[call.future]? = some netFuture ∧ netFuture.ready = true
  returned : ∀ call ∈ mgr.calls, call.request = .postNetMsgUseServerRelay →
    call.phase = .returned true → HeardNoError heard call.futureId

theorem HeardNoError.more {futureId : UInt32} (noError : HeardNoError heard futureId)
    (others : List (UInt32 × ServerRsp)) : HeardNoError (heard ++ others) futureId := by
  obtain ⟨rsp, registered, member, answer⟩ := noError
  exact ⟨rsp, registered, List.mem_append_left _ member, answer⟩

theorem answered_initial : Answered (fun _ => 0) initial [] := by
  constructor <;> simp [initial, FutureMgr.initial]

theorem Answered.same {idOf : FutureRef -> UInt32} (answered : Answered idOf mgr heard)
    (futureMgr : following.futureMgr = mgr.futureMgr) (calls : following.calls = mgr.calls)
    (answering : following.answering = mgr.answering) : Answered idOf following heard := by
  constructor
  · rw [futureMgr]
    exact answered.table
  · rw [futureMgr, calls]
    exact answered.called
  · rw [futureMgr, answering]
    exact answered.answering
  · rw [futureMgr]
    exact answered.ready
  · rw [futureMgr, calls]
    exact answered.joined
  · rw [calls]
    exact answered.returned

theorem Answered.more {idOf : FutureRef -> UInt32} (answered : Answered idOf mgr heard)
    (others : List (UInt32 × ServerRsp)) : Answered idOf mgr (heard ++ others) := by
  refine { answered with answering := ?_, ready := ?_, returned := ?_ }
  · intro future rsp found
    have said := answered.answering future rsp found
    exact ⟨List.mem_append_left _ said.1, said.2⟩
  · intro future netFuture there isReady noError
    exact (answered.ready future netFuture there isReady noError).more others
  · intro call member request phase
    exact (answered.returned call member request phase).more others

section Steps

theorem call_goes {index : Nat} {event : ServerCallEvent}
    (taken : mgr.step (.call index event) = some following) :
    ∃ call next, mgr.calls[index]? = some call ∧ call.Goes mgr.futureMgr event next ∧
      following = { mgr with calls := mgr.calls.set index next } := by
  simp only [step, Option.bind_eq_some_iff, Option.map_eq_some_iff] at taken
  obtain ⟨call, there, next, moved, rfl⟩ := taken
  exact ⟨call, next, there, ServerCall.step_goes moved, rfl⟩

variable {idOf : FutureRef -> UInt32}

theorem Answered.insertFuture (answered : Answered idOf mgr heard) {index : Nat} {now : Int}
    (taken : mgr.step (.insertFuture index now) = some following) :
    Answered (Function.update idOf mgr.futureMgr.futures.length mgr.futureMgr.nextFutureId)
      following heard := by
  obtain ⟨request, _, rfl⟩ := Option.map_eq_some_iff.mp taken
  obtain ⟨own, leads, entries⟩ := mgr.futureMgr.safeInsertFuture_entries request.callback now
  have futures := mgr.futureMgr.safeInsertFuture_futures request.callback now
  have grown : (mgr.futureMgr.futures ++ [NetFuture.new request.callback now]).length =
      mgr.futureMgr.futures.length + 1 := by simp
  have kept {future : FutureRef} (older : future < mgr.futureMgr.futures.length) :
      Function.update idOf mgr.futureMgr.futures.length mgr.futureMgr.nextFutureId future =
        idOf future := Function.update_of_ne (Nat.ne_of_lt older) _ _
  have table : ∀ id future,
      (mgr.futureMgr.safeInsertFuture request.callback now).2.sendmsgRspContainer[id]? =
        some future →
      Function.update idOf mgr.futureMgr.futures.length mgr.futureMgr.nextFutureId future = id ∧
        future < mgr.futureMgr.futures.length + 1 := by
    intro id future there
    rcases entries id future there with older | ⟨rfl, rfl⟩
    · obtain ⟨same, within⟩ := answered.table id future older
      exact ⟨(kept within).trans same, Nat.lt_succ_of_lt within⟩
    · exact ⟨Function.update_self _ _ _, Nat.lt_succ_self _⟩
  have older {future : FutureRef} {netFuture : NetFuture}
      (there : mgr.futureMgr.futures[future]? = some netFuture) :
      future < mgr.futureMgr.futures.length := (List.getElem?_eq_some_iff.mp there).1
  constructor
  · intro id future there
    simp only [futures, grown]
    exact table id future there
  · intro call member
    simp only [futures, grown]
    rcases List.mem_append.mp member with before | new
    · obtain ⟨same, within⟩ := answered.called call before
      exact ⟨(kept within).trans same, Nat.lt_succ_of_lt within⟩
    · obtain rfl := List.mem_singleton.mp new
      exact own ▸ table _ _ leads
  · intro future rsp found
    simp only [futures, grown]
    obtain ⟨said, within⟩ := answered.answering future rsp found
    exact ⟨(kept within).symm ▸ said, Nat.lt_succ_of_lt within⟩
  · intro future netFuture there isReady noError
    rw [futures] at there
    rcases Transition.found_in_concat there with before | ⟨rfl, rfl⟩
    · rw [kept (older before)]
      exact answered.ready future netFuture before isReady noError
    · cases isReady
  · intro call member joined
    rcases List.mem_append.mp member with before | new
    · obtain ⟨netFuture, there, isReady⟩ := answered.joined call before joined
      refine ⟨netFuture, ?_, isReady⟩
      rw [futures]
      exact (List.getElem?_append_left (older there)).trans there
    · rw [List.mem_singleton.mp new] at joined
      cases joined
  · intro call member request phase
    rcases List.mem_append.mp member with before | new
    · exact answered.returned call before request phase
    · rw [List.mem_singleton.mp new] at phase
      cases phase

theorem Answered.call (answered : Answered idOf mgr heard) {index : Nat} {event : ServerCallEvent}
    (taken : mgr.step (.call index event) = some following) : Answered idOf following heard := by
  obtain ⟨call, next, there, goes, rfl⟩ := call_goes taken
  have member := List.mem_of_getElem? there
  refine { answered with called := ?_, joined := ?_, returned := ?_ }
  · intro other inside
    rcases List.mem_or_eq_of_mem_set inside with older | rfl
    · exact answered.called other older
    · rw [goes.future, goes.futureId]
      exact answered.called call member
  · intro other inside joined
    rcases List.mem_or_eq_of_mem_set inside with older | rfl
    · exact answered.joined other older joined
    · rw [goes.future]
      exact goes.joined joined
  · intro other inside request phase
    rcases List.mem_or_eq_of_mem_set inside with older | rfl
    · exact answered.returned other older request phase
    · obtain ⟨joined, netFuture, found, noError⟩ := goes.returned (goes.request ▸ request) phase
      obtain ⟨_, same, isReady⟩ := answered.joined call member joined
      cases found.symm.trans same
      rw [goes.futureId, ← (answered.called call member).1]
      exact answered.ready call.future netFuture found isReady noError

theorem Answered.rsp (answered : Answered idOf mgr heard) {msgId : UInt32} {rsp : ServerRsp}
    (taken : mgr.step (.rsp msgId rsp) = some following) :
    Answered idOf following (heard ++ [(msgId, rsp)]) := by
  have later := answered.more [(msgId, rsp)]
  simp only [step] at taken
  split_ifs at taken <;> cases taken
  · exact later
  · have futures := mgr.futureMgr.safeGetFuture_futures msgId true
    constructor
    · intro id future there
      simp only [futures]
      exact later.table id future (FutureMgr.safeGetFuture_within there)
    · simp only [futures]
      exact fun call member => later.called call (by cases rsp <;> exact member)
    · intro future told found
      simp only [futures]
      obtain ⟨present, got, same⟩ := Option.map_eq_some_iff.mp found
      cases same
      obtain ⟨same, within⟩ := later.table msgId future (FutureMgr.safeGetFuture_found got)
      exact ⟨same ▸ List.mem_append_right _ (List.mem_singleton_self _), within⟩
    · simp only [futures]
      exact later.ready
    · simp only [futures]
      exact fun call member => later.joined call (by cases rsp <;> exact member)
    · exact fun call member => later.returned call (by cases rsp <;> exact member)

theorem Answered.setAnswer (answered : Answered idOf mgr heard)
    (taken : mgr.step .setAnswer = some following) : Answered idOf following heard := by
  obtain ⟨⟨future, rsp⟩, waits, rfl⟩ := Option.map_eq_some_iff.mp taken
  have said := answered.answering future rsp waits
  have length : (mgr.futureMgr.setAnswer future (rsp.answer mgr.isreceiverRegistered).1
      (rsp.answer mgr.isreceiverRegistered).2).futures.length = mgr.futureMgr.futures.length :=
    List.length_modify _ _ _
  constructor
  · simp only [length]
    exact answered.table
  · simp only [length]
    exact answered.called
  · rintro _ _ ⟨⟩
  · intro other netFuture there isReady noError
    simp only [FutureMgr.setAnswer, List.getElem?_modify, Option.map_eq_map,
      Option.map_eq_some_iff] at there
    obtain ⟨before, found, rfl⟩ := there
    split at noError
    next same =>
      -- The answer says itself that it is no error.
      rw [Bool.or_eq_false_iff] at noError
      exact same ▸ ⟨rsp, mgr.isreceiverRegistered, said.1, noError.2⟩
    next different =>
      rw [if_neg different] at isReady
      exact answered.ready other before found isReady noError
  · intro call member joined
    obtain ⟨netFuture, there, isReady⟩ := answered.joined call member joined
    simp only [FutureMgr.setAnswer, List.getElem?_modify, there, Option.map_eq_map, Option.map_some]
    refine ⟨_, rfl, ?_⟩
    split
    · rfl
    · exact isReady
  · exact answered.returned

theorem Answered.startRequest (answered : Answered idOf mgr heard) (request : ServerRequest) :
    Answered idOf (mgr.startRequest request) heard := by
  unfold ServerConnMgr.startRequest
  split
  · exact answered.same rfl rfl rfl
  · exact answered

theorem step_answered {event : Event} (answered : Answered idOf mgr heard)
    (taken : mgr.step event = some following) :
    ∃ idsLater, Answered idsLater following (heardAfter heard event) := by
  cases event with
  | setServerConnecting | setServerTcp =>
    cases taken
    exact ⟨idOf, answered.same rfl rfl rfl⟩
  | request request =>
    cases taken
    exact ⟨idOf, answered.startRequest request⟩
  | updateReceiverBusyState =>
    simp only [step] at taken
    split at taken <;> cases taken
    · exact ⟨idOf, answered.startRequest _⟩
    · exact ⟨idOf, answered⟩
  | unRegisterNetMsgBusReceiver sent =>
    simp only [step] at taken
    split at taken <;> cases taken
    · exact ⟨idOf, answered.same rfl rfl rfl⟩
    · exact ⟨idOf, answered⟩
  | insertFuture index now => exact ⟨_, answered.insertFuture taken⟩
  | call index event => exact ⟨idOf, answered.call taken⟩
  | rsp msgId rsp => exact ⟨idOf, answered.rsp taken⟩
  | setAnswer => exact ⟨idOf, answered.setAnswer taken⟩

end Steps

section Ids

inductive CallsMove (mgr : ServerConnMgr) : Event -> ServerConnMgr -> Prop where
  | stay (event : Event) (following : ServerConnMgr) (calls : following.calls = mgr.calls)
      (futures : following.futureMgr.futures.length = mgr.futureMgr.futures.length)
      (lastId : following.futureMgr.futureIncId = mgr.futureMgr.futureIncId) :
      CallsMove mgr event following
  | call (index : Nat) (event : ServerCallEvent) (call next : ServerCall)
      (there : mgr.calls[index]? = some call) (goes : call.Goes mgr.futureMgr event next) :
      CallsMove mgr (.call index event) { mgr with calls := mgr.calls.set index next }
  | insertFuture (index : Nat) (now : Int) (following : ServerConnMgr) (call : ServerCall)
      (starts : mgr.starting[index]? = some call.request) (unsent : call.unsent = true)
      (futureId : call.futureId = mgr.futureMgr.nextFutureId)
      (calls : following.calls = mgr.calls ++ [call])
      (futures : following.futureMgr.futures.length = mgr.futureMgr.futures.length + 1)
      (lastId : following.futureMgr.futureIncId = mgr.futureMgr.nextFutureId) :
      CallsMove mgr (.insertFuture index now) following

theorem startRequest_callsMove (event : Event) (request : ServerRequest) :
    CallsMove mgr event (mgr.startRequest request) := by
  unfold startRequest
  split <;> exact .stay _ _ rfl rfl rfl

theorem insertFuture_calls {index : Nat} {now : Int}
    (taken : mgr.step (.insertFuture index now) = some following) :
    ∃ call, mgr.starting[index]? = some call.request ∧ call.unsent = true ∧
      call.futureId = mgr.futureMgr.nextFutureId ∧ following.calls = mgr.calls ++ [call] ∧
      following.futureMgr.futures.length = mgr.futureMgr.futures.length + 1 ∧
      following.futureMgr.futureIncId = mgr.futureMgr.nextFutureId := by
  obtain ⟨request, starts, rfl⟩ := Option.map_eq_some_iff.mp taken
  have futures := mgr.futureMgr.safeInsertFuture_futures request.callback now
  refine ⟨_, starts, rfl, (mgr.futureMgr.safeInsertFuture_entries request.callback now).1, rfl,
    ?_, ?_⟩
  · simp only [futures, List.length_append, List.length_singleton]
  · unfold FutureMgr.safeInsertFuture
    dsimp only
    split <;> rfl

theorem step_callsMove {event : Event} (taken : mgr.step event = some following) :
    CallsMove mgr event following := by
  cases event with
  | setServerConnecting | setServerTcp =>
    cases taken
    exact .stay _ _ rfl rfl rfl
  | request request =>
    cases taken
    exact startRequest_callsMove _ request
  | updateReceiverBusyState =>
    simp only [step] at taken
    split at taken <;> cases taken
    · exact startRequest_callsMove _ _
    · exact .stay _ _ rfl rfl rfl
  | unRegisterNetMsgBusReceiver sent =>
    simp only [step] at taken
    split at taken <;> cases taken <;> exact .stay _ _ rfl rfl rfl
  | insertFuture index now =>
    obtain ⟨call, starts, unsent, futureId, calls, futures, lastId⟩ := insertFuture_calls taken
    exact .insertFuture index now _ call starts unsent futureId calls futures lastId
  | call index event =>
    obtain ⟨call, next, there, goes, rfl⟩ := call_goes taken
    exact .call index event call next there goes
  | rsp msgId rsp =>
    simp only [step] at taken
    split_ifs at taken <;> cases taken
    · exact .stay _ _ rfl rfl rfl
    · refine .stay _ _ (by cases rsp <;> rfl) ?_ ?_
      · exact congrArg List.length (mgr.futureMgr.safeGetFuture_futures msgId true)
      · unfold FutureMgr.safeGetFuture
        split <;> rfl
  | setAnswer =>
    obtain ⟨_, _, rfl⟩ := Option.map_eq_some_iff.mp taken
    exact .stay _ _ rfl (List.length_modify _ _ _) rfl

-- A call keeps its id, and what was sent stays sent.
def CallKept (call after : ServerCall) : Prop :=
  after.futureId = call.futureId ∧ after.request = call.request ∧
    (after.unsent = true → call.unsent = true)

theorem callKept_refl (call : ServerCall) : CallKept call call := ⟨rfl, rfl, id⟩

theorem step_callsKept {event : Event} (taken : mgr.step event = some following) :
    InPlace.Kept CallKept mgr.calls following.calls := by
  cases step_callsMove taken with
  | stay _ _ calls => exact calls ▸ .refl callKept_refl _
  | call index event call next there goes =>
    exact InPlace.kept_set callKept_refl there ⟨goes.futureId, goes.request, goes.unsent⟩
  | insertFuture index now _ call starts unsent futureId calls =>
    exact calls ▸ InPlace.kept_append callKept_refl _ _

structure Counted (mgr : ServerConnMgr) : Prop where
  futures : mgr.futureMgr.futures.length = mgr.calls.length
  nonzero : ∀ call ∈ mgr.calls, call.futureId ≠ 0
  lastId : mgr.calls.length ≤ FutureMgr.idPeriod →
    mgr.futureMgr.futureIncId.toNat = mgr.calls.length
  ids : mgr.calls.length ≤ FutureMgr.idPeriod →
    ∀ index call, mgr.calls[index]? = some call → call.futureId.toNat = index + 1

theorem counted_initial : initial.Counted := by
  constructor <;> simp [initial, FutureMgr.initial]

theorem step_counted {event : Event} (counted : mgr.Counted)
    (taken : mgr.step event = some following) : following.Counted := by
  cases step_callsMove taken with
  | stay _ _ calls futures lastId =>
    constructor
    · rw [calls, futures, counted.futures]
    · rw [calls]
      exact counted.nonzero
    · rw [calls, lastId]
      exact counted.lastId
    · rw [calls]
      exact counted.ids
  | call index event call next there goes =>
    have member := List.mem_of_getElem? there
    have length : (mgr.calls.set index next).length = mgr.calls.length := List.length_set
    constructor
    · rw [length, counted.futures]
    · intro other inside
      rcases List.mem_or_eq_of_mem_set inside with older | rfl
      · exact counted.nonzero other older
      · exact goes.futureId ▸ counted.nonzero call member
    · rw [length]
      exact counted.lastId
    · rw [length]
      intro few other found otherThere
      rcases Transition.found_in_set otherThere with ⟨rfl, rfl⟩ | ⟨_, older⟩
      · exact goes.futureId ▸ counted.ids few other call there
      · exact counted.ids few other found older
  | insertFuture index now _ call starts unsent futureId calls futures lastId =>
    have length : following.calls.length = mgr.calls.length + 1 := by
      rw [calls, List.length_append, List.length_singleton]
    have newId (few : following.calls.length ≤ FutureMgr.idPeriod) :
        mgr.futureMgr.nextFutureId.toNat = mgr.calls.length + 1 := by
      have below : mgr.calls.length < FutureMgr.idPeriod := by omega
      rw [mgr.futureMgr.nextFutureId_correct, counted.lastId (Nat.le_of_lt below)]
      exact if_pos below
    constructor
    · rw [length, futures, counted.futures]
    · rw [calls]
      intro other inside
      rcases List.mem_append.mp inside with older | new
      · exact counted.nonzero other older
      · rw [List.mem_singleton.mp new, futureId]
        exact mgr.futureMgr.nextFutureId_ne_zero
    · intro few
      rw [lastId, length, newId few]
    · intro few other found otherThere
      rw [calls] at otherThere
      rcases Transition.found_in_concat otherThere with older | ⟨rfl, rfl⟩
      · exact counted.ids (by omega) other found older
      · rw [futureId, newId few]

theorem Counted.ids_apart (counted : mgr.Counted)
    (few : mgr.calls.length ≤ FutureMgr.idPeriod) {first second : Nat} {one two : ServerCall}
    (there : mgr.calls[first]? = some one) (otherThere : mgr.calls[second]? = some two)
    (same : one.futureId = two.futureId) : first = second := by
  have own := counted.ids few first one there
  rw [same, counted.ids few second two otherThere] at own
  exact (Nat.succ.inj own).symm

end Ids

end ServerConnMgr
end MessageBus.Client
