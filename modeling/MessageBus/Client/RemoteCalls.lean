import MessageBus.Client.Futures

set_option autoImplicit false

namespace MessageBus.Client

-- The thread that reads one connection works on one frame at a time.
abbrev ConnId := Nat

inductive Phase where
  | created
  | connected
  | writing (curSendmsgRsp : Option FutureRef)
  | waiting (curSendmsgRsp : FutureRef)
  | joined (curSendmsgRsp : FutureRef)
  -- The safe_remove_future calls still to come before the call returns false.
  | failed (removals : Nat)
  | returned (result : Bool)
  deriving DecidableEq, Repr

structure Call where
  sync : Bool
  futureId : UInt32
  future : FutureRef
  rspContent : Bytes
  phase : Phase
  deriving DecidableEq, Repr

inductive CallEvent where
  | connect (ok : Bool)
  | getFuture
  | sendData (ok : Bool)
  | join
  | timeout
  | readContent
  | removeFuture
  deriving DecidableEq, Repr

namespace Call

def text (message : String) : Bytes := message.toUTF8.toList

def step (call : Call) (mgr : FutureMgr) : CallEvent -> Option (Call × FutureMgr)
  | .connect ok =>
    match call.phase with
    | .created => some ({ call with phase := if ok then .connected else .failed 1 }, mgr)
    | _ => none
  | .getFuture =>
    match call.phase with
    | .connected =>
      let curSendmsgRsp := if call.sync then (mgr.safeGetFuture call.futureId false).1 else none
      some ({ call with phase := .writing curSendmsgRsp }, mgr)
    | _ => none
  | .sendData ok =>
    match call.phase with
    | .writing curSendmsgRsp =>
      if !ok then some ({ call with phase := .failed 2, rspContent := text "send data failed." }, mgr)
      else if !call.sync then some ({ call with phase := .returned true }, mgr)
      else
        match curSendmsgRsp with
        | none => some ({ call with phase := .failed 1 }, mgr)
        | some future => some ({ call with phase := .waiting future }, mgr)
    | _ => none
  | .join =>
    match call.phase with
    | .waiting future =>
      if (mgr.futures[future]?).any NetFuture.ready then
        some ({ call with phase := .joined future }, mgr)
      else none
    | _ => none
  -- The result may have arrived between the end of the wait and this step; it is not looked at.
  | .timeout =>
    match call.phase with
    | .waiting _ => some ({ call with phase := .failed 1, rspContent := text "wait time out." }, mgr)
    | _ => none
  | .readContent =>
    match call.phase with
    | .joined future =>
      (mgr.futures[future]?).map fun netFuture =>
        ({ call with phase := .returned true, rspContent := netFuture.rspContent }, mgr)
    | _ => none
  | .removeFuture =>
    match call.phase with
    | .failed (removals + 1) =>
      some ({ call with phase := if removals = 0 then .returned false else .failed removals },
        mgr.safeRemoveFuture call.futureId)
    | _ => none

inductive Move (call : Call) (mgr : FutureMgr) : CallEvent -> Call × FutureMgr -> Prop where
  | connected (created : call.phase = .created) :
      Move call mgr (.connect true) ({ call with phase := .connected }, mgr)
  | notConnected (created : call.phase = .created) :
      Move call mgr (.connect false) ({ call with phase := .failed 1 }, mgr)
  | getFuture (connected : call.phase = .connected) (curSendmsgRsp : Option FutureRef)
      (found : ∀ future, curSendmsgRsp = some future →
        mgr.sendmsgRspContainer[call.futureId]? = some future) :
      Move call mgr .getFuture ({ call with phase := .writing curSendmsgRsp }, mgr)
  | sendFailed (curSendmsgRsp : Option FutureRef) (writing : call.phase = .writing curSendmsgRsp) :
      Move call mgr (.sendData false)
        ({ call with phase := .failed 2, rspContent := text "send data failed." }, mgr)
  | posted (curSendmsgRsp : Option FutureRef) (writing : call.phase = .writing curSendmsgRsp)
      (async : call.sync = false) :
      Move call mgr (.sendData true) ({ call with phase := .returned true }, mgr)
  | noFuture (writing : call.phase = .writing none) :
      Move call mgr (.sendData true) ({ call with phase := .failed 1 }, mgr)
  | sent (future : FutureRef) (writing : call.phase = .writing (some future)) :
      Move call mgr (.sendData true) ({ call with phase := .waiting future }, mgr)
  | join (future : FutureRef) (netFuture : NetFuture) (waiting : call.phase = .waiting future)
      (there : mgr.futures[future]? = some netFuture) (ready : netFuture.ready = true) :
      Move call mgr .join ({ call with phase := .joined future }, mgr)
  | timeout (future : FutureRef) (waiting : call.phase = .waiting future) :
      Move call mgr .timeout
        ({ call with phase := .failed 1, rspContent := text "wait time out." }, mgr)
  | readContent (future : FutureRef) (netFuture : NetFuture) (joined : call.phase = .joined future)
      (there : mgr.futures[future]? = some netFuture) :
      Move call mgr .readContent
        ({ call with phase := .returned true, rspContent := netFuture.rspContent }, mgr)
  | removeFuture (removals : Nat) (failed : call.phase = .failed (removals + 1)) :
      Move call mgr .removeFuture
        ({ call with phase := if removals = 0 then .returned false else .failed removals },
          mgr.safeRemoveFuture call.futureId)

theorem step_moves {call : Call} {mgr : FutureMgr} {event : CallEvent} {next : Call × FutureMgr}
    (taken : call.step mgr event = some next) : call.Move mgr event next := by
  cases event with
  | connect ok =>
    simp only [step] at taken
    split at taken <;> cases taken
    next created =>
      cases ok with
      | false => exact .notConnected created
      | true => exact .connected created
  | getFuture =>
    simp only [step] at taken
    split at taken <;> cases taken
    next connected =>
      refine .getFuture connected _ fun future same => ?_
      split at same
      · simp only [FutureMgr.safeGetFuture] at same
        split at same
        next found => exact found.trans same
        next => cases same
      · cases same
  | sendData ok =>
    simp only [step] at taken
    split at taken
    next curSendmsgRsp writing =>
      cases ok with
      | false =>
        cases taken
        exact .sendFailed curSendmsgRsp writing
      | true =>
        simp only [Bool.not_true, Bool.false_eq_true, if_false] at taken
        split at taken
        next async =>
          cases taken
          exact .posted curSendmsgRsp writing (by simpa using async)
        next =>
          cases curSendmsgRsp with
          | none =>
            cases taken
            exact .noFuture writing
          | some future =>
            cases taken
            exact .sent future writing
    next => cases taken
  | join =>
    simp only [step] at taken
    split at taken
    next future waiting =>
      split at taken <;> cases taken
      next answered =>
        rw [Option.any_eq_true] at answered
        obtain ⟨netFuture, there, ready⟩ := answered
        exact .join future netFuture waiting there ready
    next => cases taken
  | timeout =>
    simp only [step] at taken
    split at taken <;> cases taken
    next future waiting => exact .timeout future waiting
  | readContent =>
    simp only [step] at taken
    split at taken
    next future joined =>
      obtain ⟨netFuture, there, rfl⟩ := Option.map_eq_some_iff.mp taken
      exact .readContent future netFuture joined there
    next => cases taken
  | removeFuture =>
    simp only [step] at taken
    split at taken <;> cases taken
    next removals failed => exact .removeFuture removals failed

end Call

def FutureMgr.setResult (mgr : FutureMgr) (future : FutureRef) (pdata : Bytes) : FutureMgr :=
  { mgr with futures := mgr.futures.modify future fun netFuture => netFuture.setResult pdata }

-- A frame whose future has been found, before or after the store under wait_lock_.
structure Delivery where
  future : FutureRef
  pdata : Bytes
  stored : Bool
  deriving DecidableEq, Repr

structure Arrival where
  futureSid : UInt32
  pdata : Bytes
  inTable : Bool
  deriving DecidableEq, Repr

structure Req2ReceiverMgr where
  running : Bool
  futureMgr : FutureMgr
  calls : List Call
  reading : Std.ExtTreeMap ConnId Delivery
  -- What happened so far: the frames, the stores of set_result and the callbacks.
  arrivals : List Arrival
  stores : List (FutureRef × Bytes)
  callbacks : List (FutureRef × Bytes)

inductive Event where
  | setRunning (running : Bool)
  | sendMsgDirectToClient (destIp : Bytes) (now : Int)
  | postMsgDirectToClient (destIp : Bytes) (callback : Bool) (now : Int)
  | call (index : Nat) (event : CallEvent)
  | frame (conn : ConnId) (futureSid : UInt32) (pdata : Bytes)
  | store (conn : ConnId)
  | callback (conn : ConnId)
  | clearBadFuture (now : Int)
  deriving DecidableEq, Repr

namespace Req2ReceiverMgr

def initial : Req2ReceiverMgr :=
  { running := false, futureMgr := .initial, calls := [], reading := ∅, arrivals := [],
    stores := [], callbacks := [] }

def startCall (mgr : Req2ReceiverMgr) (sync callback : Bool) (now : Int) : Req2ReceiverMgr :=
  let future := mgr.futureMgr.safeInsertFuture callback now
  { mgr with
    futureMgr := future.2
    calls := mgr.calls ++ [{ sync, futureId := future.1.futureId, future := future.1.future,
                             rspContent := [], phase := .created }] }

def step (mgr : Req2ReceiverMgr) : Event -> Option Req2ReceiverMgr
  | .setRunning running => some { mgr with running }
  | .sendMsgDirectToClient destIp now =>
    if destIp.isEmpty || !mgr.running then some mgr else some (mgr.startCall true false now)
  | .postMsgDirectToClient destIp callback now =>
    if !mgr.running || destIp.isEmpty then some mgr else some (mgr.startCall false callback now)
  | .call index event =>
    (mgr.calls[index]?).bind fun call => (call.step mgr.futureMgr event).map fun next =>
      { mgr with calls := mgr.calls.set index next.1, futureMgr := next.2 }
  | .frame conn futureSid pdata =>
    if mgr.reading.contains conn then none
    else
      let readySendmsgRsp := mgr.futureMgr.safeGetFuture futureSid true
      let arrived := { mgr with
        futureMgr := readySendmsgRsp.2
        arrivals := mgr.arrivals ++ [⟨futureSid, pdata, readySendmsgRsp.1.isSome⟩] }
      match readySendmsgRsp.1 with
      | none => some arrived
      | some future =>
        some { arrived with reading := mgr.reading.insert conn ⟨future, pdata, false⟩ }
  | .store conn =>
    match mgr.reading[conn]? with
    | some ⟨future, pdata, false⟩ =>
      some { mgr with
        futureMgr := mgr.futureMgr.setResult future pdata
        reading := mgr.reading.insert conn ⟨future, pdata, true⟩
        stores := mgr.stores ++ [(future, pdata)] }
    | _ => none
  | .callback conn =>
    match mgr.reading[conn]? with
    | some ⟨future, _, true⟩ =>
      (mgr.futureMgr.futures[future]?).map fun netFuture =>
        { mgr with
          reading := mgr.reading.erase conn
          callbacks := mgr.callbacks ++
            if netFuture.callback then [(future, netFuture.rspContent)] else [] }
    | _ => none
  | .clearBadFuture now => some { mgr with futureMgr := mgr.futureMgr.safeClearBadFuture now }

-- The payload of the first frame that bears the id and finds it in the table.
def firstAnswer (mgr : Req2ReceiverMgr) (futureSid : UInt32) : Option Bytes :=
  (mgr.arrivals.find? fun arrival => arrival.inTable && arrival.futureSid == futureSid).map
    Arrival.pdata

def payloads (log : List (FutureRef × Bytes)) (future : FutureRef) : List Bytes :=
  (log.filter fun entry => entry.1 == future).map Prod.snd

structure OwnAnswers (mgr : Req2ReceiverMgr) : Prop where
  apart : ∀ (i j : Nat) (call other : Call), mgr.calls[i]? = some call → mgr.calls[j]? = some other →
    call.future = other.future ∨ call.futureId = other.futureId → i = j
  setOnce : ∀ future, (payloads mgr.stores future).length ≤ 1
  calledBackOnce : ∀ future, (payloads mgr.callbacks future).length ≤ 1
  storesFirst : ∀ call ∈ mgr.calls, ∀ pdata ∈ payloads mgr.stores call.future,
    mgr.firstAnswer call.futureId = some pdata
  callsBackFirst : ∀ call ∈ mgr.calls, ∀ pdata ∈ payloads mgr.callbacks call.future,
    mgr.firstAnswer call.futureId = some pdata
  keeps : ∀ (future : FutureRef) (netFuture : NetFuture),
    mgr.futureMgr.futures[future]? = some netFuture → netFuture.ready = true →
      payloads mgr.stores future = [netFuture.rspContent]
  returnsFirst : ∀ call ∈ mgr.calls, call.sync = true → call.phase = .returned true →
    mgr.firstAnswer call.futureId = some call.rspContent
  unknown : ∀ conn futureSid pdata following,
    mgr.futureMgr.sendmsgRspContainer[futureSid]? = none →
      mgr.step (.frame conn futureSid pdata) = some following →
        following.futureMgr = mgr.futureMgr ∧ following.reading = mgr.reading ∧
          following.stores = mgr.stores ∧ following.callbacks = mgr.callbacks

end Req2ReceiverMgr
end MessageBus.Client
