import MessageBus.Shared.Bytes
import MessageBus.Shared.Transition

set_option autoImplicit false

namespace MessageBus.Net

inductive EventResult where
  | read
  | write
  | exception
  deriving DecidableEq, Repr

-- The bits EV_READ, EV_WRITE and EV_EXCEPTION.
structure SockEvent where
  hasRead : Bool
  hasWrite : Bool
  hasException : Bool
  deriving DecidableEq, Repr

namespace SockEvent

def noEvent : SockEvent := { hasRead := false, hasWrite := false, hasException := false }

def hasAny (events : SockEvent) : Bool := events != noEvent

def hasEvent (events : SockEvent) : EventResult -> Bool
  | .read => events.hasRead
  | .write => events.hasWrite
  | .exception => events.hasException

def setEvent (events : SockEvent) (er : EventResult) (value : Bool) : SockEvent :=
  match er with
  | .read => { events with hasRead := value }
  | .write => { events with hasWrite := value }
  | .exception => { events with hasException := value }

def addEvent (events : SockEvent) (er : EventResult) : SockEvent := events.setEvent er true

def removeEvent (events : SockEvent) (er : EventResult) : SockEvent := events.setEvent er false

end SockEvent

structure TcpSock where
  inbuf : Bytes
  outbuf : Bytes
  isclosing : Bool
  mWriteable : Bool
  allowMoreSend : Bool
  sockev : SockEvent
  caredev : SockEvent
  deriving DecidableEq, Repr

namespace TcpSock

-- After Connect and AddTcpSock.
def connected : TcpSock :=
  { inbuf := [], outbuf := [], isclosing := false, mWriteable := true, allowMoreSend := true,
    sockev := .noEvent, caredev := { hasRead := true, hasWrite := false, hasException := true } }

def writeable (sock : TcpSock) : Bool := sock.mWriteable && sock.allowMoreSend

-- Close takes the sock out of its event loop, so that it cares for nothing any more.
def addAndUpdateEvent (sock : TcpSock) (er : EventResult) : TcpSock :=
  if sock.isclosing || sock.caredev.hasEvent er then sock
  else { sock with caredev := sock.caredev.addEvent er }

def removeAndUpdateEvent (sock : TcpSock) (er : EventResult) : TcpSock :=
  if sock.isclosing || !sock.caredev.hasEvent er then sock
  else { sock with caredev := sock.caredev.removeEvent er }

def close (sock : TcpSock) : TcpSock :=
  if sock.isclosing then sock
  else { sock with
    isclosing := true, mWriteable := false, allowMoreSend := false, caredev := .noEvent,
    inbuf := [] }

-- The handler of onRead took the first bytes of m_inbuf, or claims more than there are.
def takeRead (sock : TcpSock) (data : Bytes) (handled : Nat) : TcpSock :=
  { sock with inbuf := (sock.inbuf ++ data).drop handled }

end TcpSock

-- The calls of SendData that returned true: who called, with what.
abbrev SendCalls := List (Nat × Bytes)

def SendCalls.bytes (calls : SendCalls) : Bytes := calls.flatMap Prod.snd

inductive WriteTask where
  | sendDataInLoop (data : Bytes)
  | shutDownWrite
  | handleEvent
  deriving DecidableEq, Repr

inductive SendOrigin where
  | sendDataInLoop
  | handleEvent
  deriving DecidableEq, Repr

inductive WriterPhase where
  | idle
  | checking (data : Bytes)
  | pushing (data : Bytes)
  | writing (origin : SendOrigin)
  | emptied (origin : SendOrigin)
  | handling
  | handlingWrite
  deriving DecidableEq, Repr

inductive LoopPhase where
  | idle
  | waited
  | ready
  | handling
  | handlingRest
  deriving DecidableEq, Repr

inductive CallerPhase where
  | idle
  | queueing (data : Bytes)
  | disallowed
  deriving DecidableEq, Repr

inductive WriteResult where
  | taken (count : Nat)
  | again
  deriving DecidableEq, Repr

inductive ReadResult where
  | data (data : Bytes) (handled : Nat)
  | again
  | failed
  deriving DecidableEq, Repr

structure SockThreads where
  sock : TcpSock
  callers : Nat -> CallerPhase
  writeTasks : List WriteTask
  writer : WriterPhase
  -- The calls of AddAndUpdateEvent that wait in m_pendings.
  pendings : List EventResult
  loop : LoopPhase
  -- What the socket took, and whether shutdown(SHUT_WR) was called on it.
  written : Bytes
  shut : Bool
  -- The last write since the last report with EV_WRITE.
  lastWrite : Option WriteResult
  accepted : SendCalls
  -- What was accepted when DisAllowSend was called first.
  acceptedBefore : Option SendCalls

inductive CallerEvent where
  | sendData (data : Bytes)
  | queueData
  | disAllowSend
  | testOutbuf (inLoopThread : Bool)
  deriving DecidableEq, Repr

inductive WriterEvent where
  | take
  | testWriteable
  | pushBack
  | write (result : WriteResult)
  | outbufEmptied (onSend : Bool)
  | testRead
  | testWrite
  deriving DecidableEq, Repr

inductive LoopEvent where
  | clearEvent
  | addEvent (er : EventResult)
  | report
  | runPending
  | close
  | dispatch
  | read (result : ReadResult)
  | handleRest
  deriving DecidableEq, Repr

inductive SockThreads.Event where
  | caller (thread : Nat) (event : CallerEvent)
  | writer (event : WriterEvent)
  | loop (event : LoopEvent)
  deriving DecidableEq, Repr

namespace SockThreads

def initial : SockThreads :=
  { sock := .connected, callers := fun _ => .idle, writeTasks := [], writer := .idle,
    pendings := [], loop := .idle, written := [], shut := false, lastWrite := none, accepted := [],
    acceptedBefore := none }

def setCaller (state : SockThreads) (thread : Nat) (phase : CallerPhase) : SockThreads :=
  { state with callers := Function.update state.callers thread phase }

def queueTaskToWriteLoop (state : SockThreads) (task : WriteTask) : SockThreads :=
  { state with writeTasks := state.writeTasks ++ [task] }

def disAllow (state : SockThreads) : SockThreads :=
  { state with
    sock := { state.sock with allowMoreSend := false }
    acceptedBefore := some (state.acceptedBefore.getD state.accepted) }

def shutDownWrite (state : SockThreads) : SockThreads :=
  if state.sock.isclosing then state
  else { state with sock := { state.sock with mWriteable := false, outbuf := [] }, shut := true }

-- What follows when DoSend returns true.
def sent (state : SockThreads) : SendOrigin -> SockThreads
  | .sendDataInLoop =>
    { state with
      sock := if state.sock.outbuf = [] then state.sock else state.sock.addAndUpdateEvent .write
      writer := .idle }
  | .handleEvent => { state with writer := .idle }

def callerStep (state : SockThreads) (thread : Nat) : CallerEvent -> Option SockThreads
  | .sendData data =>
    match state.callers thread with
    | .idle =>
      if data = [] then none
      else if state.sock.isclosing || !state.sock.writeable then some state
      else some (state.setCaller thread (.queueing data))
    | _ => none
  | .queueData =>
    match state.callers thread with
    | .queueing data =>
      let queued := state.queueTaskToWriteLoop (.sendDataInLoop data)
      some { queued.setCaller thread .idle with accepted := state.accepted ++ [(thread, data)] }
    | _ => none
  | .disAllowSend =>
    match state.callers thread with
    | .idle => some (state.disAllow.setCaller thread .disallowed)
    | _ => none
  | .testOutbuf inLoopThread =>
    match state.callers thread with
    | .disallowed =>
      let returned := state.setCaller thread .idle
      if state.sock.isclosing then some returned
      else if state.sock.outbuf = [] then some (returned.queueTaskToWriteLoop .shutDownWrite)
      else if inLoopThread then
        some { returned with sock := state.sock.addAndUpdateEvent .write }
      else some { returned with pendings := state.pendings ++ [.write] }
    | _ => none

def writerStep (state : SockThreads) : WriterEvent -> Option SockThreads
  | .take =>
    match state.writer, state.writeTasks with
    | .idle, task :: rest =>
      let taken := { state with writeTasks := rest }
      match task with
      | .sendDataInLoop data => some { taken with writer := .checking data }
      | .shutDownWrite => some taken.shutDownWrite
      | .handleEvent => some { taken with writer := .handling }
    | _, _ => none
  | .testWriteable =>
    match state.writer with
    | .checking data =>
      if state.sock.isclosing || !state.sock.writeable then some { state with writer := .idle }
      else some { state with writer := .pushing data }
    | _ => none
  | .pushBack =>
    match state.writer with
    | .pushing data =>
      some { state with
        sock := { state.sock with outbuf := state.sock.outbuf ++ data }
        writer := .writing .sendDataInLoop }
    | _ => none
  | .write result =>
    match state.writer with
    | .writing origin =>
      -- On a closed descriptor write fails; with nothing to write it returns 0.
      if state.sock.isclosing then some { state with writer := .idle }
      else if state.sock.outbuf = [] then some (state.sent origin)
      else
        match result with
        | .again => some { state.sent origin with lastWrite := some result }
        | .taken count =>
          if 0 < count ∧ count ≤ state.sock.outbuf.length then
            let left := state.sock.outbuf.drop count
            some { state with
              sock := { state.sock with outbuf := left }
              written := state.written ++ state.sock.outbuf.take count
              lastWrite := some result
              writer := if left = [] then .emptied origin else .writing origin }
          else none
    | _ => none
  | .outbufEmptied onSend =>
    match state.writer with
    | .emptied origin =>
      let removed := { state with sock := state.sock.removeAndUpdateEvent .write }
      -- Close cleared the handlers, and onSend is not called after it.
      let allowed := if onSend || state.sock.isclosing then removed else removed.disAllow
      if allowed.sock.allowMoreSend then some { allowed with writer := .writing origin }
      else some { allowed.shutDownWrite with writer := .idle }
    | _ => none
  | .testRead =>
    match state.writer with
    | .handling =>
      if state.sock.isclosing || state.sock.sockev.hasRead then some { state with writer := .idle }
      else some { state with writer := .handlingWrite }
    | _ => none
  | .testWrite =>
    match state.writer with
    | .handlingWrite =>
      if state.sock.sockev.hasWrite && state.sock.mWriteable then
        some { state with writer := .writing .handleEvent }
      else some { state with writer := .idle }
    | _ => none

-- Wait may report any events, whatever the waiter was told to care for.
def loopStep (state : SockThreads) : LoopEvent -> Option SockThreads
  | .clearEvent =>
    if state.loop = .idle ∧ state.sock.isclosing = false then
      some { state with sock := { state.sock with sockev := .noEvent }, loop := .waited }
    else none
  | .addEvent er =>
    if state.loop = .waited then
      some { state with sock := { state.sock with sockev := state.sock.sockev.addEvent er } }
    else none
  | .report =>
    if state.loop = .waited ∧ state.sock.sockev.hasAny = true then
      some { state with
        loop := .ready
        lastWrite := if state.sock.sockev.hasWrite then none else state.lastWrite }
    else none
  | .runPending =>
    match state.pendings with
    | [] => none
    | er :: rest =>
      if state.loop = .idle ∨ state.loop = .ready then
        some { state with sock := state.sock.addAndUpdateEvent er, pendings := rest }
      else none
  | .close =>
    if state.loop = .idle ∨ state.loop = .ready then
      some { state with sock := state.sock.close }
    else none
  | .dispatch =>
    if state.loop = .ready then
      let queued :=
        if state.sock.sockev.hasWrite then state.queueTaskToWriteLoop .handleEvent else state
      some { queued with loop := .handling }
    else none
  | .read result =>
    if state.loop = .handling then
      if state.sock.isclosing then some { state with loop := .idle }
      else if state.sock.sockev.hasRead then
        match result with
        | .data data handled => some { state with sock := state.sock.takeRead data handled }
        | .again => some { state with loop := .handlingRest }
        | .failed => some { state with sock := state.sock.close, loop := .idle }
      else some { state with loop := .handlingRest }
    else none
  | .handleRest =>
    if state.loop = .handlingRest then
      let closes := !(state.sock.sockev.hasWrite && state.sock.mWriteable) &&
        state.sock.sockev.hasException
      some { state with sock := if closes then state.sock.close else state.sock, loop := .idle }
    else none

def step (state : SockThreads) : Event -> Option SockThreads
  | .caller thread event => state.callerStep thread event
  | .writer event => state.writerStep event
  | .loop event => state.loopStep event

inductive WriterMove (state : SockThreads) : WriterEvent -> SockThreads -> Prop where
  | takeData (data : Bytes) (rest : List WriteTask) (idle : state.writer = .idle)
      (tasks : state.writeTasks = .sendDataInLoop data :: rest) :
      WriterMove state .take { state with writeTasks := rest, writer := .checking data }
  | takeShutDown (rest : List WriteTask) (idle : state.writer = .idle)
      (tasks : state.writeTasks = .shutDownWrite :: rest) :
      WriterMove state .take
        { shutDownWrite { state with writeTasks := rest } with writer := .idle }
  | takeHandleEvent (rest : List WriteTask) (idle : state.writer = .idle)
      (tasks : state.writeTasks = .handleEvent :: rest) :
      WriterMove state .take { state with writeTasks := rest, writer := .handling }
  | refused (data : Bytes) (phase : state.writer = .checking data)
      (refuses : state.sock.isclosing = true ∨ state.sock.writeable = false) :
      WriterMove state .testWriteable { state with writer := .idle }
  | passed (data : Bytes) (phase : state.writer = .checking data)
      (isOpen : state.sock.isclosing = false) (writeable : state.sock.mWriteable = true)
      (allow : state.sock.allowMoreSend = true) :
      WriterMove state .testWriteable { state with writer := .pushing data }
  | pushBack (data : Bytes) (phase : state.writer = .pushing data) :
      WriterMove state .pushBack { state with
        sock := { state.sock with outbuf := state.sock.outbuf ++ data }
        writer := .writing .sendDataInLoop }
  | writeClosed (result : WriteResult) (origin : SendOrigin) (phase : state.writer = .writing origin)
      (isClosing : state.sock.isclosing = true) :
      WriterMove state (.write result) { state with writer := .idle }
  | writeNothing (result : WriteResult) (origin : SendOrigin)
      (phase : state.writer = .writing origin) (empty : state.sock.outbuf = []) :
      WriterMove state (.write result) (state.sent origin)
  | again (origin : SendOrigin) (phase : state.writer = .writing origin) :
      WriterMove state (.write .again) { state.sent origin with lastWrite := some .again }
  | write (count : Nat) (origin : SendOrigin) (phase : state.writer = .writing origin)
      (left : state.sock.outbuf ≠ []) :
      WriterMove state (.write (.taken count)) { state with
        sock := { state.sock with outbuf := state.sock.outbuf.drop count }
        written := state.written ++ state.sock.outbuf.take count
        lastWrite := some (.taken count)
        writer := if state.sock.outbuf.drop count = [] then .emptied origin else .writing origin }
  | outbufEmptied (onSend : Bool) (origin : SendOrigin) (phase : state.writer = .emptied origin)
      (removed allowed : SockThreads)
      (removes : removed = { state with sock := state.sock.removeAndUpdateEvent .write })
      (calls : allowed =
        if onSend || state.sock.isclosing then removed else removed.disAllow) :
      WriterMove state (.outbufEmptied onSend)
        (if allowed.sock.allowMoreSend then { allowed with writer := .writing origin }
          else { allowed.shutDownWrite with writer := .idle })
  | readFirst (phase : state.writer = .handling)
      (leaves : state.sock.isclosing = true ∨ state.sock.sockev.hasRead = true) :
      WriterMove state .testRead { state with writer := .idle }
  | noRead (phase : state.writer = .handling) :
      WriterMove state .testRead { state with writer := .handlingWrite }
  | handleWrite (phase : state.writer = .handlingWrite)
      (writeable : state.sock.mWriteable = true) :
      WriterMove state .testWrite { state with writer := .writing .handleEvent }
  | noWrite (phase : state.writer = .handlingWrite)
      (leaves : state.sock.sockev.hasWrite = false ∨ state.sock.mWriteable = false) :
      WriterMove state .testWrite { state with writer := .idle }

theorem writerStep_moves {state following : SockThreads} {event : WriterEvent}
    (taken : state.writerStep event = some following) : state.WriterMove event following := by
  cases event with
  | take =>
    simp only [writerStep] at taken
    split at taken
    next task rest idle tasks =>
      cases task <;> cases taken
      case sendDataInLoop data => exact .takeData data rest idle tasks
      case shutDownWrite =>
        have same : shutDownWrite { state with writeTasks := rest } =
            { shutDownWrite { state with writeTasks := rest } with writer := .idle } := by
          unfold shutDownWrite
          split <;> simp only [idle]
        rw [same]
        exact .takeShutDown rest idle tasks
      case handleEvent => exact .takeHandleEvent rest idle tasks
    next => cases taken
  | testWriteable =>
    simp only [writerStep] at taken
    split at taken
    next data phase =>
      split at taken <;> cases taken
      next refuses => exact .refused data phase (by simpa using refuses)
      next passes =>
        simp only [TcpSock.writeable, Bool.or_eq_true, Bool.not_eq_true', not_or,
          Bool.not_eq_true, Bool.not_eq_false, Bool.and_eq_true] at passes
        exact .passed data phase passes.1 passes.2.1 passes.2.2
    next => cases taken
  | pushBack =>
    simp only [writerStep] at taken
    split at taken <;> cases taken
    next data phase => exact .pushBack data phase
  | write result =>
    simp only [writerStep] at taken
    split at taken
    next origin phase =>
      split at taken
      next isClosing =>
        cases taken
        exact .writeClosed result origin phase isClosing
      split at taken
      next empty =>
        cases taken
        exact .writeNothing result origin phase empty
      next left =>
        cases result with
        | again =>
          cases taken
          exact .again origin phase
        | taken count =>
          simp only at taken
          split at taken <;> cases taken
          exact .write count origin phase left
    next => cases taken
  | outbufEmptied onSend =>
    simp only [writerStep] at taken
    split at taken
    next origin phase =>
      have moves := WriterMove.outbufEmptied onSend origin phase _ _ rfl rfl
      cases refuses : onSend || state.sock.isclosing with
      | true =>
        simp only [refuses, if_true] at taken moves
        split at taken <;> cases taken
        next more => rwa [if_pos more] at moves
        next noMore => rwa [if_neg noMore] at moves
      | false =>
        simp only [refuses, Bool.false_eq_true, if_false] at taken moves
        split at taken <;> cases taken
        next more => rwa [if_pos more] at moves
        next noMore => rwa [if_neg noMore] at moves
    next => cases taken
  | testRead =>
    simp only [writerStep] at taken
    split at taken
    next phase =>
      split at taken <;> cases taken
      next leaves => exact .readFirst phase (Bool.or_eq_true_iff.mp leaves)
      next => exact .noRead phase
    next => cases taken
  | testWrite =>
    simp only [writerStep] at taken
    split at taken
    next phase =>
      split at taken <;> cases taken
      next writes => exact .handleWrite phase (Bool.and_eq_true_iff.mp writes).2
      next leaves => exact .noWrite phase (by simpa [← Bool.not_eq_true, imp_iff_not_or] using leaves)
    next => cases taken

structure LoopEffect (state following : SockThreads) : Prop where
  outbuf : following.sock.outbuf = state.sock.outbuf
  written : following.written = state.written
  shut : following.shut = state.shut
  accepted : following.accepted = state.accepted
  acceptedBefore : following.acceptedBefore = state.acceptedBefore
  callers : following.callers = state.callers
  writer : following.writer = state.writer
  writeTasks : following.writeTasks = state.writeTasks ∨
    following.writeTasks = state.writeTasks ++ [.handleEvent]
  flags : (following.sock.isclosing = true ∧ following.sock.mWriteable = false) ∨
    (following.sock.isclosing = state.sock.isclosing ∧
      following.sock.mWriteable = state.sock.mWriteable ∧
      following.sock.allowMoreSend = state.sock.allowMoreSend)

theorem addAndUpdateEvent_frame (sock : TcpSock) (er : EventResult) :
    ∃ caredev, sock.addAndUpdateEvent er = { sock with caredev } := by
  unfold TcpSock.addAndUpdateEvent
  split
  · exact ⟨sock.caredev, rfl⟩
  · exact ⟨_, rfl⟩

theorem removeAndUpdateEvent_frame (sock : TcpSock) (er : EventResult) :
    ∃ caredev, sock.removeAndUpdateEvent er = { sock with caredev } := by
  unfold TcpSock.removeAndUpdateEvent
  split
  · exact ⟨sock.caredev, rfl⟩
  · exact ⟨_, rfl⟩

theorem sent_frame (state : SockThreads) (origin : SendOrigin) :
    ∃ caredev, state.sent origin =
      { state with sock := { state.sock with caredev }, writer := .idle } := by
  cases origin with
  | sendDataInLoop =>
    simp only [sent]
    split
    · exact ⟨state.sock.caredev, rfl⟩
    · obtain ⟨caredev, same⟩ := addAndUpdateEvent_frame state.sock .write
      exact ⟨caredev, by rw [same]⟩
  | handleEvent => exact ⟨state.sock.caredev, rfl⟩

theorem LoopEffect.sockOnly {state : SockThreads} (sock : TcpSock) (pendings : List EventResult)
    (loop : LoopPhase) (lastWrite : Option WriteResult) (outbuf : sock.outbuf = state.sock.outbuf)
    (flags : (sock.isclosing = true ∧ sock.mWriteable = false) ∨
      (sock.isclosing = state.sock.isclosing ∧ sock.mWriteable = state.sock.mWriteable ∧
        sock.allowMoreSend = state.sock.allowMoreSend)) :
    LoopEffect state { state with sock, pendings, loop, lastWrite } :=
  { outbuf, flags, written := rfl, shut := rfl, accepted := rfl, acceptedBefore := rfl,
    callers := rfl, writer := rfl, writeTasks := .inl rfl }

theorem close_flags (sock : TcpSock) (closed : sock.isclosing = true → sock.mWriteable = false) :
    sock.close.isclosing = true ∧ sock.close.mWriteable = false ∧
      sock.close.outbuf = sock.outbuf := by
  unfold TcpSock.close
  split
  next isClosing => exact ⟨isClosing, closed isClosing, rfl⟩
  next => exact ⟨rfl, rfl, rfl⟩

theorem loop_effect {state following : SockThreads} {event : LoopEvent}
    (closed : state.sock.isclosing = true → state.sock.mWriteable = false)
    (taken : state.loopStep event = some following) : LoopEffect state following := by
  have closing := close_flags state.sock closed
  cases event with
  | clearEvent =>
    simp only [loopStep] at taken
    split at taken <;> cases taken
    exact .sockOnly _ _ _ _ rfl (.inr ⟨rfl, rfl, rfl⟩)
  | addEvent er =>
    simp only [loopStep] at taken
    split at taken <;> cases taken
    exact .sockOnly _ _ _ _ rfl (.inr ⟨rfl, rfl, rfl⟩)
  | report =>
    simp only [loopStep] at taken
    split at taken <;> cases taken
    exact .sockOnly _ _ _ _ rfl (.inr ⟨rfl, rfl, rfl⟩)
  | runPending =>
    simp only [loopStep] at taken
    split at taken
    · cases taken
    next er rest _ =>
      split at taken <;> cases taken
      obtain ⟨caredev, same⟩ := addAndUpdateEvent_frame state.sock er
      rw [same]
      exact .sockOnly _ _ _ _ rfl (.inr ⟨rfl, rfl, rfl⟩)
  | close =>
    simp only [loopStep] at taken
    split at taken <;> cases taken
    exact .sockOnly _ _ _ _ closing.2.2 (.inl ⟨closing.1, closing.2.1⟩)
  | dispatch =>
    simp only [loopStep] at taken
    split at taken <;> cases taken
    split
    · exact { outbuf := rfl, written := rfl, shut := rfl, accepted := rfl, acceptedBefore := rfl,
              callers := rfl, writer := rfl, writeTasks := .inr rfl, flags := .inr ⟨rfl, rfl, rfl⟩ }
    · exact .sockOnly _ _ _ _ rfl (.inr ⟨rfl, rfl, rfl⟩)
  | read result =>
    simp only [loopStep] at taken
    split at taken
    next =>
      split at taken
      next =>
        cases taken
        exact .sockOnly _ _ _ _ rfl (.inr ⟨rfl, rfl, rfl⟩)
      next =>
        split at taken
        next =>
          cases result <;> cases taken
          · exact .sockOnly _ _ _ _ rfl (.inr ⟨rfl, rfl, rfl⟩)
          · exact .sockOnly _ _ _ _ rfl (.inr ⟨rfl, rfl, rfl⟩)
          · exact .sockOnly _ _ _ _ closing.2.2 (.inl ⟨closing.1, closing.2.1⟩)
        next =>
          cases taken
          exact .sockOnly _ _ _ _ rfl (.inr ⟨rfl, rfl, rfl⟩)
    next => cases taken
  | handleRest =>
    simp only [loopStep] at taken
    split at taken <;> cases taken
    split
    · exact .sockOnly _ _ _ _ closing.2.2 (.inl ⟨closing.1, closing.2.1⟩)
    · exact .sockOnly _ _ _ _ rfl (.inr ⟨rfl, rfl, rfl⟩)

end SockThreads

end MessageBus.Net
