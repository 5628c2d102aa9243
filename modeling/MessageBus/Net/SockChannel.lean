import MessageBus.Net.WriteShutdown

set_option autoImplicit false

namespace MessageBus.Net

def TcpSock.sends (sock : TcpSock) : Bool := !sock.isclosing && sock.writeable

theorem TcpSock.sends_iff {sock : TcpSock} : sock.sends = true ↔
    sock.isclosing = false ∧ sock.mWriteable = true ∧ sock.allowMoreSend = true := by
  simp [sends, writeable]

namespace SockThreads

-- What the socket took and what the write thread still has for it.
def onWire (state : SockThreads) : Bytes :=
  state.written ++ state.sock.outbuf ++ state.writer.pushes

-- And what has been accepted but not yet tested again in the write thread.
def onWay (state : SockThreads) : Bytes :=
  state.onWire ++ (state.writer.untested ++ state.writeTasks.flatMap WriteTask.bytes)

-- The accepted messages come to the wire in turn. Those that SendDataInLoop refuses are the last
-- ones, because what it tests is never set again.
structure InTurn (state : SockThreads) : Prop where
  closed : state.sock.isclosing = true → state.sock.mWriteable = false
  taken : state.onWire <+: state.accepted.bytes
  coming : state.sock.sends = true → state.onWay = state.accepted.bytes

theorem inTurn_initial : initial.InTurn := by
  constructor
  · simp [initial, TcpSock.connected]
  · simp [initial, onWire, TcpSock.connected, WriterPhase.pushes]
  · intro _
    simp [initial, onWay, onWire, TcpSock.connected, WriterPhase.pushes, WriterPhase.untested,
      SendCalls.bytes]

variable {state following : SockThreads}

theorem InTurn.carried (inTurn : state.InTurn)
    (closed : following.sock.isclosing = true → following.sock.mWriteable = false)
    (wire : following.onWire = state.onWire) (accepted : following.accepted = state.accepted)
    (way : following.sock.sends = true →
      state.sock.sends = true ∧ following.onWay = state.onWay) : following.InTurn := by
  refine ⟨closed, ?_, ?_⟩
  · rw [wire, accepted]
    exact inTurn.taken
  · intro sends
    obtain ⟨before, same⟩ := way sends
    rw [same, accepted]
    exact inTurn.coming before

theorem loop_inTurn {event : LoopEvent} (inTurn : state.InTurn)
    (taken : state.loopStep event = some following) : following.InTurn := by
  have effect := loop_effect inTurn.closed taken
  have wire : following.onWire = state.onWire := by
    rw [onWire, onWire, effect.written, effect.outbuf, effect.writer]
  have sameTasks : following.writeTasks.flatMap WriteTask.bytes =
      state.writeTasks.flatMap WriteTask.bytes := by
    rcases effect.writeTasks with same | queued
    · rw [same]
    · rw [queued, List.flatMap_append]
      exact List.append_nil _
  apply inTurn.carried ?closed wire effect.accepted ?way
  case closed =>
    intro isClosing
    rcases effect.flags with closing | same
    · exact closing.2
    · exact same.2.1.trans (inTurn.closed (same.1 ▸ isClosing))
  case way =>
    intro sends
    rw [TcpSock.sends_iff] at sends ⊢
    rcases effect.flags with closing | ⟨sameClosing, sameWriteable, sameAllow⟩
    · rw [closing.1] at sends
      cases sends.1
    · rw [sameClosing, sameWriteable, sameAllow] at sends
      exact ⟨sends, by rw [onWay, onWay, wire, effect.writer, sameTasks]⟩

theorem InTurn.setCaller (inTurn : state.InTurn) (thread : Nat) (phase : CallerPhase) :
    (state.setCaller thread phase).InTurn :=
  ⟨inTurn.closed, inTurn.taken, inTurn.coming⟩

theorem InTurn.queueData (inTurn : state.InTurn) (thread : Nat) (data : Bytes) :
    InTurn { state.queueTaskToWriteLoop (.sendDataInLoop data) with
      accepted := state.accepted ++ [(thread, data)] } := by
  have bytes : SendCalls.bytes (state.accepted ++ [(thread, data)]) =
      state.accepted.bytes ++ data := by
    simp [SendCalls.bytes]
  refine ⟨inTurn.closed, ?_, ?_⟩
  · exact inTurn.taken.trans (bytes ▸ List.prefix_append _ _)
  · intro sends
    have before := inTurn.coming sends
    simp only [onWay, onWire, queueTaskToWriteLoop, List.flatMap_append, List.flatMap_cons,
      List.flatMap_nil, WriteTask.bytes, List.append_nil, ← List.append_assoc, bytes] at before ⊢
    rw [before]

theorem InTurn.disAllow (inTurn : state.InTurn) : state.disAllow.InTurn := by
  refine inTurn.carried inTurn.closed rfl rfl fun sends => ?_
  cases (TcpSock.sends_iff.mp sends).2.2

theorem caller_inTurn {thread : Nat} {event : CallerEvent} (inTurn : state.InTurn)
    (taken : state.callerStep thread event = some following) : following.InTurn := by
  cases event with
  | sendData data =>
    simp only [callerStep] at taken
    split at taken
    next =>
      split at taken
      next => cases taken
      split at taken <;> cases taken
      · exact inTurn
      · exact inTurn.setCaller thread _
    next => cases taken
  | queueData =>
    simp only [callerStep] at taken
    split at taken <;> cases taken
    next data _ => exact (inTurn.queueData thread data).setCaller thread .idle
  | disAllowSend =>
    simp only [callerStep] at taken
    split at taken <;> cases taken
    exact inTurn.disAllow.setCaller thread .disallowed
  | testOutbuf inLoopThread =>
    simp only [callerStep] at taken
    split at taken
    next =>
      have returned := inTurn.setCaller thread .idle
      split at taken
      next =>
        cases taken
        exact returned
      split at taken
      next =>
        cases taken
        refine returned.carried returned.closed rfl rfl fun sends => ⟨sends, ?_⟩
        simp [onWay, onWire, queueTaskToWriteLoop, setCaller, WriteTask.bytes]
      split at taken <;> cases taken
      next =>
        obtain ⟨caredev, same⟩ := addAndUpdateEvent_frame state.sock .write
        rw [same]
        exact ⟨inTurn.closed, inTurn.taken, inTurn.coming⟩
      next => exact ⟨inTurn.closed, inTurn.taken, inTurn.coming⟩
    next => cases taken

theorem InTurn.setWriter {phase : WriterPhase} {caredev : SockEvent}
    {lastWrite : Option WriteResult} {rest : List WriteTask} (inTurn : state.InTurn)
    (pushes : state.writer.pushes = [] ∧ phase.pushes = [])
    (untested : state.writer.untested = [] ∧ phase.untested = [])
    (tasks : rest.flatMap WriteTask.bytes = state.writeTasks.flatMap WriteTask.bytes) :
    InTurn { state with
      sock := { state.sock with caredev }, writer := phase, lastWrite, writeTasks := rest } := by
  refine inTurn.carried inTurn.closed ?_ rfl fun sends => ⟨sends, ?_⟩
  · simp only [onWire, pushes]
  · simp only [onWay, onWire, pushes, untested, tasks]

theorem InTurn.shutDownWrite {phase : WriterPhase} (inTurn : state.InTurn)
    (pushes : state.writer.pushes = []) (untested : state.writer.untested = [])
    (idle : phase.pushes = [] ∧ phase.untested = []) :
    InTurn { state.shutDownWrite with writer := phase } := by
  unfold SockThreads.shutDownWrite
  split
  next isClosing =>
    refine inTurn.carried inTurn.closed ?_ rfl fun sends => ⟨sends, ?_⟩
    · simp only [onWire, pushes, idle]
    · simp only [onWay, onWire, pushes, untested, idle]
  next =>
    refine ⟨fun _ => rfl, ?_, ?_⟩
    · have front : state.written <+: state.accepted.bytes := by
        refine List.IsPrefix.trans ?_ inTurn.taken
        rw [onWire, List.append_assoc]
        exact List.prefix_append _ _
      simpa only [onWire, idle, List.append_nil] using front
    · intro sends
      rw [TcpSock.sends_iff] at sends
      cases sends.2.1

theorem written_silent (left : Bytes) (origin : SendOrigin) :
    (if left = [] then WriterPhase.emptied origin else .writing origin).pushes = [] ∧
      (if left = [] then WriterPhase.emptied origin else .writing origin).untested = [] := by
  split <;> exact ⟨rfl, rfl⟩

theorem writer_inTurn {event : WriterEvent} (inTurn : state.InTurn)
    (taken : state.writerStep event = some following) : following.InTurn := by
  have moves := writerStep_moves taken
  cases moves with
  | takeData data rest idle tasks =>
    refine inTurn.carried inTurn.closed ?_ rfl fun sends => ⟨sends, ?_⟩
    · simp only [onWire, idle, WriterPhase.pushes]
    · simp [onWay, onWire, idle, tasks, WriterPhase.pushes, WriterPhase.untested, WriteTask.bytes]
  | takeShutDown rest idle tasks =>
    have before : InTurn { state with writeTasks := rest } := by
      refine inTurn.carried inTurn.closed rfl rfl fun sends => ⟨sends, ?_⟩
      simp [onWay, onWire, tasks, WriteTask.bytes]
    exact before.shutDownWrite (by simp [idle, WriterPhase.pushes])
      (by simp [idle, WriterPhase.untested]) ⟨rfl, rfl⟩
  | takeHandleEvent rest idle tasks =>
    exact inTurn.setWriter (by simp [idle, WriterPhase.pushes])
      (by simp [idle, WriterPhase.untested]) (by simp [tasks, WriteTask.bytes])
  | refused data phase refuses =>
    refine inTurn.carried inTurn.closed ?_ rfl fun sends => ?_
    · simp only [onWire, phase, WriterPhase.pushes]
    · -- The message is dropped by a sock that sends nothing any more.
      obtain ⟨isOpen, writeable, allow⟩ : state.sock.isclosing = false ∧
        state.sock.mWriteable = true ∧ state.sock.allowMoreSend = true := TcpSock.sends_iff.mp sends
      simp [TcpSock.writeable, isOpen, writeable, allow] at refuses
  | passed data phase isOpen writeable allow =>
    have whole := inTurn.coming (TcpSock.sends_iff.mpr ⟨isOpen, writeable, allow⟩)
    simp only [onWay, onWire, phase, WriterPhase.pushes, WriterPhase.untested,
      List.append_nil] at whole
    have wire : onWire { state with writer := .pushing data } =
        state.written ++ state.sock.outbuf ++ data := rfl
    refine ⟨inTurn.closed, ?_, fun _ => ?_⟩
    · rw [wire, ← whole, ← List.append_assoc]
      exact List.prefix_append _ _
    · simpa only [onWay, wire, WriterPhase.untested, List.nil_append, List.append_assoc] using whole
  | pushBack data phase =>
    refine inTurn.carried inTurn.closed ?_ rfl fun sends => ⟨sends, ?_⟩
    · simp [onWire, phase, WriterPhase.pushes]
    · simp [onWay, onWire, phase, WriterPhase.pushes, WriterPhase.untested]
  | writeClosed result origin phase _ =>
    exact inTurn.setWriter (by simp [phase, WriterPhase.pushes])
      (by simp [phase, WriterPhase.untested]) rfl
  | writeNothing result origin phase _ =>
    obtain ⟨caredev, same⟩ := sent_frame state origin
    rw [same]
    exact inTurn.setWriter (by simp [phase, WriterPhase.pushes])
      (by simp [phase, WriterPhase.untested]) rfl
  | again origin phase =>
    obtain ⟨caredev, same⟩ := sent_frame state origin
    rw [same]
    exact inTurn.setWriter (by simp [phase, WriterPhase.pushes])
      (by simp [phase, WriterPhase.untested]) rfl
  | write count origin phase _ =>
    obtain ⟨noPush, noTest⟩ := written_silent (state.sock.outbuf.drop count) origin
    have pushes : state.writer.pushes = [] := by rw [phase]; rfl
    have untested : state.writer.untested = [] := by rw [phase]; rfl
    refine inTurn.carried inTurn.closed ?_ rfl fun sends => ⟨sends, ?_⟩
    · simp only [onWire, noPush, pushes, List.append_nil, List.append_assoc, List.take_append_drop]
    · simp only [onWay, onWire, noPush, noTest, pushes, untested, List.append_nil,
        List.append_assoc, List.nil_append, List.take_append_drop]
  | outbufEmptied onSend origin phase removed allowed removes calls =>
    obtain ⟨caredev, frame⟩ := removeAndUpdateEvent_frame state.sock .write
    have kept : removed.InTurn := by
      rw [removes, frame]
      exact ⟨inTurn.closed, inTurn.taken, inTurn.coming⟩
    have later : allowed.InTurn := by
      rw [calls]
      split
      · exact kept
      · exact kept.disAllow
    have writer : allowed.writer = .emptied origin := by
      rw [calls, removes]
      split <;> exact phase
    have pushes : allowed.writer.pushes = [] := by rw [writer]; rfl
    have untested : allowed.writer.untested = [] := by rw [writer]; rfl
    split
    next =>
      have same : InTurn { allowed with writer := .writing origin } :=
        later.setWriter ⟨pushes, rfl⟩ ⟨untested, rfl⟩ rfl
      exact same
    next => exact later.shutDownWrite pushes untested ⟨rfl, rfl⟩
  | readFirst phase _ | noRead phase | handleWrite phase _ | noWrite phase _ =>
    exact inTurn.setWriter (by simp [phase, WriterPhase.pushes])
      (by simp [phase, WriterPhase.untested]) rfl

theorem step_inTurn {event : Event} (inTurn : state.InTurn)
    (taken : state.step event = some following) : following.InTurn := by
  cases event with
  | caller thread event => exact caller_inTurn inTurn taken
  | writer event => exact writer_inTurn inTurn taken
  | loop event => exact loop_inTurn inTurn taken

theorem reachable_inTurn (reached : Transition.Reachable step initial state) : state.InTurn :=
  reached.invariant InTurn inTurn_initial fun _ _ _ inTurn _ taken => step_inTurn inTurn taken

theorem InTurn.written_prefix (inTurn : state.InTurn) : state.written <+: state.accepted.bytes := by
  refine List.IsPrefix.trans ?_ inTurn.taken
  rw [onWire, List.append_assoc]
  exact List.prefix_append _ _

end SockThreads
end MessageBus.Net
