import MessageBus.Client.SendChain
import MessageBus.Net.SockChannel
import MessageBus.Shared.Encodings
import MessageBus.Wire.MessageCodec
import MessageBus.Wire.Readers

set_option autoImplicit false

-- What goes over one connection, from SendData to onRead.
namespace MessageBus.Streams

open Bytes Content Framing Messages Net Outbound Readers

-- A task with a buffer of data_len bytes.
abbrev SizedTask := { task : Req2ReceiverTask // task.data.length = task.dataLen.toNat }

def SizedTask.head (task : SizedTask) : Bytes :=
  [if task.1.sync then 1 else 0] ++ htonl task.1.futureId ++ htonl task.1.dataLen

-- What WriteTaskDataToReceiver writes, for receiver_onRead.
def writtenTasks : Encoding SizedTask SendMsgFrame :=
  .ofParts sendMsgFormat SizedTask.head (fun task => task.1.data) (fun _ => rfl) (by
    intro task
    change _ = (ntohl (htonl task.1.dataLen)).toNat
    rw [task.2, ← List.append_nil (htonl _), ntohl_htonl])

theorem writtenTasks_encode (task : SizedTask) :
    writtenTasks.encode task = task.1.writedata.bytes := by
  have whole : task.1.data.take task.1.dataLen.toNat = task.1.data :=
    List.take_of_length_le (Nat.le_of_eq task.2)
  rw [Req2ReceiverTask.writedata, whole]
  rfl

theorem writtenTasks_frameOf (task : SizedTask) : writtenTasks.frameOf task =
    { isSync := if task.1.sync then 1 else 0, syncSid := task.1.futureId
      msgcontent := task.1.data } := by
  change SendMsgFrame.mk _ (ntohl (htonl task.1.futureId ++ htonl task.1.dataLen)) _ = _
  rw [ntohl_htonl]
  rfl

-- An answer of NetMsgBusRspSendMsg: what SendMsg returned and what it left in data.
structure Answer where
  syncSid : UInt32
  sent : Bool
  data : Payload

namespace Answer

def dataLen (answer : Answer) : UInt32 := if answer.sent then answer.data.1.paramlen else 0

def payload (answer : Answer) : Bytes := answer.data.1.paramdata.take answer.dataLen.toNat

theorem payload_length (answer : Answer) : answer.payload.length = answer.dataLen.toNat := by
  have sized : answer.data.1.paramdata.length = answer.data.1.paramlen.toNat := answer.data.2
  rw [payload, List.length_take, sized]
  apply Nat.min_eq_left
  unfold dataLen
  split <;> simp

theorem payload_eq (answer : Answer) :
    answer.payload = if answer.sent then answer.data.1.paramdata else [] := by
  have sized : answer.data.1.paramdata.length = answer.data.1.paramlen.toNat := answer.data.2
  unfold payload dataLen
  cases answer.sent with
  | true => exact List.take_of_length_le (Nat.le_of_eq sized)
  | false => rfl

end Answer

-- For Req2Receiver_onRead.
def writtenAnswers : Encoding Answer (UInt32 × Bytes) :=
  .ofParts responseFormat (fun answer => htonl answer.syncSid ++ htonl answer.dataLen)
    Answer.payload (fun _ => rfl) (by
      intro answer
      change _ = (ntohl (htonl answer.dataLen)).toNat
      rw [answer.payload_length, ← List.append_nil (htonl _), ntohl_htonl])

theorem writtenAnswers_encode (answer : Answer) :
    writtenAnswers.encode answer = (rspWritedata answer.syncSid answer.sent answer.data.1).bytes :=
  rfl

theorem writtenAnswers_frameOf (answer : Answer) :
    writtenAnswers.frameOf answer = (answer.syncSid, answer.payload) := by
  change (ntohl (htonl answer.syncSid ++ htonl answer.dataLen), _) = _
  rw [ntohl_htonl]

-- Head and body of a packed message; none has an empty body.
abbrev BusFrame :=
  { frame : MsgBusPackHead × Bytes // frame.2.length = frame.1.bodyLen.toNat ∧ frame.2 ≠ [] }

-- What is packed for the server, and by it.
def writtenFrames : Encoding BusFrame (MsgBusPackHead × Bytes) :=
  .ofParts packHeadFormat (fun frame => packHead frame.1.1) (fun frame => frame.1.2)
    (fun frame => packHead_length frame.1.1) (by
      intro frame
      have unpacked := unPackHead_packHead MsgBusPackHead.default frame.1.1 []
      rw [List.append_nil] at unpacked
      change _ = (MsgBusPackHead.default.unPackHead (packHead frame.1.1) 0).2.bodyLen.toNat
      rw [unpacked, frame.2.1])

theorem writtenFrames_frameOf (frame : BusFrame) : writtenFrames.frameOf frame = frame.1 := by
  have unpacked := unPackHead_packHead MsgBusPackHead.default frame.1.1 []
  rw [List.append_nil] at unpacked
  change ((MsgBusPackHead.default.unPackHead (packHead frame.1.1) 0).2, frame.1.2) = _
  rw [unpacked]

section Heard

variable {Message Frame State : Type}

-- However the peer reads what has been written so far, it is handed messages that SendData
-- accepted, from the first one on, each once and in their order; and all of them once no byte of
-- them is under way on a sock that still sends.
def HeardInTurn (encoding : Encoding Message Frame)
    (onRead : Bytes -> State -> Option (Nat × State)) (handOn : State -> Frame -> State)
    (state : SockThreads) : Prop :=
  ∀ messages : List Message, state.accepted.map Prod.snd = messages.map encoding.encode →
    ∀ (reads : List Bytes) (start : State), reads.flatten <+: state.written →
      ∃ received tail, received <+: messages ∧
        handleReads onRead reads start =
          some (tail, (received.map encoding.frameOf).foldl handOn start) ∧
        (state.sock.sends = true → state.onWay = state.written → reads.flatten = state.written →
          received = messages)

theorem accepted_stream {encoding : Encoding Message Frame} {calls : SendCalls}
    {messages : List Message} (accepted : calls.map Prod.snd = messages.map encoding.encode) :
    calls.bytes = encoding.stream messages := by
  rw [SendCalls.bytes, List.flatMap_def, accepted, ← List.flatMap_def]
  rfl

theorem frames_of_folds {handle : State -> Frame -> Option State} {handOn : State -> Frame -> State}
    {frames : List Frame} (handles : ∀ state, ∀ frame ∈ frames, handle state frame =
      some (handOn state frame)) (start : State) :
    frames.foldlM handle start = some (frames.foldl handOn start) := by
  induction frames generalizing start with
  | nil => rfl
  | cons frame rest ih =>
    rw [List.foldlM_cons, handles start frame List.mem_cons_self]
    exact ih (fun state later member => handles state later (.tail _ member)) _

theorem heard_in_turn (encoding : Encoding Message Frame) {handle : State -> Frame -> Option State}
    {handOn : State -> Frame -> State}
    (handles : ∀ state message, handle state (encoding.frameOf message) =
      some (handOn state (encoding.frameOf message)))
    {state : SockThreads} (inTurn : state.InTurn) :
    HeardInTurn encoding (encoding.format.consume handle) handOn state := by
  intro messages accepted reads start readFrom
  have stream := accepted_stream accepted
  have front : reads.flatten <+: encoding.stream messages :=
    stream ▸ readFrom.trans inTurn.written_prefix
  obtain ⟨received, isPrefix, frames⟩ := encoding.frames_of_prefix front
  have folds : (received.map encoding.frameOf).foldlM handle start =
      some ((received.map encoding.frameOf).foldl handOn start) := by
    apply frames_of_folds
    intro before frame member
    obtain ⟨message, _, rfl⟩ := List.mem_map.mp member
    exact handles before message
  refine ⟨received, encoding.format.tail reads.flatten, isPrefix, ?_, ?_⟩
  · rw [handleReads_consume, frames, folds]
    rfl
  · intro sends arrived all
    have whole : encoding.format.frames reads.flatten = messages.map encoding.frameOf := by
      rw [all, ← arrived, inTurn.coming sends, stream, encoding.frames_stream]
    rw [whole] at frames
    have length := congrArg List.length frames
    rw [List.length_map, List.length_map] at length
    exact isPrefix.eq_of_length length.symm

end Heard

theorem messages_heard_in_turn (state : SockThreads)
    (reached : Transition.Reachable SockThreads.step SockThreads.initial state) :
    state.written <+: state.accepted.bytes ∧
    (∀ task : SizedTask, writtenTasks.encode task = task.1.writedata.bytes) ∧
    (∀ answer : Answer, writtenAnswers.encode answer =
      (rspWritedata answer.syncSid answer.sent answer.data.1).bytes) ∧
    (∀ frame : BusFrame, writtenFrames.encode frame = packHead frame.1.1 ++ frame.1.2) ∧
    (∀ (includeSenders : List Bytes) (fd : Int),
      HeardInTurn writtenTasks (receiverOnRead includeSenders fd) (receiverFrame includeSenders fd)
        state) ∧
    (∀ (State : Type) (answer : UInt32 -> Bytes -> State -> State),
      HeardInTurn writtenAnswers (req2ReceiverOnRead answer)
        (fun before frame => answer frame.1 frame.2 before) state) ∧
    (∀ (State : Type) (queueWorkTask : MsgBusPackHead -> Bytes -> State -> State),
      HeardInTurn writtenFrames (serverOnRead queueWorkTask)
        (fun before frame => queueWorkTask frame.1 frame.2 before) state) ∧
    (∀ (State : Type) (processRspBody : UInt32 -> UInt32 -> Bytes -> State -> State),
      HeardInTurn writtenFrames (serverRspProcess processRspBody)
        (fun before frame => processRspBody frame.1.msgId frame.1.bodyType frame.2 before)
        state) := by
  have inTurn := SockThreads.reachable_inTurn reached
  refine ⟨inTurn.written_prefix, writtenTasks_encode, writtenAnswers_encode, fun _ => rfl, ?_, ?_,
    ?_, ?_⟩
  · intro includeSenders fd
    rw [receiverOnRead_correct]
    exact heard_in_turn writtenTasks (fun _ _ => rfl) inTurn
  · intro State answer
    rw [req2ReceiverOnRead_correct]
    exact heard_in_turn writtenAnswers (fun _ _ => rfl) inTurn
  · intro State queueWorkTask
    rw [serverOnRead_correct]
    refine heard_in_turn writtenFrames ?_ inTurn
    intro before frame
    rw [writtenFrames_frameOf]
    have filled : frame.1.1.bodyLen.toNat ≠ 0 := by
      rw [← frame.2.1]
      exact fun empty => frame.2.2 (List.length_eq_zero_iff.mp empty)
    exact if_neg filled
  · intro State processRspBody
    rw [serverRspProcess_correct]
    exact heard_in_turn writtenFrames (fun _ _ => rfl) inTurn

-- Two answers, of which the socket takes the first and two bytes of the second.
def brokenOffRun : List SockThreads.Event :=
  let first : Answer := ⟨1, true, ⟨⟨[7], 1⟩, rfl⟩⟩
  let second : Answer := ⟨2, false, ⟨⟨[8], 1⟩, rfl⟩⟩
  [.caller 1 (.sendData (writtenAnswers.encode first)),
    .caller 2 (.sendData (writtenAnswers.encode second)), .caller 1 .queueData,
    .caller 2 .queueData, .writer .take, .writer .testWriteable, .writer .pushBack,
    .writer (.write (.taken 9)), .writer (.outbufEmptied true), .writer (.write .again),
    .writer .take, .writer .testWriteable, .writer .pushBack, .writer (.write (.taken 2))]

theorem messages_heard_in_turn_brokenOff : ∃ state,
    Transition.run SockThreads.step SockThreads.initial brokenOffRun = some state ∧
      state.written = [0, 0, 0, 1, 0, 0, 0, 1, 7, 0, 0] ∧
      state.written <+: state.accepted.bytes := by
  refine ⟨_, rfl, by decide, ?_⟩
  exact (messages_heard_in_turn _ (.run .start brokenOffRun rfl)).1

end MessageBus.Streams
