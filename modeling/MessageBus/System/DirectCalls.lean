import MessageBus.Client.OwnAnswers
import MessageBus.Client.SenderFilters
import MessageBus.Local.SendPaths
import MessageBus.Wire.Streams

set_option autoImplicit false

-- A client that sends messages to a receiver directly, and all the connections between the two.
namespace MessageBus.System

open Bytes Client Content Framing Inbound Local Outbound Readers Streams

structure Request where
  msgid : Bytes
  param : Payload
  msgsender : Bytes
  content : Payload

structure Execution where
  fd : Int
  syncSid : UInt32
  msgid : Bytes
  msgparam : Bytes
  handlers : List Handler

namespace Execution

-- What SendMsg returns, and what it leaves in the parameter.
def returned (execution : Execution) : Bool × Bytes :=
  (runHandlers execution.msgid execution.msgparam execution.handlers execution.msgparam false).swap

-- Nothing is sent back where SendMsg returns false.
def result (execution : Execution) : Bytes :=
  if execution.returned.1 then execution.returned.2 else []

def Of (execution : Execution) (call : Call) (request : Request) : Prop :=
  execution.syncSid = call.futureId ∧ execution.msgid = keptName request.msgid ∧
    execution.msgparam = request.param.1.paramdata

end Execution

-- The client's end of a connection: all it has read, and the frames its onRead goes through.
structure ClientSock where
  fd : Int
  received : Bytes
  inbuf : Bytes
  frames : List (UInt32 × Bytes)

-- A connection is named by the descriptor it has in the receiver.
structure DirectCalls where
  client : Req2ReceiverMgr
  -- The messages of the calls.
  requests : List Request
  socks : List ClientSock
  -- What SendData accepted in the client, and in the receiver.
  sends : List (Int × SizedTask)
  answers : List (Int × Answer)
  receiver : Receiver
  -- Every SendMsg of the receiver, and those that have not been answered yet.
  executed : List Execution
  running : List Execution

structure Setting where
  filters : FilterMgr
  clientName : Bytes

def through {Item : Type} (accepted : List (Int × Item)) (fd : Int) : List Item :=
  (accepted.filter fun entry => entry.1 == fd).map Prod.snd

namespace DirectCalls

inductive Event where
  | client (event : Client.Event)
  | connect (fd : Int)
  | identiySelf (conn : Nat)
  | netMsgBusSendMsg (sync callback : Bool) (destIp msgid : Bytes) (param : Payload)
      (msgsender : Bytes) (now : Int)
  | sendData (call conn : Nat) (accepted : Bool)
  | read (conn : Nat) (chunk : Bytes)
  | onClose (conn : Nat)
  | close (conn : Nat)
  | sendMsg (task : Nat) (handlers : List Handler)
  | rspSendMsg (execution : Nat) (accepted : Bool)
  | readAnswers (conn : Nat) (chunk : Bytes)
  | nextFrame (conn : Nat)

def initial : DirectCalls :=
  { client := .initial, requests := [], socks := [], sends := [], answers := [],
    receiver := .initial, executed := [], running := [] }

def sent (state : DirectCalls) (fd : Int) : List SizedTask := through state.sends fd

def answered (state : DirectCalls) (fd : Int) : List Answer := through state.answers fd

-- The events of the client that move no bytes.
def isLocal : Client.Event -> Bool
  | .setRunning _ | .store _ | .callback _ | .clearBadFuture _ => true
  | .call _ (.sendData _) => false
  | .call _ _ => true
  | .sendMsgDirectToClient _ _ | .postMsgDirectToClient _ _ _ | .frame _ _ _ => false

def taskOf (call : Call) (content : Payload) : SizedTask :=
  ⟨{ sync := call.sync, futureId := call.futureId, dataLen := content.1.paramlen,
     data := content.1.paramdata }, content.2⟩

-- What WriteTaskDataToReceiver hands to SendData, unless it writes past its buffer.
def accept (state : DirectCalls) (fd : Int) (task : SizedTask) (accepted : Bool) :
    Option DirectCalls :=
  match BusClient.writeTaskDataToReceiver task.1 with
  | .error _ => none
  | .ok _ =>
    some { state with sends := if accepted then state.sends ++ [(fd, task)] else state.sends }

def generate (msgid : Bytes) (param : Payload) (msgsender : Bytes) : Option Payload :=
  match BusClient.generateContent msgid param.1 msgsender with
  | .error _ => none
  | .ok content =>
    if sized : content.paramdata.length = content.paramlen.toNat then some ⟨content, sized⟩
    else none

def step (setting : Setting) (state : DirectCalls) : Event -> Option DirectCalls
  | .client event =>
    if isLocal event then
      (state.client.step event).map fun client => { state with client }
    else none
  -- The two ends of a new connection.
  | .connect fd =>
    (state.receiver.step setting.filters (.accept fd)).map fun receiver =>
      { state with
        receiver
        socks := state.socks ++ [{ fd, received := [], inbuf := [], frames := [] }] }
  | .identiySelf conn =>
    (state.socks[conn]?).bind fun sock =>
      (generate [] ⟨{ paramdata := [], paramlen := 0 }, rfl⟩ setting.clientName).bind fun content =>
        state.accept sock.fd
          ⟨{ sync := false, futureId := 0, dataLen := content.1.paramlen,
             data := content.1.paramdata }, content.2⟩ true
  | .netMsgBusSendMsg sync callback destIp msgid param msgsender now =>
    (generate msgid param msgsender).bind fun content =>
      let event := if sync then .sendMsgDirectToClient destIp now
        else .postMsgDirectToClient destIp callback now
      (state.client.step event).map fun client =>
        { state with
          client
          requests := if client.calls.length = state.client.calls.length then state.requests
            else state.requests ++ [{ msgid, param, msgsender, content }] }
  | .sendData call conn accepted =>
    (state.client.calls[call]?).bind fun sender =>
      (state.requests[call]?).bind fun request =>
        (state.socks[conn]?).bind fun sock =>
          (state.client.step (.call call (.sendData accepted))).bind fun client =>
            accept { state with client } sock.fd (taskOf sender request.content) accepted
  -- Bytes arrive in the order they were accepted.
  | .read conn chunk =>
    (state.receiver.channels[conn]?).bind fun channel =>
      if channel.received ++ chunk <+: writtenTasks.stream (state.sent channel.fd) then
        (state.receiver.step setting.filters (.onRead conn chunk)).map fun receiver =>
          { state with receiver }
      else none
  | .onClose conn =>
    (state.receiver.step setting.filters (.onClose conn)).map fun receiver =>
      { state with receiver }
  | .close conn =>
    (state.receiver.step setting.filters (.close conn)).map fun receiver =>
      { state with receiver }
  | .sendMsg index handlers =>
    (state.receiver.tasks[index]?).bind fun task =>
      (state.receiver.step setting.filters (.rspSendMsg index)).map fun receiver =>
        match setting.filters.localMessage task.msgcontent with
        | .ok (some (msgid, msgparam)) =>
          let execution : Execution :=
            { fd := task.fd, syncSid := task.syncSid, msgid, msgparam, handlers }
          { state with
            receiver
            executed := state.executed ++ [execution]
            running := state.running ++ [execution] }
        | _ => { state with receiver }
  | .rspSendMsg index accepted =>
    (state.running[index]?).bind fun execution =>
      let data := execution.returned.2
      -- The length of the parameter that SendMsg leaves is a uint32_t.
      if small : data.length < 2 ^ 32 then
        let answer : Answer :=
          { syncSid := execution.syncSid, sent := execution.returned.1
            data := ⟨{ paramdata := data, paramlen := .ofNat data.length },
              (UInt32.toNat_ofNat_of_lt' small).symm⟩ }
        match netMsgBusRspSendMsg answer.syncSid answer.sent answer.data.1 with
        | .error _ => none
        | .ok _ =>
          some { state with
            running := state.running.eraseIdx index
            answers := if accepted then state.answers ++ [(execution.fd, answer)]
              else state.answers }
      else none
  | .readAnswers conn chunk =>
    (state.socks[conn]?).bind fun sock =>
      if sock.frames = [] ∧
          sock.received ++ chunk <+: writtenAnswers.stream (state.answered sock.fd) then
        (handleRead (req2ReceiverOnRead fun syncSid pdata frames => frames ++ [(syncSid, pdata)])
          (sock.inbuf, []) chunk).map fun session =>
            let after := { sock with
              received := sock.received ++ chunk, inbuf := session.1, frames := session.2 }
            { state with socks := state.socks.set conn after }
      else none
  | .nextFrame conn =>
    (state.socks[conn]?).bind fun sock =>
      match sock.frames with
      | [] => none
      | frame :: rest =>
        (state.client.step (.frame conn frame.1 frame.2)).map fun client =>
          { state with client, socks := state.socks.set conn { sock with frames := rest } }

inductive Move (setting : Setting) (state : DirectCalls) : Event -> DirectCalls -> Prop where
  | client (event : Client.Event) (stays : isLocal event = true) (client : Req2ReceiverMgr)
      (taken : state.client.step event = some client) :
      Move setting state (.client event) { state with client }
  | connect (fd : Int) (receiver : Receiver)
      (taken : state.receiver.step setting.filters (.accept fd) = some receiver) :
      Move setting state (.connect fd)
        { state with
          receiver
          socks := state.socks ++ [{ fd, received := [], inbuf := [], frames := [] }] }
  | identiySelf (conn : Nat) (fd : Int) (task : SizedTask) (noFuture : task.1.futureId = 0) :
      Move setting state (.identiySelf conn) { state with sends := state.sends ++ [(fd, task)] }
  | begun (sync callback : Bool) (destIp msgid : Bytes) (param : Payload) (msgsender : Bytes)
      (now : Int) (content : Payload) (client : Req2ReceiverMgr)
      (generated : generate msgid param msgsender = some content) (event : Client.Event)
      (called : event = if sync then .sendMsgDirectToClient destIp now
        else .postMsgDirectToClient destIp callback now)
      (taken : state.client.step event = some client) :
      Move setting state (.netMsgBusSendMsg sync callback destIp msgid param msgsender now)
        { state with
          client
          requests := if client.calls.length = state.client.calls.length then state.requests
            else state.requests ++ [{ msgid, param, msgsender, content }] }
  | sendData (index conn : Nat) (accepted : Bool) (call : Call) (request : Request) (fd : Int)
      (client : Req2ReceiverMgr) (found : state.client.calls[index]? = some call)
      (asked : state.requests[index]? = some request)
      (taken : state.client.step (.call index (.sendData accepted)) = some client) :
      Move setting state (.sendData index conn accepted)
        { state with
          client
          sends := if accepted then state.sends ++ [(fd, taskOf call request.content)]
            else state.sends }
  | read (conn : Nat) (chunk : Bytes) (channel : Channel) (receiver : Receiver)
      (found : state.receiver.channels[conn]? = some channel)
      (arrived : channel.received ++ chunk <+: writtenTasks.stream (state.sent channel.fd))
      (taken : state.receiver.step setting.filters (.onRead conn chunk) = some receiver) :
      Move setting state (.read conn chunk) { state with receiver }
  | onClose (conn : Nat) (receiver : Receiver)
      (taken : state.receiver.step setting.filters (.onClose conn) = some receiver) :
      Move setting state (.onClose conn) { state with receiver }
  | close (conn : Nat) (receiver : Receiver)
      (taken : state.receiver.step setting.filters (.close conn) = some receiver) :
      Move setting state (.close conn) { state with receiver }
  | sendMsg (index : Nat) (handlers : List Handler) (task : RspTask) (receiver : Receiver)
      (execution : Execution) (queued : state.receiver.tasks[index]? = some task)
      (taken : state.receiver.step setting.filters (.rspSendMsg index) = some receiver)
      (posted : setting.filters.localMessage task.msgcontent =
        .ok (some (execution.msgid, execution.msgparam)))
      (own : execution.fd = task.fd ∧ execution.syncSid = task.syncSid ∧
        execution.handlers = handlers) :
      Move setting state (.sendMsg index handlers)
        { state with
          receiver
          executed := state.executed ++ [execution]
          running := state.running ++ [execution] }
  | notSent (index : Nat) (handlers : List Handler) (task : RspTask) (receiver : Receiver)
      (queued : state.receiver.tasks[index]? = some task)
      (taken : state.receiver.step setting.filters (.rspSendMsg index) = some receiver) :
      Move setting state (.sendMsg index handlers) { state with receiver }
  | rspSendMsg (index : Nat) (accepted : Bool) (execution : Execution) (answer : Answer)
      (runs : state.running[index]? = some execution) (same : answer.syncSid = execution.syncSid)
      (payload : answer.payload = execution.result) :
      Move setting state (.rspSendMsg index accepted)
        { state with
          running := state.running.eraseIdx index
          answers := if accepted then state.answers ++ [(execution.fd, answer)]
            else state.answers }
  | readAnswers (conn : Nat) (chunk : Bytes) (sock : ClientSock)
      (found : state.socks[conn]? = some sock)
      (arrived : sock.received ++ chunk <+: writtenAnswers.stream (state.answered sock.fd)) :
      Move setting state (.readAnswers conn chunk)
        { state with socks := state.socks.set conn { sock with
            received := sock.received ++ chunk
            inbuf := responseFormat.tail (sock.inbuf ++ chunk)
            frames := responseFormat.frames (sock.inbuf ++ chunk) } }
  | nextFrame (conn : Nat) (sock : ClientSock) (frame : UInt32 × Bytes)
      (rest : List (UInt32 × Bytes)) (client : Req2ReceiverMgr)
      (found : state.socks[conn]? = some sock) (front : sock.frames = frame :: rest)
      (taken : state.client.step (.frame conn frame.1 frame.2) = some client) :
      Move setting state (.nextFrame conn)
        { state with client, socks := state.socks.set conn { sock with frames := rest } }

variable {setting : Setting} {state following : DirectCalls}

theorem accept_some {fd : Int} {task : SizedTask} {accepted : Bool}
    (taken : state.accept fd task accepted = some following) :
    following = { state with
      sends := if accepted then state.sends ++ [(fd, task)] else state.sends } := by
  unfold accept at taken
  split at taken <;> cases taken
  rfl

theorem collect_frames (inbuf chunk : Bytes) :
    handleRead (req2ReceiverOnRead fun syncSid pdata frames => frames ++ [(syncSid, pdata)])
        (inbuf, []) chunk =
      some (responseFormat.tail (inbuf ++ chunk), responseFormat.frames (inbuf ++ chunk)) := by
  have collects (frames before : List (UInt32 × Bytes)) :
      frames.foldlM (fun state frame => some (state ++ [(frame.1, frame.2)])) before =
        some (before ++ frames) := by
    induction frames generalizing before with
    | nil => simp
    | cons frame rest ih =>
      rw [List.foldlM_cons, Option.bind_eq_bind, Option.bind_some, ih]
      simp
  rw [req2ReceiverOnRead_correct, handleRead_consume, Format.receive_correct, collects]
  rfl

theorem step_moves {event : Event} (taken : state.step setting event = some following) :
    state.Move setting event following := by
  cases event with
  | client event =>
    simp only [step] at taken
    split at taken
    next stays =>
      obtain ⟨client, moved, rfl⟩ := Option.map_eq_some_iff.mp taken
      exact .client event stays client moved
    next => cases taken
  | connect fd =>
    obtain ⟨receiver, moved, rfl⟩ := Option.map_eq_some_iff.mp taken
    exact .connect fd receiver moved
  | identiySelf conn =>
    simp only [step, Option.bind_eq_some_iff] at taken
    obtain ⟨sock, _, content, _, taken⟩ := taken
    rw [accept_some taken, if_pos rfl]
    exact .identiySelf conn sock.fd _ rfl
  | netMsgBusSendMsg sync callback destIp msgid param msgsender now =>
    simp only [step, Option.bind_eq_some_iff, Option.map_eq_some_iff] at taken
    obtain ⟨content, generated, client, taken, rfl⟩ := taken
    exact .begun sync callback destIp msgid param msgsender now content client generated _ rfl taken
  | sendData index conn accepted =>
    simp only [step, Option.bind_eq_some_iff] at taken
    obtain ⟨call, found, request, asked, sock, _, client, moved, taken⟩ := taken
    rw [accept_some taken]
    exact .sendData index conn accepted call request sock.fd client found asked moved
  | read conn chunk =>
    simp only [step, Option.bind_eq_some_iff] at taken
    obtain ⟨channel, found, taken⟩ := taken
    split at taken
    next arrived =>
      obtain ⟨receiver, moved, rfl⟩ := Option.map_eq_some_iff.mp taken
      exact .read conn chunk channel receiver found arrived moved
    next => cases taken
  | onClose conn =>
    obtain ⟨receiver, moved, rfl⟩ := Option.map_eq_some_iff.mp taken
    exact .onClose conn receiver moved
  | close conn =>
    obtain ⟨receiver, moved, rfl⟩ := Option.map_eq_some_iff.mp taken
    exact .close conn receiver moved
  | sendMsg index handlers =>
    simp only [step, Option.bind_eq_some_iff, Option.map_eq_some_iff] at taken
    obtain ⟨task, queued, receiver, taken, same⟩ := taken
    split at same
    next msgid msgparam posted =>
      rw [← same]
      exact .sendMsg index handlers task receiver _ queued taken posted ⟨rfl, rfl, rfl⟩
    next =>
      rw [← same]
      exact .notSent index handlers task receiver queued taken
  | rspSendMsg index accepted =>
    simp only [step, Option.bind_eq_some_iff] at taken
    obtain ⟨execution, runs, taken⟩ := taken
    split at taken
    next small =>
      split at taken <;> cases taken
      exact .rspSendMsg index accepted execution _ runs rfl (Answer.payload_eq _)
    next => cases taken
  | readAnswers conn chunk =>
    simp only [step, Option.bind_eq_some_iff] at taken
    obtain ⟨sock, found, taken⟩ := taken
    split at taken
    next arrived =>
      rw [collect_frames] at taken
      cases taken
      exact .readAnswers conn chunk sock found arrived.2
    next => cases taken
  | nextFrame conn =>
    simp only [step, Option.bind_eq_some_iff] at taken
    obtain ⟨sock, found, taken⟩ := taken
    split at taken
    · cases taken
    next frame rest front =>
      obtain ⟨client, moved, rfl⟩ := Option.map_eq_some_iff.mp taken
      exact .nextFrame conn sock frame rest client found front moved

-- The message of a call goes to the handlers of the receiver at most once, as it was sent, and what
-- the call gets back is what came of that.
structure AnsweredOnce (state : DirectCalls) : Prop where
  once : (state.executed.map Execution.syncSid).Nodup
  own : ∀ execution ∈ state.executed, ∃ (index : Nat) (call : Call) (request : Request),
    state.client.calls[index]? = some call ∧ state.requests[index]? = some request ∧
      execution.Of call request
  returned : ∀ (index : Nat) (call : Call) (request : Request),
    state.client.calls[index]? = some call → state.requests[index]? = some request →
      call.sync = true → call.phase = .returned true →
        ∃ execution ∈ state.executed, execution.Of call request ∧
          call.rspContent = execution.result
  calledBack : ∀ (index : Nat) (call : Call) (request : Request),
    state.client.calls[index]? = some call → state.requests[index]? = some request →
      ∀ pdata ∈ Req2ReceiverMgr.payloads state.client.callbacks call.future,
        ∃ execution ∈ state.executed, execution.Of call request ∧ pdata = execution.result

end DirectCalls
end MessageBus.System
