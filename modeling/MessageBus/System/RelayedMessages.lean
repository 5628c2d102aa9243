import MessageBus.Server.RelayTasks
import MessageBus.Shared.StreamEnds
import MessageBus.System.RelayedFrames

set_option autoImplicit false

-- Clients that send messages over the server, the server, and the connections between them.
namespace MessageBus.System

open Bytes Client Content Framing Inbound Messages Outbound Readers Server Streams

structure RelayClient where
  mgr : ServerConnMgr
  heard : List (UInt32 × ServerRsp)

structure Post where
  client : Nat
  call : Nat
  message : RelayMessage

-- Why the server calls SendData: for a task of the process thread, for the message of this number,
-- or for a request of another kind.
inductive Cause where
  | relayed (task : SendMsg)
  | sendmsgRsp (number : Nat) (retCode : UInt16)
  | other

def Cause.task : Cause -> Option SendMsg
  | .relayed task => some task
  | .sendmsgRsp _ _ | .other => none

structure ServerConn where
  client : Nat
  -- With the post that a frame carries.
  ups : List (Option Nat × BusFrame)
  server : StreamEnd (MsgBusPackHead × Bytes)
  downs : List (Cause × BusFrame)
  receiver : StreamEnd (UInt32 × UInt32 × Bytes)
  -- The local messages that HandleReqSendMsg posts.
  posted : List (Bytes × Bytes)

-- A REQ_SENDMSG frame that server_onRead queues, by its place in the connection, and the frame that
-- is forwarded for it.
structure SendMsgRequest where
  conn : Nat
  position : Nat
  msgId : UInt32
  frame : BusFrame

structure RelayedMessages where
  clients : List RelayClient
  posts : List Post
  conns : List ServerConn
  relay : Relay
  -- In the order of their numbers in the relay.
  requests : List SendMsgRequest
  -- Connection and id of the other requests that may be answered.
  others : List (Nat × UInt32)

-- The filters of each process, and what the handlers but those for messages read in a body.
structure RelaySetting where
  filters : Nat -> FilterMgr
  otherRsp : UInt32 -> Bytes -> Option ServerRsp

namespace RelayClient

def initial : RelayClient := { mgr := .initial, heard := [] }

def isLocal (client : RelayClient) : ServerConnMgr.Event -> Bool
  | .insertFuture index _ => client.mgr.starting[index]? != some .postNetMsgUseServerRelay
  | .call index (.sendData _) =>
    (client.mgr.calls[index]?).all fun call => call.request != .postNetMsgUseServerRelay
  | .rsp _ _ => false
  | _ => true

-- The id that a request of another kind has; confirming alive and unregistering have none.
def otherId (client : RelayClient) : Option Nat -> Option UInt32
  | none => some 0
  | some index => (client.mgr.calls[index]?).bind fun call =>
    if call.request = .postNetMsgUseServerRelay then none else some call.futureId

end RelayClient

namespace ServerConn

def connect (client : Nat) : ServerConn :=
  { client, ups := [], server := .initial, downs := [], receiver := .initial, posted := [] }

def relayed (conn : ServerConn) : List SendMsg := conn.downs.filterMap fun down => down.1.task

end ServerConn

namespace RelaySetting

def rspOf (setting : RelaySetting) (bodyType : UInt32) (body : Bytes) : Option ServerRsp :=
  if bodyType = BodyType.rspSendmsg then (readSendMsgRsp body).toOption
  else setting.otherRsp bodyType body

end RelaySetting

namespace RelayedMessages

inductive Event where
  | start
  | client (index : Nat) (event : ServerConnMgr.Event)
  | connect (client : Nat)
  | postNetMsgUseServerRelay (client index : Nat) (now : Int) (receiverName destName msgid : Bytes)
      (param : Payload)
  | sendData (post conn : Nat) (accepted : Bool)
  | sendOther (conn : Nat) (call : Option Nat) (frame : BusFrame)
  | serverOnRead (conn : Nat) (chunk : Bytes)
  -- With what lies in the memory of a request before it is unpacked.
  | queueWorkTask (conn : Nat) (destName fromName : ServiceName) (behind : Bytes)
  | relay (event : RelayEvent)
  | work (worker : Nat) (fd : Int) (accepted : Bool)
  | process (draw : Name -> Rand) (accepted : Bool)
  | answerOther (index : Nat) (frame : BusFrame)
  | serverRspProcess (conn : Nat) (chunk : Bytes)
  | processRspBody (conn : Nat) (destName fromName : ServiceName) (behind : Bytes)

def initial : RelayedMessages :=
  { clients := [], posts := [], conns := [], relay := .initial, requests := [], others := [] }

-- The steps of the relay that neither read a frame nor call SendData.
def isLocal : RelayEvent -> Bool
  | .read _ _ _ | .work _ _ | .process _ => false
  | _ => true

def sendDown (state : RelayedMessages) (accepted : Bool) (index : Nat) (cause : Cause)
    (frame : BusFrame) : RelayedMessages :=
  match state.conns[index]? with
  | some conn =>
    if accepted then
      { state with
        conns := state.conns.set index { conn with downs := conn.downs ++ [(cause, frame)] } }
    else state
  | none => state

def queueFrame (state : RelayedMessages) (index : Nat) (conn : ServerConn) (head : MsgBusPackHead)
    (relayed : Relayed) (server : StreamEnd (MsgBusPackHead × Bytes)) : Option RelayedMessages :=
  let conns := state.conns.set index { conn with server }
  if head.msgType = 0 ∧ head.bodyType = BodyType.reqSendmsg then
    (forwarded relayed).bind fun request =>
      (state.relay.step (.read index request.1 (writtenFrames.encode request.2))).map fun relay =>
        { state with
          conns
          relay
          requests := state.requests ++ [{ conn := index, position := conn.server.taken
                                           msgId := head.msgId, frame := request.2 }] }
  else some { state with conns, others := state.others ++ [(index, head.msgId)] }

def handleFrame (setting : RelaySetting) (state : RelayedMessages) (index : Nat)
    (conn : ServerConn) (msgId bodyType : UInt32) (relayed : Relayed)
    (receiver : StreamEnd (UInt32 × UInt32 × Bytes)) : Option RelayedMessages :=
  if bodyType = BodyType.reqSendmsg then
    match (setting.filters conn.client).handleReqSendMsg relayed with
    | .error _ => none
    | .ok posted => some { state with
        conns := state.conns.set index
          { conn with receiver, posted := conn.posted ++ posted.toList } }
  else
    (state.clients[conn.client]?).bind fun client =>
      (setting.rspOf bodyType relayed.body).bind fun rsp =>
        (client.mgr.step (.rsp msgId rsp)).map fun mgr =>
          { state with
            conns := state.conns.set index { conn with receiver }
            clients := state.clients.set conn.client
              { mgr, heard := client.heard ++ [(msgId, rsp)] } }

def step (setting : RelaySetting) (state : RelayedMessages) : Event -> Option RelayedMessages
  | .start => some { state with clients := state.clients ++ [.initial] }
  | .client index event =>
    (state.clients[index]?).bind fun client =>
      if client.isLocal event then
        (client.mgr.step event).map fun mgr =>
          { state with clients := state.clients.set index { client with mgr } }
      else none
  | .connect client => some { state with conns := state.conns ++ [.connect client] }
  | .postNetMsgUseServerRelay client index now receiverName destName msgid param =>
    (state.clients[client]?).bind fun sender =>
      if sender.mgr.starting[index]? = some .postNetMsgUseServerRelay then
        let msgId := sender.mgr.futureMgr.nextFutureId
        (RelayMessage.make receiverName destName msgid param msgId).bind fun message =>
          (sender.mgr.step (.insertFuture index now)).map fun mgr =>
            { state with
              clients := state.clients.set client { sender with mgr }
              posts := state.posts ++ [{ client, call := sender.mgr.calls.length, message }] }
      else none
  | .sendData index conn accepted =>
    (state.posts[index]?).bind fun post =>
      (state.clients[post.client]?).bind fun sender =>
        (state.conns[conn]?).bind fun connection =>
          if connection.client = post.client then
            (sender.mgr.step (.call post.call (.sendData accepted))).map fun mgr =>
              let ups := connection.ups ++ [(some index, post.message.frame)]
              { state with
                clients := state.clients.set post.client { sender with mgr }
                conns := if accepted then state.conns.set conn { connection with ups }
                  else state.conns }
          else none
  | .sendOther conn call frame =>
    (state.conns[conn]?).bind fun connection =>
      (state.clients[connection.client]?).bind fun client =>
        if frame.1.1.bodyType ≠ BodyType.reqSendmsg ∧
            client.otherId call = some frame.1.1.msgId then
          let ups := connection.ups ++ [(none, frame)]
          some { state with conns := state.conns.set conn { connection with ups } }
        else none
  -- Bytes arrive in the order they were accepted, here and on the way back.
  | .serverOnRead conn chunk =>
    (state.conns[conn]?).bind fun connection =>
      if connection.server.received ++ chunk <+:
          writtenFrames.stream (connection.ups.map Prod.snd) then
        let onRead := serverOnRead fun head body frames => frames ++ [(head, body)]
        (connection.server.read (handleRead onRead) chunk).map fun server =>
          { state with conns := state.conns.set conn { connection with server } }
      else none
  | .queueWorkTask conn destName fromName behind =>
    (state.conns[conn]?).bind fun connection =>
      connection.server.next.bind fun taken =>
        state.queueFrame conn connection taken.1.1 { destName, fromName, behind, body := taken.1.2 }
          taken.2
  | .relay event =>
    if isLocal event then (state.relay.step event).map fun relay => { state with relay } else none
  | .work worker fd accepted =>
    (state.relay.step (.work worker fd)).bind fun relay =>
      match state.relay.workers[worker]? with
      | some { task, stage := .answering retCode } =>
        (state.requests[task.number]?).bind fun request =>
          (sendmsgRsp request.msgId retCode).map fun frame =>
            sendDown { state with relay } accepted request.conn (.sendmsgRsp task.number retCode)
              frame
      | _ => some { state with relay }
  | .process draw accepted =>
    (state.relay.step (.process draw)).bind fun relay =>
      match state.relay.processing with
      | .sending task (destclient :: _) _ _ =>
        (state.requests[task.number]?).map fun request =>
          sendDown { state with relay } accepted destclient (.relayed task) request.frame
      | _ => some { state with relay }
  | .answerOther index frame =>
    (state.others[index]?).bind fun other =>
      if frame.1.1.bodyType ≠ BodyType.reqSendmsg ∧ frame.1.1.msgId = other.2 then
        some (sendDown { state with others := state.others.eraseIdx index } true other.1 .other
          frame)
      else none
  | .serverRspProcess conn chunk =>
    (state.conns[conn]?).bind fun connection =>
      if connection.receiver.received ++ chunk <+:
          writtenFrames.stream (connection.downs.map Prod.snd) then
        let onRead := Readers.serverRspProcess fun msgId bodyType body frames =>
          frames ++ [(msgId, bodyType, body)]
        (connection.receiver.read (handleRead onRead) chunk).map fun receiver =>
          { state with conns := state.conns.set conn { connection with receiver } }
      else none
  | .processRspBody conn destName fromName behind =>
    (state.conns[conn]?).bind fun connection =>
      connection.receiver.next.bind fun taken =>
        state.handleFrame setting conn connection taken.1.1 taken.1.2.1
          { destName, fromName, behind, body := taken.1.2.2 } taken.2

inductive Move (setting : RelaySetting) (state : RelayedMessages) : RelayedMessages -> Prop where
  | start : Move setting state { state with clients := state.clients ++ [.initial] }
  | client (index : Nat) (event : ServerConnMgr.Event) (client : RelayClient) (mgr : ServerConnMgr)
      (found : state.clients[index]? = some client) (stays : client.isLocal event = true)
      (taken : client.mgr.step event = some mgr) :
      Move setting state { state with clients := state.clients.set index { client with mgr } }
  | connect (client : Nat) :
      Move setting state { state with conns := state.conns ++ [.connect client] }
  | posted (client index : Nat) (now : Int) (message : RelayMessage) (sender : RelayClient)
      (mgr : ServerConnMgr) (found : state.clients[client]? = some sender)
      (starts : sender.mgr.starting[index]? = some .postNetMsgUseServerRelay)
      (msgId : message.msgId = sender.mgr.futureMgr.nextFutureId)
      (taken : sender.mgr.step (.insertFuture index now) = some mgr) :
      Move setting state
        { state with
          clients := state.clients.set client { sender with mgr }
          posts := state.posts ++ [{ client, call := sender.mgr.calls.length, message }] }
  | sendData (index conn : Nat) (accepted : Bool) (post : Post) (sender : RelayClient)
      (connection : ServerConn) (mgr : ServerConnMgr) (asked : state.posts[index]? = some post)
      (sends : state.clients[post.client]? = some sender)
      (found : state.conns[conn]? = some connection) (own : connection.client = post.client)
      (taken : sender.mgr.step (.call post.call (.sendData accepted)) = some mgr) :
      Move setting state
        { state with
          clients := state.clients.set post.client { sender with mgr }
          conns := if accepted then state.conns.set conn { connection with
              ups := connection.ups ++ [(some index, post.message.frame)] }
            else state.conns }
  | sendOther (conn : Nat) (call : Option Nat) (frame : BusFrame) (connection : ServerConn)
      (client : RelayClient) (found : state.conns[conn]? = some connection)
      (sends : state.clients[connection.client]? = some client)
      (other : frame.1.1.bodyType ≠ BodyType.reqSendmsg)
      (msgId : client.otherId call = some frame.1.1.msgId) :
      Move setting state
        { state with
          conns := state.conns.set conn { connection with
            ups := connection.ups ++ [(none, frame)] } }
  | serverOnRead (conn : Nat) (chunk : Bytes) (connection : ServerConn)
      (server : StreamEnd (MsgBusPackHead × Bytes))
      (found : state.conns[conn]? = some connection)
      (arrived : connection.server.received ++ chunk <+:
        writtenFrames.stream (connection.ups.map Prod.snd))
      (taken : connection.server.read (handleRead (serverOnRead fun head body frames =>
        frames ++ [(head, body)])) chunk = some server) :
      Move setting state { state with conns := state.conns.set conn { connection with server } }
  | queueSendMsg (conn : Nat) (connection : ServerConn) (head : MsgBusPackHead)
      (relayed : Relayed) (server : StreamEnd (MsgBusPackHead × Bytes))
      (destination : Name) (frame : BusFrame) (relay : Relay)
      (found : state.conns[conn]? = some connection)
      (next : connection.server.next = some ((head, relayed.body), server))
      (sendmsg : head.bodyType = BodyType.reqSendmsg)
      (made : forwarded relayed = some (destination, frame))
      (taken : state.relay.step (.read conn destination (writtenFrames.encode frame)) =
        some relay) :
      Move setting state
        { state with
          conns := state.conns.set conn { connection with server }
          relay
          requests := state.requests ++ [{ conn, position := connection.server.taken
                                           msgId := head.msgId, frame }] }
  | queueOther (conn : Nat) (connection : ServerConn) (head : MsgBusPackHead) (body : Bytes)
      (server : StreamEnd (MsgBusPackHead × Bytes))
      (found : state.conns[conn]? = some connection)
      (next : connection.server.next = some ((head, body), server))
      (other : ¬ (head.msgType = 0 ∧ head.bodyType = BodyType.reqSendmsg)) :
      Move setting state
        { state with
          conns := state.conns.set conn { connection with server }
          others := state.others ++ [(conn, head.msgId)] }
  | relay (event : RelayEvent) (relay : Relay)
      (noRead : ∀ addr destName data, event ≠ .read addr destName data)
      (taken : state.relay.step event = some relay) : Move setting state { state with relay }
  | answered (event : RelayEvent) (relay : Relay) (connection : ServerConn) (number : Nat)
      (retCode : UInt16) (request : SendMsgRequest) (frame : BusFrame)
      (noRead : ∀ addr destName data, event ≠ .read addr destName data)
      (taken : state.relay.step event = some relay)
      (answers : (number, retCode) ∈ relay.answers)
      (asked : state.requests[number]? = some request)
      (found : state.conns[request.conn]? = some connection)
      (made : sendmsgRsp request.msgId retCode = some frame) :
      Move setting state
        { state with
          relay
          conns := state.conns.set request.conn { connection with
            downs := connection.downs ++ [(.sendmsgRsp number retCode, frame)] } }
  | relayed (event : RelayEvent) (relay : Relay) (conn : Nat) (connection : ServerConn)
      (task : SendMsg) (request : SendMsgRequest)
      (noRead : ∀ addr destName data, event ≠ .read addr destName data)
      (taken : state.relay.step event = some relay)
      (sent : relay.sent = state.relay.sent ++ [(task, conn)])
      (asked : state.requests[task.number]? = some request)
      (found : state.conns[conn]? = some connection) :
      Move setting state
        { state with
          relay
          conns := state.conns.set conn { connection with
            downs := connection.downs ++ [(.relayed task, request.frame)] } }
  | answeredOther (index : Nat) (frame : BusFrame) (other : Nat × UInt32)
      (connection : ServerConn) (waits : state.others[index]? = some other)
      (found : state.conns[other.1]? = some connection)
      (kind : frame.1.1.bodyType ≠ BodyType.reqSendmsg) (msgId : frame.1.1.msgId = other.2) :
      Move setting state
        { state with
          others := state.others.eraseIdx index
          conns := state.conns.set other.1 { connection with
            downs := connection.downs ++ [(.other, frame)] } }
  | dropped (index : Nat) :
      Move setting state { state with others := state.others.eraseIdx index }
  | serverRspProcess (conn : Nat) (chunk : Bytes) (connection : ServerConn)
      (receiver : StreamEnd (UInt32 × UInt32 × Bytes))
      (found : state.conns[conn]? = some connection)
      (arrived : connection.receiver.received ++ chunk <+:
        writtenFrames.stream (connection.downs.map Prod.snd))
      (taken : connection.receiver.read (handleRead (Readers.serverRspProcess
        fun msgId bodyType body frames => frames ++ [(msgId, bodyType, body)])) chunk =
          some receiver) :
      Move setting state { state with conns := state.conns.set conn { connection with receiver } }
  | handleReqSendMsg (conn : Nat) (connection : ServerConn) (msgId bodyType : UInt32)
      (relayed : Relayed) (receiver : StreamEnd (UInt32 × UInt32 × Bytes))
      (posted : Option (Bytes × Bytes)) (found : state.conns[conn]? = some connection)
      (next : connection.receiver.next = some ((msgId, bodyType, relayed.body), receiver))
      (sendmsg : bodyType = BodyType.reqSendmsg)
      (handled : (setting.filters connection.client).handleReqSendMsg relayed = .ok posted) :
      Move setting state
        { state with
          conns := state.conns.set conn
            { connection with receiver, posted := connection.posted ++ posted.toList } }
  | heard (conn : Nat) (connection : ServerConn) (client : RelayClient) (msgId bodyType : UInt32)
      (body : Bytes) (receiver : StreamEnd (UInt32 × UInt32 × Bytes)) (rsp : ServerRsp)
      (mgr : ServerConnMgr) (found : state.conns[conn]? = some connection)
      (hears : state.clients[connection.client]? = some client)
      (next : connection.receiver.next = some ((msgId, bodyType, body), receiver))
      (other : bodyType ≠ BodyType.reqSendmsg) (read : setting.rspOf bodyType body = some rsp)
      (taken : client.mgr.step (.rsp msgId rsp) = some mgr) :
      Move setting state
        { state with
          conns := state.conns.set conn { connection with receiver }
          clients := state.clients.set connection.client
            { mgr, heard := client.heard ++ [(msgId, rsp)] } }

section Moves

variable {setting : RelaySetting} {state following : RelayedMessages}

theorem RelayMessage.make_msgId {receiverName destName msgid : Bytes} {param : Payload}
    {msgId : UInt32} {message : RelayMessage}
    (made : RelayMessage.make receiverName destName msgid param msgId = some message) :
    message.msgId = msgId := by
  unfold RelayMessage.make at made
  split at made
  · cases made
  · split at made <;> cases made
    rfl

theorem sendDown_cases (state : RelayedMessages) (accepted : Bool) (index : Nat) (cause : Cause)
    (frame : BusFrame) : state.sendDown accepted index cause frame = state ∨
      ∃ conn, state.conns[index]? = some conn ∧ state.sendDown accepted index cause frame =
        { state with conns := state.conns.set index { conn with
            downs := conn.downs ++ [(cause, frame)] } } := by
  unfold sendDown
  split
  next conn found =>
    cases accepted with
    | true => exact .inr ⟨conn, found, rfl⟩
    | false => exact .inl rfl
  next => exact .inl rfl

theorem answer_moves {worker : Nat} {fd : Int} {accepted : Bool} {relay : Relay} {task : SendMsg}
    {retCode : UInt16} {request : SendMsgRequest} {frame : BusFrame}
    (moved : state.relay.step (.work worker fd) = some relay)
    (answering : state.relay.workers[worker]? = some { task, stage := .answering retCode })
    (asked : state.requests[task.number]? = some request)
    (made : sendmsgRsp request.msgId retCode = some frame) :
    Move setting state (sendDown { state with relay } accepted request.conn
      (.sendmsgRsp task.number retCode) frame) := by
  have answers : (task.number, retCode) ∈ relay.answers := by
    simp only [Relay.step, Relay.workStep, answering, Option.map_some, Option.some.injEq] at moved
    rw [← moved]
    exact List.mem_append_right _ (List.mem_singleton_self _)
  rcases sendDown_cases { state with relay } accepted request.conn
    (.sendmsgRsp task.number retCode) frame with same | ⟨conn, found, changed⟩
  · rw [same]
    exact .relay _ relay (by simp) moved
  · rw [changed]
    exact .answered _ relay conn task.number retCode request frame (by simp) moved answers asked
      found made

theorem relayed_moves {draw : Name -> Rand} {accepted : Bool} {relay : Relay} {task : SendMsg}
    {destclient : Nat} {rest : List Nat} {reqtasks broadcasts : List SendMsg}
    {request : SendMsgRequest} (moved : state.relay.step (.process draw) = some relay)
    (sending : state.relay.processing = .sending task (destclient :: rest) reqtasks broadcasts)
    (asked : state.requests[task.number]? = some request) :
    Move setting state (sendDown { state with relay } accepted destclient (.relayed task)
      request.frame) := by
  have sent : relay.sent = state.relay.sent ++ [(task, destclient)] := by
    simp only [Relay.step, Relay.processStep, sending, Option.some.injEq] at moved
    rw [← moved]
  rcases sendDown_cases { state with relay } accepted destclient (.relayed task)
    request.frame with same | ⟨conn, found, changed⟩
  · rw [same]
    exact .relay _ relay (by simp) moved
  · rw [changed]
    exact .relayed _ relay destclient conn task request (by simp) moved sent asked found

theorem queueFrame_moves {index : Nat} {conn : ServerConn} {head : MsgBusPackHead}
    {relayed : Relayed} {server : StreamEnd (MsgBusPackHead × Bytes)}
    (found : state.conns[index]? = some conn)
    (next : conn.server.next = some ((head, relayed.body), server))
    (taken : state.queueFrame index conn head relayed server = some following) :
    Move setting state following := by
  simp only [queueFrame] at taken
  split at taken
  next sendmsg =>
    obtain ⟨request, made, taken⟩ := Option.bind_eq_some_iff.mp taken
    obtain ⟨relay, read, rfl⟩ := Option.map_eq_some_iff.mp taken
    exact .queueSendMsg index conn head relayed server request.1 request.2 relay found next
      sendmsg.2 made read
  next other =>
    cases taken
    exact .queueOther index conn head relayed.body server found next other

theorem handleFrame_moves {index : Nat} {conn : ServerConn} {msgId bodyType : UInt32}
    {relayed : Relayed} {receiver : StreamEnd (UInt32 × UInt32 × Bytes)}
    (found : state.conns[index]? = some conn)
    (next : conn.receiver.next = some ((msgId, bodyType, relayed.body), receiver))
    (taken : state.handleFrame setting index conn msgId bodyType relayed receiver =
      some following) : Move setting state following := by
  unfold handleFrame at taken
  split at taken
  next sendmsg =>
    split at taken <;> cases taken
    next posted handled =>
      exact .handleReqSendMsg index conn msgId bodyType relayed receiver posted found next sendmsg
        handled
  next other =>
    simp only [Option.bind_eq_some_iff, Option.map_eq_some_iff] at taken
    obtain ⟨client, hears, rsp, read, mgr, moved, rfl⟩ := taken
    exact .heard index conn client msgId bodyType relayed.body receiver rsp mgr found hears next
      other read moved

theorem step_moves {event : Event} (taken : state.step setting event = some following) :
    Move setting state following := by
  cases event with
  | start =>
    cases taken
    exact .start
  | client index event =>
    obtain ⟨client, found, taken⟩ := Option.bind_eq_some_iff.mp taken
    split at taken
    next stays =>
      obtain ⟨mgr, moved, rfl⟩ := Option.map_eq_some_iff.mp taken
      exact .client index event client mgr found stays moved
    next => cases taken
  | connect client =>
    cases taken
    exact .connect client
  | postNetMsgUseServerRelay client index now receiverName destName msgid param =>
    obtain ⟨sender, found, taken⟩ := Option.bind_eq_some_iff.mp taken
    split at taken
    next starts =>
      obtain ⟨message, made, taken⟩ := Option.bind_eq_some_iff.mp taken
      obtain ⟨mgr, moved, rfl⟩ := Option.map_eq_some_iff.mp taken
      exact .posted client index now message sender mgr found starts
        (RelayMessage.make_msgId made) moved
    next => cases taken
  | sendData index conn accepted =>
    simp only [step, Option.bind_eq_some_iff] at taken
    obtain ⟨post, asked, sender, sends, connection, found, taken⟩ := taken
    split at taken
    next own =>
      obtain ⟨mgr, moved, rfl⟩ := Option.map_eq_some_iff.mp taken
      exact .sendData index conn accepted post sender connection mgr asked sends found own moved
    next => cases taken
  | sendOther conn call frame =>
    simp only [step, Option.bind_eq_some_iff] at taken
    obtain ⟨connection, found, client, sends, taken⟩ := taken
    split at taken <;> cases taken
    next other => exact .sendOther conn call frame connection client found sends other.1 other.2
  | serverOnRead conn chunk =>
    obtain ⟨connection, found, taken⟩ := Option.bind_eq_some_iff.mp taken
    split at taken
    next arrived =>
      obtain ⟨server, read, rfl⟩ := Option.map_eq_some_iff.mp taken
      exact .serverOnRead conn chunk connection server found arrived read
    next => cases taken
  | queueWorkTask conn destName fromName behind =>
    simp only [step, Option.bind_eq_some_iff] at taken
    obtain ⟨connection, found, ⟨⟨head, body⟩, server⟩, next, taken⟩ := taken
    exact queueFrame_moves found next taken
  | relay event =>
    simp only [step] at taken
    split at taken
    next stays =>
      obtain ⟨relay, moved, rfl⟩ := Option.map_eq_some_iff.mp taken
      exact .relay event relay (by rintro _ _ _ rfl; cases stays) moved
    next => cases taken
  | work worker fd accepted =>
    obtain ⟨relay, moved, taken⟩ := Option.bind_eq_some_iff.mp taken
    split at taken
    next task retCode answering =>
      obtain ⟨request, asked, taken⟩ := Option.bind_eq_some_iff.mp taken
      obtain ⟨frame, made, rfl⟩ := Option.map_eq_some_iff.mp taken
      exact answer_moves moved answering asked made
    next =>
      cases taken
      exact .relay _ relay (by simp) moved
  | process draw accepted =>
    obtain ⟨relay, moved, taken⟩ := Option.bind_eq_some_iff.mp taken
    split at taken
    next task destclient rest reqtasks broadcasts sending =>
      obtain ⟨request, asked, rfl⟩ := Option.map_eq_some_iff.mp taken
      exact relayed_moves moved sending asked
    next =>
      cases taken
      exact .relay _ relay (by simp) moved
  | answerOther index frame =>
    obtain ⟨other, waits, taken⟩ := Option.bind_eq_some_iff.mp taken
    split at taken <;> cases taken
    next kind =>
      rcases sendDown_cases { state with others := state.others.eraseIdx index } true other.1
        .other frame with same | ⟨conn, found, changed⟩
      · rw [same]
        exact .dropped index
      · rw [changed]
        exact .answeredOther index frame other conn waits found kind.1 kind.2
  | serverRspProcess conn chunk =>
    obtain ⟨connection, found, taken⟩ := Option.bind_eq_some_iff.mp taken
    split at taken
    next arrived =>
      obtain ⟨receiver, read, rfl⟩ := Option.map_eq_some_iff.mp taken
      exact .serverRspProcess conn chunk connection receiver found arrived read
    next => cases taken
  | processRspBody conn destName fromName behind =>
    simp only [step, Option.bind_eq_some_iff] at taken
    obtain ⟨connection, found, ⟨⟨msgId, bodyType, body⟩, receiver⟩, next, taken⟩ := taken
    exact handleFrame_moves found next taken

end Moves

def postIndex (state : RelayedMessages) (number : Nat) : Option Nat :=
  (state.requests[number]?).bind fun request =>
    (state.conns[request.conn]?).bind fun conn => (conn.ups[request.position]?).bind Prod.fst

def postOf (state : RelayedMessages) (number : Nat) : Option Post :=
  (state.postIndex number).bind fun index => state.posts[index]?

-- What the clients behind a connection post of a task.
def localMessage (setting : RelaySetting) (state : RelayedMessages) (client : Nat)
    (task : SendMsg) : Option (Bytes × Bytes) :=
  (state.postOf task.number).bind fun post => post.message.localMessage (setting.filters client)

-- A message is queued in the server at most once, as it was posted and for its destination, each
-- connection posts in turn what was sent to it of the messages, and a post that returns true was
-- queued.
structure RelayedOnce (setting : RelaySetting) (state : RelayedMessages) : Prop where
  once : (state.relay.queued.map fun task => state.postIndex task.number).Nodup
  own : ∀ task ∈ state.relay.queued, ∃ (post : Post) (frame : BusFrame),
    state.postOf task.number = some post ∧ task.destName = text post.message.destName ∧
      task.data = writtenFrames.encode frame ∧ frame.1.2 = post.message.frame.1.2
  queued : ∀ call ∈ state.relay.sent, call.1 ∈ state.relay.queued
  inTurn : ∀ (index : Nat) (conn : ServerConn), state.conns[index]? = some conn →
    conn.relayed.Sublist ((state.relay.sent.filter fun call => call.2 == index).map Prod.fst) ∧
    ∃ read, read <+: conn.relayed ∧
      conn.posted = read.filterMap (state.localMessage setting conn.client) ∧
      (conn.receiver.received = writtenFrames.stream (conn.downs.map Prod.snd) →
        conn.receiver.frames = [] → read = conn.relayed)
  returned : ∀ (index : Nat) (post : Post) (client : RelayClient) (call : ServerCall),
    state.posts[index]? = some post → state.clients[post.client]? = some client →
      client.mgr.calls[post.call]? = some call →
        client.mgr.calls.length ≤ FutureMgr.idPeriod → call.phase = .returned true →
          ∃ task ∈ state.relay.queued, state.postIndex task.number = some index

end RelayedMessages
end MessageBus.System
