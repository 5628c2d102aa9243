import MessageBus.System.RelayedMessages

set_option autoImplicit false

namespace MessageBus.System

open Bytes Client Content Framing Inbound Messages Outbound Readers Server Streams

namespace RelayedMessages

section Growth

def ClientKept (client after : RelayClient) : Prop :=
  InPlace.Kept ServerConnMgr.CallKept client.mgr.calls after.mgr.calls

def ConnKept (conn after : ServerConn) : Prop :=
  after.client = conn.client ∧ conn.ups <+: after.ups ∧ conn.server.taken ≤ after.server.taken

structure Extends (state later : RelayedMessages) : Prop where
  clients : InPlace.Kept ClientKept state.clients later.clients
  posts : state.posts <+: later.posts
  conns : InPlace.Kept ConnKept state.conns later.conns
  requests : state.requests <+: later.requests
  sent : state.relay.sent <+: later.relay.sent
  answers : state.relay.answers <+: later.relay.answers

variable {setting : RelaySetting} {state following later : RelayedMessages}

theorem clientKept_refl (client : RelayClient) : ClientKept client client :=
  .refl ServerConnMgr.callKept_refl _

theorem connKept_refl (conn : ServerConn) : ConnKept conn conn :=
  ⟨rfl, List.prefix_rfl, le_rfl⟩

theorem Extends.refl (state : RelayedMessages) : state.Extends state where
  clients := .refl clientKept_refl _
  posts := List.prefix_rfl
  conns := .refl connKept_refl _
  requests := List.prefix_rfl
  sent := List.prefix_rfl
  answers := List.prefix_rfl

theorem client_set {index : Nat} {client after : RelayClient} {event : ServerConnMgr.Event}
    (found : state.clients[index]? = some client)
    (taken : client.mgr.step event = some after.mgr) :
    InPlace.Kept ClientKept state.clients (state.clients.set index after) :=
  InPlace.kept_set clientKept_refl found (ServerConnMgr.step_callsKept taken)

theorem conn_set {index : Nat} {conn after : ServerConn}
    (found : state.conns[index]? = some conn) (kept : ConnKept conn after) :
    InPlace.Kept ConnKept state.conns (state.conns.set index after) :=
  InPlace.kept_set connKept_refl found kept

theorem next_kept {conn : ServerConn} {frame : MsgBusPackHead × Bytes}
    {server : StreamEnd (MsgBusPackHead × Bytes)}
    (taken : conn.server.next = some (frame, server)) : ConnKept conn { conn with server } := by
  refine ⟨rfl, List.prefix_rfl, ?_⟩
  simp only [StreamEnd.next_taken taken]
  exact Nat.le_succ _

theorem relay_extends {event : RelayEvent} {relay : Relay}
    (taken : state.relay.step event = some relay) :
    state.relay.sent <+: relay.sent ∧ state.relay.answers <+: relay.answers :=
  ⟨Relay.move_sent (Relay.step_moves taken), Relay.step_answers taken⟩

theorem move_extends (move : Move setting state following) : state.Extends following := by
  have same := Extends.refl state
  cases move with
  | start => exact { same with clients := InPlace.kept_append clientKept_refl _ _ }
  | client index event client mgr found stays taken =>
    exact { same with clients := client_set found taken }
  | connect client => exact { same with conns := InPlace.kept_append connKept_refl _ _ }
  | posted client index now message sender mgr found starts msgId taken =>
    exact { same with clients := client_set found taken, posts := List.prefix_append _ _ }
  | sendData index conn accepted post sender connection mgr asked sends found own taken =>
    refine { same with clients := client_set sends taken, conns := ?_ }
    cases accepted with
    | true => exact conn_set found ⟨rfl, List.prefix_append _ _, le_rfl⟩
    | false => exact same.conns
  | sendOther conn call frame connection client found sends other msgId =>
    exact { same with conns := conn_set found ⟨rfl, List.prefix_append _ _, le_rfl⟩ }
  | serverOnRead conn chunk connection server found arrived taken =>
    have kept : ConnKept connection { connection with server } :=
      ⟨rfl, List.prefix_rfl, (StreamEnd.read_taken taken).ge⟩
    exact { same with conns := conn_set found kept }
  | queueSendMsg conn connection head relayed server destination frame relay found next sendmsg
      made taken =>
    obtain ⟨sent, answers⟩ := relay_extends taken
    have kept := next_kept next
    exact { same with
      conns := conn_set found kept, requests := List.prefix_append _ _, sent, answers }
  | queueOther conn connection head body server found next other =>
    exact { same with conns := conn_set found (next_kept next) }
  | relay event relay noRead taken =>
    obtain ⟨sent, answers⟩ := relay_extends taken
    exact { same with sent, answers }
  | answered event relay connection number retCode request frame noRead taken _ asked found made =>
    obtain ⟨sent, answers⟩ := relay_extends taken
    exact { same with conns := conn_set found ⟨rfl, List.prefix_rfl, le_rfl⟩, sent, answers }
  | relayed event relay conn connection task request noRead taken grown asked found =>
    obtain ⟨sent, answers⟩ := relay_extends taken
    exact { same with conns := conn_set found ⟨rfl, List.prefix_rfl, le_rfl⟩, sent, answers }
  | answeredOther index frame other connection waits found kind msgId =>
    exact { same with conns := conn_set found ⟨rfl, List.prefix_rfl, le_rfl⟩ }
  | dropped index => exact { same with }
  | serverRspProcess conn chunk connection receiver found arrived taken =>
    exact { same with conns := conn_set found ⟨rfl, List.prefix_rfl, le_rfl⟩ }
  | handleReqSendMsg conn connection msgId bodyType relayed receiver posted found =>
    exact { same with conns := conn_set found ⟨rfl, List.prefix_rfl, le_rfl⟩ }
  | heard conn connection client msgId bodyType body receiver rsp mgr found hears next other read
      taken =>
    exact { same with
      conns := conn_set found ⟨rfl, List.prefix_rfl, le_rfl⟩
      clients := InPlace.kept_set clientKept_refl hears (ServerConnMgr.step_callsKept taken) }

end Growth

section Sound

def ClientSound (client : RelayClient) : Prop :=
  client.mgr.Counted ∧ ∃ idOf, ServerConnMgr.Answered idOf client.mgr client.heard

def FreeId (state : RelayedMessages) (client : Nat) (msgId : UInt32) : Prop :=
  msgId = 0 ∨ ∃ (sender : RelayClient) (index : Nat) (call : ServerCall),
    state.clients[client]? = some sender ∧ sender.mgr.calls[index]? = some call ∧
      call.futureId = msgId ∧ call.request ≠ .postNetMsgUseServerRelay

def CalledBy (state : RelayedMessages) (post : Post) (call : ServerCall) : Prop :=
  ∃ client, state.clients[post.client]? = some client ∧
    client.mgr.calls[post.call]? = some call ∧ call.futureId = post.message.msgId ∧
      call.request = .postNetMsgUseServerRelay

def UpSound (state : RelayedMessages) (client : Nat) (up : Option Nat × BusFrame) : Prop :=
  match up.1 with
  | some index => ∃ post call, state.posts[index]? = some post ∧ post.client = client ∧
      up.2 = post.message.frame ∧ state.CalledBy post call ∧ call.unsent = false
  | none => up.2.1.1.bodyType ≠ BodyType.reqSendmsg ∧ state.FreeId client up.2.1.1.msgId

def DownSound (state : RelayedMessages) (client : Nat) (down : Cause × BusFrame) : Prop :=
  match down.1 with
  | .relayed task => ∃ post, state.postOf task.number = some post ∧
      down.2.1.2 = post.message.frame.1.2 ∧ down.2.1.1.bodyType = BodyType.reqSendmsg
  | .sendmsgRsp number retCode => ∃ post, state.postOf number = some post ∧
      post.client = client ∧ sendmsgRsp post.message.msgId retCode = some down.2 ∧
        (number, retCode) ∈ state.relay.answers
  | .other => down.2.1.1.bodyType ≠ BodyType.reqSendmsg ∧ state.FreeId client down.2.1.1.msgId

-- What onRead of a client hands on of a frame.
def rspView (frame : MsgBusPackHead × Bytes) : UInt32 × UInt32 × Bytes :=
  (frame.1.msgId, frame.1.bodyType, frame.2)

structure ConnSound (setting : RelaySetting) (state : RelayedMessages) (index : Nat)
    (conn : ServerConn) : Prop where
  ups : ∀ up ∈ conn.ups, state.UpSound conn.client up
  server : conn.server.Follows writtenFrames id (conn.ups.map Prod.snd)
  downs : ∀ down ∈ conn.downs, state.DownSound conn.client down
  receiver : conn.receiver.Follows writtenFrames rspView (conn.downs.map Prod.snd)
  sent : conn.relayed.Sublist
    ((state.relay.sent.filter fun call => call.2 == index).map Prod.fst)
  posted : ∃ read : List (SendMsg × Post),
    read.map Prod.fst =
      (conn.downs.take conn.receiver.taken).filterMap (fun down => down.1.task) ∧
    (∀ pair ∈ read, state.postOf pair.1.number = some pair.2) ∧
    conn.posted = read.filterMap fun pair =>
      pair.2.message.localMessage (setting.filters conn.client)

def Carries (state : RelayedMessages) (conn position index : Nat) : Prop :=
  ∃ connection frame, state.conns[conn]? = some connection ∧
    connection.ups[position]? = some (some index, frame)

def RequestSound (state : RelayedMessages) (request : SendMsgRequest) : Prop :=
  ∃ conn index post frame, state.conns[request.conn]? = some conn ∧
    request.position < conn.server.taken ∧
    conn.ups[request.position]? = some (some index, frame) ∧ state.posts[index]? = some post ∧
    post.client = conn.client ∧ request.msgId = post.message.msgId ∧
    request.frame.1.2 = post.message.frame.1.2 ∧
    request.frame.1.1.bodyType = BodyType.reqSendmsg

def TaskSound (state : RelayedMessages) (task : SendMsg) : Prop :=
  ∃ post request, state.postOf task.number = some post ∧
    state.requests[task.number]? = some request ∧
      task.destName = text post.message.destName ∧ task.data = writtenFrames.encode request.frame

def HeardSound (state : RelayedMessages) (client : Nat) (said : UInt32 × ServerRsp) : Prop :=
  (∃ number post retCode, state.postOf number = some post ∧ post.client = client ∧
    post.message.msgId = said.1 ∧ (number, retCode) ∈ state.relay.answers ∧
      ∀ registered, (said.2.answer registered).1 = false → retCode = 0) ∨
    state.FreeId client said.1

structure Sound (setting : RelaySetting) (state : RelayedMessages) : Prop where
  clients : ∀ client ∈ state.clients, ClientSound client
  posts : ∀ post ∈ state.posts, ∃ call, state.CalledBy post call
  postsApart : (state.posts.map fun post => (post.client, post.call)).Nodup
  conns : ∀ index conn, state.conns[index]? = some conn → ConnSound setting state index conn
  carriedOnce : ∀ conn position other place index, state.Carries conn position index →
    state.Carries other place index → conn = other ∧ position = place
  requests : ∀ request ∈ state.requests, state.RequestSound request
  requestsApart : (state.requests.map fun request => (request.conn, request.position)).Nodup
  next : state.relay.next = state.requests.length
  numbered : state.relay.Numbered
  conserved : state.relay.Conserved
  accepts : state.relay.Accepts
  knows : state.relay.Knows state.TaskSound
  others : ∀ other ∈ state.others, ∃ conn, state.conns[other.1]? = some conn ∧
    state.FreeId conn.client other.2
  heard : ∀ (index : Nat) (client : RelayClient), state.clients[index]? = some client →
    ∀ said ∈ client.heard, state.HeardSound index said

variable {setting : RelaySetting} {state later : RelayedMessages}

theorem Extends.postIndex (grows : state.Extends later) {number index : Nat}
    (found : state.postIndex number = some index) : later.postIndex number = some index := by
  simp only [RelayedMessages.postIndex, Option.bind_eq_some_iff] at found ⊢
  obtain ⟨request, asked, conn, there, up, carried, post⟩ := found
  obtain ⟨after, afterThere, _, ups, _⟩ := grows.conns request.conn conn there
  exact ⟨request, InPlace.found_in_prefix grows.requests asked, after, afterThere, up,
    InPlace.found_in_prefix ups carried, post⟩

theorem Extends.postOf (grows : state.Extends later) {number : Nat} {post : Post}
    (found : state.postOf number = some post) : later.postOf number = some post := by
  simp only [RelayedMessages.postOf, Option.bind_eq_some_iff] at found ⊢
  obtain ⟨index, carried, there⟩ := found
  exact ⟨index, grows.postIndex carried, InPlace.found_in_prefix grows.posts there⟩

theorem Extends.freeId (grows : state.Extends later) {client : Nat} {msgId : UInt32}
    (free : state.FreeId client msgId) : later.FreeId client msgId := by
  refine free.imp_right ?_
  rintro ⟨sender, index, call, there, called, same, other⟩
  obtain ⟨after, afterThere, kept⟩ := grows.clients client sender there
  obtain ⟨afterCall, afterCalled, futureId, request, _⟩ := kept index call called
  exact ⟨after, index, afterCall, afterThere, afterCalled, futureId.trans same, request ▸ other⟩

theorem Extends.calledBy (grows : state.Extends later) {post : Post} {call : ServerCall}
    (called : state.CalledBy post call) :
    ∃ after, later.CalledBy post after ∧ (after.unsent = true → call.unsent = true) := by
  obtain ⟨client, there, found, same, request⟩ := called
  obtain ⟨after, afterThere, kept⟩ := grows.clients post.client client there
  obtain ⟨afterCall, afterFound, futureId, sameRequest, unsent⟩ := kept post.call call found
  exact ⟨afterCall, ⟨after, afterThere, afterFound, futureId.trans same,
    sameRequest.trans request⟩, unsent⟩

theorem Extends.upSound (grows : state.Extends later) {client : Nat}
    {up : Option Nat × BusFrame} (sound : state.UpSound client up) : later.UpSound client up := by
  unfold UpSound at sound ⊢
  split at sound
  · obtain ⟨post, call, asked, own, frame, called, sent⟩ := sound
    obtain ⟨after, afterCalled, unsent⟩ := grows.calledBy called
    refine ⟨post, after, InPlace.found_in_prefix grows.posts asked, own, frame, afterCalled, ?_⟩
    exact Bool.eq_false_iff.mpr fun left => by simp [unsent left] at sent
  · exact ⟨sound.1, grows.freeId sound.2⟩

theorem Extends.downSound (grows : state.Extends later) {client : Nat}
    {down : Cause × BusFrame} (sound : state.DownSound client down) :
    later.DownSound client down := by
  unfold DownSound at sound ⊢
  split at sound
  · obtain ⟨post, carried, body⟩ := sound
    exact ⟨post, grows.postOf carried, body⟩
  · obtain ⟨post, carried, own, made, answered⟩ := sound
    exact ⟨post, grows.postOf carried, own, made, grows.answers.subset answered⟩
  · exact ⟨sound.1, grows.freeId sound.2⟩

theorem Extends.connSound (grows : state.Extends later) {index : Nat} {conn : ServerConn}
    (sound : ConnSound setting state index conn) : ConnSound setting later index conn where
  ups := fun up member => grows.upSound (sound.ups up member)
  server := sound.server
  downs := fun down member => grows.downSound (sound.downs down member)
  receiver := sound.receiver
  sent := sound.sent.trans ((grows.sent.sublist.filter _).map _)
  posted := by
    obtain ⟨read, tasks, carried, posted⟩ := sound.posted
    exact ⟨read, tasks, fun pair member => grows.postOf (carried pair member), posted⟩

theorem Extends.requestSound (grows : state.Extends later) {request : SendMsgRequest}
    (sound : state.RequestSound request) : later.RequestSound request := by
  obtain ⟨conn, index, post, frame, there, before, carried, asked, own, rest⟩ := sound
  obtain ⟨after, afterThere, client, ups, taken⟩ := grows.conns request.conn conn there
  exact ⟨after, index, post, frame, afterThere, before.trans_le taken,
    InPlace.found_in_prefix ups carried, InPlace.found_in_prefix grows.posts asked,
    own.trans client.symm, rest⟩

theorem Extends.taskSound (grows : state.Extends later) {task : SendMsg}
    (sound : state.TaskSound task) : later.TaskSound task := by
  obtain ⟨post, request, carried, asked, rest⟩ := sound
  exact ⟨post, request, grows.postOf carried, InPlace.found_in_prefix grows.requests asked, rest⟩

theorem Extends.heardSound (grows : state.Extends later) {client : Nat}
    {said : UInt32 × ServerRsp} (sound : state.HeardSound client said) :
    later.HeardSound client said := by
  rcases sound with ⟨number, post, retCode, carried, own, msgId, answered, noError⟩ | free
  · exact .inl ⟨number, post, retCode, grows.postOf carried, own, msgId,
      grows.answers.subset answered, noError⟩
  · exact .inr (grows.freeId free)

theorem Extends.carries (grows : state.Extends later) {conn position index : Nat}
    (carried : state.Carries conn position index) : later.Carries conn position index := by
  obtain ⟨connection, frame, there, up⟩ := carried
  obtain ⟨after, afterThere, _, ups, _⟩ := grows.conns conn connection there
  exact ⟨after, frame, afterThere, InPlace.found_in_prefix ups up⟩

theorem RequestSound.postOf {number : Nat} {request : SendMsgRequest}
    (asked : state.requests[number]? = some request) (sound : state.RequestSound request) :
    ∃ conn post, state.conns[request.conn]? = some conn ∧ state.postOf number = some post ∧
      post.client = conn.client ∧ request.msgId = post.message.msgId ∧
        request.frame.1.2 = post.message.frame.1.2 ∧
          request.frame.1.1.bodyType = BodyType.reqSendmsg := by
  obtain ⟨conn, index, post, frame, there, _, carried, posted, own, rest⟩ := sound
  refine ⟨conn, post, there, ?_, own, rest⟩
  simp only [RelayedMessages.postOf, postIndex, asked, there, carried, posted, Option.bind_some]

end Sound

end RelayedMessages
end MessageBus.System
