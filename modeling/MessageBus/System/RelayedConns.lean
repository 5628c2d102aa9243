import MessageBus.System.RelayedSound

set_option autoImplicit false

namespace MessageBus.System

open Bytes Client Content Framing Inbound Messages Outbound Readers Server Streams

namespace RelayedMessages

section Moves

variable {setting : RelaySetting} {state following : RelayedMessages}

section Clients

theorem clientSound_step {client after : RelayClient} {event : ServerConnMgr.Event}
    (sound : ClientSound client) (taken : client.mgr.step event = some after.mgr)
    (heard : after.heard = ServerConnMgr.heardAfter client.heard event) : ClientSound after := by
  obtain ⟨counted, idOf, answered⟩ := sound
  exact ⟨ServerConnMgr.step_counted counted taken,
    heard ▸ ServerConnMgr.step_answered answered taken⟩

theorem clients_set {index : Nat} {client after : RelayClient} {event : ServerConnMgr.Event}
    (sound : ∀ client ∈ state.clients, ClientSound client)
    (found : state.clients[index]? = some client) (taken : client.mgr.step event = some after.mgr)
    (heard : after.heard = ServerConnMgr.heardAfter client.heard event) :
    ∀ client ∈ state.clients.set index after, ClientSound client := by
  intro other member
  rcases List.mem_or_eq_of_mem_set member with older | rfl
  · exact sound other older
  · exact clientSound_step (sound client (List.mem_of_getElem? found)) taken heard

theorem move_clients (sound : ∀ client ∈ state.clients, ClientSound client)
    (move : Move setting state following) : ∀ client ∈ following.clients, ClientSound client := by
  cases move with
  | start =>
    intro client member
    rcases List.mem_append.mp member with older | new
    · exact sound client older
    · rw [List.mem_singleton.mp new]
      exact ⟨ServerConnMgr.counted_initial, _, ServerConnMgr.answered_initial⟩
  | client index event client mgr found stays taken =>
    refine clients_set sound found taken ?_
    cases event with
    | rsp => cases stays
    | _ => rfl
  | posted client index now message sender mgr found starts msgId taken =>
    exact clients_set sound found taken rfl
  | sendData index conn accepted post sender connection mgr asked sends found own taken =>
    exact clients_set sound sends taken rfl
  | heard conn connection client msgId bodyType body receiver rsp mgr found hears next other read
      taken => exact clients_set sound hears taken rfl
  | _ => exact sound

end Clients

section Posts

theorem move_posts (sound : Sound setting state) (move : Move setting state following) :
    (∀ post ∈ following.posts, ∃ call, following.CalledBy post call) ∧
      (following.posts.map fun post => (post.client, post.call)).Nodup := by
  have grows := move_extends move
  have kept : ∀ post ∈ state.posts, ∃ call, following.CalledBy post call := by
    intro post member
    obtain ⟨call, called⟩ := sound.posts post member
    obtain ⟨after, afterCalled, _⟩ := grows.calledBy called
    exact ⟨after, afterCalled⟩
  cases move with
  | posted client index now message sender mgr found starts msgId taken =>
    obtain ⟨call, request, _, futureId, calls, _⟩ := ServerConnMgr.insertFuture_calls taken
    constructor
    · intro post member
      rcases List.mem_append.mp member with older | new
      · exact kept post older
      · obtain rfl := List.mem_singleton.mp new
        refine ⟨call, { sender with mgr }, ?_, ?_, futureId.trans msgId.symm, ?_⟩
        · exact List.getElem?_set_self (List.getElem?_eq_some_iff.mp found).1
        · simp only [calls, List.getElem?_concat_length]
        · exact Option.some.inj (request.symm.trans starts)
    · -- The calls of the older posts come before the new one.
      rw [List.map_append, List.map_singleton]
      refine List.Nodup.append sound.postsApart (List.nodup_singleton _)
        (List.disjoint_singleton.mpr ?_)
      intro again
      obtain ⟨post, member, same⟩ := List.mem_map.mp again
      obtain ⟨sameClient, sameCall⟩ := Prod.mk.inj same
      obtain ⟨_, other, there, called, _⟩ := sound.posts post member
      rw [sameClient, found] at there
      cases there
      have before := (List.getElem?_eq_some_iff.mp called).1
      rw [sameCall] at before
      exact Nat.lt_irrefl _ before
  | _ => exact ⟨kept, sound.postsApart⟩

end Posts

section Conns

variable {index : Nat} {conn : ServerConn}

theorem connSound_connect (client : Nat) :
    ConnSound setting state index (.connect client) where
  ups := fun _ member => by cases member
  server := StreamEnd.follows_initial _
  downs := fun _ member => by cases member
  receiver := StreamEnd.follows_initial _
  sent := List.nil_sublist _
  posted := ⟨[], rfl, fun _ member => (List.not_mem_nil member).elim, rfl⟩

theorem ConnSound.sendUp (sound : ConnSound setting state index conn)
    {up : Option Nat × BusFrame} (carried : state.UpSound conn.client up) :
    ConnSound setting state index { conn with ups := conn.ups ++ [up] } := by
  refine { sound with ups := ?_, server := ?_ }
  · intro other member
    rcases List.mem_append.mp member with older | new
    · exact sound.ups other older
    · exact List.mem_singleton.mp new ▸ carried
  · rw [List.map_append]
    exact sound.server.more _

theorem ConnSound.readUp {chunk : Bytes} {server : StreamEnd (MsgBusPackHead × Bytes)}
    (sound : ConnSound setting state index conn)
    (arrived : conn.server.received ++ chunk <+: writtenFrames.stream (conn.ups.map Prod.snd))
    (taken : conn.server.read (handleRead (serverOnRead fun head body frames =>
      frames ++ [(head, body)])) chunk = some server) :
    ConnSound setting state index { conn with server } := by
  rw [serverOnRead_correct, handleRead_consume] at taken
  refine { sound with server := sound.server.read ?_ arrived taken }
  intro frames frame
  rw [writtenFrames_frameOf]
  have filled : frame.1.1.bodyLen.toNat ≠ 0 := by
    rw [← frame.2.1]
    exact fun empty => frame.2.2 (List.length_eq_zero_iff.mp empty)
  exact if_neg filled

theorem ConnSound.readDown {chunk : Bytes} {receiver : StreamEnd (UInt32 × UInt32 × Bytes)}
    (sound : ConnSound setting state index conn)
    (arrived : conn.receiver.received ++ chunk <+:
      writtenFrames.stream (conn.downs.map Prod.snd))
    (taken : conn.receiver.read (handleRead (Readers.serverRspProcess
      fun msgId bodyType body frames => frames ++ [(msgId, bodyType, body)])) chunk =
        some receiver) : ConnSound setting state index { conn with receiver } := by
  rw [serverRspProcess_correct, handleRead_consume] at taken
  have same := StreamEnd.read_taken taken
  refine { sound with receiver := sound.receiver.read ?_ arrived taken, posted := ?_ }
  · intro frames frame
    rfl
  · simp only [same]
    exact sound.posted

theorem ConnSound.sendDown {down : Cause × BusFrame} (sound : ConnSound setting state index conn)
    (caused : state.DownSound conn.client down)
    (sent : (conn.relayed ++ down.1.task.toList).Sublist
      ((state.relay.sent.filter fun call => call.2 == index).map Prod.fst)) :
    ConnSound setting state index { conn with downs := conn.downs ++ [down] } := by
  have within : conn.receiver.taken ≤ conn.downs.length := by
    simpa only [List.length_map] using sound.receiver.taken_le
  refine { sound with downs := ?_, receiver := ?_, sent := ?_, posted := ?_ }
  · intro other member
    rcases List.mem_append.mp member with older | new
    · exact sound.downs other older
    · exact List.mem_singleton.mp new ▸ caused
  · rw [List.map_append]
    exact sound.receiver.more _
  · simp only [ServerConn.relayed, List.filterMap_append] at sent ⊢
    cases task : down.1.task <;> simpa [task] using sent
  · rw [List.take_append_of_le_length within]
    exact sound.posted

theorem ConnSound.takeUp {frame : MsgBusPackHead × Bytes}
    {server : StreamEnd (MsgBusPackHead × Bytes)} (sound : ConnSound setting state index conn)
    (next : conn.server.next = some (frame, server)) :
    ConnSound setting state index { conn with server } ∧
      ∃ up, conn.ups[conn.server.taken]? = some up ∧ frame = up.2.1 := by
  obtain ⟨message, there, same, follows⟩ := sound.server.next next
  rw [List.getElem?_map, Option.map_eq_some_iff] at there
  obtain ⟨up, found, rfl⟩ := there
  refine ⟨{ sound with server := follows }, up, found, ?_⟩
  rw [same, writtenFrames_frameOf]
  rfl

theorem ConnSound.nextDown {frame : UInt32 × UInt32 × Bytes}
    {receiver : StreamEnd (UInt32 × UInt32 × Bytes)} (sound : ConnSound setting state index conn)
    (next : conn.receiver.next = some (frame, receiver)) :
    ∃ down, conn.downs[conn.receiver.taken]? = some down ∧ state.DownSound conn.client down ∧
      frame = rspView down.2.1 ∧
      receiver.Follows writtenFrames rspView (conn.downs.map Prod.snd) := by
  obtain ⟨message, there, same, follows⟩ := sound.receiver.next next
  rw [List.getElem?_map, Option.map_eq_some_iff] at there
  obtain ⟨down, found, rfl⟩ := there
  refine ⟨down, found, sound.downs down (List.mem_of_getElem? found), ?_, follows⟩
  rw [same, writtenFrames_frameOf]

theorem rspView_eq {msgId bodyType : UInt32} {body : Bytes} {frame : MsgBusPackHead × Bytes}
    (same : (msgId, bodyType, body) = rspView frame) :
    msgId = frame.1.msgId ∧ bodyType = frame.1.bodyType ∧ body = frame.2 := by
  cases same
  exact ⟨rfl, rfl, rfl⟩

theorem DownSound.relayed {client : Nat} {down : Cause × BusFrame}
    (caused : state.DownSound client down)
    (sendmsg : down.2.1.1.bodyType = BodyType.reqSendmsg) :
    ∃ task, down.1.task = some task ∧ ∃ post, state.postOf task.number = some post ∧
      down.2.1.2 = post.message.frame.1.2 := by
  unfold DownSound at caused
  split at caused
  next task isTask =>
    obtain ⟨post, carried, body, _⟩ := caused
    exact ⟨task, congrArg Cause.task isTask, post, carried, body⟩
  next number retCode _ =>
    obtain ⟨_, _, _, made, _⟩ := caused
    have rsp := (sendmsgRsp_read made).2.1
    rw [sendmsg] at rsp
    cases rsp
  next => exact absurd sendmsg caused.1

theorem DownSound.other {client : Nat} {down : Cause × BusFrame}
    (caused : state.DownSound client down)
    (other : down.2.1.1.bodyType ≠ BodyType.reqSendmsg) : down.1.task = none := by
  unfold DownSound at caused
  split at caused
  next task _ =>
    obtain ⟨_, _, _, sendmsg⟩ := caused
    exact absurd sendmsg other
  next number retCode isRsp => exact congrArg Cause.task isRsp
  next isOther => exact congrArg Cause.task isOther

theorem take_next {Item : Type} {list : List Item} {taken : Nat} {item : Item}
    (found : list[taken]? = some item) : list.take (taken + 1) = list.take taken ++ [item] := by
  rw [List.take_add_one, found]
  rfl

theorem ConnSound.takeOther {down : Cause × BusFrame}
    {receiver : StreamEnd (UInt32 × UInt32 × Bytes)} (sound : ConnSound setting state index conn)
    (found : conn.downs[conn.receiver.taken]? = some down) (noTask : down.1.task = none)
    (taken : receiver.taken = conn.receiver.taken + 1)
    (follows : receiver.Follows writtenFrames rspView (conn.downs.map Prod.snd)) :
    ConnSound setting state index { conn with receiver } := by
  refine { sound with receiver := follows, posted := ?_ }
  obtain ⟨read, tasks, carried, posted⟩ := sound.posted
  refine ⟨read, ?_, carried, posted⟩
  rw [taken, take_next found, List.filterMap_append, ← tasks]
  simp [noTask]

theorem ConnSound.takeRelayed {down : Cause × BusFrame} {task : SendMsg} {post : Post}
    {receiver : StreamEnd (UInt32 × UInt32 × Bytes)} (sound : ConnSound setting state index conn)
    (found : conn.downs[conn.receiver.taken]? = some down) (isTask : down.1.task = some task)
    (ofPost : state.postOf task.number = some post)
    (taken : receiver.taken = conn.receiver.taken + 1)
    (follows : receiver.Follows writtenFrames rspView (conn.downs.map Prod.snd)) :
    ConnSound setting state index
      { conn with
        receiver
        posted := conn.posted ++
          (post.message.localMessage (setting.filters conn.client)).toList } := by
  refine { sound with receiver := follows, posted := ?_ }
  obtain ⟨read, tasks, carried, posted⟩ := sound.posted
  refine ⟨read ++ [(task, post)], ?_, ?_, ?_⟩
  · rw [taken, take_next found, List.filterMap_append, List.map_append, tasks]
    simp [isTask]
  · intro pair member
    rcases List.mem_append.mp member with older | new
    · exact carried pair older
    · rw [List.mem_singleton.mp new]
      exact ofPost
  · rw [posted, List.filterMap_append]
    congr 1

theorem conns_set (sound : ∀ index conn, state.conns[index]? = some conn →
      ConnSound setting following index conn) (changed : ServerConn)
    (own : ConnSound setting following index changed) :
    ∀ other conn, (state.conns.set index changed)[other]? = some conn →
      ConnSound setting following other conn := by
  intro other found there
  rcases Transition.found_in_set there with ⟨rfl, rfl⟩ | ⟨_, before⟩
  · exact own
  · exact sound other found before

theorem sendData_upSound {number : Nat} {accepted : Bool} {post : Post} {sender : RelayClient}
    {mgr : ServerConnMgr} (sound : Sound setting state)
    (grows : state.Extends following) (asked : state.posts[number]? = some post)
    (sends : state.clients[post.client]? = some sender)
    (changed : following.clients = state.clients.set post.client { sender with mgr })
    (taken : sender.mgr.step (.call post.call (.sendData accepted)) = some mgr) :
    following.UpSound post.client (some number, post.message.frame) := by
  obtain ⟨call, next, there, goes, rfl⟩ := ServerConnMgr.call_goes taken
  obtain ⟨other, client, clientThere, called, futureId, request⟩ :=
    sound.posts post (List.mem_of_getElem? asked)
  cases sends.symm.trans clientThere
  cases there.symm.trans called
  refine ⟨post, next, InPlace.found_in_prefix grows.posts asked, rfl, rfl, ?_,
    (goes.sendData accepted rfl).2⟩
  refine ⟨{ sender with mgr := { sender.mgr with calls := sender.mgr.calls.set post.call next } },
    ?_, ?_, goes.futureId.trans futureId, goes.request.trans request⟩
  · rw [changed]
    exact List.getElem?_set_self (List.getElem?_eq_some_iff.mp sends).1
  · exact List.getElem?_set_self (List.getElem?_eq_some_iff.mp there).1

theorem otherId_free {client : RelayClient} {number : Nat} {call : Option Nat} {msgId : UInt32}
    (there : state.clients[number]? = some client)
    (other : client.otherId call = some msgId) : state.FreeId number msgId := by
  cases call with
  | none => exact .inl (Option.some.inj other).symm
  | some place =>
    obtain ⟨found, called, own⟩ := Option.bind_eq_some_iff.mp other
    split at own <;> cases own
    next notPost => exact .inr ⟨client, place, found, there, called, rfl, notPost⟩

theorem move_conns (sound : Sound setting state) (move : Move setting state following) :
    ∀ index conn, following.conns[index]? = some conn →
      ConnSound setting following index conn := by
  have grows := move_extends move
  have kept : ∀ index conn, state.conns[index]? = some conn →
      ConnSound setting following index conn :=
    fun index conn there => grows.connSound (sound.conns index conn there)
  cases move with
  | start | client | posted | relay | dropped => exact kept
  | connect client =>
    intro index conn there
    rcases Transition.found_in_concat there with before | ⟨rfl, rfl⟩
    · exact kept index conn before
    · exact connSound_connect client
  | sendData index conn accepted post sender connection mgr asked sends found own taken =>
    have carried := sendData_upSound sound grows asked sends rfl taken
    cases accepted with
    | true => exact conns_set kept _ ((kept conn connection found).sendUp (own ▸ carried))
    | false => exact kept
  | sendOther conn call frame connection client found sends other msgId =>
    refine conns_set kept _ ((kept conn connection found).sendUp ?_)
    exact ⟨other, grows.freeId (otherId_free sends msgId)⟩
  | serverOnRead conn chunk connection server found arrived taken =>
    exact conns_set kept _ ((kept conn connection found).readUp arrived taken)
  | queueSendMsg conn connection head relayed server destination frame relay found next =>
    exact conns_set kept _ ((kept conn connection found).takeUp next).1
  | queueOther conn connection head body server found next =>
    exact conns_set kept _ ((kept conn connection found).takeUp next).1
  | answered event relay connection number retCode request frame noRead taken answers asked found
      made =>
    obtain ⟨conn, post, there, carried, own, msgId, _⟩ :=
      (sound.requests request (List.mem_of_getElem? asked)).postOf asked
    cases found.symm.trans there
    have before := kept request.conn connection found
    refine conns_set kept _ (before.sendDown ?_ ?_)
    · exact ⟨post, grows.postOf carried, own, msgId ▸ made, answers⟩
    · simpa [Cause.task] using before.sent
  | relayed event relay conn connection task request noRead taken sent asked found =>
    obtain ⟨_, post, _, carried, _, _, body, sendmsg⟩ :=
      (sound.requests request (List.mem_of_getElem? asked)).postOf asked
    refine conns_set kept _ ((kept conn connection found).sendDown ?_ ?_)
    · exact ⟨post, grows.postOf carried, body, sendmsg⟩
    · have before := (sound.conns conn connection found).sent
      simp only [sent, List.filter_append, List.map_append]
      exact before.append (by simp [Cause.task])
  | answeredOther index frame other connection waits found kind msgId =>
    obtain ⟨conn, there, free⟩ := sound.others other (List.mem_of_getElem? waits)
    cases found.symm.trans there
    have before := kept other.1 connection found
    refine conns_set kept _ (before.sendDown ⟨kind, ?_⟩ ?_)
    · exact grows.freeId (msgId ▸ free)
    · simpa [Cause.task] using before.sent
  | serverRspProcess conn chunk connection receiver found arrived taken =>
    exact conns_set kept _ ((kept conn connection found).readDown arrived taken)
  | handleReqSendMsg conn connection msgId bodyType relayed receiver posted found next sendmsg
      handled =>
    have before := kept conn connection found
    have taken := StreamEnd.next_taken next
    obtain ⟨down, there, caused, same, follows⟩ := before.nextDown next
    obtain ⟨_, sameType, sameBody⟩ := rspView_eq same
    obtain ⟨task, isTask, post, carried, body⟩ := caused.relayed (sameType ▸ sendmsg)
    rw [handleReqSendMsg_message _ (sameBody.trans body)] at handled
    cases handled
    exact conns_set kept _ (before.takeRelayed there isTask carried taken follows)
  | heard conn connection client msgId bodyType body receiver rsp mgr found hears next other =>
    have before := kept conn connection found
    have taken := StreamEnd.next_taken next
    obtain ⟨down, there, caused, same, follows⟩ := before.nextDown next
    exact conns_set kept _ (before.takeOther there
      (caused.other ((rspView_eq same).2.1 ▸ other)) taken follows)

end Conns

end Moves

end RelayedMessages
end MessageBus.System
