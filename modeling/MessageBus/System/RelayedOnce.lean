import MessageBus.Server.RelayOnce
import MessageBus.System.RelayedConns

set_option autoImplicit false

namespace MessageBus.System

open Bytes Client Content Framing Inbound Messages Outbound Readers Server Streams

namespace RelayedMessages

variable {setting : RelaySetting} {state following : RelayedMessages}

section Carried

theorem carries_same (ups : following.conns.map ServerConn.ups = state.conns.map ServerConn.ups)
    {conn position index : Nat} (carried : following.Carries conn position index) :
    state.Carries conn position index := by
  obtain ⟨connection, frame, there, up⟩ := carried
  have found : (following.conns.map ServerConn.ups)[conn]? = some connection.ups := by
    rw [List.getElem?_map, there, Option.map_some]
  rw [ups, List.getElem?_map] at found
  obtain ⟨before, beforeThere, same⟩ := Option.map_eq_some_iff.mp found
  exact ⟨before, frame, beforeThere, same ▸ up⟩

theorem carries_set {number : Nat} {connection : ServerConn} {up : Option Nat × BusFrame}
    (found : state.conns[number]? = some connection)
    (changed : following.conns =
      state.conns.set number { connection with ups := connection.ups ++ [up] })
    {conn position index : Nat} (carried : following.Carries conn position index) :
    state.Carries conn position index ∨
      up.1 = some index ∧ conn = number ∧ position = connection.ups.length := by
  obtain ⟨after, frame, there, here⟩ := carried
  rw [changed] at there
  rcases Transition.found_in_set there with ⟨rfl, rfl⟩ | ⟨_, before⟩
  · rcases Transition.found_in_concat here with older | ⟨last, same⟩
    · exact .inl ⟨connection, frame, found, older⟩
    · exact .inr ⟨same ▸ rfl, rfl, last⟩
  · exact .inl ⟨after, frame, before, here⟩

theorem conns_ups {number : Nat} {connection changed : ServerConn}
    (found : state.conns[number]? = some connection) (same : changed.ups = connection.ups) :
    (state.conns.set number changed).map ServerConn.ups = state.conns.map ServerConn.ups :=
  Transition.map_set_same found same

theorem Sound.not_carried (sound : Sound setting state) {index : Nat} {post : Post}
    {sender : RelayClient} {call : ServerCall} (asked : state.posts[index]? = some post)
    (sends : state.clients[post.client]? = some sender)
    (there : sender.mgr.calls[post.call]? = some call) (unsent : call.unsent = true)
    (conn position : Nat) : ¬ state.Carries conn position index := by
  rintro ⟨connection, frame, found, up⟩
  have carried := (sound.conns conn connection found).ups _ (List.mem_of_getElem? up)
  obtain ⟨other, after, otherAsked, _, _, called, sent⟩ := carried
  cases asked.symm.trans otherAsked
  obtain ⟨client, clientThere, callThere, _⟩ := called
  cases sends.symm.trans clientThere
  cases there.symm.trans callThere
  cases unsent.symm.trans sent

theorem move_carries (sound : Sound setting state) (move : Move setting state following) :
    ∃ added : Option (Nat × Nat × Nat),
      (∀ conn position index, following.Carries conn position index →
        state.Carries conn position index ∨ added = some (conn, position, index)) ∧
      ∀ conn position index, added = some (conn, position, index) →
        ∀ other place, ¬ state.Carries other place index := by
  have nothing (ups : following.conns.map ServerConn.ups = state.conns.map ServerConn.ups) :
      ∃ added : Option (Nat × Nat × Nat),
        (∀ conn position index, following.Carries conn position index →
          state.Carries conn position index ∨ added = some (conn, position, index)) ∧
        ∀ conn position index, added = some (conn, position, index) →
          ∀ other place, ¬ state.Carries other place index :=
    ⟨none, fun _ _ _ carried => .inl (carries_same ups carried), fun _ _ _ new => by cases new⟩
  cases move with
  | start | client | posted | relay | dropped => exact nothing rfl
  | connect client =>
    refine ⟨none, ?_, fun _ _ _ new => by cases new⟩
    rintro conn position index ⟨connection, frame, there, up⟩
    rcases Transition.found_in_concat there with before | ⟨_, rfl⟩
    · exact .inl ⟨connection, frame, before, up⟩
    · cases up
  | sendData number conn accepted post sender connection mgr asked sends found own taken =>
    cases accepted with
    | false => exact nothing rfl
    | true =>
      refine ⟨some (conn, connection.ups.length, number), ?_, ?_⟩
      · intro other position index carried
        refine (carries_set found rfl carried).imp_right ?_
        rintro ⟨same, rfl, rfl⟩
        cases same
        rfl
      · intro _ _ index new
        cases new
        obtain ⟨call, next, there, goes, _⟩ := ServerConnMgr.call_goes taken
        exact sound.not_carried asked sends there (goes.sendData true rfl).1
  | sendOther conn call frame connection client found =>
    refine ⟨none, ?_, fun _ _ _ new => by cases new⟩
    intro other position index carried
    refine (carries_set found rfl carried).imp_right ?_
    rintro ⟨⟨⟩, _⟩
  | serverOnRead conn chunk connection server found => exact nothing (conns_ups found rfl)
  | queueSendMsg conn connection head relayed server destination frame relay found =>
    exact nothing (conns_ups found rfl)
  | queueOther conn connection head body server found => exact nothing (conns_ups found rfl)
  | answered event relay connection number retCode request frame noRead taken answers asked found =>
    exact nothing (conns_ups found rfl)
  | relayed event relay conn connection task request noRead taken sent asked found =>
    exact nothing (conns_ups found rfl)
  | answeredOther index frame other connection waits found => exact nothing (conns_ups found rfl)
  | serverRspProcess conn chunk connection receiver found => exact nothing (conns_ups found rfl)
  | handleReqSendMsg conn connection msgId bodyType relayed receiver posted found =>
    exact nothing (conns_ups found rfl)
  | heard conn connection client msgId bodyType body receiver rsp mgr found =>
    exact nothing (conns_ups found rfl)

theorem move_carriedOnce (sound : Sound setting state) (move : Move setting state following)
    (conn position other place index : Nat) (one : following.Carries conn position index)
    (two : following.Carries other place index) : conn = other ∧ position = place := by
  obtain ⟨added, either, unsent⟩ := move_carries sound move
  rcases either conn position index one with before | new
  · rcases either other place index two with otherBefore | otherNew
    · exact sound.carriedOnce conn position other place index before otherBefore
    · exact absurd before (unsent other place index otherNew conn position)
  · rcases either other place index two with otherBefore | otherNew
    · exact absurd otherBefore (unsent conn position index new other place)
    · cases new.symm.trans otherNew
      exact ⟨rfl, rfl⟩

end Carried

section Requests

theorem Sound.takes_post (sound : Sound setting state) {number : Nat} {connection : ServerConn}
    {head : MsgBusPackHead} {body : Bytes} {server : StreamEnd (MsgBusPackHead × Bytes)}
    (found : state.conns[number]? = some connection)
    (next : connection.server.next = some ((head, body), server))
    (sendmsg : head.bodyType = BodyType.reqSendmsg) :
    ∃ index post frame, connection.ups[connection.server.taken]? = some (some index, frame) ∧
      state.posts[index]? = some post ∧ post.client = connection.client ∧
      body = post.message.frame.1.2 ∧ head.msgId = post.message.msgId := by
  obtain ⟨_, ⟨carried, frame⟩, there, same⟩ := (sound.conns number connection found).takeUp next
  obtain ⟨rfl, rfl⟩ := Prod.mk.inj same
  have up := (sound.conns number connection found).ups _ (List.mem_of_getElem? there)
  cases carried with
  | none => exact absurd sendmsg up.1
  | some index =>
    obtain ⟨post, _, asked, own, rfl, _⟩ := up
    exact ⟨index, post, _, there, asked, own, rfl, post.message.body.2.2.2⟩

theorem Sound.takes_other (sound : Sound setting state) {number : Nat} {connection : ServerConn}
    {head : MsgBusPackHead} {body : Bytes} {server : StreamEnd (MsgBusPackHead × Bytes)}
    (found : state.conns[number]? = some connection)
    (next : connection.server.next = some ((head, body), server))
    (other : ¬ (head.msgType = 0 ∧ head.bodyType = BodyType.reqSendmsg)) :
    state.FreeId connection.client head.msgId := by
  obtain ⟨_, ⟨carried, frame⟩, there, same⟩ := (sound.conns number connection found).takeUp next
  obtain ⟨rfl, rfl⟩ := Prod.mk.inj same
  have up := (sound.conns number connection found).ups _ (List.mem_of_getElem? there)
  cases carried with
  | none => exact up.2
  | some index =>
    obtain ⟨post, _, _, _, rfl, _⟩ := up
    exact absurd ⟨post.message.body.2.1, post.message.body.2.2.1⟩ other

theorem move_requests (sound : Sound setting state) (move : Move setting state following) :
    (∀ request ∈ following.requests, following.RequestSound request) ∧
      (following.requests.map fun request => (request.conn, request.position)).Nodup ∧
        following.relay.next = following.requests.length := by
  have grows := move_extends move
  have kept : ∀ request ∈ state.requests, following.RequestSound request :=
    fun request member => grows.requestSound (sound.requests request member)
  cases move with
  | queueSendMsg conn connection head relayed server destination frame relay found next sendmsg
      made taken =>
    obtain ⟨index, post, up, carried, asked, own, body, msgId⟩ :=
      sound.takes_post found next sendmsg
    obtain ⟨_, sameBody, kind⟩ := forwarded_message body made
    refine ⟨?_, ?_, ?_⟩
    · intro request member
      rcases List.mem_append.mp member with older | new
      · exact kept request older
      · obtain rfl := List.mem_singleton.mp new
        refine ⟨{ connection with server }, index, post, up, ?_, ?_, carried, asked, own, msgId,
          sameBody, kind⟩
        · exact List.getElem?_set_self (List.getElem?_eq_some_iff.mp found).1
        · simp only [StreamEnd.next_taken next]
          exact Nat.lt_succ_self _
    · -- What was taken from the connection before lies in front of the new frame.
      rw [List.map_append, List.map_singleton]
      refine List.Nodup.append sound.requestsApart (List.nodup_singleton _)
        (List.disjoint_singleton.mpr ?_)
      intro again
      obtain ⟨request, member, same⟩ := List.mem_map.mp again
      obtain ⟨sameConn, samePosition⟩ := Prod.mk.inj same
      obtain ⟨other, _, _, _, there, before, _⟩ := sound.requests request member
      rw [sameConn, found] at there
      cases there
      exact Nat.lt_irrefl _ (samePosition ▸ before)
    · cases taken
      simp only [List.length_append, List.length_singleton, sound.next]
  | relay event relay noRead taken | answered event relay _ _ _ _ _ noRead taken
  | relayed event relay _ _ _ _ noRead taken =>
    exact ⟨kept, sound.requestsApart,
      (Relay.move_next (Relay.step_moves taken) noRead).trans sound.next⟩
  | _ => exact ⟨kept, sound.requestsApart, sound.next⟩

end Requests

section Tasks

theorem Sound.relayed (sound : Sound setting state) (grows : state.Extends following)
    {event : RelayEvent} {relay : Relay} (taken : state.relay.step event = some relay)
    (read : ∀ addr destName data, event = .read addr destName data →
      following.TaskSound { number := state.relay.next, addr, destName, data }) :
    relay.Numbered ∧ relay.Conserved ∧ relay.Accepts ∧ relay.Knows following.TaskSound := by
  have move := Relay.step_moves taken
  have knows := sound.knows.imp fun _ => grows.taskSound
  exact ⟨Relay.move_numbered sound.numbered move, Relay.move_conserved sound.conserved move,
    Relay.step_accepts sound.accepts taken, Relay.move_knows sound.conserved knows read move⟩

theorem move_tasks (sound : Sound setting state) (move : Move setting state following) :
    following.relay.Numbered ∧ following.relay.Conserved ∧ following.relay.Accepts ∧
      following.relay.Knows following.TaskSound := by
  have grows := move_extends move
  cases move with
  | queueSendMsg conn connection head relayed server destination frame relay found next sendmsg
      made taken =>
    refine sound.relayed grows taken ?_
    rintro _ _ _ ⟨⟩
    obtain ⟨index, post, up, carried, asked, own, body, msgId⟩ :=
      sound.takes_post found next sendmsg
    obtain ⟨sameDest, _, _⟩ := forwarded_message body made
    refine ⟨post, { conn, position := connection.server.taken, msgId := head.msgId, frame }, ?_, ?_,
      sameDest, rfl⟩
    · have there : (state.conns.set conn { connection with server })[conn]? =
          some { connection with server } :=
        List.getElem?_set_self (List.getElem?_eq_some_iff.mp found).1
      simp only [postOf, postIndex, sound.next, List.getElem?_concat_length, Option.bind_some,
        there, carried, asked]
    · rw [sound.next]
      exact List.getElem?_concat_length
  | relay event relay noRead taken | answered event relay _ _ _ _ _ noRead taken
  | relayed event relay _ _ _ _ noRead taken =>
    exact sound.relayed grows taken fun addr destName data read =>
      absurd read (noRead addr destName data)
  | _ =>
    exact ⟨sound.numbered, sound.conserved, sound.accepts,
      sound.knows.imp fun _ => grows.taskSound⟩

end Tasks

section Heard

theorem move_others (sound : Sound setting state) (move : Move setting state following) :
    ∀ other ∈ following.others, ∃ conn, following.conns[other.1]? = some conn ∧
      following.FreeId conn.client other.2 := by
  have grows := move_extends move
  have kept : ∀ other ∈ state.others, ∃ conn, following.conns[other.1]? = some conn ∧
      following.FreeId conn.client other.2 := by
    intro other member
    obtain ⟨conn, there, free⟩ := sound.others other member
    obtain ⟨after, afterThere, client, _⟩ := grows.conns other.1 conn there
    exact ⟨after, afterThere, client ▸ grows.freeId free⟩
  cases move with
  | queueOther conn connection head body server found next other =>
    intro answerable member
    rcases List.mem_append.mp member with older | new
    · exact kept answerable older
    · obtain rfl := List.mem_singleton.mp new
      refine ⟨{ connection with server }, ?_, ?_⟩
      · exact List.getElem?_set_self (List.getElem?_eq_some_iff.mp found).1
      · have free := sound.takes_other found next other
        exact grows.freeId free
  | answeredOther | dropped =>
    exact fun other member => kept other (List.mem_of_mem_eraseIdx member)
  | _ => exact kept

theorem DownSound.heard {client : Nat} {down : Cause × BusFrame} {rsp : ServerRsp}
    (caused : state.DownSound client down) (other : down.2.1.1.bodyType ≠ BodyType.reqSendmsg)
    (read : setting.rspOf down.2.1.1.bodyType down.2.1.2 = some rsp) :
    state.HeardSound client (down.2.1.1.msgId, rsp) := by
  unfold DownSound at caused
  split at caused
  next task _ =>
    obtain ⟨_, _, _, sendmsg⟩ := caused
    exact absurd sendmsg other
  next number retCode _ =>
    obtain ⟨post, carried, own, made, answered⟩ := caused
    obtain ⟨msgId, bodyType, errMsg, sendMsg⟩ := sendmsgRsp_read made
    rw [RelaySetting.rspOf, if_pos bodyType, sendMsg] at read
    cases read
    refine .inl ⟨number, post, retCode, carried, own, msgId.symm, answered, ?_⟩
    intro registered noError
    by_contra failed
    simp [ServerRsp.answer, failed] at noError
  next => exact .inr caused.2

theorem heard_set {number : Nat} {changed : RelayClient}
    (kept : ∀ (index : Nat) (client : RelayClient), state.clients[index]? = some client →
      ∀ said ∈ client.heard, following.HeardSound index said)
    (own : ∀ said ∈ changed.heard, following.HeardSound number said)
    (index : Nat) (client : RelayClient)
    (there : (state.clients.set number changed)[index]? = some client) :
    ∀ said ∈ client.heard, following.HeardSound index said := by
  rcases Transition.found_in_set there with ⟨rfl, rfl⟩ | ⟨_, older⟩
  · exact own
  · exact kept index client older

theorem move_heard (sound : Sound setting state) (move : Move setting state following) :
    ∀ (index : Nat) (client : RelayClient), following.clients[index]? = some client →
      ∀ said ∈ client.heard, following.HeardSound index said := by
  have grows := move_extends move
  have kept : ∀ (index : Nat) (client : RelayClient), state.clients[index]? = some client →
      ∀ said ∈ client.heard, following.HeardSound index said :=
    fun index client there said member =>
      grows.heardSound (sound.heard index client there said member)
  cases move with
  | start =>
    intro index client there
    rcases Transition.found_in_concat there with older | ⟨_, rfl⟩
    · exact kept index client older
    · exact fun said member => by cases member
  | client index event client mgr found => exact heard_set kept (kept index client found)
  | posted client index now message sender mgr found =>
    exact heard_set kept (kept client sender found)
  | sendData index conn accepted post sender connection mgr asked sends =>
    exact heard_set kept (kept post.client sender sends)
  | heard conn connection client msgId bodyType body receiver rsp mgr found hears next other read =>
    refine heard_set kept ?_
    intro said member
    rcases List.mem_append.mp member with older | new
    · exact kept connection.client client hears said older
    · obtain rfl := List.mem_singleton.mp new
      obtain ⟨down, there, caused, same, _⟩ := (sound.conns conn connection found).nextDown next
      obtain ⟨rfl, rfl, rfl⟩ := rspView_eq same
      exact grows.heardSound (caused.heard other read)
  | _ => exact kept

end Heard

section Runs

theorem sound_initial : Sound setting initial := by
  constructor
  case numbered => exact Relay.numbered_initial
  case conserved => exact Relay.conserved_initial
  case accepts => exact Relay.accepts_initial
  case knows => exact Relay.knows_initial
  case carriedOnce =>
    rintro conn position other place index ⟨connection, frame, there, _⟩
    cases there
  all_goals simp [initial, Relay.initial]

theorem move_sound (sound : Sound setting state) (move : Move setting state following) :
    Sound setting following := by
  obtain ⟨posts, postsApart⟩ := move_posts sound move
  obtain ⟨requests, requestsApart, next⟩ := move_requests sound move
  obtain ⟨numbered, conserved, accepts, knows⟩ := move_tasks sound move
  exact {
    clients := move_clients sound.clients move
    posts, postsApart
    conns := move_conns sound move
    carriedOnce := move_carriedOnce sound move
    requests, requestsApart, next, numbered, conserved, accepts, knows
    others := move_others sound move
    heard := move_heard sound move }

theorem sound_of_reachable (reached : Transition.Reachable (step setting) initial state) :
    Sound setting state :=
  reached.invariant (Sound setting) sound_initial
    fun _ _ _ sound _ taken => move_sound sound (step_moves taken)

theorem Sound.numbers_apart (sound : Sound setting state) {first second index : Nat}
    (one : state.postIndex first = some index) (two : state.postIndex second = some index) :
    first = second := by
  simp only [postIndex, Option.bind_eq_some_iff] at one two
  obtain ⟨request, asked, conn, there, ⟨_, frame⟩, up, rfl⟩ := one
  obtain ⟨other, otherAsked, otherConn, otherThere, ⟨_, otherFrame⟩, otherUp, rfl⟩ := two
  obtain ⟨sameConn, samePosition⟩ := sound.carriedOnce request.conn request.position other.conn
    other.position _ ⟨conn, frame, there, up⟩ ⟨otherConn, otherFrame, otherThere, otherUp⟩
  exact Transition.index_of_value sound.requestsApart asked otherAsked
    (Prod.ext sameConn samePosition)

theorem Sound.once (sound : Sound setting state) :
    (state.relay.queued.map fun task => state.postIndex task.number).Nodup := by
  have numbers : (state.relay.queued.map SendMsg.number).Nodup := sound.numbered.distinct
  refine List.Nodup.map_on ?_ numbers.of_map
  intro first member second otherMember same
  obtain ⟨post, request, carried, _⟩ := sound.knows.queued first member
  obtain ⟨index, leads, _⟩ := Option.bind_eq_some_iff.mp carried
  exact List.inj_on_of_nodup_map numbers member otherMember
    (sound.numbers_apart leads (same.symm.trans leads))

theorem Sound.own (sound : Sound setting state) (task : SendMsg)
    (queued : task ∈ state.relay.queued) : ∃ (post : Post) (frame : BusFrame),
      state.postOf task.number = some post ∧ task.destName = text post.message.destName ∧
        task.data = writtenFrames.encode frame ∧ frame.1.2 = post.message.frame.1.2 := by
  obtain ⟨post, request, carried, asked, destName, data⟩ := sound.knows.queued task queued
  obtain ⟨_, other, _, otherCarried, _, _, body, _⟩ :=
    (sound.requests request (List.mem_of_getElem? asked)).postOf asked
  cases carried.symm.trans otherCarried
  exact ⟨post, request.frame, carried, destName, data, body⟩

theorem ConnSound.inTurn {index : Nat} {conn : ServerConn}
    (sound : ConnSound setting state index conn) :
    ∃ read, read <+: conn.relayed ∧
      conn.posted = read.filterMap (state.localMessage setting conn.client) ∧
      (conn.receiver.received = writtenFrames.stream (conn.downs.map Prod.snd) →
        conn.receiver.frames = [] → read = conn.relayed) := by
  obtain ⟨read, tasks, carried, posted⟩ := sound.posted
  refine ⟨read.map Prod.fst, ?_, ?_, ?_⟩
  · rw [tasks]
    exact (List.take_prefix _ _).filterMap _
  · rw [posted, List.filterMap_map]
    refine List.filterMap_congr fun pair member => ?_
    simp only [Function.comp_apply, localMessage, carried pair member, Option.bind_some]
  · intro came empty
    have all := sound.receiver.all_taken came empty
    rw [List.length_map] at all
    rw [tasks, all, List.take_length]
    rfl

theorem Sound.returned (sound : Sound setting state) {index : Nat} {post : Post}
    {client : RelayClient} {call : ServerCall} (asked : state.posts[index]? = some post)
    (there : state.clients[post.client]? = some client)
    (called : client.mgr.calls[post.call]? = some call)
    (few : client.mgr.calls.length ≤ FutureMgr.idPeriod) (phase : call.phase = .returned true) :
    ∃ task ∈ state.relay.queued, state.postIndex task.number = some index := by
  obtain ⟨counted, idOf, answered⟩ := sound.clients client (List.mem_of_getElem? there)
  obtain ⟨own, _, ownThere, ownCalled, _, request⟩ := sound.posts post (List.mem_of_getElem? asked)
  cases there.symm.trans ownThere
  cases called.symm.trans ownCalled
  have member := List.mem_of_getElem? called
  obtain ⟨rsp, registered, heard, noError⟩ := answered.returned call member request phase
  rcases sound.heard post.client client there _ heard with
    ⟨number, other, retCode, carried, sameClient, msgId, said, accepted⟩ | zero |
      ⟨sender, place, otherCall, senderThere, otherCalled, sameId, notPost⟩
  · cases accepted registered noError
    obtain ⟨place, leads, otherAsked⟩ := Option.bind_eq_some_iff.mp carried
    obtain ⟨otherCall, sender, senderThere, otherCalled, otherId, _⟩ :=
      sound.posts other (List.mem_of_getElem? otherAsked)
    rw [sameClient, there] at senderThere
    cases senderThere
    have sameCall := counted.ids_apart few otherCalled called (otherId.trans msgId)
    have samePost := Transition.index_of_value sound.postsApart otherAsked asked
      (Prod.ext sameClient sameCall)
    obtain ⟨task, queued, rfl⟩ := List.mem_map.mp (sound.accepts.answers number said)
    exact ⟨task, queued, samePost ▸ leads⟩
  · exact absurd zero (counted.nonzero call member)
  · cases there.symm.trans senderThere
    have sameCall := counted.ids_apart few otherCalled called sameId
    subst sameCall
    cases called.symm.trans otherCalled
    exact absurd request notPost

theorem messages_relayed_once
    (reached : Transition.Reachable (step setting) initial state) : state.RelayedOnce setting := by
  have sound := sound_of_reachable reached
  constructor
  · exact sound.once
  · exact sound.own
  · exact sound.knows.sent
  · intro index conn there
    have connSound := sound.conns index conn there
    exact ⟨connSound.sent, connSound.inTurn⟩
  · intro index post client call asked there called few phase
    exact sound.returned asked there called few phase

-- Two clients that the server knows as "A" and "B": a message from the one to the other.
def ofTwo : RelaySetting :=
  { filters := fun _ => { includeSenders := [], excludeMsgids := [] }
    otherRsp := fun _ _ => none }

def sendmsgHead (msgId : UInt8) : Bytes :=
  [0x66, 0, 1, 0, 0, 0, 0, msgId, 0, 1, 0, 4, 0, 0, 0, 141]

def sendmsgContent : Bytes :=
  66 :: List.replicate 63 0 ++ 65 :: List.replicate 63 0 ++
    [0, 0, 0, 9, 1, 66, 1, 109, 0, 0, 0, 1, 5]

def oneMessage : List Event :=
  [.start, .start, .connect 0, .connect 1, .client 0 (.setServerConnecting true),
    .client 0 (.setServerTcp true), .client 0 (.request .postNetMsgUseServerRelay),
    .relay (.table (Registry.registerEvent 0 [65] 80)),
    .relay (.table (Registry.registerEvent 1 [66] 81)),
    .postNetMsgUseServerRelay 0 0 0 [65] [66] [109] ⟨{ paramdata := [5], paramlen := 1 }, rfl⟩,
    .client 0 (.call 0 .testServerTcp), .sendData 0 0 true,
    .serverOnRead 0 (sendmsgHead 1 ++ sendmsgContent.take 50),
    .serverOnRead 0 (sendmsgContent.drop 50),
    .queueWorkTask 0 (padded [] _) (padded [] _) [0], .relay .take, .work 0 3 true,
    .work 0 3 true, .work 0 3 true, .work 0 3 true, .process Relay.firstOnes true,
    .process Relay.firstOnes true, .process Relay.firstOnes true, .process Relay.firstOnes true,
    .serverRspProcess 0 [0x66, 0, 1, 1, 0, 0, 0, 1, 0, 2, 0, 4, 0, 0, 0, 5, 0, 0, 0, 1, 0],
    .processRspBody 0 (padded [] _) (padded [] _) [0], .client 0 .setAnswer,
    .client 0 (.call 0 .join), .client 0 (.call 0 .readContent),
    .serverRspProcess 1 (sendmsgHead 0 ++ sendmsgContent),
    .processRspBody 1 (padded [] _) (padded [] _) [0]]

theorem oneMessage_arrives : (Transition.run (step ofTwo) initial oneMessage).map (fun state =>
    (state.clients.map fun client => client.mgr.calls.map ServerCall.phase,
      state.conns.map ServerConn.posted)) =
    some ([[.returned true], []], [[], [([109], [5])]]) := by decide +kernel

theorem messages_relayed_once_oneMessage : ∃ state : RelayedMessages,
    Transition.run (step ofTwo) initial oneMessage = some state ∧
      state.conns.map ServerConn.posted = [[], [([109], [5])]] ∧ state.RelayedOnce ofTwo := by
  obtain ⟨state, ran, found⟩ := Option.map_eq_some_iff.mp oneMessage_arrives
  obtain ⟨_, posted⟩ := Prod.mk.inj found
  exact ⟨state, ran, posted, messages_relayed_once (.run .start oneMessage ran)⟩

end Runs

end RelayedMessages
end MessageBus.System
