import MessageBus.System.DirectCalls

set_option autoImplicit false

namespace MessageBus.System

open Bytes Client Content Framing Inbound Local Outbound Readers Streams

section Contents

variable {msgid msgsender : Bytes} {param content : Payload}

theorem generate_content (generated : DirectCalls.generate msgid param msgsender = some content) :
    encodedLen msgid param.1 msgsender < 2 ^ 32 ∧
      content.1.paramdata = (generateNetMsgContent msgid param.1 msgsender).content := by
  unfold DirectCalls.generate at generated
  by_cases fits : encodedLen msgid param.1 msgsender < 2 ^ 32
  · have ran := Writing.run_eq (netmsgData_size msgid param.1 msgsender)
      (netmsgData_length msgid param.2 msgsender)
    rw [if_pos fits] at ran
    have made : BusClient.generateContent msgid param.1 msgsender =
        .ok (generateNetMsgContent msgid param.1 msgsender) := by
      rw [BusClient.generateContent, ran]
      rfl
    rw [made] at generated
    simp only at generated
    split at generated <;> cases generated
    next sized => exact ⟨fits, (List.take_of_length_le (Nat.le_of_eq sized)).symm⟩
  · rw [BusClient.generateContent_wraps msgid msgsender param.2 fits] at generated
    cases generated

theorem localMessage_generated {filters : FilterMgr} {posted : Bytes × Bytes}
    (generated : DirectCalls.generate msgid param msgsender = some content)
    (passed : filters.localMessage content.1.paramdata = .ok (some posted)) :
    posted.1 = keptName msgid ∧ posted.2 = param.1.paramdata := by
  obtain ⟨fits, made⟩ := generate_content generated
  have readId := getMsgId_generated msgid param.1 msgsender param.2 fits
  have readParam := getMsgParam_generated msgid param.1 msgsender param.2 fits
  rw [made] at passed
  simp only [FilterMgr.localMessage, FilterMgr.checkMsgId, readId, ok_bind] at passed
  by_cases allowed : filters.byMsgId (keptName msgid) = true
  · simp only [allowed, if_true, pure, Except.pure, readParam] at passed
    cases passed
    exact ⟨rfl, rfl⟩
  · simp only [allowed] at passed
    cases passed

end Contents

section Calls

def unsent (call : Call) : Bool :=
  match call.phase with
  | .created | .connected | .writing _ => true
  | _ => false

theorem move_unsent {call : Call} {mgr : FutureMgr} {event : CallEvent} {next : Call × FutureMgr}
    (taken : call.step mgr event = some next) (left : unsent next.1 = true) :
    unsent call = true := by
  cases Call.step_moves taken with
  | connected created | notConnected created => simp [unsent, created]
  | getFuture connected => simp [unsent, connected]
  | removeFuture removals => cases removals <;> cases left
  | _ => cases left

theorem sendData_unsent {call : Call} {mgr : FutureMgr} {ok : Bool} {next : Call × FutureMgr}
    (taken : call.step mgr (.sendData ok) = some next) :
    unsent call = true ∧ unsent next.1 = false := by
  cases Call.step_moves taken with
  | sendFailed _ writing | posted _ writing | noFuture writing | sent _ writing =>
    exact ⟨by simp [unsent, writing], rfl⟩

def CallsKept (calls later : List Call) : Prop :=
  ∀ (index : Nat) (call : Call), calls[index]? = some call → ∃ after, later[index]? = some after ∧
    after.futureId = call.futureId ∧ (unsent after = true → unsent call = true)

theorem CallsKept.refl (calls : List Call) : CallsKept calls calls :=
  fun _ call there => ⟨call, there, rfl, id⟩

theorem callsKept_append (calls more : List Call) : CallsKept calls (calls ++ more) :=
  fun _ call there => ⟨call, (List.getElem?_append_left
    (List.getElem?_eq_some_iff.mp there).1).trans there, rfl, id⟩

theorem callsKept_set {calls : List Call} {index : Nat} {call : Call} {mgr : FutureMgr}
    {event : CallEvent} {next : Call × FutureMgr} (there : calls[index]? = some call)
    (taken : call.step mgr event = some next) : CallsKept calls (calls.set index next.1) := by
  intro other found otherThere
  by_cases same : index = other
  · subst same
    cases there.symm.trans otherThere
    have inside := (List.getElem?_eq_some_iff.mp there).1
    exact ⟨next.1, List.getElem?_set_self inside, (Call.step_frame taken).2.1, move_unsent taken⟩
  · exact ⟨found, (List.getElem?_set_ne same).trans otherThere, rfl, id⟩

variable {client later : Req2ReceiverMgr}

theorem callStep_calls {index : Nat} {event : CallEvent}
    (taken : client.step (.call index event) = some later) :
    ∃ call next, client.calls[index]? = some call ∧ call.step client.futureMgr event = some next ∧
      later.calls = client.calls.set index next.1 ∧ later.arrivals = client.arrivals := by
  simp only [Req2ReceiverMgr.step, Option.bind_eq_some_iff, Option.map_eq_some_iff] at taken
  obtain ⟨call, there, next, moved, rfl⟩ := taken
  exact ⟨call, next, there, moved, rfl, rfl⟩

theorem local_calls {event : Client.Event} (stays : DirectCalls.isLocal event = true)
    (taken : client.step event = some later) :
    CallsKept client.calls later.calls ∧ later.calls.length = client.calls.length ∧
      later.arrivals = client.arrivals := by
  cases event with
  | setRunning | clearBadFuture =>
    cases taken
    exact ⟨.refl _, rfl, rfl⟩
  | call index event =>
    obtain ⟨call, next, there, moved, calls, arrivals⟩ := callStep_calls taken
    rw [calls]
    exact ⟨callsKept_set there moved, List.length_set, arrivals⟩
  | store conn =>
    simp only [Req2ReceiverMgr.step] at taken
    split at taken <;> cases taken
    exact ⟨.refl _, rfl, rfl⟩
  | callback conn =>
    simp only [Req2ReceiverMgr.step] at taken
    split at taken
    · obtain ⟨_, _, rfl⟩ := Option.map_eq_some_iff.mp taken
      exact ⟨.refl _, rfl, rfl⟩
    · cases taken
  | sendMsgDirectToClient | postMsgDirectToClient | frame => cases stays

theorem begun_calls {sync callback : Bool} {destIp : Bytes} {now : Int}
    (taken : client.step (if sync then .sendMsgDirectToClient destIp now
      else .postMsgDirectToClient destIp callback now) = some later) :
    later.arrivals = client.arrivals ∧
      (later.calls = client.calls ∨ ∃ call, later.calls = client.calls ++ [call]) := by
  cases sync with
  | true =>
    simp only [if_true, Req2ReceiverMgr.step] at taken
    split at taken <;> cases taken
    · exact ⟨rfl, .inl rfl⟩
    · exact ⟨rfl, .inr ⟨_, rfl⟩⟩
  | false =>
    simp only [Bool.false_eq_true, if_false, Req2ReceiverMgr.step] at taken
    split at taken <;> cases taken
    · exact ⟨rfl, .inl rfl⟩
    · exact ⟨rfl, .inr ⟨_, rfl⟩⟩

theorem frame_calls {conn : ConnId} {futureSid : UInt32} {pdata : Bytes}
    (taken : client.step (.frame conn futureSid pdata) = some later) :
    later.calls = client.calls ∧ ∀ arrival ∈ later.arrivals, arrival ∈ client.arrivals ∨
      arrival.futureSid = futureSid ∧ arrival.pdata = pdata := by
  have arrives {arrivals : List Arrival} {inTable : Bool} {arrival : Arrival}
      (member : arrival ∈ arrivals ++ [⟨futureSid, pdata, inTable⟩]) : arrival ∈ arrivals ∨
        arrival.futureSid = futureSid ∧ arrival.pdata = pdata := by
    rcases List.mem_append.mp member with older | newer
    · exact .inl older
    · obtain rfl := List.mem_singleton.mp newer
      exact .inr ⟨rfl, rfl⟩
  simp only [Req2ReceiverMgr.step] at taken
  split at taken
  · cases taken
  · split at taken <;> cases taken
    · exact ⟨rfl, fun _ => arrives⟩
    · exact ⟨rfl, fun _ => arrives⟩

end Calls

section ClientSide

def MadeBy (client : Req2ReceiverMgr) (requests : List Request) (task : SizedTask) : Prop :=
  ∃ (index : Nat) (call : Call) (request : Request), client.calls[index]? = some call ∧
    requests[index]? = some request ∧ call.futureId = task.1.futureId ∧ unsent call = false ∧
      task.1.data = request.content.1.paramdata

def futureIds (sends : List (Int × SizedTask)) : List UInt32 :=
  (sends.map fun entry => entry.2.1.futureId).filter (· ≠ 0)

structure ClientSide (client : Req2ReceiverMgr) (requests : List Request)
    (sends : List (Int × SizedTask)) : Prop where
  reached : Transition.Reachable Req2ReceiverMgr.step .initial client
  paired : requests.length = client.calls.length
  generated : ∀ request ∈ requests,
    DirectCalls.generate request.msgid request.param request.msgsender = some request.content
  made : ∀ entry ∈ sends, entry.2.1.futureId ≠ 0 → MadeBy client requests entry.2
  sentOnce : (futureIds sends).Nodup

variable {client later : Req2ReceiverMgr} {requests : List Request}
  {sends : List (Int × SizedTask)}

theorem ids_apart (reached : Transition.Reachable Req2ReceiverMgr.step .initial client)
    (few : client.futureMgr.futures.length < FutureMgr.idPeriod) {index other : Nat}
    {call found : Call} (there : client.calls[index]? = some call)
    (otherThere : client.calls[other]? = some found) (same : call.futureId = found.futureId) :
    index = other := by
  obtain ⟨life, follows⟩ := Req2ReceiverMgr.reachable_follows reached few
  have own := (follows.own index call there).2
  rw [same, (follows.own other found otherThere).2] at own
  exact (Nat.succ.inj own).symm

theorem MadeBy.kept {task : SizedTask} {more : List Request} (made : MadeBy client requests task)
    (kept : CallsKept client.calls later.calls) : MadeBy later (requests ++ more) task := by
  obtain ⟨index, call, request, there, asked, same, sent, data⟩ := made
  obtain ⟨after, afterThere, afterSame, stays⟩ := kept index call there
  refine ⟨index, after, request, afterThere, ?_, afterSame.trans same, ?_, data⟩
  · exact (List.getElem?_append_left (List.getElem?_eq_some_iff.mp asked).1).trans asked
  · exact Bool.eq_false_iff.mpr fun left => by simp [stays left] at sent

theorem ClientSide.advance {event : Client.Event} (side : ClientSide client requests sends)
    (taken : client.step event = some later) (kept : CallsKept client.calls later.calls)
    (same : later.calls.length = client.calls.length) : ClientSide later requests sends := by
  refine ⟨.next event side.reached trivial taken, side.paired.trans same.symm, side.generated, ?_,
    side.sentOnce⟩
  intro entry member future
  have made : MadeBy later (requests ++ []) entry.2 := (side.made entry member future).kept kept
  rwa [List.append_nil] at made

theorem ClientSide.begun {sync callback : Bool} {destIp : Bytes} {now : Int} {request : Request}
    (side : ClientSide client requests sends)
    (generated : DirectCalls.generate request.msgid request.param request.msgsender =
      some request.content)
    (taken : client.step (if sync then .sendMsgDirectToClient destIp now
      else .postMsgDirectToClient destIp callback now) = some later) :
    ClientSide later
      (if later.calls.length = client.calls.length then requests else requests ++ [request])
      sends := by
  rcases (begun_calls taken).2 with same | ⟨call, grown⟩
  · rw [if_pos (congrArg List.length same)]
    exact side.advance taken (same ▸ .refl _) (congrArg List.length same)
  · have longer : later.calls.length = client.calls.length + 1 := by
      rw [grown, List.length_append, List.length_singleton]
    rw [if_neg (by omega)]
    refine ⟨.next _ side.reached trivial taken, ?_, ?_, ?_, side.sentOnce⟩
    · rw [List.length_append, List.length_singleton, longer, side.paired]
    · intro other member
      rcases List.mem_append.mp member with older | newer
      · exact side.generated other older
      · rw [List.mem_singleton.mp newer]
        exact generated
    · intro entry member future
      exact (side.made entry member future).kept (grown ▸ callsKept_append _ _)

theorem ClientSide.identiySelf {fd : Int} {task : SizedTask}
    (side : ClientSide client requests sends) (noFuture : task.1.futureId = 0) :
    ClientSide client requests (sends ++ [(fd, task)]) := by
  refine ⟨side.reached, side.paired, side.generated, ?_, ?_⟩
  · intro entry member future
    rcases List.mem_append.mp member with older | newer
    · exact side.made entry older future
    · rw [List.mem_singleton.mp newer] at future
      exact absurd noFuture future
  · simpa [futureIds, noFuture] using side.sentOnce

theorem ClientSide.sendData {index : Nat} {accepted : Bool} {call : Call} {request : Request}
    {fd : Int} (side : ClientSide client requests sends)
    (few : client.futureMgr.futures.length < FutureMgr.idPeriod)
    (found : client.calls[index]? = some call) (asked : requests[index]? = some request)
    (taken : client.step (.call index (.sendData accepted)) = some later) :
    ClientSide later requests
      (if accepted then sends ++ [(fd, DirectCalls.taskOf call request.content)] else sends) := by
  obtain ⟨sender, next, there, moved, calls, _⟩ := callStep_calls taken
  cases there.symm.trans found
  obtain ⟨before, after⟩ := sendData_unsent moved
  have inside := (List.getElem?_eq_some_iff.mp found).1
  have advanced := side.advance taken (calls ▸ callsKept_set found moved)
    (by rw [calls, List.length_set])
  cases accepted with
  | false => exact advanced
  | true =>
    refine ⟨advanced.reached, advanced.paired, advanced.generated, ?_, ?_⟩
    · intro entry member future
      rcases List.mem_append.mp member with older | newer
      · exact advanced.made entry older future
      · rw [List.mem_singleton.mp newer]
        refine ⟨index, next.1, request, ?_, asked, (Call.step_frame moved).2.1, after, rfl⟩
        rw [calls, List.getElem?_set_self inside]
    · -- What was sent already was sent by other calls, which have other ids.
      have fresh : call.futureId ∉ futureIds sends := by
        intro sent
        obtain ⟨listed, future⟩ := List.mem_filter.mp sent
        obtain ⟨entry, member, same⟩ := List.mem_map.mp listed
        obtain ⟨other, sender, _, otherThere, _, sameId, isSent, _⟩ :=
          side.made entry member (by simpa [same] using future)
        obtain rfl := ids_apart side.reached few found otherThere (sameId.trans same).symm
        cases found.symm.trans otherThere
        rw [before] at isSent
        cases isSent
      have ids : futureIds (sends ++ [(fd, DirectCalls.taskOf call request.content)]) =
          futureIds sends ++ [call.futureId].filter (· ≠ 0) := by
        simp only [futureIds, List.map_append, List.filter_append]
        rfl
      rw [if_pos rfl, ids]
      refine List.Nodup.append side.sentOnce ((List.nodup_singleton _).filter _) ?_
      intro sid older newer
      obtain rfl := List.mem_singleton.mp (List.mem_of_mem_filter newer)
      exact fresh older

end ClientSide

section UpSide

def Sent (sends : List (Int × SizedTask)) (fd : Int) (syncSid : UInt32) (content : Bytes) : Prop :=
  ∃ task, (fd, task) ∈ sends ∧ task.1.futureId = syncSid ∧ task.1.data = content

def handled (receiver : Receiver) (executed : List Execution) : List (Int × UInt32) :=
  receiver.tasks.map (fun task => (task.fd, task.syncSid)) ++
    executed.map fun execution => (execution.fd, execution.syncSid)

structure UpSide (filters : FilterMgr) (sends : List (Int × SizedTask)) (receiver : Receiver)
    (executed : List Execution) : Prop where
  handedOn : receiver.mgr.workTasks = []
  apart : (receiver.channels.map Channel.fd).Nodup
  read : ∀ channel ∈ receiver.channels,
    channel.received <+: writtenTasks.stream (through sends channel.fd)
  left : ∀ channel ∈ receiver.channels, channel.isOpen = true →
    channel.inbuf = sendMsgFormat.tail channel.received
  counted : ∀ channel ∈ receiver.channels, ∀ syncSid,
    (handled receiver executed).count (channel.fd, syncSid) ≤
      ((sendMsgFormat.frames channel.received).map SendMsgFrame.syncSid).count syncSid
  placed : ∀ key ∈ handled receiver executed, key.1 ∈ receiver.channels.map Channel.fd
  queued : ∀ task ∈ receiver.tasks,
    task.syncSid ≠ 0 ∧ Sent sends task.fd task.syncSid task.msgcontent
  ran : ∀ execution ∈ executed, execution.syncSid ≠ 0 ∧ ∃ content,
    Sent sends execution.fd execution.syncSid content ∧
      filters.localMessage content = .ok (some (execution.msgid, execution.msgparam))

variable {filters : FilterMgr} {sends : List (Int × SizedTask)} {receiver following : Receiver}
  {executed : List Execution}

theorem mem_through {fd : Int} {task : SizedTask} :
    task ∈ through sends fd ↔ (fd, task) ∈ sends := by
  simp only [through, List.mem_map, List.mem_filter, beq_iff_eq]
  constructor
  · rintro ⟨entry, ⟨member, rfl⟩, rfl⟩
    exact member
  · exact fun member => ⟨(fd, task), ⟨member, rfl⟩, rfl⟩

theorem stream_extends {Message Frame : Type} (encoding : Encoding Message Frame)
    (accepted more : List (Int × Message)) (fd : Int) :
    encoding.stream (through accepted fd) <+:
      encoding.stream (through (accepted ++ more) fd) := by
  simp only [through, Encoding.stream, List.filter_append, List.map_append, List.flatMap_append]
  exact List.prefix_append _ _

theorem UpSide.moreSends (side : UpSide filters sends receiver executed)
    (more : List (Int × SizedTask)) : UpSide filters (sends ++ more) receiver executed := by
  have grown {fd : Int} {syncSid : UInt32} {content : Bytes}
      (sent : Sent sends fd syncSid content) : Sent (sends ++ more) fd syncSid content := by
    obtain ⟨task, member, same⟩ := sent
    exact ⟨task, List.mem_append_left _ member, same⟩
  refine { side with read := ?_, queued := ?_, ran := ?_ }
  · exact fun channel member => (side.read channel member).trans (stream_extends _ _ more _)
  · exact fun task member => ⟨(side.queued task member).1, grown (side.queued task member).2⟩
  · intro execution member
    obtain ⟨future, content, sent, passed⟩ := side.ran execution member
    exact ⟨future, content, grown sent, passed⟩

theorem frame_sent {fd : Int} {stream : Bytes} {frame : SendMsgFrame}
    (front : stream <+: writtenTasks.stream (through sends fd))
    (member : frame ∈ sendMsgFormat.frames stream) :
    Sent sends fd frame.syncSid frame.msgcontent := by
  obtain ⟨received, isPrefix, frames⟩ := writtenTasks.frames_of_prefix front
  change sendMsgFormat.frames stream = _ at frames
  rw [frames] at member
  obtain ⟨task, inside, rfl⟩ := List.mem_map.mp member
  rw [writtenTasks_frameOf]
  exact ⟨task, mem_through.mp (isPrefix.subset inside), rfl, rfl⟩

theorem queueWorkTask_tasks (mgr : Readers.ReceiverMgr) (fd : Int) (frame : SendMsgFrame) :
    ∃ chosen : List SendMsgFrame, chosen.Sublist [frame] ∧ (∀ frame ∈ chosen, frame.syncSid ≠ 0) ∧
      (mgr.queueWorkTask fd frame.msgcontent frame.syncSid).workTasks =
        mgr.workTasks ++ chosen.map fun frame => (fd, frame.msgcontent, frame.syncSid) := by
  unfold Readers.ReceiverMgr.queueWorkTask
  split
  next future =>
    exact ⟨[frame], .refl _, fun other member => List.mem_singleton.mp member ▸ future, rfl⟩
  next => exact ⟨[], List.nil_sublist _, by simp, by simp⟩

theorem receiverFrame_tasks (includeSenders : List Bytes) (fd : Int) (mgr : Readers.ReceiverMgr)
    (frame : SendMsgFrame) :
    ∃ chosen : List SendMsgFrame, chosen.Sublist [frame] ∧ (∀ frame ∈ chosen, frame.syncSid ≠ 0) ∧
      (receiverFrame includeSenders fd mgr frame).workTasks =
        mgr.workTasks ++ chosen.map fun frame => (fd, frame.msgcontent, frame.syncSid) := by
  unfold receiverFrame
  split
  · exact queueWorkTask_tasks mgr fd frame
  · split
    · exact queueWorkTask_tasks _ fd frame
    · exact ⟨[], List.nil_sublist _, by simp, by simp⟩

theorem frames_tasks (includeSenders : List Bytes) (fd : Int) (frames : List SendMsgFrame)
    (mgr : Readers.ReceiverMgr) :
    ∃ chosen : List SendMsgFrame, chosen.Sublist frames ∧ (∀ frame ∈ chosen, frame.syncSid ≠ 0) ∧
      (frames.foldl (receiverFrame includeSenders fd) mgr).workTasks =
        mgr.workTasks ++ chosen.map fun frame => (fd, frame.msgcontent, frame.syncSid) := by
  induction frames generalizing mgr with
  | nil => exact ⟨[], .refl _, by simp, by simp⟩
  | cons frame rest ih =>
    obtain ⟨first, sublist, future, tasks⟩ := receiverFrame_tasks includeSenders fd mgr frame
    obtain ⟨others, later, otherFuture, otherTasks⟩ :=
      ih (receiverFrame includeSenders fd mgr frame)
    refine ⟨first ++ others, sublist.append later, ?_, ?_⟩
    · intro found member
      rcases List.mem_append.mp member with early | late
      · exact future found early
      · exact otherFuture found late
    · rw [List.foldl_cons, otherTasks, tasks, List.map_append, List.append_assoc]

theorem count_keys (chosen : List SendMsgFrame) (fd other : Int) (syncSid : UInt32) :
    (chosen.map fun frame => (fd, frame.syncSid)).count (other, syncSid) =
      if other = fd then (chosen.map SendMsgFrame.syncSid).count syncSid else 0 := by
  split
  next same =>
    subst same
    rw [← List.count_map_of_injective (chosen.map SendMsgFrame.syncSid) (fun sid => (other, sid))
      (fun _ _ equal => (Prod.mk.inj equal).2), List.map_map]
    rfl
  next different =>
    apply List.count_eq_zero.mpr
    intro member
    obtain ⟨frame, _, same⟩ := List.mem_map.mp member
    exact different (Prod.mk.inj same).1.symm

theorem UpSide.accept {fd : Int} (side : UpSide filters sends receiver executed)
    (free : ∀ channel ∈ receiver.channels, channel.fd ≠ fd) :
    UpSide filters sends
      { receiver with
        channels := receiver.channels ++ [{ fd, isOpen := true, inbuf := [], received := [] }] }
      executed := by
  have empty : sendMsgFormat.first [] = none := writtenTasks.first_nil
  have fresh : fd ∉ receiver.channels.map Channel.fd := by
    intro member
    obtain ⟨channel, inside, same⟩ := List.mem_map.mp member
    exact free channel inside same
  constructor
  case handedOn => exact side.handedOn
  case queued => exact side.queued
  case ran => exact side.ran
  case apart =>
    rw [List.map_append]
    refine List.Nodup.append side.apart (List.nodup_singleton _) ?_
    intro other older newer
    obtain rfl := List.mem_singleton.mp newer
    exact fresh older
  case read =>
    intro channel member
    rcases List.mem_append.mp member with older | newer
    · exact side.read channel older
    · rw [List.mem_singleton.mp newer]
      exact List.nil_prefix
  case left =>
    intro channel member isOpen
    rcases List.mem_append.mp member with older | newer
    · exact side.left channel older isOpen
    · rw [List.mem_singleton.mp newer]
      exact (Format.tail_none _ empty).symm
  case counted =>
    intro channel member syncSid
    rcases List.mem_append.mp member with older | newer
    · exact side.counted channel older syncSid
    · rw [List.mem_singleton.mp newer]
      have none : (handled receiver executed).count (fd, syncSid) = 0 :=
        List.count_eq_zero.mpr fun handled => fresh (side.placed _ handled)
      exact none ▸ Nat.zero_le _
  case placed =>
    intro key member
    rw [List.map_append]
    exact List.mem_append_left _ (side.placed key member)

theorem UpSide.setChannel {index : Nat} {channel changed : Channel}
    (side : UpSide filters sends receiver executed)
    (there : receiver.channels[index]? = some channel)
    {found : Channel} (member : found ∈ receiver.channels.set index changed) :
    found = changed ∨ found ∈ receiver.channels ∧ found.fd ≠ channel.fd := by
  obtain ⟨other, otherThere⟩ := List.getElem?_of_mem member
  rcases Transition.found_in_set otherThere with ⟨_, same⟩ | ⟨different, older⟩
  · exact .inl same
  · exact .inr ⟨List.mem_of_getElem? older, fun sameFd =>
      different (Transition.index_of_value side.apart older there sameFd)⟩

theorem UpSide.change {index : Nat} {channel changed : Channel}
    {fresh chosen : List SendMsgFrame} (recorded : Option Bytes)
    (side : UpSide filters sends receiver executed)
    (there : receiver.channels[index]? = some channel) (sameFd : changed.fd = channel.fd)
    (arrived : changed.received <+: writtenTasks.stream (through sends channel.fd))
    (frames : sendMsgFormat.frames changed.received =
      sendMsgFormat.frames channel.received ++ fresh)
    (left : changed.isOpen = true → changed.inbuf = sendMsgFormat.tail changed.received)
    (sublist : chosen.Sublist fresh) (future : ∀ frame ∈ chosen, frame.syncSid ≠ 0)
    (channels : following.channels = receiver.channels.set index changed)
    (handedOn : following.mgr.workTasks = [])
    (tasks : following.tasks = receiver.tasks ++ chosen.map fun frame =>
      { fd := channel.fd, msgcontent := frame.msgcontent, syncSid := frame.syncSid, recorded }) :
    UpSide filters sends following executed := by
  have member := List.mem_of_getElem? there
  have fds : following.channels.map Channel.fd = receiver.channels.map Channel.fd := by
    rw [channels, Transition.map_set_same there sameFd]
  have keys : handled following executed =
      receiver.tasks.map (fun task => (task.fd, task.syncSid)) ++
        (chosen.map (fun frame => (channel.fd, frame.syncSid)) ++
          executed.map fun execution => (execution.fd, execution.syncSid)) := by
    rw [handled, tasks, List.map_append, List.map_map, List.append_assoc]
    rfl
  have counts (key : Int × UInt32) : (handled following executed).count key =
      (handled receiver executed).count key +
        (chosen.map fun frame => (channel.fd, frame.syncSid)).count key := by
    rw [keys, handled]
    simp only [List.count_append]
    omega
  constructor
  case handedOn => exact handedOn
  case ran => exact side.ran
  case apart => exact fds ▸ side.apart
  case read =>
    intro found inside
    rcases side.setChannel there (channels ▸ inside) with rfl | ⟨older, _⟩
    · exact sameFd ▸ arrived
    · exact side.read found older
  case left =>
    intro found inside foundOpen
    rcases side.setChannel there (channels ▸ inside) with rfl | ⟨older, _⟩
    · exact left foundOpen
    · exact side.left found older foundOpen
  case counted =>
    intro found inside syncSid
    rw [counts, count_keys]
    rcases side.setChannel there (channels ▸ inside) with rfl | ⟨older, different⟩
    · have before := side.counted channel member syncSid
      have more := (sublist.map SendMsgFrame.syncSid).count_le syncSid
      rw [frames, List.map_append, List.count_append, sameFd, if_pos rfl]
      exact Nat.add_le_add before more
    · rw [if_neg different, Nat.add_zero]
      exact side.counted found older syncSid
  case placed =>
    intro key inside
    rw [fds]
    rw [← List.count_pos_iff, counts] at inside
    by_cases older : 0 < (handled receiver executed).count key
    · exact side.placed key (List.count_pos_iff.mp older)
    · have newer : key ∈ chosen.map fun frame => (channel.fd, frame.syncSid) :=
        List.count_pos_iff.mp (by omega)
      obtain ⟨frame, _, rfl⟩ := List.mem_map.mp newer
      exact List.mem_map_of_mem member
  case queued =>
    intro task inside
    rw [tasks] at inside
    rcases List.mem_append.mp inside with older | newer
    · exact side.queued task older
    · obtain ⟨frame, isChosen, rfl⟩ := List.mem_map.mp newer
      refine ⟨future frame isChosen, frame_sent arrived ?_⟩
      rw [frames]
      exact List.mem_append_right _ (sublist.subset isChosen)

theorem UpSide.onRead {index : Nat} {chunk : Bytes} {channel : Channel}
    {result : Nat × Readers.ReceiverMgr} (side : UpSide filters sends receiver executed)
    (there : receiver.channels[index]? = some channel) (isOpen : channel.isOpen = true)
    (arrived : channel.received ++ chunk <+: writtenTasks.stream (through sends channel.fd))
    (ran : receiverOnRead filters.includeSenders channel.fd (channel.inbuf ++ chunk) receiver.mgr =
      some result) :
    UpSide filters sends
      { receiver.handOn channel.fd result.2 with
        channels := receiver.channels.set index (channel.pop chunk result.1) } executed := by
  have inbuf := side.left channel (List.mem_of_getElem? there) isOpen
  rw [receiverOnRead_eq] at ran
  obtain rfl := Option.some.inj ran
  obtain ⟨chosen, sublist, future, tasks⟩ := frames_tasks filters.includeSenders channel.fd
    (sendMsgFormat.frames (channel.inbuf ++ chunk)) receiver.mgr
  rw [side.handedOn, List.nil_append] at tasks
  have frames : sendMsgFormat.frames (channel.received ++ chunk) =
      sendMsgFormat.frames channel.received ++ sendMsgFormat.frames (channel.inbuf ++ chunk) := by
    rw [sendMsgFormat.frames_append, inbuf]
  have rest : (channel.inbuf ++ chunk).drop ((channel.inbuf ++ chunk).length -
      (sendMsgFormat.tail (channel.inbuf ++ chunk)).length) =
        sendMsgFormat.tail (channel.received ++ chunk) := by
    rw [(sendMsgFormat.tail_suffix _).1, inbuf, ← sendMsgFormat.tail_append]
  generalize foldEq : (sendMsgFormat.frames (channel.inbuf ++ chunk)).foldl
    (receiverFrame filters.includeSenders channel.fd) receiver.mgr = mgr at tasks ⊢
  refine side.change mgr.clientSenders[channel.fd]? there ?_ ?_ frames ?_ sublist future rfl rfl ?_
  · rfl
  · exact arrived
  · exact fun _ => rest
  · simp only [Receiver.handOn, tasks, List.map_map]
    rfl

theorem UpSide.close {index : Nat} {channel : Channel}
    (side : UpSide filters sends receiver executed)
    (there : receiver.channels[index]? = some channel) :
    UpSide filters sends
      { receiver with
        channels := receiver.channels.set index { channel with isOpen := false, inbuf := [] } }
      executed := by
  have sameFd : ({ channel with isOpen := false, inbuf := [] } : Channel).fd = channel.fd := rfl
  refine side.change none there sameFd ?_ (List.append_nil _).symm ?_ (.refl []) ?_ rfl
    side.handedOn (List.append_nil _).symm
  · exact side.read channel (List.mem_of_getElem? there)
  · exact fun isOpen => (Bool.false_ne_true isOpen).elim
  · exact fun _ none => (List.not_mem_nil none).elim

theorem UpSide.onClose {fd : Int} (side : UpSide filters sends receiver executed) :
    UpSide filters sends
      { receiver with mgr := { receiver.mgr with
          clientSenders := receiver.mgr.clientSenders.erase fd } } executed :=
  { side with }

theorem rspSendMsg_tasks {index : Nat}
    (taken : receiver.step filters (.rspSendMsg index) = some following) :
    following.mgr = receiver.mgr ∧ following.channels = receiver.channels ∧
      following.tasks = receiver.tasks.eraseIdx index := by
  simp only [Receiver.step, Option.bind_eq_some_iff] at taken
  obtain ⟨task, _, taken⟩ := taken
  split at taken <;> cases taken
  exact ⟨rfl, rfl, rfl⟩

theorem UpSide.sendMsg {index : Nat} {task : RspTask} {more : List Execution}
    (side : UpSide filters sends receiver executed)
    (queued : receiver.tasks[index]? = some task) (single : more.length ≤ 1)
    (own : ∀ execution ∈ more, execution.fd = task.fd ∧ execution.syncSid = task.syncSid ∧
      filters.localMessage task.msgcontent = .ok (some (execution.msgid, execution.msgparam)))
    (mgr : following.mgr = receiver.mgr) (channels : following.channels = receiver.channels)
    (tasks : following.tasks = receiver.tasks.eraseIdx index) :
    UpSide filters sends following (executed ++ more) := by
  obtain ⟨inside, there⟩ := List.getElem?_eq_some_iff.mp queued
  have member : task ∈ receiver.tasks := List.mem_of_getElem? queued
  have counts (key : Int × UInt32) :
      (handled following (executed ++ more)).count key ≤ (handled receiver executed).count key := by
    have removed : (task :: receiver.tasks.eraseIdx index).Perm receiver.tasks :=
      there ▸ List.getElem_cons_eraseIdx_perm inside
    have before := (removed.map fun task => (task.fd, task.syncSid)).count_eq key
    have keys : (more.map fun execution => (execution.fd, execution.syncSid)).Sublist
        [(task.fd, task.syncSid)] := by
      cases more with
      | nil => exact List.nil_sublist _
      | cons execution rest =>
        obtain rfl := List.length_eq_zero_iff.mp (Nat.le_zero.mp (Nat.le_of_succ_le_succ single))
        obtain ⟨sameFd, sameSid, _⟩ := own execution List.mem_cons_self
        rw [List.map_singleton, sameFd, sameSid]
    have run := keys.count_le key
    rw [List.map_cons, List.count_cons] at before
    rw [List.count_singleton] at run
    simp only [handled, tasks, List.map_append, List.count_append]
    omega
  constructor
  case handedOn => exact mgr ▸ side.handedOn
  case apart => exact channels ▸ side.apart
  case read => exact channels ▸ side.read
  case left => exact channels ▸ side.left
  case counted =>
    intro channel found syncSid
    exact (counts _).trans (side.counted channel (channels ▸ found) syncSid)
  case placed =>
    intro key present
    rw [channels]
    rw [← List.count_pos_iff] at present
    exact side.placed key (List.count_pos_iff.mp (Nat.lt_of_lt_of_le present (counts key)))
  case queued =>
    intro other left
    rw [tasks] at left
    exact side.queued other (List.mem_of_mem_eraseIdx left)
  case ran =>
    intro execution present
    rcases List.mem_append.mp present with older | newer
    · exact side.ran execution older
    · obtain ⟨sameFd, sameSid, posted⟩ := own execution newer
      obtain ⟨future, sent⟩ := side.queued task member
      rw [sameFd, sameSid]
      exact ⟨future, task.msgcontent, sent, posted⟩

theorem upSide_initial : UpSide filters [] .initial [] := by
  constructor <;> simp [Receiver.initial, handled]

theorem count_sent (fd : Int) (syncSid : UInt32) :
    (sends.map fun entry => (entry.1, entry.2.1.futureId)).count (fd, syncSid) =
      ((through sends fd).map fun task => task.1.futureId).count syncSid := by
  simp only [through, List.count, List.countP_map, List.countP_filter]
  congr 1
  funext entry
  rw [Bool.eq_iff_iff]
  simp [and_comm]

theorem UpSide.count_executed (side : UpSide filters sends receiver executed) (fd : Int)
    (syncSid : UInt32) :
    (executed.map fun execution => (execution.fd, execution.syncSid)).count (fd, syncSid) ≤
      ((through sends fd).map fun task => task.1.futureId).count syncSid := by
  by_cases present : (fd, syncSid) ∈ handled receiver executed
  · obtain ⟨channel, member, rfl⟩ := List.mem_map.mp (side.placed _ present)
    obtain ⟨messages, isPrefix, frames⟩ := writtenTasks.frames_of_prefix (side.read channel member)
    change sendMsgFormat.frames channel.received = _ at frames
    have ids : (sendMsgFormat.frames channel.received).map SendMsgFrame.syncSid =
        messages.map fun task => task.1.futureId := by
      rw [frames, List.map_map]
      apply List.map_congr_left
      intro task _
      rw [Function.comp_apply, writtenTasks_frameOf]
    have bound := side.counted channel member syncSid
    rw [ids, handled, List.count_append] at bound
    have front := (isPrefix.sublist.map fun task => task.1.futureId).count_le syncSid
    exact (Nat.le_add_left _ _).trans (bound.trans front)
  · rw [handled, List.mem_append, not_or] at present
    rw [List.count_eq_zero.mpr present.2]
    exact Nat.zero_le _

theorem nodup_of_counts {Tag Id : Type} [DecidableEq Tag] [DecidableEq Id]
    {ran keys : List (Tag × Id)} (bounded : ∀ key ∈ ran, ran.count key ≤ keys.count key)
    (once : (keys.map Prod.snd).Nodup) : (ran.map Prod.snd).Nodup := by
  obtain ⟨chosen, same, sublist⟩ := List.subperm_ext_iff.mpr bounded
  exact (same.map Prod.snd).nodup_iff.mp ((sublist.map Prod.snd).nodup once)

theorem UpSide.executed_nodup (side : UpSide filters sends receiver executed)
    (sentOnce : (futureIds sends).Nodup) : (executed.map Execution.syncSid).Nodup := by
  have ids : (executed.map fun execution => (execution.fd, execution.syncSid)).map Prod.snd =
      executed.map Execution.syncSid := List.map_map
  rw [← ids]
  have bounded : ∀ key ∈ executed.map fun execution => (execution.fd, execution.syncSid),
      (executed.map fun execution => (execution.fd, execution.syncSid)).count key ≤
        ((sends.map fun entry => (entry.1, entry.2.1.futureId)).filter (·.2 ≠ 0)).count key := by
    rintro ⟨fd, syncSid⟩ present
    obtain ⟨execution, member, same⟩ := List.mem_map.mp present
    have future : syncSid ≠ 0 := (Prod.mk.inj same).2 ▸ (side.ran execution member).1
    rw [List.count_filter (by simpa using future), count_sent]
    exact side.count_executed fd syncSid
  apply nodup_of_counts bounded
  rw [futureIds, List.filter_map] at sentOnce
  rw [List.filter_map, List.map_map]
  exact sentOnce

end UpSide

section DownSide

def Resulted (executed : List Execution) (syncSid : UInt32) (pdata : Bytes) : Prop :=
  ∃ execution ∈ executed, execution.syncSid = syncSid ∧ pdata = execution.result

structure DownSide (executed running : List Execution) (answers : List (Int × Answer))
    (socks : List ClientSock) (arrivals : List Arrival) : Prop where
  pending : ∀ execution ∈ running, execution ∈ executed
  sent : ∀ entry ∈ answers, Resulted executed entry.2.syncSid entry.2.payload
  received : ∀ sock ∈ socks, sock.received <+: writtenAnswers.stream (through answers sock.fd)
  inbuf : ∀ sock ∈ socks, sock.inbuf = responseFormat.tail sock.received
  frames : ∀ sock ∈ socks, ∀ frame ∈ sock.frames, Resulted executed frame.1 frame.2
  arrived : ∀ arrival ∈ arrivals, Resulted executed arrival.futureSid arrival.pdata

variable {executed running : List Execution} {answers : List (Int × Answer)}
  {socks : List ClientSock} {arrivals : List Arrival}

theorem downSide_initial : DownSide [] [] [] [] [] := by
  constructor <;> simp

theorem Resulted.later {syncSid : UInt32} {pdata : Bytes}
    (resulted : Resulted executed syncSid pdata) (execution : Execution) :
    Resulted (executed ++ [execution]) syncSid pdata := by
  obtain ⟨found, member, same⟩ := resulted
  exact ⟨found, List.mem_append_left _ member, same⟩

theorem DownSide.sendMsg (side : DownSide executed running answers socks arrivals)
    (execution : Execution) :
    DownSide (executed ++ [execution]) (running ++ [execution]) answers socks arrivals where
  pending := fun found member => List.mem_append.mpr
    ((List.mem_append.mp member).imp_left (side.pending found))
  sent := fun entry member => (side.sent entry member).later execution
  received := side.received
  inbuf := side.inbuf
  frames := fun sock there frame member => (side.frames sock there frame member).later execution
  arrived := fun arrival member => (side.arrived arrival member).later execution

theorem DownSide.rspSendMsg {index : Nat} {execution : Execution} {answer : Answer}
    (side : DownSide executed running answers socks arrivals) (accepted : Bool)
    (runs : running[index]? = some execution) (same : answer.syncSid = execution.syncSid)
    (payload : answer.payload = execution.result) :
    DownSide executed (running.eraseIdx index)
      (if accepted then answers ++ [(execution.fd, answer)] else answers) socks arrivals := by
  have erased : ∀ found ∈ running.eraseIdx index, found ∈ executed :=
    fun found member => side.pending found (List.mem_of_mem_eraseIdx member)
  cases accepted with
  | false => exact { side with pending := erased }
  | true =>
    refine { side with pending := erased, sent := ?_, received := ?_ }
    · intro entry member
      rcases List.mem_append.mp member with older | newer
      · exact side.sent entry older
      · rw [List.mem_singleton.mp newer]
        exact ⟨execution, side.pending execution (List.mem_of_getElem? runs), same.symm, payload⟩
    · intro sock member
      exact (side.received sock member).trans (stream_extends _ _ _ _)

theorem DownSide.connect (side : DownSide executed running answers socks arrivals) (fd : Int) :
    DownSide executed running answers
      (socks ++ [{ fd, received := [], inbuf := [], frames := [] }]) arrivals := by
  have empty : responseFormat.first [] = none := writtenAnswers.first_nil
  refine { side with received := ?_, inbuf := ?_, frames := ?_ }
  all_goals
    intro sock member
    rcases List.mem_append.mp member with older | newer
  · exact side.received sock older
  · rw [List.mem_singleton.mp newer]
    exact List.nil_prefix
  · exact side.inbuf sock older
  · rw [List.mem_singleton.mp newer]
    exact (Format.tail_none _ empty).symm
  · exact side.frames sock older
  · rw [List.mem_singleton.mp newer]
    exact fun frame none => (List.not_mem_nil none).elim

theorem DownSide.setSock {conn : Nat} {changed : ClientSock}
    (side : DownSide executed running answers socks arrivals)
    (received : changed.received <+: writtenAnswers.stream (through answers changed.fd))
    (inbuf : changed.inbuf = responseFormat.tail changed.received)
    (frames : ∀ frame ∈ changed.frames, Resulted executed frame.1 frame.2) :
    DownSide executed running answers (socks.set conn changed) arrivals := by
  refine { side with received := ?_, inbuf := ?_, frames := ?_ }
  all_goals
    intro sock member
    rcases List.mem_or_eq_of_mem_set member with older | rfl
  · exact side.received sock older
  · exact received
  · exact side.inbuf sock older
  · exact inbuf
  · exact side.frames sock older
  · exact frames

theorem DownSide.readAnswers {conn : Nat} {chunk : Bytes} {sock : ClientSock}
    (side : DownSide executed running answers socks arrivals) (found : socks[conn]? = some sock)
    (arrived : sock.received ++ chunk <+: writtenAnswers.stream (through answers sock.fd)) :
    DownSide executed running answers
      (socks.set conn { sock with
        received := sock.received ++ chunk
        inbuf := responseFormat.tail (sock.inbuf ++ chunk)
        frames := responseFormat.frames (sock.inbuf ++ chunk) }) arrivals := by
  have inbuf := side.inbuf sock (List.mem_of_getElem? found)
  apply side.setSock arrived
  · rw [inbuf, ← responseFormat.tail_append]
  · intro frame member
    obtain ⟨received, isPrefix, frames⟩ := writtenAnswers.frames_of_prefix arrived
    change responseFormat.frames _ = _ at frames
    rw [responseFormat.frames_append, ← inbuf] at frames
    have inside := List.mem_append_right (responseFormat.frames sock.received) member
    rw [frames] at inside
    obtain ⟨answer, isAnswer, rfl⟩ := List.mem_map.mp inside
    rw [writtenAnswers_frameOf]
    obtain ⟨entry, listed, rfl⟩ := List.mem_map.mp (isPrefix.subset isAnswer)
    exact side.sent entry (List.mem_of_mem_filter listed)

theorem DownSide.nextFrame {conn : Nat} {sock : ClientSock} {frame : UInt32 × Bytes}
    {rest : List (UInt32 × Bytes)} {later : List Arrival}
    (side : DownSide executed running answers socks arrivals) (found : socks[conn]? = some sock)
    (front : sock.frames = frame :: rest)
    (arrives : ∀ arrival ∈ later, arrival ∈ arrivals ∨
      arrival.futureSid = frame.1 ∧ arrival.pdata = frame.2) :
    DownSide executed running answers (socks.set conn { sock with frames := rest }) later := by
  have there := List.mem_of_getElem? found
  have frames := side.frames sock there
  rw [front] at frames
  have changed : DownSide executed running answers
      (socks.set conn { sock with frames := rest }) arrivals :=
    side.setSock (side.received sock there) (side.inbuf sock there)
      fun frame member => frames frame (List.mem_cons_of_mem _ member)
  refine { changed with arrived := ?_ }
  intro arrival member
  rcases arrives arrival member with older | ⟨futureSid, pdata⟩
  · exact side.arrived arrival older
  · rw [futureSid, pdata]
    exact frames frame List.mem_cons_self

end DownSide

namespace DirectCalls

variable {setting : Setting} {state following : DirectCalls}

structure Kept (setting : Setting) (state : DirectCalls) : Prop where
  client : ClientSide state.client state.requests state.sends
  up : UpSide setting.filters state.sends state.receiver state.executed
  down : DownSide state.executed state.running state.answers state.socks state.client.arrivals

theorem kept_initial (setting : Setting) : Kept setting initial where
  client :=
    { reached := .start, paired := rfl, generated := by simp [initial],
      made := by simp [initial], sentOnce := by simp [initial, futureIds] }
  up := upSide_initial
  down := downSide_initial

theorem created_le {event : Event} (taken : state.step setting event = some following) :
    state.client.futureMgr.futures.length ≤ following.client.futureMgr.futures.length := by
  cases step_moves taken with
  | client _ _ _ moved | begun _ _ _ _ _ _ _ _ _ _ _ _ moved | sendData _ _ _ _ _ _ _ _ _ moved
  | nextFrame _ _ _ _ _ _ _ moved => exact Req2ReceiverMgr.created_le moved
  | _ => exact Nat.le_refl _

theorem step_kept {event : Event} (kept : Kept setting state)
    (few : state.client.futureMgr.futures.length < FutureMgr.idPeriod)
    (taken : state.step setting event = some following) : Kept setting following := by
  obtain ⟨client, up, down⟩ := kept
  cases step_moves taken with
  | client event stays later moved =>
    obtain ⟨calls, same, arrivals⟩ := local_calls stays moved
    exact ⟨client.advance moved calls same, up, arrivals ▸ down⟩
  | connect fd receiver accepted =>
    simp only [Receiver.step] at accepted
    split at accepted <;> cases accepted
    next free => exact ⟨client, up.accept (by simpa using free), down.connect fd⟩
  | identiySelf conn fd task noFuture =>
    exact ⟨client.identiySelf noFuture, up.moreSends _, down⟩
  | begun sync callback destIp msgid param sender now content later generated event called moved =>
    subst called
    exact ⟨client.begun generated moved, up, (begun_calls moved).1 ▸ down⟩
  | sendData index conn accepted call request fd later found asked moved =>
    refine ⟨client.sendData few found asked moved, ?_, ?_⟩
    · cases accepted with
      | false => exact up
      | true => exact up.moreSends _
    · obtain ⟨_, _, _, _, _, arrivals⟩ := callStep_calls moved
      exact arrivals ▸ down
  | read conn chunk channel receiver found arrived moved =>
    simp only [Receiver.step, Option.bind_eq_some_iff, Option.map_eq_some_iff] at moved
    obtain ⟨opened, isOpen, result, ran, rfl⟩ := moved
    obtain ⟨there, isOpen⟩ := Receiver.openChannel_some isOpen
    cases there.symm.trans found
    exact ⟨client, up.onRead there isOpen arrived ran, down⟩
  | onClose conn receiver moved =>
    obtain ⟨channel, _, rfl⟩ := Option.map_eq_some_iff.mp moved
    exact ⟨client, up.onClose, down⟩
  | close conn receiver moved =>
    obtain ⟨channel, isOpen, rfl⟩ := Option.map_eq_some_iff.mp moved
    exact ⟨client, up.close (Receiver.openChannel_some isOpen).1, down⟩
  | sendMsg index handlers task receiver execution queued moved posted own =>
    obtain ⟨mgr, channels, tasks⟩ := rspSendMsg_tasks moved
    refine ⟨client, up.sendMsg queued (Nat.le_refl 1) ?_ mgr channels tasks, down.sendMsg execution⟩
    intro found member
    obtain rfl := List.mem_singleton.mp member
    exact ⟨own.1, own.2.1, posted⟩
  | notSent index handlers task receiver queued moved =>
    obtain ⟨mgr, channels, tasks⟩ := rspSendMsg_tasks moved
    have later : UpSide setting.filters state.sends receiver (state.executed ++ []) :=
      up.sendMsg queued (Nat.zero_le 1) (by simp) mgr channels tasks
    rw [List.append_nil] at later
    exact ⟨client, later, down⟩
  | rspSendMsg index accepted execution answer runs same payload =>
    exact ⟨client, up, down.rspSendMsg accepted runs same payload⟩
  | readAnswers conn chunk sock found arrived =>
    exact ⟨client, up, down.readAnswers found arrived⟩
  | nextFrame conn sock frame rest later found front moved =>
    obtain ⟨calls, arrives⟩ := frame_calls moved
    exact ⟨client.advance moved (calls ▸ .refl _) (congrArg List.length calls), up,
      down.nextFrame found front arrives⟩

theorem reachable_kept (reached : Transition.Reachable (step setting) initial state)
    (few : state.client.futureMgr.futures.length < FutureMgr.idPeriod) : Kept setting state := by
  refine reached.invariant (fun state => state.client.futureMgr.futures.length <
    FutureMgr.idPeriod → Kept setting state) (fun _ => kept_initial setting) ?_ few
  intro before event after kept _ taken few
  have earlier := Nat.lt_of_le_of_lt (created_le taken) few
  exact step_kept (kept earlier) earlier taken

theorem Kept.own (kept : Kept setting state) {execution : Execution}
    (member : execution ∈ state.executed) : ∃ (index : Nat) (call : Call) (request : Request),
      state.client.calls[index]? = some call ∧ state.requests[index]? = some request ∧
        execution.Of call request := by
  obtain ⟨future, content, ⟨task, sent, sameId, sameData⟩, posted⟩ := kept.up.ran execution member
  obtain ⟨index, call, request, there, asked, callId, _, data⟩ :=
    kept.client.made _ sent (sameId ▸ future)
  have generated := kept.client.generated request (List.mem_of_getElem? asked)
  have read := localMessage_generated generated (data ▸ sameData ▸ posted)
  exact ⟨index, call, request, there, asked, (callId.trans sameId).symm, read.1, read.2⟩

theorem Kept.firstAnswer {index : Nat} {call : Call} {request : Request} {pdata : Bytes}
    (kept : Kept setting state) (few : state.client.futureMgr.futures.length < FutureMgr.idPeriod)
    (there : state.client.calls[index]? = some call)
    (asked : state.requests[index]? = some request)
    (first : state.client.firstAnswer call.futureId = some pdata) :
    ∃ execution ∈ state.executed, execution.Of call request ∧ pdata = execution.result := by
  obtain ⟨arrival, found, rfl⟩ := Option.map_eq_some_iff.mp first
  have answers := List.find?_some found
  simp only [Bool.and_eq_true, beq_iff_eq] at answers
  obtain ⟨execution, member, sameId, result⟩ :=
    kept.down.arrived arrival (List.mem_of_find?_eq_some found)
  obtain ⟨other, found, foundRequest, otherThere, otherAsked, own⟩ := kept.own member
  obtain rfl := ids_apart kept.client.reached few there otherThere
    (answers.2.symm.trans (sameId.symm.trans own.1))
  cases there.symm.trans otherThere
  cases asked.symm.trans otherAsked
  exact ⟨execution, member, own, result⟩

theorem direct_calls_answered_once (setting : Setting) (state : DirectCalls)
    (reached : Transition.Reachable (step setting) initial state)
    (few : state.client.futureMgr.futures.length < FutureMgr.idPeriod) : state.AnsweredOnce := by
  have kept := reachable_kept reached few
  obtain ⟨life, follows⟩ := Req2ReceiverMgr.reachable_follows kept.client.reached few
  have answers := follows.ownAnswers
  constructor
  case once => exact kept.up.executed_nodup kept.client.sentOnce
  case own => exact fun execution member => kept.own member
  case returned =>
    intro index call request there asked sync phase
    have first := answers.returnsFirst call (List.mem_of_getElem? there) sync phase
    exact kept.firstAnswer few there asked first
  case calledBack =>
    intro index call request there asked pdata called
    have first := answers.callsBackFirst call (List.mem_of_getElem? there) pdata called
    exact kept.firstAnswer few there asked first

-- A connection that names itself and carries one call, cut within the call.
def inPieces : List Event :=
  [.client (.setRunning true), .connect 5, .identiySelf 0,
    .netMsgBusSendMsg true false [49] [109] ⟨{ paramdata := [7, 8], paramlen := 2 }, rfl⟩ [67] 0,
    .client (.call 0 (.connect true)), .client (.call 0 .getFuture), .sendData 0 0 true,
    .read 0 [0, 0, 0, 0, 0, 0, 0, 0, 7, 1, 67, 0, 0, 0, 0, 0, 1, 0, 0, 0, 1, 0],
    .read 0 [0, 0, 10, 1, 67, 1, 109, 0, 0, 0, 2, 7, 8],
    .sendMsg 0 [fun _ param => (true, param ++ [9], false)], .rspSendMsg 0 true,
    .readAnswers 0 [0, 0, 0, 1, 0], .readAnswers 0 [0, 0, 3, 7, 8, 9], .nextFrame 0,
    .client (.store 0), .client (.call 0 .join), .client (.call 0 .readContent)]

def unfiltered : Setting :=
  { filters := { includeSenders := [], excludeMsgids := [] }, clientName := [67] }

theorem inPieces_answers : (Transition.run (step unfiltered) initial inPieces).map (fun state =>
    (state.client.futureMgr.futures.length,
      state.client.calls.map fun call => (call.phase, call.rspContent))) =
    some (1, [(.returned true, [7, 8, 9])]) := by decide +kernel

theorem direct_calls_answered_once_inPieces : ∃ state : DirectCalls,
    Transition.run (step unfiltered) initial inPieces = some state ∧
      state.client.calls.map (fun call => (call.phase, call.rspContent)) =
        [(.returned true, [7, 8, 9])] ∧ state.AnsweredOnce := by
  obtain ⟨state, ran, found⟩ := Option.map_eq_some_iff.mp inPieces_answers
  obtain ⟨futures, calls⟩ := Prod.mk.inj found
  have few : state.client.futureMgr.futures.length < FutureMgr.idPeriod := by
    rw [futures]
    decide
  exact ⟨state, ran, calls,
    direct_calls_answered_once unfiltered state (.run .start inPieces ran) few⟩

end DirectCalls
end MessageBus.System
