import MessageBus.Server.ServiceNames
import MessageBus.Shared.ByteText
import MessageBus.Shared.Tables
import MessageBus.Shared.Transition
import MessageBus.Wire.Readers

set_option autoImplicit false

-- The filters between what other processes send and the handlers of this one.
namespace MessageBus.Inbound

open Bytes Messages Readers Server

structure FilterMgr where
  includeSenders : List Bytes
  excludeMsgids : List Bytes

namespace FilterMgr

variable (filters : FilterMgr)

def bySender (name : Bytes) : Bool := filterBySender filters.includeSenders name

-- `msgid.find(m_exclude_msgids[i]) == 0`.
def byMsgId (msgid : Bytes) : Bool :=
  filters.excludeMsgids.all fun excluded => ByteText.find excluded msgid != some 0

def checkMsgId (content : Bytes) : Except Fault (Option Bytes) := do
  match ← Content.getMsgId content with
  | some msgid => return if filters.byMsgId msgid then some msgid else none
  | none => return none

-- The message id and the parameter of the local message a content leads to: what
-- NetMsgBusRspSendMsg passes to SendMsg, and NetMsgBusToLocalMsgBus to PostMsg.
def localMessage (content : Bytes) : Except Fault (Option (Bytes × Bytes)) := do
  match ← filters.checkMsgId content with
  | some msgid =>
    match ← Content.getMsgParam content with
    | some (msgparam, _) => return some (msgid, msgparam)
    | none => return none
  | none => return none

end FilterMgr

-- The bytes of a number in memory, the lowest first.
def hostOrder (value : UInt32) : Bytes := (htonl value).reverse

-- The std::string made of req.from_name: behind the field lie msg_len and what follows it.
def fromString (req : Messages.MsgBusSendMsgReq) (behind : Bytes) : Bytes :=
  text (req.fromName.toList ++ (hostOrder req.msgLen ++ behind))

-- std::string(p, count) throws where p is NULL and count is not 0.
def contentString (p : Bytes) (count : Nat) : Except Abort Bytes :=
  if count ≤ p.length then .ok (p.take count) else .error .terminate

-- The request that the server relays, as HandleReqSendMsg meets it: what lies in the memory of the
-- object before UnPackBody and behind it, and the body.
structure Relayed where
  destName : ServiceName
  fromName : ServiceName
  behind : Bytes
  body : Bytes

namespace Relayed

variable (relayed : Relayed)

def sender : Bytes := text ((relayed.body.drop maxServiceName).take maxServiceName)

def unPacked : Except Abort (Int × Messages.MsgBusSendMsgReq) :=
  (newSendMsgReq relayed.destName relayed.fromName).unPackBody relayed.body relayed.body.length

end Relayed

-- HandleReqSendMsg with the request unpacked.
def FilterMgr.postReqSendMsg (filters : FilterMgr) (req : Messages.MsgBusSendMsgReq)
    (behind : Bytes) : Except Abort (Option (Bytes × Bytes)) := do
  if filters.bySender (fromString req behind) = false then return none
  let msgStr ← contentString req.msgContent req.msgLen.toNat
  match filters.localMessage msgStr with
  | .ok posted => return posted
  | .error _ => .error .pastEnd

-- The local message HandleReqSendMsg posts, if it posts one. The value UnPackBody returns is not
-- looked at.
def FilterMgr.handleReqSendMsg (filters : FilterMgr) (relayed : Relayed) :
    Except Abort (Option (Bytes × Bytes)) := do
  filters.postReqSendMsg (← relayed.unPacked).2 relayed.behind

structure Channel where
  fd : Int
  isOpen : Bool
  inbuf : Bytes
  received : Bytes

-- What HandleEvent keeps when onRead has read n bytes.
def Channel.pop (channel : Channel) (chunk : Bytes) (n : Nat) : Channel :=
  { channel with
    inbuf := (channel.inbuf ++ chunk).drop n
    received := channel.received ++ chunk }

-- The sender field of a message that came over the connection.
def Channel.Sent (channel : Channel) (sender : Bytes) : Prop :=
  ∃ frame ∈ sendMsgFormat.frames channel.received,
    Content.getMsgSender frame.msgcontent = .ok (some sender)

structure RspTask where
  fd : Int
  msgcontent : Bytes
  syncSid : UInt32
  recorded : Option Bytes

inductive Origin where
  | receiver (task : RspTask)
  | relay (relayed : Relayed)

structure Started where
  origin : Origin
  msgid : Bytes
  msgparam : Bytes

structure Receiver where
  mgr : ReceiverMgr
  channels : List Channel
  tasks : List RspTask
  started : List Started

namespace Receiver

inductive Event where
  | accept (fd : Int)
  | onRead (channel : Nat) (chunk : Bytes)
  -- onClose, onError or onTimeout, which forget the sender.
  | onClose (channel : Nat)
  | close (channel : Nat)
  | rspSendMsg (task : Nat)
  | reqSendMsg (relayed : Relayed)

def initial : Receiver :=
  { mgr := { clientSenders := ∅, workTasks := [], disAllowedSend := [] }, channels := [],
    tasks := [], started := [] }

def openChannel (receiver : Receiver) (index : Nat) : Option Channel :=
  (receiver.channels[index]?).filter Channel.isOpen

-- The pool has the tasks that onRead queued.
def handOn (receiver : Receiver) (fd : Int) (mgr : ReceiverMgr) : Receiver :=
  { receiver with
    mgr := { mgr with workTasks := [] }
    tasks := receiver.tasks ++ mgr.workTasks.map fun task =>
      { fd := task.1, msgcontent := task.2.1, syncSid := task.2.2
        recorded := mgr.clientSenders[fd]? } }

def step (filters : FilterMgr) (receiver : Receiver) : Event -> Option Receiver
  -- A closed TcpSock keeps its descriptor open, so accept never returns it again.
  | .accept fd =>
    if receiver.channels.all fun channel => channel.fd != fd then
      some { receiver with
        channels := receiver.channels ++ [{ fd, isOpen := true, inbuf := [], received := [] }] }
    else none
  | .onRead index chunk =>
    (receiver.openChannel index).bind fun channel =>
      (receiverOnRead filters.includeSenders channel.fd (channel.inbuf ++ chunk) receiver.mgr).map
        fun result =>
          { receiver.handOn channel.fd result.2 with
            channels := receiver.channels.set index (channel.pop chunk result.1) }
  | .onClose index =>
    (receiver.openChannel index).map fun channel =>
      { receiver with mgr := { receiver.mgr with
          clientSenders := receiver.mgr.clientSenders.erase channel.fd } }
  | .close index =>
    (receiver.openChannel index).map fun channel =>
      { receiver with
        channels := receiver.channels.set index { channel with isOpen := false, inbuf := [] } }
  | .rspSendMsg index =>
    (receiver.tasks[index]?).bind fun task =>
      match filters.localMessage task.msgcontent with
      | .error _ => none
      | .ok posted =>
        some { receiver with
          tasks := receiver.tasks.eraseIdx index
          started := receiver.started ++ posted.toList.map fun message =>
            { origin := .receiver task, msgid := message.1, msgparam := message.2 } }
  | .reqSendMsg relayed =>
    match filters.handleReqSendMsg relayed with
    | .error _ => none
    | .ok posted =>
      some { receiver with
        started := receiver.started ++ posted.toList.map fun message =>
          { origin := .relay relayed, msgid := message.1, msgparam := message.2 } }

end Receiver

def Origin.sender : Origin -> Option Bytes
  | .receiver task => task.recorded
  | .relay relayed => some relayed.sender

structure Filtered (filters : FilterMgr) (receiver : Receiver) : Prop where
  msgids : ∀ message ∈ receiver.started, ∀ excluded ∈ filters.excludeMsgids,
    ¬ excluded <+: message.msgid
  senders : filters.includeSenders ≠ [] → ∀ message ∈ receiver.started,
    ∃ sender ∈ filters.includeSenders, message.origin.sender = some sender
  recorded : ∀ channel ∈ receiver.channels, ∀ sender,
    receiver.mgr.clientSenders[channel.fd]? = some sender → channel.Sent sender
  own : ∀ message ∈ receiver.started, ∀ task, message.origin = .receiver task →
    ∃ channel ∈ receiver.channels, channel.fd = task.fd ∧
      ∃ sender, task.recorded = some sender ∧ channel.Sent sender

namespace Relayed

-- The string that begins at the field and goes on through msg_len.
def runningOn (relayed : Relayed) : Bytes :=
  text ((padded (relayed.body.drop maxServiceName) maxServiceName).toList ++
    (hostOrder (ntohl (relayed.body.drop (maxServiceName * 2))) ++ relayed.behind))

-- A name that the filter lets pass is also let pass without what lies behind its field.
def NamedAlike (filters : FilterMgr) (relayed : Relayed) : Prop :=
  filters.bySender relayed.runningOn = true → filters.bySender relayed.sender = true

end Relayed

def namesAlike (filters : FilterMgr) : Receiver.Event -> Prop
  | .reqSendMsg relayed => relayed.NamedAlike filters
  | _ => True

section Filters

variable {filters : FilterMgr} {content : Bytes} {posted : Bytes × Bytes}

theorem bySender_iff {name : Bytes} : filters.bySender name = true ↔
    (filters.includeSenders ≠ [] → name ∈ filters.includeSenders) := by
  unfold FilterMgr.bySender filterBySender
  cases filters.includeSenders <;> simp

theorem byMsgId_excludes {msgid : Bytes} (passed : filters.byMsgId msgid = true) :
    ∀ excluded ∈ filters.excludeMsgids, ¬ excluded <+: msgid := by
  intro excluded member starts
  have differs := List.all_eq_true.mp passed excluded member
  have found : ByteText.find excluded msgid = some 0 := by
    obtain ⟨rest, rfl⟩ := starts
    cases excluded with
    | nil => cases rest <;> rfl
    | cons byte others => exact ByteText.find_here (List.cons_ne_nil _ _)
  simp [found] at differs

theorem checkMsgId_passed {msgid : Bytes}
    (checked : filters.checkMsgId content = .ok (some msgid)) : filters.byMsgId msgid = true := by
  obtain ⟨found, read⟩ : ∃ found, Content.getMsgId content = .ok found :=
    ⟨_, Content.getMsgId_correct content⟩
  unfold FilterMgr.checkMsgId at checked
  rw [read, ok_bind] at checked
  cases found with
  | none => cases checked
  | some other =>
    by_cases passed : filters.byMsgId other = true
    · simp only [passed, if_true] at checked
      cases checked
      exact passed
    · simp only [passed] at checked
      cases checked

theorem localMessage_passed (started : filters.localMessage content = .ok (some posted)) :
    filters.byMsgId posted.1 = true := by
  unfold FilterMgr.localMessage at started
  cases checked : filters.checkMsgId content with
  | error fault =>
    rw [checked] at started
    cases started
  | ok found =>
    rw [checked, ok_bind] at started
    cases found with
    | none => cases started
    | some msgid =>
      simp only at started
      cases read : Content.getMsgParam content with
      | error fault =>
        rw [read] at started
        cases started
      | ok param =>
        rw [read, ok_bind] at started
        cases param with
        | none => cases started
        | some param =>
          cases started
          exact checkMsgId_passed checked

theorem localMessage_empty : filters.localMessage [] = .ok none := by
  rfl

end Filters

section Relaying

variable {filters : FilterMgr} {relayed : Relayed}

theorem contentString_null {count : Nat} {msgStr : Bytes}
    (made : contentString [] count = .ok msgStr) : msgStr = [] := by
  unfold contentString at made
  split at made
  · cases made
    exact List.take_nil
  · cases made

theorem postReqSendMsg_posts {req : Messages.MsgBusSendMsgReq} {behind : Bytes}
    {posted : Bytes × Bytes} (handled : filters.postReqSendMsg req behind = .ok (some posted)) :
    filters.bySender (fromString req behind) = true ∧ filters.byMsgId posted.1 = true ∧
      req.msgContent ≠ [] := by
  unfold FilterMgr.postReqSendMsg at handled
  split at handled
  · cases handled
  next allowed =>
    obtain ⟨msgStr, made, handled⟩ := bind_ok handled
    split at handled
    next posts started =>
      cases handled
      refine ⟨Bool.not_eq_false _ ▸ allowed, localMessage_passed started, ?_⟩
      intro empty
      rw [empty] at made
      rw [contentString_null made, localMessage_empty] at started
      cases started
    next => cases handled

theorem handleReqSendMsg_posts {posted : Bytes × Bytes}
    (handled : filters.handleReqSendMsg relayed = .ok (some posted)) :
    filters.bySender relayed.runningOn = true ∧ filters.byMsgId posted.1 = true := by
  unfold FilterMgr.handleReqSendMsg at handled
  obtain ⟨result, unpacked, handled⟩ := bind_ok handled
  obtain ⟨allowed, passed, content⟩ := postReqSendMsg_posts handled
  have filled : 1 ≤ relayed.body.length := by
    by_contra empty
    have none : relayed.body = [] := List.length_eq_zero_iff.mp (by omega)
    rw [Relayed.unPacked, none] at unpacked
    cases unpacked
  obtain ⟨other, ran, ways⟩ := unPackBody_sendMsg
    (newSendMsgReq relayed.destName relayed.fromName) filled
  obtain rfl := Except.ok.inj (ran.symm.trans unpacked)
  cases ways with
  | short few => exact absurd rfl content
  | cut fixed few => exact absurd rfl content
  | whole enough => exact ⟨allowed, passed⟩

end Relaying

section Reading

variable {includeSenders : List Bytes} {fd : Int}

theorem receiverOnRead_eq (includeSenders : List Bytes) (fd : Int) (pdata : Bytes)
    (mgr : ReceiverMgr) :
    receiverOnRead includeSenders fd pdata mgr =
      some (pdata.length - (sendMsgFormat.tail pdata).length,
        (sendMsgFormat.frames pdata).foldl (receiverFrame includeSenders fd) mgr) := by
  have folded : (sendMsgFormat.frames pdata).foldlM
      (fun mgr frame => some (receiverFrame includeSenders fd mgr frame)) mgr =
        some ((sendMsgFormat.frames pdata).foldl (receiverFrame includeSenders fd) mgr) :=
    List.foldlM_pure
  rw [receiverOnRead_correct, Framing.Format.consume_correct, folded]
  rfl

def Accepted (includeSenders : List Bytes) (frames : List SendMsgFrame) (sender : Bytes) : Prop :=
  filterBySender includeSenders sender = true ∧
    ∃ frame ∈ frames, Content.getMsgSender frame.msgcontent = .ok (some sender)

structure Reads (includeSenders : List Bytes) (fd : Int) (frames : List SendMsgFrame)
    (mgr after : ReceiverMgr) : Prop where
  others : ∀ other, other ≠ fd → after.clientSenders[other]? = mgr.clientSenders[other]?
  kept : ∀ sender, mgr.clientSenders[fd]? = some sender → after.clientSenders[fd]? = some sender
  recorded : ∀ sender, after.clientSenders[fd]? = some sender →
    mgr.clientSenders[fd]? = some sender ∨ Accepted includeSenders frames sender
  tasks : ∀ task ∈ after.workTasks, task ∈ mgr.workTasks ∨
    task.1 = fd ∧ ∃ sender, after.clientSenders[fd]? = some sender

theorem checkMsgSender_accepts {content sender : Bytes}
    (checked : checkMsgSender includeSenders content = .ok (some sender)) :
    filterBySender includeSenders sender = true ∧
      Content.getMsgSender content = .ok (some sender) := by
  obtain ⟨found, read⟩ : ∃ found, Content.getMsgSender content = .ok found :=
    ⟨_, Content.getMsgSender_correct content⟩
  unfold checkMsgSender at checked
  rw [read, ok_bind] at checked
  cases found with
  | none => cases checked
  | some other =>
    by_cases passed : filterBySender includeSenders other = true
    · simp only [passed, if_true] at checked
      cases checked
      exact ⟨passed, read⟩
    · simp only [passed] at checked
      cases checked

theorem queueWorkTask_senders (mgr : ReceiverMgr) (content : Bytes) (syncSid : UInt32) :
    (mgr.queueWorkTask fd content syncSid).clientSenders = mgr.clientSenders := by
  unfold ReceiverMgr.queueWorkTask
  split <;> rfl

theorem queueWorkTask_member {mgr : ReceiverMgr} {content : Bytes} {syncSid : UInt32}
    {task : Int × Bytes × UInt32}
    (queued : task ∈ (mgr.queueWorkTask fd content syncSid).workTasks) :
    task ∈ mgr.workTasks ∨ task.1 = fd := by
  unfold ReceiverMgr.queueWorkTask at queued
  split at queued
  · rcases List.mem_append.mp queued with older | newer
    · exact .inl older
    · exact .inr (by rw [List.mem_singleton.mp newer])
  · exact .inl queued

theorem receiverFrame_reads (mgr : ReceiverMgr) (frame : SendMsgFrame) :
    Reads includeSenders fd [frame] mgr (receiverFrame includeSenders fd mgr frame) := by
  unfold receiverFrame
  cases known : mgr.clientSenders[fd]? with
  | some sender =>
    simp only
    constructor
    case others => exact fun other _ => by rw [queueWorkTask_senders]
    case kept => exact fun other same => by rw [queueWorkTask_senders, same]
    case recorded => exact fun other same => .inl (by rwa [queueWorkTask_senders] at same)
    case tasks =>
      intro task queued
      rcases queueWorkTask_member queued with older | own
      · exact .inl older
      · exact .inr ⟨own, sender, by rw [queueWorkTask_senders, known]⟩
  | none =>
    simp only
    obtain ⟨result, checked⟩ := checkMsgSender_total includeSenders frame.msgcontent
    rw [checked]
    cases result with
    | none =>
      exact ⟨fun _ _ => rfl, fun _ same => same, fun _ same => .inl same, fun _ queued => .inl queued⟩
    | some sender =>
      obtain ⟨passed, read⟩ := checkMsgSender_accepts checked
      simp only
      constructor
      case others =>
        intro other different
        rw [queueWorkTask_senders, Std.ExtTreeMap.getElem?_insert,
          if_neg fun same => different (Std.LawfulEqCmp.compare_eq_iff_eq.mp same).symm]
      case kept =>
        intro other same
        cases known.symm.trans same
      case recorded =>
        intro other same
        rw [queueWorkTask_senders, Std.ExtTreeMap.getElem?_insert_self] at same
        obtain rfl := Option.some.inj same
        exact .inr ⟨passed, frame, List.mem_singleton_self _, read⟩
      case tasks =>
        intro task queued
        rcases queueWorkTask_member queued with older | own
        · exact .inl older
        · exact .inr ⟨own, sender,
            by rw [queueWorkTask_senders, Std.ExtTreeMap.getElem?_insert_self]⟩

theorem frames_read (frames : List SendMsgFrame) (mgr : ReceiverMgr) :
    Reads includeSenders fd frames mgr (frames.foldl (receiverFrame includeSenders fd) mgr) := by
  induction frames generalizing mgr with
  | nil =>
    exact ⟨fun _ _ => rfl, fun _ known => known, fun _ known => .inl known, fun _ queued => .inl queued⟩
  | cons frame rest ih =>
    have first := @receiverFrame_reads includeSenders fd mgr frame
    have later := ih (receiverFrame includeSenders fd mgr frame)
    constructor
    case others => exact fun other different =>
      (later.others other different).trans (first.others other different)
    case kept => exact fun sender known => later.kept sender (first.kept sender known)
    case recorded =>
      intro sender known
      rcases later.recorded sender known with older | ⟨passed, found, member, read⟩
      · rcases first.recorded sender older with known | ⟨passed, found, member, read⟩
        · exact .inl known
        · obtain rfl := List.mem_singleton.mp member
          exact .inr ⟨passed, found, List.mem_cons_self, read⟩
      · exact .inr ⟨passed, found, List.mem_cons_of_mem _ member, read⟩
    case tasks =>
      intro task queued
      rcases later.tasks task queued with older | newer
      · rcases first.tasks task older with known | ⟨own, sender, known⟩
        · exact .inl known
        · exact .inr ⟨own, sender, later.kept sender known⟩
      · exact .inr newer

end Reading

namespace Receiver

variable {filters : FilterMgr} {receiver following : Receiver}

-- A sender that passed the filter in a message of this connection.
def Vouched (filters : FilterMgr) (channel : Channel) (sender : Bytes) : Prop :=
  filters.bySender sender = true ∧ channel.Sent sender

def TaskVouched (filters : FilterMgr) (channels : List Channel) (task : RspTask) : Prop :=
  ∃ channel ∈ channels, channel.fd = task.fd ∧
    ∃ sender, task.recorded = some sender ∧ Vouched filters channel sender

structure Vetted (filters : FilterMgr) (receiver : Receiver) : Prop where
  apart : ∀ (first second : Nat) (one two : Channel), receiver.channels[first]? = some one →
    receiver.channels[second]? = some two → one.fd = two.fd → first = second
  inbuf : ∀ channel ∈ receiver.channels, channel.isOpen = true →
    channel.inbuf = sendMsgFormat.tail channel.received
  known : ∀ fd sender, receiver.mgr.clientSenders[fd]? = some sender →
    ∃ channel ∈ receiver.channels, channel.fd = fd
  recorded : ∀ channel ∈ receiver.channels, ∀ sender,
    receiver.mgr.clientSenders[channel.fd]? = some sender → Vouched filters channel sender
  handedOn : receiver.mgr.workTasks = []
  tasks : ∀ task ∈ receiver.tasks, TaskVouched filters receiver.channels task
  started : ∀ message ∈ receiver.started, filters.byMsgId message.msgid = true ∧
    ∀ task, message.origin = .receiver task → TaskVouched filters receiver.channels task

theorem vetted_initial : Vetted filters initial := by
  constructor <;> simp [initial]

def Extends (channels later : List Channel) : Prop :=
  ∀ channel ∈ channels, ∃ same ∈ later, same.fd = channel.fd ∧
    ∀ sender, channel.Sent sender → same.Sent sender

theorem TaskVouched.extends {channels later : List Channel} {task : RspTask}
    (vouched : TaskVouched filters channels task) (extension : Extends channels later) :
    TaskVouched filters later task := by
  obtain ⟨channel, member, own, sender, recorded, passed, sent⟩ := vouched
  obtain ⟨same, there, sameFd, all⟩ := extension channel member
  exact ⟨same, there, sameFd.trans own, sender, recorded, passed, all sender sent⟩

theorem extends_set {channels : List Channel} {index : Nat} {channel changed : Channel}
    (there : channels[index]? = some channel) (sameFd : changed.fd = channel.fd)
    (all : ∀ sender, channel.Sent sender → changed.Sent sender) :
    Extends channels (channels.set index changed) := by
  intro other member
  obtain ⟨position, found⟩ := List.mem_iff_getElem?.mp member
  by_cases same : index = position
  · subst same
    obtain rfl := Option.some.inj (there.symm.trans found)
    exact ⟨changed, List.mem_set (List.getElem?_eq_some_iff.mp there).1 changed, sameFd, all⟩
  · refine ⟨other, ?_, rfl, fun _ sent => sent⟩
    exact List.mem_iff_getElem?.mpr ⟨position, (List.getElem?_set_ne same).trans found⟩

theorem openChannel_some {index : Nat} {channel : Channel}
    (found : receiver.openChannel index = some channel) :
    receiver.channels[index]? = some channel ∧ channel.isOpen = true :=
  Option.filter_eq_some_iff.mp found

theorem Vetted.vouched {channels : List Channel} (vetted : Vetted filters receiver)
    (extension : Extends receiver.channels channels) :
    (∀ task ∈ receiver.tasks, TaskVouched filters channels task) ∧
      ∀ message ∈ receiver.started, filters.byMsgId message.msgid = true ∧
        ∀ task, message.origin = .receiver task → TaskVouched filters channels task := by
  constructor
  · exact fun task queued => (vetted.tasks task queued).extends extension
  · intro message ran
    obtain ⟨passed, vouched⟩ := vetted.started message ran
    exact ⟨passed, fun task own => (vouched task own).extends extension⟩

theorem Vetted.accept {fd : Int} (vetted : Vetted filters receiver)
    (fresh : ∀ channel ∈ receiver.channels, channel.fd ≠ fd) :
    Vetted filters { receiver with
      channels := receiver.channels ++ [{ fd, isOpen := true, inbuf := [], received := [] }] } := by
  have empty : sendMsgFormat.tail [] = [] := List.eq_nil_of_length_eq_zero
    (Nat.le_zero.mp (sendMsgFormat.tail_suffix []).2)
  have extension : Extends receiver.channels (receiver.channels ++
      [{ fd, isOpen := true, inbuf := [], received := [] }]) :=
    fun channel member => ⟨channel, List.mem_append_left _ member, rfl, fun _ sent => sent⟩
  obtain ⟨tasks, started⟩ := vetted.vouched extension
  constructor
  case handedOn => exact vetted.handedOn
  case tasks => exact tasks
  case started => exact started
  case apart =>
    intro first second one two foundOne foundTwo sameFd
    rcases Transition.found_in_concat foundOne with older | ⟨rfl, rfl⟩ <;>
      rcases Transition.found_in_concat foundTwo with olderTwo | ⟨rfl, rfl⟩
    · exact vetted.apart first second one two older olderTwo sameFd
    · exact absurd sameFd (fresh one (List.mem_of_getElem? older))
    · exact absurd sameFd.symm (fresh two (List.mem_of_getElem? olderTwo))
    · rfl
  case inbuf =>
    intro channel member isOpen
    rcases List.mem_append.mp member with older | newer
    · exact vetted.inbuf channel older isOpen
    · rw [List.mem_singleton.mp newer, empty]
  case known =>
    intro other sender found
    obtain ⟨channel, member, own⟩ := vetted.known other sender found
    exact ⟨channel, List.mem_append_left _ member, own⟩
  case recorded =>
    intro channel member sender found
    rcases List.mem_append.mp member with older | newer
    · exact vetted.recorded channel older sender found
    · -- Nothing is recorded under a descriptor no connection has had.
      rw [List.mem_singleton.mp newer] at found
      obtain ⟨known, there, own⟩ := vetted.known fd sender found
      exact absurd own (fresh known there)

theorem Vetted.setChannel {index : Nat} {channel changed : Channel}
    (vetted : Vetted filters receiver) (there : receiver.channels[index]? = some channel)
    (sameFd : changed.fd = channel.fd)
    (all : ∀ sender, channel.Sent sender → changed.Sent sender)
    (inbuf : changed.isOpen = true → changed.inbuf = sendMsgFormat.tail changed.received) :
    Vetted filters { receiver with channels := receiver.channels.set index changed } := by
  have extension := extends_set there sameFd all
  obtain ⟨tasks, started⟩ := vetted.vouched extension
  have before {position : Nat} {after : Channel}
      (found : (receiver.channels.set index changed)[position]? = some after) :
      ∃ older, receiver.channels[position]? = some older ∧ after.fd = older.fd ∧
        (after = older ∨ (after = changed ∧ older = channel)) := by
    rcases Transition.found_in_set found with ⟨rfl, rfl⟩ | ⟨_, older⟩
    · exact ⟨channel, there, sameFd, .inr ⟨rfl, rfl⟩⟩
    · exact ⟨after, older, rfl, .inl rfl⟩
  constructor
  case handedOn => exact vetted.handedOn
  case tasks => exact tasks
  case started => exact started
  case apart =>
    intro first second one two foundOne foundTwo same
    obtain ⟨olderOne, thereOne, fdOne, _⟩ := before foundOne
    obtain ⟨olderTwo, thereTwo, fdTwo, _⟩ := before foundTwo
    exact vetted.apart first second olderOne olderTwo thereOne thereTwo
      (fdOne.symm.trans (same.trans fdTwo))
  case inbuf =>
    intro after member isOpen
    obtain ⟨position, found⟩ := List.mem_iff_getElem?.mp member
    obtain ⟨older, olderThere, _, rfl | ⟨rfl, rfl⟩⟩ := before found
    · exact vetted.inbuf after (List.mem_of_getElem? olderThere) isOpen
    · exact inbuf isOpen
  case known =>
    intro fd sender found
    obtain ⟨older, member, own⟩ := vetted.known fd sender found
    obtain ⟨same, later, laterFd, _⟩ := extension older member
    exact ⟨same, later, laterFd.trans own⟩
  case recorded =>
    intro after member sender found
    obtain ⟨position, foundAfter⟩ := List.mem_iff_getElem?.mp member
    obtain ⟨older, olderThere, fdSame, which⟩ := before foundAfter
    rw [fdSame] at found
    obtain ⟨passed, sent⟩ := vetted.recorded older (List.mem_of_getElem? olderThere) sender found
    rcases which with rfl | ⟨rfl, rfl⟩
    · exact ⟨passed, sent⟩
    · exact ⟨passed, all sender sent⟩

theorem Vetted.read {index : Nat} {channel : Channel} {frames : List SendMsgFrame}
    {after : ReceiverMgr} (vetted : Vetted filters receiver)
    (there : receiver.channels[index]? = some channel)
    (reads : Reads filters.includeSenders channel.fd frames receiver.mgr after)
    (own : ∀ frame ∈ frames, frame ∈ sendMsgFormat.frames channel.received) :
    Vetted filters (receiver.handOn channel.fd after) := by
  have member := List.mem_of_getElem? there
  have vouched (sender : Bytes) (found : after.clientSenders[channel.fd]? = some sender) :
      Vouched filters channel sender := by
    rcases reads.recorded sender found with older | ⟨passed, frame, inside, read⟩
    · exact vetted.recorded channel member sender older
    · exact ⟨passed, frame, own frame inside, read⟩
  constructor
  case apart => exact vetted.apart
  case inbuf => exact vetted.inbuf
  case handedOn => rfl
  case started => exact vetted.started
  case known =>
    intro fd sender found
    by_cases same : fd = channel.fd
    · exact ⟨channel, member, same.symm⟩
    · exact vetted.known fd sender ((reads.others fd same).symm.trans found)
  case recorded =>
    intro other otherMember sender found
    by_cases same : other.fd = channel.fd
    · obtain ⟨position, otherThere⟩ := List.mem_iff_getElem?.mp otherMember
      obtain rfl := vetted.apart position index other channel otherThere there same
      obtain rfl := Option.some.inj (there.symm.trans otherThere)
      exact vouched sender found
    · exact vetted.recorded other otherMember sender ((reads.others _ same).symm.trans found)
  case tasks =>
    intro task queued
    rcases List.mem_append.mp queued with older | newer
    · exact vetted.tasks task older
    · obtain ⟨handed, queuedHere, rfl⟩ := List.mem_map.mp newer
      rcases reads.tasks _ queuedHere with older | ⟨ownFd, sender, found⟩
      · rw [vetted.handedOn] at older
        cases older
      · exact ⟨channel, member, ownFd.symm, sender, found, vouched sender found⟩

theorem Vetted.onRead {index : Nat} {channel : Channel} {chunk : Bytes} {result : Nat × ReceiverMgr}
    (vetted : Vetted filters receiver) (there : receiver.channels[index]? = some channel)
    (isOpen : channel.isOpen = true)
    (ran : receiverOnRead filters.includeSenders channel.fd (channel.inbuf ++ chunk) receiver.mgr =
      some result) :
    Vetted filters { receiver.handOn channel.fd result.2 with
      channels := receiver.channels.set index (channel.pop chunk result.1) } := by
  have buffer := vetted.inbuf channel (List.mem_of_getElem? there) isOpen
  have frames := sendMsgFormat.frames_append channel.received chunk
  have tail := sendMsgFormat.tail_append channel.received chunk
  rw [← buffer] at frames tail
  rw [receiverOnRead_eq] at ran
  obtain rfl := Option.some.inj ran
  let changed := channel.pop chunk ((channel.inbuf ++ chunk).length -
    (sendMsgFormat.tail (channel.inbuf ++ chunk)).length)
  have more : ∀ frame ∈ sendMsgFormat.frames (channel.inbuf ++ chunk),
      frame ∈ sendMsgFormat.frames changed.received :=
    fun frame member => frames ▸ List.mem_append_right _ member
  have grown : Vetted filters
      { receiver with channels := receiver.channels.set index changed } := by
    refine vetted.setChannel there rfl ?_ fun _ => ?_
    · rintro sender ⟨frame, member, read⟩
      exact ⟨frame, frames ▸ List.mem_append_left _ member, read⟩
    · exact (sendMsgFormat.tail_suffix _).1.trans tail.symm
  have placed : (receiver.channels.set index changed)[index]? = some changed :=
    List.getElem?_set_self (List.getElem?_eq_some_iff.mp there).1
  exact @Vetted.read filters _ index changed _ _ grown placed (frames_read _ receiver.mgr) more

theorem started_or_posted {started : List Started} {posted : Option (Bytes × Bytes)}
    {start : Bytes × Bytes -> Started} {message : Started}
    (member : message ∈ started ++ posted.toList.map start) :
    message ∈ started ∨ ∃ found, posted = some found ∧ start found = message := by
  rcases List.mem_append.mp member with older | newer
  · exact .inl older
  · obtain ⟨found, inside, same⟩ := List.mem_map.mp newer
    exact .inr ⟨found, Option.mem_toList.mp inside, same⟩

inductive Move (filters : FilterMgr) (receiver : Receiver) : Event -> Receiver -> Prop where
  | accept (fd : Int) (free : ∀ channel ∈ receiver.channels, channel.fd ≠ fd) :
      Move filters receiver (.accept fd)
        { receiver with
          channels := receiver.channels ++ [{ fd, isOpen := true, inbuf := [], received := [] }] }
  | onRead (index : Nat) (chunk : Bytes) (channel : Channel) (result : Nat × ReceiverMgr)
      (found : receiver.openChannel index = some channel)
      (ran : receiverOnRead filters.includeSenders channel.fd (channel.inbuf ++ chunk) receiver.mgr =
        some result) :
      Move filters receiver (.onRead index chunk)
        { receiver.handOn channel.fd result.2 with
          channels := receiver.channels.set index (channel.pop chunk result.1) }
  | onClose (index : Nat) (channel : Channel)
      (found : receiver.openChannel index = some channel) :
      Move filters receiver (.onClose index)
        { receiver with mgr := { receiver.mgr with
            clientSenders := receiver.mgr.clientSenders.erase channel.fd } }
  | close (index : Nat) (channel : Channel) (found : receiver.openChannel index = some channel) :
      Move filters receiver (.close index)
        { receiver with
          channels := receiver.channels.set index { channel with isOpen := false, inbuf := [] } }
  | rspSendMsg (index : Nat) (task : RspTask) (posted : Option (Bytes × Bytes))
      (queued : receiver.tasks[index]? = some task)
      (ran : filters.localMessage task.msgcontent = .ok posted) :
      Move filters receiver (.rspSendMsg index)
        { receiver with
          tasks := receiver.tasks.eraseIdx index
          started := receiver.started ++ posted.toList.map fun message =>
            { origin := .receiver task, msgid := message.1, msgparam := message.2 } }
  | reqSendMsg (relayed : Relayed) (posted : Option (Bytes × Bytes))
      (ran : filters.handleReqSendMsg relayed = .ok posted) :
      Move filters receiver (.reqSendMsg relayed)
        { receiver with
          started := receiver.started ++ posted.toList.map fun message =>
            { origin := .relay relayed, msgid := message.1, msgparam := message.2 } }

theorem step_moves {event : Event} (taken : step filters receiver event = some following) :
    Move filters receiver event following := by
  cases event with
  | accept fd =>
    simp only [step] at taken
    split at taken <;> cases taken
    next free => exact .accept fd (by simpa using free)
  | onRead index chunk =>
    simp only [step, Option.bind_eq_some_iff, Option.map_eq_some_iff] at taken
    obtain ⟨channel, found, result, ran, rfl⟩ := taken
    exact .onRead index chunk channel result found ran
  | onClose index =>
    simp only [step, Option.map_eq_some_iff] at taken
    obtain ⟨channel, found, rfl⟩ := taken
    exact .onClose index channel found
  | close index =>
    simp only [step, Option.map_eq_some_iff] at taken
    obtain ⟨channel, found, rfl⟩ := taken
    exact .close index channel found
  | rspSendMsg index =>
    simp only [step, Option.bind_eq_some_iff] at taken
    obtain ⟨task, queued, taken⟩ := taken
    split at taken <;> cases taken
    next posted ran => exact .rspSendMsg index task posted queued ran
  | reqSendMsg relayed =>
    simp only [step] at taken
    split at taken <;> cases taken
    next posted ran => exact .reqSendMsg relayed posted ran

theorem step_vetted {event : Event} (vetted : Vetted filters receiver)
    (taken : step filters receiver event = some following) : Vetted filters following := by
  cases step_moves taken with
  | accept fd free => exact vetted.accept free
  | onRead index chunk channel result found ran =>
    obtain ⟨there, isOpen⟩ := openChannel_some found
    exact vetted.onRead there isOpen ran
  | onClose index channel found =>
    have older {fd : Int} {sender : Bytes}
        (left : (receiver.mgr.clientSenders.erase channel.fd)[fd]? = some sender) :
        receiver.mgr.clientSenders[fd]? = some sender :=
      (Tables.of_erase left).2
    exact { vetted with
      known := fun fd sender left => vetted.known fd sender (older left)
      recorded := fun channel member sender left =>
        vetted.recorded channel member sender (older left) }
  | close index channel found =>
    obtain ⟨there, _⟩ := openChannel_some found
    exact vetted.setChannel there rfl (fun _ sent => sent) fun isOpen => by cases isOpen
  | rspSendMsg index task posted queued ran =>
    refine { vetted with
      tasks := fun other left => vetted.tasks other (List.mem_of_mem_eraseIdx left)
      started := ?_ }
    intro message member
    rcases started_or_posted member with older | ⟨found, rfl, rfl⟩
    · exact vetted.started message older
    · refine ⟨localMessage_passed ran, fun other same => ?_⟩
      cases same
      exact vetted.tasks task (List.mem_of_getElem? queued)
  | reqSendMsg relayed posted ran =>
    refine { vetted with started := ?_ }
    intro message member
    rcases started_or_posted member with older | ⟨found, rfl, rfl⟩
    · exact vetted.started message older
    · exact ⟨(handleReqSendMsg_posts ran).2, fun other same => by cases same⟩

-- The relayed messages, where the names of the requests are alike with and without what lies behind
-- their fields.
def RelaysVetted (filters : FilterMgr) (receiver : Receiver) : Prop :=
  ∀ message ∈ receiver.started, ∀ relayed, message.origin = .relay relayed →
    filters.bySender relayed.sender = true

theorem relaysVetted_initial : RelaysVetted filters initial := by
  intro message member
  cases member

theorem step_relaysVetted {event : Event} (vetted : RelaysVetted filters receiver)
    (alike : namesAlike filters event) (taken : step filters receiver event = some following) :
    RelaysVetted filters following := by
  cases step_moves taken with
  | accept | onRead | onClose | close => exact vetted
  | rspSendMsg index task posted queued ran =>
    intro message member relayed from_
    rcases started_or_posted member with older | ⟨found, rfl, rfl⟩
    · exact vetted message older relayed from_
    · cases from_
  | reqSendMsg request posted ran =>
    intro message member relayed from_
    rcases started_or_posted member with older | ⟨found, rfl, rfl⟩
    · exact vetted message older relayed from_
    · cases from_
      exact alike (handleReqSendMsg_posts ran).1

end Receiver

theorem hostOrder_head (value : UInt32) (behind : Bytes) :
    (hostOrder value ++ behind).head? = some (.ofNat value.toNat) := by
  rfl

theorem Relayed.namedAlike (filters : FilterMgr) {relayed : Relayed}
    (whole : maxServiceName * 2 ≤ relayed.body.length)
    (ends : 0 ∈ (relayed.body.drop maxServiceName).take maxServiceName ∨
      UInt8.ofNat (ntohl (relayed.body.drop (maxServiceName * 2))).toNat = 0) :
    relayed.NamedAlike filters := by
  have enough : maxServiceName ≤ (relayed.body.drop maxServiceName).length := by
    rw [List.length_drop]
    omega
  have same : relayed.runningOn = relayed.sender :=
    (string_field_iff enough (hostOrder_head _ _)).mpr ends
  intro passed
  rwa [same] at passed

theorem filtered (filters : FilterMgr) (receiver : Receiver)
    (reached : Transition.ReachableWhen (Receiver.step filters)
      (fun _ event => namesAlike filters event) .initial receiver) :
    Filtered filters receiver := by
  have vetted := reached.invariant (Receiver.Vetted filters) Receiver.vetted_initial
    fun _ _ _ vetted _ taken => Receiver.step_vetted vetted taken
  have relays := reached.invariant (Receiver.RelaysVetted filters)
    Receiver.relaysVetted_initial
    fun _ _ _ vetted alike taken => Receiver.step_relaysVetted vetted alike taken
  constructor
  case msgids =>
    exact fun message member => byMsgId_excludes (vetted.started message member).1
  case senders =>
    intro some message member
    cases from_ : message.origin with
    | receiver task =>
      obtain ⟨_, _, _, sender, recorded, passed, _⟩ :=
        (vetted.started message member).2 task from_
      exact ⟨sender, bySender_iff.mp passed some, recorded⟩
    | relay relayed =>
      exact ⟨relayed.sender, bySender_iff.mp (relays message member relayed from_) some, rfl⟩
  case recorded =>
    exact fun channel member sender found => (vetted.recorded channel member sender found).2
  case own =>
    intro message member task from_
    obtain ⟨channel, there, own, sender, recorded, _, sent⟩ :=
      (vetted.started message member).2 task from_
    exact ⟨channel, there, own, sender, recorded, sent⟩

-- Only the name of 64 bytes with the low byte of a length of 7 behind it is included.
def onlyLonger : FilterMgr :=
  { includeSenders := [List.replicate 64 97 ++ [7]], excludeMsgids := [[109, 110]] }

-- Requests with a content of 7 bytes: an empty sender, the id "m" and no parameter.
def named (fromName : Bytes) : Relayed :=
  { destName := padded [] _, fromName := padded [] _, behind := []
    body := List.replicate 64 98 ++ fromName ++ [0, 0, 0, 7] ++ [0, 1, 109, 0, 0, 0, 0] }

def started (fromName : Bytes) : Receiver :=
  { Receiver.initial with
    started := [{ origin := .relay (named fromName), msgid := [109], msgparam := [] }] }

theorem request_started {filters : FilterMgr} {fromName : Bytes}
    (posts : (filters.handleReqSendMsg (named fromName)).toOption = some (some ([109], []))) :
    Receiver.step filters .initial (.reqSendMsg (named fromName)) = some (started fromName) := by
  simp only [Receiver.step]
  cases ran : filters.handleReqSendMsg (named fromName) with
  | error fault =>
    rw [ran] at posts
    cases posts
  | ok posted =>
    rw [ran] at posts
    cases posts
    rfl

theorem filtered_ended : Filtered { onlyLonger with includeSenders := [[97]] }
    (started (97 :: List.replicate 63 0)) :=
  filtered _ _ (.next (.reqSendMsg (named (97 :: List.replicate 63 0))) .start
    (fun _ => by decide +kernel) (request_started (by decide +kernel)))

theorem prefix_not_filtered : ¬ ∀ (filters : FilterMgr) (receiver : Receiver),
    Transition.Reachable (Receiver.step filters) .initial receiver → Filtered filters receiver := by
  intro all
  have reached : Transition.Reachable (Receiver.step onlyLonger) .initial
      (started (List.replicate 64 97)) :=
    .next (.reqSendMsg (named (List.replicate 64 97))) .start trivial
      (request_started (by decide +kernel))
  obtain ⟨sender, member, same⟩ := (all onlyLonger _ reached).senders (List.cons_ne_nil _ _) _
    (List.mem_singleton_self _)
  obtain rfl := List.mem_singleton.mp member
  have shorter : (named (List.replicate 64 97)).sender ≠ List.replicate 64 97 ++ [7] := by
    decide +kernel
  exact shorter (Option.some.inj same)

end MessageBus.Inbound
