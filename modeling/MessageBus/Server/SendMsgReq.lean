import MessageBus.Server.Relay
import MessageBus.Server.RequestBodies

set_option autoImplicit false

namespace MessageBus.Server

open Messages Readers Bytes

-- A ReqTask, or a BroadcastTask where the name is empty.
structure QueuedTask where
  clientName : Name
  dataLen : UInt32
  data : Bytes
  deriving DecidableEq

-- What the constructor makes of the memory the request lies in, which it leaves the names to.
def newSendMsgReq (destName fromName : ServiceName) : Messages.MsgBusSendMsgReq where
  head := newHead 0 BodyType.reqSendmsg
  destName := destName
  fromName := fromName
  msgLen := 0
  msgContent := []
  needfree := false

-- string(req.dest_name): a name without a NUL goes on into what lies behind it in the request.
def destString (req : Messages.MsgBusSendMsgReq) (behind : Bytes) : Name :=
  text (req.destName.toList ++ req.fromName.toList ++ behind)

-- Bytes written to a buffer of new char[size].
def writeTo (size : UInt32) (bytes : Bytes) : Except Abort Bytes :=
  if bytes.length ≤ size.toNat then .ok bytes else .error .pastEnd

namespace Registry

-- process_sendmsg_req: the answer, and the task if one is queued.
def processSendmsgReq (registry : Registry) (fresh : Messages.MsgBusSendMsgReq) (behind : Bytes)
    (msgId : UInt32) (body : Bytes) :
    Except Abort (Server.MsgBusSendMsgRsp × Option QueuedTask) := do
  -- The value UnPackBody returns is not looked at.
  let req := (← fresh.unPackBody body body.length).2
  let destName := destString req behind
  let answer := registry.sendmsgAnswer msgId destName
  if registry.isExist destName then
    let packed ← MsgBusSendMsgReq.messageClass.packData req 0
    let outbuffer ← writeTo req.size packed.2
    return (answer, some { clientName := destName, dataLen := req.size, data := outbuffer })
  else return (answer, none)

structure RelaysFaithfully (registry : Registry) (fresh : Messages.MsgBusSendMsgReq)
    (behind : Bytes) (msgId : UInt32) (body : Bytes) : Prop where
  malformed : ∀ left, fresh.unPackBody body body.length = .ok (-1, left) →
    ∃ answer, registry.processSendmsgReq fresh behind msgId body = .ok (answer, none)
  decoded : ∀ req, fresh.unPackBody body body.length = .ok (0, req) →
    ∃ answer queued, registry.processSendmsgReq fresh behind msgId body = .ok (answer, queued) ∧
      ∀ task ∈ queued, task.data.length = task.dataLen.toNat ∧ @Restores .sendMsgReq req task.data

def Matched (registry : Registry) (name : Name) : Prop :=
  ∃ entry ∈ registry.activeClients.toList, isPrefixMatching entry.1 name = true ∧ 0 < entry.2.size

-- The name the request holds after UnPackBody, whatever that returns.
def nameHeld (destName fromName : ServiceName) (behind body : Bytes) : Name :=
  if body.length < sendMsgFixed then text (destName.toList ++ fromName.toList ++ behind)
  else
    text ((padded body maxServiceName).toList ++
      (padded (body.drop maxServiceName) maxServiceName).toList ++ behind)

variable {registry : Registry}

theorem isExist_matched {name : Name} : registry.isExist name = true ↔ registry.Matched name := by
  simp only [isExist, Matched, List.any_eq_true, Bool.and_eq_true, decide_eq_true_eq]

theorem process_unmatched {fresh req : Messages.MsgBusSendMsgReq} {behind body : Bytes}
    {code : Int} (unpacked : fresh.unPackBody body body.length = .ok (code, req))
    (unmatched : registry.isExist (destString req behind) = false) (msgId : UInt32) :
    registry.processSendmsgReq fresh behind msgId body =
      .ok (registry.sendmsgAnswer msgId (destString req behind), none) := by
  simp only [processSendmsgReq, unpacked, ok_bind, unmatched, Bool.false_eq_true, if_false]
  rfl

theorem process_matched {fresh req : Messages.MsgBusSendMsgReq} {behind body : Bytes}
    {code : Int} (unpacked : fresh.unPackBody body body.length = .ok (code, req))
    (isMatched : registry.isExist (destString req behind) = true) (msgId : UInt32) :
    registry.processSendmsgReq fresh behind msgId body = (do
      let packed ← MsgBusSendMsgReq.messageClass.packData req 0
      let outbuffer ← writeTo req.size packed.2
      return (registry.sendmsgAnswer msgId (destString req behind), some
        { clientName := destString req behind, dataLen := req.size, data := outbuffer })) := by
  simp only [processSendmsgReq, unpacked, ok_bind, isMatched, if_true]

theorem destString_held {destName fromName : ServiceName} {behind body : Bytes}
    {result : Int × Messages.MsgBusSendMsgReq}
    (ways : UnPacksSendMsg (newSendMsgReq destName fromName) body result) :
    destString result.2 behind = nameHeld destName fromName behind body := by
  cases ways with
  | short few => exact (if_pos few).symm
  | cut fixed few => exact (if_neg (Nat.not_lt.mpr fixed)).symm
  | whole enough => exact (if_neg (by omega)).symm

theorem process_relays {fresh req : Messages.MsgBusSendMsgReq} {behind body : Bytes} {code : Int}
    (unpacked : fresh.unPackBody body body.length = .ok (code, req))
    (isMatched : registry.isExist (destString req behind) = true)
    (typed : req.head = newHead 0 BodyType.reqSendmsg) (fits : Kind.Fits .sendMsgReq req)
    (msgId : UInt32) :
    ∃ answer task, registry.processSendmsgReq fresh behind msgId body = .ok (answer, some task) ∧
      task.data.length = task.dataLen.toNat ∧ @Restores .sendMsgReq req task.data := by
  have formed : @Messages.WellFormed .sendMsgReq req := by
    refine ⟨?_, fits⟩
    change (req.head.msgType, req.head.bodyType) = _
    rw [typed]
    rfl
  have trip := sendMsgReq_trip req fits
  let data := packHead (@sentHead .sendMsgReq req) ++ req.layout
  have packed : MsgBusSendMsgReq.messageClass.packData req 0 =
      .ok (MsgBusSendMsgReq.messageClass.sent req, data) := packData_frame trip 0 (.inl rfl)
  have length : data.length = req.size.toNat := frame_length trip
  refine ⟨registry.sendmsgAnswer msgId (destString req behind), ?task, ?ran, ?sized, ?restored⟩
  case task =>
    exact { clientName := destString req behind, dataLen := req.size, data }
  case ran =>
    have room : writeTo req.size data = .ok data := if_pos (Nat.le_of_eq length)
    rw [process_matched unpacked isMatched, packed, ok_bind, room]
    rfl
  case sized => exact length
  case restored => exact restores_of_admits formed trip (by decide)

theorem process_nothing_to_copy {fresh req : Messages.MsgBusSendMsgReq} {behind body : Bytes}
    {code : Int} (unpacked : fresh.unPackBody body body.length = .ok (code, req))
    (isMatched : registry.isExist (destString req behind) = true)
    (few : req.msgContent.length < req.msgLen.toNat) (msgId : UInt32) :
    registry.processSendmsgReq fresh behind msgId body = .error .pastEnd := by
  have outside : memcpy req.msgContent req.msgLen.toNat = .error .pastEnd :=
    if_neg (Nat.not_le.mpr few)
  rw [process_matched unpacked isMatched]
  simp only [MessageClass.packData, MessageClass.sent, MsgBusSendMsgReq.messageClass,
    MsgBusSendMsgReq.packBody, checkRoom_zero, strncpy_array, ok_bind, outside]
  rfl

-- From 2^32 on Size() wraps, and the frame is written past the buffer of that size.
theorem process_wraps {fresh req : Messages.MsgBusSendMsgReq} {behind body : Bytes}
    {code : Int} (unpacked : fresh.unPackBody body body.length = .ok (code, req))
    (isMatched : registry.isExist (destString req behind) = true)
    (length : req.msgContent.length = req.msgLen.toNat)
    (large : 2 ^ 32 ≤ MsgBusPackHead.size + sendMsgFixed + req.msgLen.toNat) (msgId : UInt32) :
    registry.processSendmsgReq fresh behind msgId body = .error .pastEnd := by
  have content := memcpy_last length
  have outside : ∀ bytes : Bytes, MsgBusPackHead.size + sendMsgFixed + req.msgLen.toNat ≤
      bytes.length → writeTo req.size bytes = .error .pastEnd := by
    intro bytes long
    have bound := req.size.toNat_lt
    exact if_neg (by omega)
  rw [process_matched unpacked isMatched]
  simp only [MessageClass.packData, MessageClass.sent, MsgBusSendMsgReq.messageClass,
    MsgBusSendMsgReq.packBody, checkRoom_zero, strncpy_array, content, ok_bind, pure, Except.pure]
  rw [outside]
  · rfl
  · simp only [List.length_append, packHead_length, List.Vector.toList_length, htonl_length,
      length, sendMsgFixed]
    omega

theorem faithful_unmatched {fresh req : Messages.MsgBusSendMsgReq} {behind body : Bytes}
    {code : Int} (unpacked : fresh.unPackBody body body.length = .ok (code, req))
    (unmatched : registry.isExist (destString req behind) = false) (msgId : UInt32) :
    registry.RelaysFaithfully fresh behind msgId body := by
  have ran := process_unmatched unpacked unmatched msgId
  constructor
  case malformed => exact fun _ _ => ⟨_, ran⟩
  case decoded => exact fun _ _ => ⟨_, none, ran, fun task queued => by cases queued⟩

theorem faithful_decoded {fresh req : Messages.MsgBusSendMsgReq} {behind body : Bytes}
    (unpacked : fresh.unPackBody body body.length = .ok (0, req))
    (isMatched : registry.isExist (destString req behind) = true)
    (typed : req.head = newHead 0 BodyType.reqSendmsg)
    (length : req.msgContent.length = req.msgLen.toNat) (msgId : UInt32) :
    registry.RelaysFaithfully fresh behind msgId body ↔
      MsgBusPackHead.size + sendMsgFixed + req.msgLen.toNat < 2 ^ 32 := by
  constructor
  · intro faithful
    by_contra large
    obtain ⟨_, _, ran, _⟩ := faithful.decoded req unpacked
    cases (process_wraps unpacked isMatched length (Nat.not_lt.mp large) msgId).symm.trans ran
  · intro small
    have fits : Kind.Fits .sendMsgReq req := ⟨length, by rw [length]; exact small⟩
    obtain ⟨answer, task, ran, sized, restored⟩ := process_relays unpacked isMatched typed fits msgId
    constructor
    case malformed =>
      intro left refused
      cases unpacked.symm.trans refused
    case decoded =>
      intro _ decoded
      obtain rfl := (Prod.mk.inj (Except.ok.inj (unpacked.symm.trans decoded))).2
      refine ⟨answer, some task, ran, ?_⟩
      intro _ queued
      obtain rfl := Option.some.inj queued
      exact ⟨sized, restored⟩

theorem faithful_refused {destName fromName : ServiceName} {req : Messages.MsgBusSendMsgReq}
    {behind body : Bytes}
    (unpacked : (newSendMsgReq destName fromName).unPackBody body body.length = .ok (-1, req))
    (ways : UnPacksSendMsg (newSendMsgReq destName fromName) body (-1, req))
    (isMatched : registry.isExist (destString req behind) = true) (msgId : UInt32) :
    ¬ registry.RelaysFaithfully (newSendMsgReq destName fromName) behind msgId body := by
  intro faithful
  obtain ⟨_, nothing⟩ := faithful.malformed req unpacked
  cases ways with
  | short few =>
    -- The decoder gave up before the length, so an empty message is packed.
    have fits : Kind.Fits .sendMsgReq (newSendMsgReq destName fromName) :=
      ⟨rfl, (by decide : 16 + 2 * 64 + 4 + 0 < 2 ^ 32)⟩
    obtain ⟨_, _, ran, _⟩ := process_relays unpacked isMatched rfl fits msgId
    cases ran.symm.trans nothing
  | cut fixed few =>
    -- The length is there without its content, of which there is none to copy.
    have missing : 0 < (ntohl (body.drop (maxServiceName * 2))).toNat := by omega
    cases (process_nothing_to_copy unpacked isMatched missing msgId).symm.trans nothing

theorem faithful_matched {destName fromName : ServiceName} {behind body : Bytes}
    {result : Int × Messages.MsgBusSendMsgReq}
    (unpacked : (newSendMsgReq destName fromName).unPackBody body body.length = .ok result)
    (ways : UnPacksSendMsg (newSendMsgReq destName fromName) body result)
    (isMatched : registry.isExist (destString result.2 behind) = true) (msgId : UInt32) :
    registry.RelaysFaithfully (newSendMsgReq destName fromName) behind msgId body ↔
      messageLength .sendMsgReq body ≤ body.length ∧
        MsgBusPackHead.size + messageLength .sendMsgReq body < 2 ^ 32 := by
  have lengthOf : messageLength .sendMsgReq body = if body.length < sendMsgFixed then sendMsgFixed
    else sendMsgFixed + (ntohl (body.drop (maxServiceName * 2))).toNat := rfl
  cases ways with
  | short few =>
    rw [lengthOf, if_pos few]
    exact iff_of_false (faithful_refused unpacked (.short few) isMatched msgId) fun enough =>
      absurd enough.1 (Nat.not_le.mpr few)
  | cut fixed few =>
    rw [lengthOf, if_neg (Nat.not_lt.mpr fixed)]
    exact iff_of_false (faithful_refused unpacked (.cut fixed few) isMatched msgId) fun enough =>
      absurd enough.1 (Nat.not_le.mpr few)
  | whole enough =>
    have length : ((body.drop sendMsgFixed).take
        (ntohl (body.drop (maxServiceName * 2))).toNat).length =
          (ntohl (body.drop (maxServiceName * 2))).toNat := by
      rw [List.length_take, List.length_drop]
      omega
    rw [lengthOf, if_neg (by omega), and_iff_right enough,
      faithful_decoded unpacked isMatched rfl length msgId, Nat.add_assoc]

theorem relays_faithfully_iff (registry : Registry) (destName fromName : ServiceName)
    (behind : Bytes) (msgId : UInt32) {body : Bytes} (filled : 1 ≤ body.length) :
    registry.RelaysFaithfully (newSendMsgReq destName fromName) behind msgId body ↔
      (registry.Matched (nameHeld destName fromName behind body) →
        messageLength .sendMsgReq body ≤ body.length ∧
          MsgBusPackHead.size + messageLength .sendMsgReq body < 2 ^ 32) := by
  obtain ⟨result, unpacked, ways⟩ := unPackBody_sendMsg (newSendMsgReq destName fromName) filled
  rw [← destString_held ways, ← isExist_matched]
  by_cases isMatched : registry.isExist (destString result.2 behind) = true
  · rw [faithful_matched unpacked ways isMatched msgId]
    exact ⟨fun enough _ => enough, fun enough => enough isMatched⟩
  · have unmatched := Bool.not_eq_true _ ▸ isMatched
    exact iff_of_true (faithful_unmatched unpacked unmatched msgId) fun given =>
      absurd given isMatched

-- One byte for the client "ne" from "nu".
def oneByteBody : Bytes :=
  (padded [110, 101] maxServiceName).toList ++ (padded [110, 117] maxServiceName).toList ++
    htonl 1 ++ [7]

def zeroNames : ServiceName := padded [] maxServiceName

theorem relays_faithfully_iff_oneByteBody :
    ∃ registry, Transition.run step empty newsClients = some registry ∧
      (registry.RelaysFaithfully (newSendMsgReq zeroNames zeroNames) [0] 1 oneByteBody ↔
        (registry.Matched (nameHeld zeroNames zeroNames [0] oneByteBody) →
          messageLength .sendMsgReq oneByteBody ≤ oneByteBody.length ∧
            MsgBusPackHead.size + messageLength .sendMsgReq oneByteBody < 2 ^ 32)) :=
  ⟨_, rfl, relays_faithfully_iff _ zeroNames zeroNames [0] 1 (by decide +kernel)⟩

-- A request of one byte is answered with 0 and sent to everyone as an empty message.
theorem cut_off_request_broadcast :
    ∃ registry, Transition.run step empty newsClients = some registry ∧
      (newSendMsgReq zeroNames zeroNames).unPackBody [0] 1 =
        .ok (-1, newSendMsgReq zeroNames zeroNames) ∧
      (registry.processSendmsgReq (newSendMsgReq zeroNames zeroNames) [0] 1 [0]).map
          (fun done => (done.1.retCode, done.2.map fun task => (task.clientName, task.dataLen))) =
        .ok (0, some ([], 148)) ∧
      ¬ registry.RelaysFaithfully (newSendMsgReq zeroNames zeroNames) [0] 1 [0] := by
  refine ⟨_, rfl, rfl, by decide +kernel, ?_⟩
  exact faithful_refused rfl (.short (by decide)) (by decide) 1

end Registry
end MessageBus.Server
