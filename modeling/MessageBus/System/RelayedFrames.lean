import MessageBus.Client.ServerAnswers
import MessageBus.System.AnsweredOnce

set_option autoImplicit false

-- What goes over the server for one message: the request, what is relayed of it, and the answer.
namespace MessageBus.System

open Bytes Client Content Inbound Messages Outbound Readers Server Streams

def packed {Object : Type} (messageClass : MessageClass Object) (object : Object) :
    Option BusFrame :=
  match messageClass.packData object 0 with
  | .error _ => none
  | .ok (sent, data) =>
    match writeTo (messageClass.size object) data with
    | .error _ => none
    | .ok _ =>
      let frame := (messageClass.head sent, data.drop MsgBusPackHead.size)
      if proper : frame.2.length = frame.1.bodyLen.toNat ∧ frame.2 ≠ [] then some ⟨frame, proper⟩
      else none

def sendmsgReq (msgId : UInt32) (receiverName destName : Bytes) (content : Payload) :
    Option BusFrame :=
  if destName.length < maxServiceName ∧ receiverName.length < maxServiceName then
    let client : BusClient :=
      { receiverName, serverConnecting := true, req2receiverRunning := false, connection := .none
        futureId := msgId }
    packed Messages.MsgBusSendMsgReq.messageClass (client.sendmsgReq destName content.1)
  else none

-- A message that NetMsgBusSendMsg sends over the server, with what becomes of it there.
structure RelayMessage where
  receiverName : Bytes
  destName : Bytes
  msgid : Bytes
  param : Payload
  msgId : UInt32
  content : Payload
  frame : BusFrame
  generated : DirectCalls.generate msgid param destName = some content
  packs : sendmsgReq msgId receiverName destName content = some frame

namespace RelayMessage

def make (receiverName destName msgid : Bytes) (param : Payload) (msgId : UInt32) :
    Option RelayMessage :=
  match generated : DirectCalls.generate msgid param destName with
  | none => none
  | some content =>
    match packs : sendmsgReq msgId receiverName destName content with
    | none => none
    | some frame =>
      some { receiverName, destName, msgid, param, msgId, content, frame, generated, packs }

def localMessage (message : RelayMessage) (filters : FilterMgr) : Option (Bytes × Bytes) :=
  if filters.bySender (text message.receiverName) && filters.byMsgId (keptName message.msgid) then
    some (keptName message.msgid, message.param.1.paramdata)
  else none

end RelayMessage

-- The destination process_sendmsg_req reads in a body, and the frame it forwards. The value
-- UnPackBody returns is not looked at.
def forwarded (relayed : Relayed) : Option (Name × BusFrame) :=
  match relayed.unPacked with
  | .error _ => none
  | .ok (_, req) => (packed Messages.MsgBusSendMsgReq.messageClass req).map fun frame =>
      (destString req relayed.behind, frame)

-- The errmsg of process_sendmsg_req with its NUL.
def sendmsgErrMsg (retCode : UInt16) : Bytes :=
  (if retCode = 0 then [] else "dest client not found.".toUTF8.toList) ++ [0]

def sendmsgRsp (msgId : UInt32) (retCode : UInt16) : Option BusFrame :=
  let errMsg := sendmsgErrMsg retCode
  packed Messages.MsgBusSendMsgRsp.messageClass
    { head := { newHead 1 BodyType.rspSendmsg with msgId }, retCode
      errMsgLen := .ofNat errMsg.length, errMsg, needfree := false }

-- MsgBusSendMsgRsp rsp; what the constructor leaves open is zero here.
def emptySendMsgRsp : Messages.MsgBusSendMsgRsp :=
  { head := newHead 1 BodyType.rspSendmsg, retCode := 0, errMsgLen := 0, errMsg := []
    needfree := false }

def readSendMsgRsp (rspBody : Bytes) : Except Abort ServerRsp := do
  let rsp := (← emptySendMsgRsp.unPackBody rspBody rspBody.length).2
  return .sendMsg rsp.retCode (text rsp.errMsg)

section Packing

variable {Object : Type} {messageClass : MessageClass Object} {object : Object} {frame : BusFrame}

theorem packed_parts (made : packed messageClass object = some frame) :
    messageClass.packBody (messageClass.sent object) 0 = .ok frame.1.2 ∧
      frame.1.1 = messageClass.head (messageClass.sent object) ∧
      MsgBusPackHead.size + frame.1.2.length ≤ (messageClass.size object).toNat := by
  unfold packed at made
  split at made
  · cases made
  next sent data ran =>
    split at made
    · cases made
    next room =>
      dsimp only at made
      split at made <;> cases made
      next proper =>
        simp only [MessageClass.packData, checkRoom_zero, ok_bind] at ran
        obtain ⟨body, packs, same⟩ := bind_ok ran
        cases same
        change _ = Except.ok (List.drop _ _) ∧ messageClass.head _ = _ ∧
          _ + (List.drop _ _).length ≤ _
        rw [List.drop_left' (packHead_length _)]
        refine ⟨packs, rfl, ?_⟩
        unfold writeTo at room
        split at room <;> cases room
        next fits => rwa [List.length_append, packHead_length] at fits

end Packing

section Names

theorem text_ended (chars rest : Bytes) : text (text chars ++ 0 :: rest) = text chars := by
  have inside : ∀ byte ∈ text chars, (byte != 0) = true :=
    fun _ member => List.mem_takeWhile_imp (p := (· != 0)) member
  rw [text, List.takeWhile_append_of_pos inside]
  exact (congrArg _ (List.takeWhile_cons_of_neg (by simp))).trans (List.append_nil _)

theorem text_field {name : Bytes} {count : Nat} (short : name.length < count) (behind : Bytes) :
    text ((padded name count).toList ++ behind) = text name := by
  have whole : name.take count = name := List.take_of_length_le (Nat.le_of_lt short)
  have length : (text name).length ≤ name.length := (List.takeWhile_prefix _).length_le
  obtain ⟨zeros, left⟩ : ∃ zeros, count - (text name).length = zeros + 1 :=
    ⟨count - (text name).length - 1, by omega⟩
  change text (text (name.take count) ++ List.replicate (count - _) 0 ++ behind) = _
  rw [whole, left, List.replicate_succ, List.append_assoc]
  exact text_ended name _

end Names

section Requests

variable {message : RelayMessage} {relayed : Relayed} {filters : FilterMgr}

theorem sendmsg_packBody {req : Messages.MsgBusSendMsgReq}
    (sized : req.msgContent.length = req.msgLen.toNat) :
    MsgBusSendMsgReq.messageClass.packBody (MsgBusSendMsgReq.messageClass.sent req) 0 =
      .ok req.layout := by
  have content := memcpy_last sized
  simp only [MessageClass.sent, MsgBusSendMsgReq.messageClass, MsgBusSendMsgReq.packBody,
    checkRoom_zero, strncpy_array, content, ok_bind, List.append_assoc]
  rfl

def sendmsgBody (destName fromName : Bytes) (content : Payload) : Bytes :=
  (padded destName maxServiceName).toList ++ ((padded fromName maxServiceName).toList ++
    (htonl content.1.paramlen ++ content.1.paramdata))

theorem padded_padded (name : Bytes) :
    padded (padded name maxServiceName).toList maxServiceName = padded name maxServiceName := by
  have again := @padded_again maxServiceName name []
  rwa [List.append_nil] at again

theorem layout_body {req : Messages.MsgBusSendMsgReq} {destName fromName : Bytes}
    {content : Payload} (dest : req.destName = padded destName maxServiceName)
    (sender : req.fromName = padded fromName maxServiceName)
    (length : req.msgLen = content.1.paramlen) (data : req.msgContent = content.1.paramdata) :
    req.layout = sendmsgBody destName fromName content := by
  rw [MsgBusSendMsgReq.layout, dest, sender, length, data, padded_padded, padded_padded]
  rfl

theorem RelayMessage.short (message : RelayMessage) :
    message.destName.length < maxServiceName ∧ message.receiverName.length < maxServiceName := by
  have packs := message.packs
  unfold sendmsgReq at packs
  split at packs
  · assumption
  · cases packs

theorem RelayMessage.body (message : RelayMessage) :
    message.frame.1.2 = sendmsgBody message.destName message.receiverName message.content ∧
      message.frame.1.1.msgType = 0 ∧ message.frame.1.1.bodyType = BodyType.reqSendmsg ∧
      message.frame.1.1.msgId = message.msgId := by
  have packs := message.packs
  rw [sendmsgReq, if_pos message.short] at packs
  obtain ⟨body, head, _⟩ := packed_parts packs
  have same := Except.ok.inj (body.symm.trans (sendmsg_packBody message.content.2))
  refine ⟨same.trans (layout_body rfl rfl rfl rfl), ?_⟩
  rw [head]
  exact ⟨rfl, rfl, rfl⟩

theorem sendmsgBody_length (destName fromName : Bytes) (content : Payload) :
    (sendmsgBody destName fromName content).length = 132 + content.1.paramlen.toNat := by
  simp only [sendmsgBody, List.length_append, List.Vector.toList_length, htonl_length,
    show content.1.paramdata.length = content.1.paramlen.toNat from content.2, maxServiceName]
  omega

theorem sendmsgBody_unPacked {destName fromName : Bytes} {content : Payload}
    (body : relayed.body = sendmsgBody destName fromName content) :
    relayed.unPacked = .ok (0,
      { newSendMsgReq relayed.destName relayed.fromName with
        destName := padded destName maxServiceName
        fromName := padded fromName maxServiceName
        msgLen := content.1.paramlen
        needfree := true
        msgContent := content.1.paramdata }) := by
  have length := sendmsgBody_length destName fromName content
  have named : maxServiceName = 64 := rfl
  have whole := memcpy_last content.2
  rw [Relayed.unPacked, body, length, Messages.MsgBusSendMsgReq.unPackBody, if_neg (by omega)]
  simp only [sendmsgBody, strncpy_append, drop_array, load32_append, drop_htonl, whole, ok_bind]
  rw [if_neg (by omega), MsgBusSendMsgReq.freed]
  rfl

theorem forwarded_message {destination : Name} {frame : BusFrame}
    (body : relayed.body = message.frame.1.2)
    (made : forwarded relayed = some (destination, frame)) :
    destination = text message.destName ∧ frame.1.2 = message.frame.1.2 ∧
      frame.1.1.bodyType = BodyType.reqSendmsg := by
  have unpacked := sendmsgBody_unPacked (body.trans message.body.1)
  rw [forwarded, unpacked] at made
  obtain ⟨out, packs, same⟩ := Option.map_eq_some_iff.mp made
  obtain ⟨rfl, rfl⟩ := Prod.mk.inj same
  obtain ⟨outBody, head, _⟩ := packed_parts packs
  have again := Except.ok.inj (outBody.symm.trans (sendmsg_packBody message.content.2))
  refine ⟨?_, ?_, ?_⟩
  · rw [destString, List.append_assoc]
    exact text_field message.short.1 _
  · rw [message.body.1]
    exact again.trans (layout_body rfl rfl rfl rfl)
  · rw [head]
    rfl

theorem localMessage_content (message : RelayMessage) (filters : FilterMgr) :
    filters.localMessage message.content.1.paramdata =
      .ok (if filters.byMsgId (keptName message.msgid) then
        some (keptName message.msgid, message.param.1.paramdata) else none) := by
  obtain ⟨fits, made⟩ := generate_content message.generated
  have readId := getMsgId_generated message.msgid message.param.1 message.destName
    message.param.2 fits
  have readParam := getMsgParam_generated message.msgid message.param.1 message.destName
    message.param.2 fits
  rw [made]
  simp only [FilterMgr.localMessage, FilterMgr.checkMsgId, readId, ok_bind]
  cases filters.byMsgId (keptName message.msgid) with
  | false => rfl
  | true =>
    simp only [if_true, pure, Except.pure, readParam]
    rfl

theorem handleReqSendMsg_message (filters : FilterMgr) (body : relayed.body = message.frame.1.2) :
    filters.handleReqSendMsg relayed = .ok (message.localMessage filters) := by
  have unpacked := sendmsgBody_unPacked (body.trans message.body.1)
  have sender (req : Messages.MsgBusSendMsgReq)
      (named : req.fromName = padded message.receiverName maxServiceName) :
      fromString req relayed.behind = text message.receiverName := by
    rw [fromString, named]
    exact text_field message.short.2 _
  have content : contentString message.content.1.paramdata message.content.1.paramlen.toNat =
      .ok message.content.1.paramdata := by
    have length : message.content.1.paramdata.length = message.content.1.paramlen.toNat :=
      message.content.2
    rw [contentString, ← length, if_pos le_rfl, List.take_length]
  rw [FilterMgr.handleReqSendMsg, unpacked, ok_bind, FilterMgr.postReqSendMsg, sender _ rfl,
    RelayMessage.localMessage]
  cases filters.bySender (text message.receiverName) with
  | false => rfl
  | true =>
    simp only [Bool.true_eq_false, if_false, content, ok_bind, localMessage_content]
    rfl

end Requests

section Answers

theorem sendmsgErrMsg_fits (retCode : UInt16) :
    (sendmsgErrMsg retCode).length = (UInt16.ofNat (sendmsgErrMsg retCode).length).toNat ∧
      Textual (sendmsgErrMsg retCode) := by
  unfold sendmsgErrMsg
  split <;> decide +kernel

theorem sendmsgRsp_read {msgId : UInt32} {retCode : UInt16} {frame : BusFrame}
    (made : sendmsgRsp msgId retCode = some frame) :
    frame.1.1.msgId = msgId ∧ frame.1.1.bodyType = BodyType.rspSendmsg ∧
      ∃ errMsg, readSendMsgRsp frame.1.2 = .ok (.sendMsg retCode errMsg) := by
  obtain ⟨length, textual⟩ := sendmsgErrMsg_fits retCode
  have whole := strncpyBytes_last textual length
  obtain ⟨body, head, _⟩ := packed_parts made
  have same : frame.1.2 = htons retCode ++
      (htons (.ofNat (sendmsgErrMsg retCode).length) ++ sendmsgErrMsg retCode) :=
    Except.ok.inj (body.symm.trans (sendMsgRsp_trip _ ⟨length, textual⟩).packed)
  have size : frame.1.2.length = 4 + (sendmsgErrMsg retCode).length := by
    rw [same, List.length_append, List.length_append, htons_length, htons_length, ← Nat.add_assoc]
  refine ⟨by rw [head]; rfl, by rw [head]; rfl, text (sendmsgErrMsg retCode), ?_⟩
  rw [readSendMsgRsp, Messages.MsgBusSendMsgRsp.unPackBody, size, if_neg (by omega), same]
  simp only [load16_append, drop_htons, ok_bind, whole]
  rw [if_neg (by omega), if_neg (by omega), MsgBusSendMsgRsp.freed]
  rfl

end Answers

end MessageBus.System
