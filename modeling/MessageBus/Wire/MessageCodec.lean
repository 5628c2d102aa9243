import MessageBus.Wire.Messages

set_option autoImplicit false

namespace MessageBus.Messages

open Bytes Readers Server

@[simp] theorem checkRoom_zero (needed : Nat) : checkRoom 0 needed = .ok () := by
  simp [checkRoom]

theorem checkRoom_covered {len needed : Nat} (covers : len = 0 ∨ needed ≤ len) :
    checkRoom len needed = .ok () := by
  simp [checkRoom]
  omega

section Loads

variable {front rest : Bytes}

theorem memcpy_append {count : Nat} (length : front.length = count) :
    memcpy (front ++ rest) count = .ok front := by
  rw [memcpy, if_pos (by simp [length]), List.take_left' length]

theorem memcpy_last {count : Nat} (length : front.length = count) :
    memcpy front count = .ok front := by
  have whole := @memcpy_append front [] count length
  rwa [List.append_nil] at whole

theorem load8_append (byte : UInt8) : load8 (byte :: rest) = .ok byte := by
  rw [load8, ← List.singleton_append, memcpy_append (by rfl), Bytes.ok_bind]
  rfl

theorem load16_append (value : UInt16) : load16 (htons value ++ rest) = .ok value := by
  have loaded := ntohs_htons value []
  rw [List.append_nil] at loaded
  rw [load16, memcpy_append (htons_length value), Bytes.ok_bind, loaded]
  rfl

theorem load32_append (value : UInt32) : load32 (htonl value ++ rest) = .ok value := by
  have loaded := ntohl_htonl value []
  rw [List.append_nil] at loaded
  rw [load32, memcpy_append (htonl_length value), Bytes.ok_bind, loaded]
  rfl

@[simp] theorem hostBytes_length (host : ClientHost) : (hostBytes host).length = hostSize := rfl

theorem loadHost_append (host : ClientHost) : loadHost (hostBytes host ++ rest) = .ok host := by
  simp only [loadHost, hostBytes, List.append_assoc]
  rw [load32_append, List.drop_left' (htonl_length _), load16_append, ← List.append_assoc,
    List.drop_left' (by rfl), load32_append]
  rfl

theorem drop_htons (value : UInt16) : (htons value ++ rest).drop 2 = rest := rfl

theorem drop_htonl (value : UInt32) : (htonl value ++ rest).drop 4 = rest := rfl

theorem drop_array {count : Nat} (chars : CharArray count) :
    (chars.toList ++ rest).drop count = rest :=
  List.drop_left' chars.toList_length

end Loads

section CStrings

variable {count : Nat}

theorem text_appended (chars : Bytes) (zeros : Nat) :
    text (text chars ++ List.replicate zeros 0) = text chars := by
  induction chars with
  | nil => cases zeros <;> rfl
  | cons byte rest ih =>
    by_cases nul : byte = 0
    next => cases zeros <;> simp [text, nul, List.replicate_succ]
    next =>
      simp only [text, bne_iff_ne, ne_eq, nul, not_false_eq_true, List.takeWhile_cons_of_pos,
        List.cons_append] at ih ⊢
      rw [ih]

@[simp] theorem text_padded (src : Bytes) (count : Nat) :
    text (padded src count).toList = text (src.take count) :=
  text_appended (src.take count) _

theorem text_array (chars : CharArray count) :
    text (padded chars.toList count).toList = text chars.toList := by
  rw [text_padded, List.take_of_length_le (Nat.le_of_eq chars.toList_length)]

theorem strncpy_array (chars : CharArray count) :
    strncpy chars.toList count = .ok (padded chars.toList count) :=
  if_pos (.inl (Nat.le_of_eq chars.toList_length.symm))

theorem padded_again (src rest : Bytes) :
    padded ((padded src count).toList ++ rest) count = padded src count := by
  have again : ((padded src count).toList ++ rest).take count = (padded src count).toList :=
    List.take_left' (List.Vector.toList_length _)
  apply List.Vector.eq
  change text (((padded src count).toList ++ rest).take count) ++ _ = text (src.take count) ++ _
  rw [again, text_padded]

theorem strncpy_append (src rest : Bytes) :
    strncpy ((padded src count).toList ++ rest) count = .ok (padded src count) := by
  rw [strncpy, if_pos, padded_again]
  exact .inl (by simp)

def Textual (chars : Bytes) : Prop := ∀ byte ∈ chars.dropLast, byte ≠ 0

instance (chars : Bytes) : Decidable (Textual chars) :=
  inferInstanceAs (Decidable (∀ byte ∈ chars.dropLast, byte ≠ 0))

theorem padded_textual {chars : Bytes} (textual : Textual chars) (length : chars.length = count) :
    (padded chars count).toList = chars := by
  subst length
  change text (chars.take chars.length) ++ _ = chars
  rw [List.take_length]
  rcases List.eq_nil_or_concat chars with rfl | ⟨front, last, rfl⟩
  next => rfl
  next =>
    simp only [Textual, List.concat_eq_append, List.dropLast_concat] at textual ⊢
    have all : ∀ byte ∈ front, (byte != 0) = true := by simpa using textual
    rw [text, List.takeWhile_append_of_pos all]
    by_cases nul : last = 0
    next => simp [nul]
    next => simp [nul]

theorem strncpyBytes_textual {chars : Bytes} (rest : Bytes) (textual : Textual chars)
    (length : chars.length = count) : strncpyBytes (chars ++ rest) count = .ok chars := by
  have same : (padded (chars ++ rest) count).toList = (padded chars count).toList := by
    change text ((chars ++ rest).take count) ++ _ = text (chars.take count) ++ _
    rw [List.take_left' length, List.take_of_length_le (Nat.le_of_eq length)]
  rw [strncpyBytes, strncpy, if_pos (.inl (by simp [length])), ok_bind, same,
    padded_textual textual length]
  rfl

theorem strncpyBytes_last {chars : Bytes} (textual : Textual chars)
    (length : chars.length = count) : strncpyBytes chars count = .ok chars := by
  have copied := strncpyBytes_textual [] textual length
  rwa [List.append_nil] at copied

end CStrings

section Heads

theorem packHead_length (head : MsgBusPackHead) :
    (packHead head).length = MsgBusPackHead.size := rfl

theorem unPackHead_packHead (before head : MsgBusPackHead) (body : Bytes) :
    before.unPackHead (packHead head ++ body) 0 = (12, head) := by
  obtain ⟨magic, version, msgType, msgId, bodyType, bodyLen⟩ := head
  change (12, MsgBusPackHead.mk magic (ntohs (htons version ++ _)) msgType
    (ntohl (htonl msgId ++ _)) (ntohl (htonl bodyType ++ _)) (ntohl (htonl bodyLen ++ body))) = _
  rw [ntohs_htons, ntohl_htonl, ntohl_htonl, ntohl_htonl]

end Heads

def MsgBusRegisterReq.layout (req : MsgBusRegisterReq) : Bytes :=
  (padded req.serviceName.toList maxServiceName).toList ++ hostBytes req.serviceHost

def MsgBusRegisterRsp.layout (rsp : MsgBusRegisterRsp) : Bytes :=
  htons rsp.retCode ++ ((padded rsp.serviceName.toList maxServiceName).toList ++
    (htons rsp.errMsgLen ++ rsp.errMsg))

def MsgBusUnRegisterReq.layout (req : MsgBusUnRegisterReq) : Bytes :=
  (padded req.serviceName.toList maxServiceName).toList ++ hostBytes req.serviceHost

def MsgBusConfirmAliveReq.layout (req : MsgBusConfirmAliveReq) : Bytes := [req.aliveFlag]

def MsgBusConfirmAliveRsp.layout (rsp : MsgBusConfirmAliveRsp) : Bytes := htons rsp.retCode

def MsgBusGetClientReq.layout (req : MsgBusGetClientReq) : Bytes :=
  (padded req.destName.toList maxServiceName).toList

def MsgBusGetClientRsp.layout (rsp : MsgBusGetClientRsp) : Bytes :=
  htons rsp.retCode ++ ((padded rsp.destName.toList maxServiceName).toList ++
    hostBytes rsp.destHost)

def MsgBusSendMsgReq.layout (req : MsgBusSendMsgReq) : Bytes :=
  (padded req.destName.toList maxServiceName).toList ++
    ((padded req.fromName.toList maxServiceName).toList ++ (htonl req.msgLen ++ req.msgContent))

def MsgBusSendMsgRsp.layout (rsp : MsgBusSendMsgRsp) : Bytes :=
  htons rsp.retCode ++ (htons rsp.errMsgLen ++ rsp.errMsg)

def MsgBusPackPBType.layout (pack : MsgBusPackPBType) : Bytes :=
  htonl pack.pbtypeLen.toUInt32 ++ (htonl pack.pbdataLen.toUInt32 ++ (pack.pbtype ++ pack.pbdata))

inductive Kind where
  | registerReq
  | registerRsp
  | unRegisterReq
  | confirmAliveReq
  | confirmAliveRsp
  | getClientReq
  | getClientRsp
  | sendMsgReq
  | sendMsgRsp
  | packPBType
  deriving DecidableEq, Repr

namespace Kind

def Object : Kind -> Type
  | registerReq => MsgBusRegisterReq
  | registerRsp => MsgBusRegisterRsp
  | unRegisterReq => MsgBusUnRegisterReq
  | confirmAliveReq => MsgBusConfirmAliveReq
  | confirmAliveRsp => MsgBusConfirmAliveRsp
  | getClientReq => MsgBusGetClientReq
  | getClientRsp => MsgBusGetClientRsp
  | sendMsgReq => MsgBusSendMsgReq
  | sendMsgRsp => MsgBusSendMsgRsp
  | packPBType => MsgBusPackPBType

def messageClass : (kind : Kind) -> MessageClass kind.Object
  | registerReq => MsgBusRegisterReq.messageClass
  | registerRsp => MsgBusRegisterRsp.messageClass
  | unRegisterReq => MsgBusUnRegisterReq.messageClass
  | confirmAliveReq => MsgBusConfirmAliveReq.messageClass
  | confirmAliveRsp => MsgBusConfirmAliveRsp.messageClass
  | getClientReq => MsgBusGetClientReq.messageClass
  | getClientRsp => MsgBusGetClientRsp.messageClass
  | sendMsgReq => MsgBusSendMsgReq.messageClass
  | sendMsgRsp => MsgBusSendMsgRsp.messageClass
  | packPBType => MsgBusPackPBType.messageClass

def layout : (kind : Kind) -> kind.Object -> Bytes
  | registerReq => MsgBusRegisterReq.layout
  | registerRsp => MsgBusRegisterRsp.layout
  | unRegisterReq => MsgBusUnRegisterReq.layout
  | confirmAliveReq => MsgBusConfirmAliveReq.layout
  | confirmAliveRsp => MsgBusConfirmAliveRsp.layout
  | getClientReq => MsgBusGetClientReq.layout
  | getClientRsp => MsgBusGetClientRsp.layout
  | sendMsgReq => MsgBusSendMsgReq.layout
  | sendMsgRsp => MsgBusSendMsgRsp.layout
  | packPBType => MsgBusPackPBType.layout

-- The types its constructor sets, which nothing but unpacking ever changes.
def constructed : Kind -> UInt8 × UInt32
  | registerReq => (0, BodyType.reqRegister)
  | registerRsp => (1, BodyType.rspRegister)
  | unRegisterReq => (0, BodyType.reqUnregister)
  | confirmAliveReq => (0, BodyType.reqConfirmAlive)
  | confirmAliveRsp => (1, BodyType.rspConfirmAlive)
  | getClientReq => (0, BodyType.reqGetclient)
  | getClientRsp => (1, BodyType.rspGetclient)
  | sendMsgReq => (0, BodyType.reqSendmsg)
  | sendMsgRsp => (1, BodyType.rspSendmsg)
  | packPBType => (0, BodyType.bodyPbtype)

-- The buffers have the lengths the length fields say, and the sizes sum below 2^32.
def Fits : (kind : Kind) -> kind.Object -> Prop
  | registerRsp, (rsp : MsgBusRegisterRsp) =>
    rsp.errMsg.length = rsp.errMsgLen.toNat ∧ Textual rsp.errMsg
  | sendMsgReq, (req : MsgBusSendMsgReq) =>
    req.msgContent.length = req.msgLen.toNat ∧
      MsgBusPackHead.size + 2 * maxServiceName + 4 + req.msgContent.length < 2 ^ 32
  | sendMsgRsp, (rsp : MsgBusSendMsgRsp) =>
    rsp.errMsg.length = rsp.errMsgLen.toNat ∧ Textual rsp.errMsg
  | packPBType, (pack : MsgBusPackPBType) =>
    (pack.pbtype.length : Int) = pack.pbtypeLen.toInt ∧ Textual pack.pbtype ∧
      (pack.pbdata.length : Int) = pack.pbdataLen.toInt ∧
      MsgBusPackHead.size + 4 + pack.pbtype.length + 4 + pack.pbdata.length < 2 ^ 32
  | _, _ => True

-- The same body fields, names up to their NUL.
def Agrees : (kind : Kind) -> kind.Object -> kind.Object -> Prop
  | registerReq, (left : MsgBusRegisterReq), (right : MsgBusRegisterReq) =>
    text left.serviceName.toList = text right.serviceName.toList ∧
      left.serviceHost = right.serviceHost
  | registerRsp, (left : MsgBusRegisterRsp), (right : MsgBusRegisterRsp) =>
    left.retCode = right.retCode ∧
      text left.serviceName.toList = text right.serviceName.toList ∧
      left.errMsgLen = right.errMsgLen ∧ left.errMsg = right.errMsg
  | unRegisterReq, (left : MsgBusUnRegisterReq), (right : MsgBusUnRegisterReq) =>
    text left.serviceName.toList = text right.serviceName.toList ∧
      left.serviceHost = right.serviceHost
  | confirmAliveReq, (left : MsgBusConfirmAliveReq), (right : MsgBusConfirmAliveReq) =>
    left.aliveFlag = right.aliveFlag
  | confirmAliveRsp, (left : MsgBusConfirmAliveRsp), (right : MsgBusConfirmAliveRsp) =>
    left.retCode = right.retCode
  | getClientReq, (left : MsgBusGetClientReq), (right : MsgBusGetClientReq) =>
    text left.destName.toList = text right.destName.toList
  | getClientRsp, (left : MsgBusGetClientRsp), (right : MsgBusGetClientRsp) =>
    left.retCode = right.retCode ∧ text left.destName.toList = text right.destName.toList ∧
      left.destHost = right.destHost
  | sendMsgReq, (left : MsgBusSendMsgReq), (right : MsgBusSendMsgReq) =>
    text left.destName.toList = text right.destName.toList ∧
      text left.fromName.toList = text right.fromName.toList ∧
      left.msgLen = right.msgLen ∧ left.msgContent = right.msgContent
  | sendMsgRsp, (left : MsgBusSendMsgRsp), (right : MsgBusSendMsgRsp) =>
    left.retCode = right.retCode ∧ left.errMsgLen = right.errMsgLen ∧ left.errMsg = right.errMsg
  | packPBType, (left : MsgBusPackPBType), (right : MsgBusPackPBType) =>
    left.pbtypeLen = right.pbtypeLen ∧ left.pbdataLen = right.pbdataLen ∧
      left.pbtype = right.pbtype ∧ left.pbdata = right.pbdata

end Kind

variable {kind : Kind}

structure WellFormed (object : kind.Object) : Prop where
  typed : ((kind.messageClass.head object).msgType, (kind.messageClass.head object).bodyType) =
    kind.constructed
  fits : kind.Fits object

-- A length argument that says nothing, or covers the message.
def Covers (len : Nat) (size : UInt32) : Prop := len = 0 ∨ size.toNat ≤ len

def Restores (object : kind.Object) (bytes : Bytes) : Prop :=
  ∀ (fresh : kind.Object) (len : Nat), Covers len (kind.messageClass.size object) →
    ∃ decoded, kind.messageClass.unPackData fresh bytes len = .ok (0, decoded) ∧
      kind.messageClass.head decoded = kind.messageClass.head (kind.messageClass.sent object) ∧
      kind.Agrees decoded object

def Rejects (other : Kind) (bytes : Bytes) : Prop :=
  ∀ fresh : other.Object, ∃ left, other.messageClass.unPackData fresh bytes 0 = .ok (-1, left)

def DecodesOnlyAsItself (object : kind.Object) : Prop :=
  ∃ bytes, (∀ len, Covers len (kind.messageClass.size object) →
      kind.messageClass.packData object len = .ok (kind.messageClass.sent object, bytes)) ∧
    bytes.length = (kind.messageClass.size object).toNat ∧ Restores object bytes ∧
    ∀ other, other ≠ kind → Rejects other bytes

structure BodyTrip (object : kind.Object) (body : Bytes) : Prop where
  packed : kind.messageClass.packBody object 0 = .ok body
  sized : MsgBusPackHead.size + body.length = (kind.messageClass.size object).toNat
  unpacked : ∀ fresh, ∃ decoded, kind.messageClass.unPackBody fresh body 0 = .ok (0, decoded) ∧
    kind.messageClass.head decoded = kind.messageClass.head fresh ∧ kind.Agrees decoded object

theorem registerReq_trip (req : MsgBusRegisterReq) :
    @BodyTrip .registerReq req req.layout := by
  unfold MsgBusRegisterReq.layout
  constructor
  case packed =>
    simp only [Kind.messageClass, MsgBusRegisterReq.messageClass, MsgBusRegisterReq.packBody,
      checkRoom_zero, strncpy_array, ok_bind]
    rfl
  case sized =>
    simp only [List.length_append, List.Vector.toList_length, hostBytes_length]
    rfl
  case unpacked =>
    intro fresh
    have host := @loadHost_append [] req.serviceHost
    rw [List.append_nil] at host
    simp only [Kind.messageClass, MsgBusRegisterReq.messageClass, MsgBusRegisterReq.unPackBody,
      checkRoom_zero, strncpy_append, drop_array, host, ok_bind]
    exact ⟨_, rfl, rfl, text_array _, rfl⟩

theorem unRegisterReq_trip (req : MsgBusUnRegisterReq) :
    @BodyTrip .unRegisterReq req req.layout := by
  unfold MsgBusUnRegisterReq.layout
  constructor
  case packed =>
    simp only [Kind.messageClass, MsgBusUnRegisterReq.messageClass, MsgBusUnRegisterReq.packBody,
      checkRoom_zero, strncpy_array, ok_bind]
    rfl
  case sized =>
    simp only [List.length_append, List.Vector.toList_length, hostBytes_length]
    rfl
  case unpacked =>
    intro fresh
    have host := @loadHost_append [] req.serviceHost
    rw [List.append_nil] at host
    simp only [Kind.messageClass, MsgBusUnRegisterReq.messageClass, MsgBusUnRegisterReq.unPackBody,
      checkRoom_zero, strncpy_append, drop_array, host, ok_bind]
    exact ⟨_, rfl, rfl, text_array _, rfl⟩

theorem confirmAliveReq_trip (req : MsgBusConfirmAliveReq) :
    @BodyTrip .confirmAliveReq req req.layout := by
  unfold MsgBusConfirmAliveReq.layout
  constructor
  case packed =>
    simp only [Kind.messageClass, MsgBusConfirmAliveReq.messageClass, MsgBusConfirmAliveReq.packBody,
      checkRoom_zero, ok_bind]
    rfl
  case sized => rfl
  case unpacked =>
    intro fresh
    simp only [Kind.messageClass, MsgBusConfirmAliveReq.messageClass, MsgBusConfirmAliveReq.unPackBody,
      checkRoom_zero, load8_append, ok_bind]
    exact ⟨_, rfl, rfl, rfl⟩

theorem confirmAliveRsp_trip (rsp : MsgBusConfirmAliveRsp) :
    @BodyTrip .confirmAliveRsp rsp rsp.layout := by
  unfold MsgBusConfirmAliveRsp.layout
  constructor
  case packed =>
    simp only [Kind.messageClass, MsgBusConfirmAliveRsp.messageClass, MsgBusConfirmAliveRsp.packBody,
      checkRoom_zero, ok_bind]
    rfl
  case sized => rfl
  case unpacked =>
    intro fresh
    have code := @load16_append [] rsp.retCode
    rw [List.append_nil] at code
    simp only [Kind.messageClass, MsgBusConfirmAliveRsp.messageClass, MsgBusConfirmAliveRsp.unPackBody,
      checkRoom_zero, code, ok_bind]
    exact ⟨_, rfl, rfl, rfl⟩

theorem getClientReq_trip (req : MsgBusGetClientReq) :
    @BodyTrip .getClientReq req req.layout := by
  unfold MsgBusGetClientReq.layout
  constructor
  case packed =>
    simp only [Kind.messageClass, MsgBusGetClientReq.messageClass, MsgBusGetClientReq.packBody,
      checkRoom_zero, strncpy_array, ok_bind]
    rfl
  case sized =>
    rw [List.Vector.toList_length]
    rfl
  case unpacked =>
    intro fresh
    have name := @strncpy_append maxServiceName req.destName.toList []
    rw [List.append_nil] at name
    simp only [Kind.messageClass, MsgBusGetClientReq.messageClass, MsgBusGetClientReq.unPackBody,
      checkRoom_zero, name, ok_bind]
    exact ⟨_, rfl, rfl, text_array _⟩

theorem getClientRsp_trip (rsp : MsgBusGetClientRsp) :
    @BodyTrip .getClientRsp rsp rsp.layout := by
  unfold MsgBusGetClientRsp.layout
  constructor
  case packed =>
    simp only [Kind.messageClass, MsgBusGetClientRsp.messageClass, MsgBusGetClientRsp.packBody,
      checkRoom_zero, strncpy_array, ok_bind, List.append_assoc]
    rfl
  case sized =>
    simp only [List.length_append, List.Vector.toList_length, htons_length, hostBytes_length]
    rfl
  case unpacked =>
    intro fresh
    have host := @loadHost_append [] rsp.destHost
    rw [List.append_nil] at host
    simp only [Kind.messageClass, MsgBusGetClientRsp.messageClass, MsgBusGetClientRsp.unPackBody,
      checkRoom_zero, load16_append, strncpy_append, drop_htons, drop_array, host,
      ok_bind]
    exact ⟨_, rfl, rfl, rfl, text_array _, rfl⟩

theorem MsgBusRegisterRsp.freed (rsp : MsgBusRegisterRsp) (errMsg : Bytes) :
    { rsp.freeVarData with needfree := true, errMsg } = { rsp with needfree := true, errMsg } := by
  unfold freeVarData
  split <;> rfl

theorem MsgBusRegisterRsp.size_toNat (rsp : MsgBusRegisterRsp) :
    rsp.size.toNat = MsgBusPackHead.size + 2 + maxServiceName + 2 + rsp.errMsgLen.toNat := by
  have bound := rsp.errMsgLen.toNat_lt
  have small : MsgBusPackHead.size + 2 + maxServiceName + 2 + rsp.errMsgLen.toNat < UInt32.size := by
    simp only [MsgBusPackHead.size, maxServiceName, UInt32.size]
    omega
  rw [size, UInt32.toNat_ofNat_of_lt' small]

theorem registerRsp_trip (rsp : MsgBusRegisterRsp) (fits : Kind.Fits .registerRsp rsp) :
    @BodyTrip .registerRsp rsp rsp.layout := by
  obtain ⟨length, textual⟩ := fits
  have errMsg := strncpyBytes_last textual length
  unfold MsgBusRegisterRsp.layout
  constructor
  case packed =>
    simp only [Kind.messageClass, MsgBusRegisterRsp.messageClass, MsgBusRegisterRsp.packBody,
      checkRoom_zero, strncpy_array, errMsg, ok_bind, List.append_assoc]
    rfl
  case sized =>
    refine Eq.trans ?_ rsp.size_toNat.symm
    simp only [List.length_append, htons_length, List.Vector.toList_length, length]
    omega
  case unpacked =>
    intro fresh
    simp only [Kind.messageClass, MsgBusRegisterRsp.messageClass, MsgBusRegisterRsp.unPackBody,
      ne_eq, not_true_eq_false, false_and, if_false, load16_append, strncpy_append, drop_htons,
      drop_array, errMsg, ok_bind, MsgBusRegisterRsp.freed]
    exact ⟨_, rfl, rfl, rfl, text_array _, rfl, rfl⟩

theorem MsgBusSendMsgRsp.freed (rsp : MsgBusSendMsgRsp) (errMsg : Bytes) :
    { rsp.freeVarData with needfree := true, errMsg } = { rsp with needfree := true, errMsg } := by
  unfold freeVarData
  split <;> rfl

theorem sendMsgRsp_trip (rsp : MsgBusSendMsgRsp) (fits : Kind.Fits .sendMsgRsp rsp) :
    @BodyTrip .sendMsgRsp rsp rsp.layout := by
  obtain ⟨length, textual⟩ := fits
  have errMsg := strncpyBytes_last textual length
  unfold MsgBusSendMsgRsp.layout
  constructor
  case packed =>
    simp only [Kind.messageClass, MsgBusSendMsgRsp.messageClass, MsgBusSendMsgRsp.packBody,
      checkRoom_zero, errMsg, ok_bind, List.append_assoc]
    rfl
  case sized =>
    have bound := rsp.errMsgLen.toNat_lt
    have small : MsgBusPackHead.size + 2 + 2 + rsp.errMsgLen.toNat < UInt32.size := by
      simp only [MsgBusPackHead.size, UInt32.size]
      omega
    change _ = (UInt32.ofNat _).toNat
    rw [UInt32.toNat_ofNat_of_lt' small]
    simp only [List.length_append, htons_length, length]
    omega
  case unpacked =>
    intro fresh
    simp only [Kind.messageClass, MsgBusSendMsgRsp.messageClass, MsgBusSendMsgRsp.unPackBody,
      ne_eq, not_true_eq_false, false_and, if_false, load16_append, drop_htons, errMsg,
      ok_bind, MsgBusSendMsgRsp.freed]
    exact ⟨_, rfl, rfl, rfl, rfl, rfl⟩

theorem MsgBusSendMsgReq.freed (req : MsgBusSendMsgReq) (msgContent : Bytes) :
    { req.freeVarData with needfree := true, msgContent } = { req with needfree := true, msgContent } := by
  unfold freeVarData
  split <;> rfl

theorem sendMsgReq_trip (req : MsgBusSendMsgReq) (fits : Kind.Fits .sendMsgReq req) :
    @BodyTrip .sendMsgReq req req.layout := by
  obtain ⟨length, total⟩ := fits
  have content := memcpy_last length
  unfold MsgBusSendMsgReq.layout
  constructor
  case packed =>
    simp only [Kind.messageClass, MsgBusSendMsgReq.messageClass, MsgBusSendMsgReq.packBody,
      checkRoom_zero, strncpy_array, content, ok_bind, List.append_assoc]
    rfl
  case sized =>
    change _ = (UInt32.ofNat _).toNat
    rw [UInt32.toNat_ofNat_of_lt' (length ▸ total)]
    simp only [List.length_append, htonl_length, List.Vector.toList_length, length]
    omega
  case unpacked =>
    intro fresh
    simp only [Kind.messageClass, MsgBusSendMsgReq.messageClass, MsgBusSendMsgReq.unPackBody,
      ne_eq, not_true_eq_false, false_and, if_false, load32_append, strncpy_append, drop_htonl,
      drop_array, content, ok_bind, MsgBusSendMsgReq.freed]
    exact ⟨_, rfl, rfl, text_array _, text_array _, rfl, rfl⟩

theorem MsgBusPackPBType.sizeT_length {length : Nat} {field : Int32}
    (same : (length : Int) = field.toInt) : sizeT field = length ∧ ¬ field < 0 := by
  have bound := field.toInt_lt
  constructor
  next =>
    rw [sizeT, ← same]
    omega
  next =>
    rw [Int32.lt_iff_toInt_lt, ← same, Int32.toInt_zero]
    omega

section Freed

variable (pack : MsgBusPackPBType)

theorem MsgBusPackPBType.freed_head : pack.freeVarData.head = pack.head := by
  unfold freeVarData
  split <;> rfl

theorem MsgBusPackPBType.freed_pbtypeLen : pack.freeVarData.pbtypeLen = pack.pbtypeLen := by
  unfold freeVarData
  split <;> rfl

theorem MsgBusPackPBType.freed_pbdataLen : pack.freeVarData.pbdataLen = pack.pbdataLen := by
  unfold freeVarData
  split <;> rfl

end Freed

theorem packPBType_trip (pack : MsgBusPackPBType) (fits : Kind.Fits .packPBType pack) :
    @BodyTrip .packPBType pack pack.layout := by
  obtain ⟨typeLength, textual, dataLength, total⟩ := fits
  obtain ⟨typeSize, typeSign⟩ := MsgBusPackPBType.sizeT_length typeLength
  obtain ⟨dataSize, dataSign⟩ := MsgBusPackPBType.sizeT_length dataLength
  have pbtype := strncpyBytes_last textual typeSize.symm
  have front := strncpyBytes_textual pack.pbdata textual typeSize.symm
  have pbdata := memcpy_last dataSize.symm
  unfold MsgBusPackPBType.layout
  constructor
  case packed =>
    simp only [Kind.messageClass, MsgBusPackPBType.messageClass, MsgBusPackPBType.packBody,
      checkRoom_zero, pbtype, pbdata, ok_bind, List.append_assoc]
    rfl
  case sized =>
    change _ = (UInt32.ofNat _).toNat
    rw [typeSize, dataSize, UInt32.toNat_ofNat_of_lt' total]
    simp only [List.length_append, htonl_length]
    omega
  case unpacked =>
    intro fresh
    have drop : (pack.pbtype ++ pack.pbdata).drop (MsgBusPackPBType.sizeT pack.pbtypeLen) =
        pack.pbdata := List.drop_left' typeSize.symm
    simp only [Kind.messageClass, MsgBusPackPBType.messageClass, MsgBusPackPBType.unPackBody,
      ne_eq, not_true_eq_false, false_and, if_false, load32_append, drop_htonl, checkRoom_zero,
      Int32.toInt32_toUInt32, ok_bind, MsgBusPackPBType.freed_head, typeSign, dataSign,
      MsgBusPackPBType.freed_pbtypeLen, MsgBusPackPBType.freed_pbdataLen, front, drop, pbdata]
    exact ⟨_, rfl, rfl, rfl, rfl, rfl, rfl⟩

theorem body_trip (object : kind.Object) (fits : kind.Fits object) :
    BodyTrip object (kind.layout object) := by
  cases kind with
  | registerReq => exact registerReq_trip object
  | registerRsp => exact registerRsp_trip object fits
  | unRegisterReq => exact unRegisterReq_trip object
  | confirmAliveReq => exact confirmAliveReq_trip object
  | confirmAliveRsp => exact confirmAliveRsp_trip object
  | getClientReq => exact getClientReq_trip object
  | getClientRsp => exact getClientRsp_trip object
  | sendMsgReq => exact sendMsgReq_trip object fits
  | sendMsgRsp => exact sendMsgRsp_trip object fits
  | packPBType => exact packPBType_trip object fits

namespace Kind

-- The heads the UnPackData of a class goes on with.
def admits (kind : Kind) (types : UInt8 × UInt32) : Bool :=
  (match kind with
    | registerReq | unRegisterReq | confirmAliveReq | getClientReq | sendMsgReq => types.1 == 0
    | registerRsp | confirmAliveRsp | getClientRsp | sendMsgRsp => types.1 == 1
    | packPBType => true) && types.2 == kind.messageClass.bodyType

-- MsgBusConfirmAliveRsp takes the place of its own type for that of MsgBusRegisterRsp.
theorem admits_constructed (other kind : Kind) : other.admits kind.constructed = true ↔
    (other = kind ∧ kind ≠ confirmAliveRsp) ∨ (other = confirmAliveRsp ∧ kind = registerRsp) := by
  cases other <;> cases kind <;> decide

theorem head_setHead (object : kind.Object) (head : MsgBusPackHead) :
    kind.messageClass.head (kind.messageClass.setHead object head) = head := by
  cases kind <;> rfl

theorem packBody_setHead (object : kind.Object) (head : MsgBusPackHead) (len : Nat) :
    kind.messageClass.packBody (kind.messageClass.setHead object head) len =
      kind.messageClass.packBody object len := by
  cases kind <;> rfl

theorem size_fixed (fresh object : kind.Object) (checked : kind.messageClass.checksLen = true) :
    kind.messageClass.size fresh = kind.messageClass.size object := by
  cases kind <;> first | rfl | cases checked

end Kind

theorem unPackTypedHead_packHead (type : UInt8) (before head : MsgBusPackHead) (body : Bytes) :
    unPackTypedHead type before (packHead head ++ body) =
      (if head.msgType = type then 12 else -1, head) := by
  rw [unPackTypedHead, unPackHead_packHead]
  by_cases typed : head.msgType = type <;> simp [typed]

theorem unPackHead_admits (before head : MsgBusPackHead) (body : Bytes) :
    ∃ offset, kind.messageClass.unPackHead before (packHead head ++ body) = (offset, head) ∧
      (offset ≥ 0 ∧ head.bodyType = kind.messageClass.bodyType ↔
        kind.admits (head.msgType, head.bodyType) = true) := by
  have typed := fun type => unPackTypedHead_packHead type before head body
  have checked (type : UInt8) (bodyType : UInt32) :
      ((if head.msgType = type then (12 : Int) else -1) ≥ 0 ∧ head.bodyType = bodyType ↔
        (head.msgType == type && head.bodyType == bodyType) = true) := by
    by_cases same : head.msgType = type <;> simp [same]
  cases kind
  case packPBType => exact ⟨12, unPackHead_packHead before head body, by simp [Kind.admits]⟩
  case registerReq | unRegisterReq | confirmAliveReq | getClientReq | sendMsgReq =>
    exact ⟨_, typed 0, checked 0 _⟩
  case registerRsp | confirmAliveRsp | getClientRsp | sendMsgRsp =>
    exact ⟨_, typed 1, checked 1 _⟩

theorem unPackData_packed (fresh : kind.Object) (head : MsgBusPackHead) (body : Bytes) (len : Nat)
    (covers : kind.messageClass.checksLen = true → Covers len (kind.messageClass.size fresh)) :
    kind.messageClass.unPackData fresh (packHead head ++ body) len =
      if kind.admits (head.msgType, head.bodyType) = true then
        kind.messageClass.unPackBody (kind.messageClass.setHead fresh head) body 0
      else .ok (-1, kind.messageClass.setHead fresh head) := by
  obtain ⟨offset, unpacked, admitted⟩ :=
    @unPackHead_admits kind (kind.messageClass.head fresh) head body
  have room : checkRoom (if kind.messageClass.checksLen = true then len else 0)
      (kind.messageClass.size fresh).toNat = .ok () := by
    split
    next checked => exact checkRoom_covered (covers checked)
    next => exact checkRoom_zero _
  simp only [MessageClass.unPackData, room, memcpy_append (packHead_length head), unpacked, admitted,
    List.drop_left' (packHead_length head), ok_bind]
  rfl

def sentHead (object : kind.Object) : MsgBusPackHead :=
  kind.messageClass.head (kind.messageClass.sent object)

section Frame

variable {object : kind.Object} {body : Bytes}

theorem sentHead_typed (formed : WellFormed object) :
    ((sentHead object).msgType, (sentHead object).bodyType) = kind.constructed := by
  rw [sentHead, MessageClass.sent, Kind.head_setHead, formed.typed]

theorem packData_frame (trip : BodyTrip object body) (len : Nat)
    (covers : Covers len (kind.messageClass.size object)) :
    kind.messageClass.packData object len =
      .ok (kind.messageClass.sent object, packHead (sentHead object) ++ body) := by
  have packed : kind.messageClass.packBody (kind.messageClass.sent object) 0 = .ok body := by
    rw [MessageClass.sent, Kind.packBody_setHead, trip.packed]
  simp only [MessageClass.packData, checkRoom_covered covers, packed, ok_bind]
  rfl

theorem frame_length (trip : BodyTrip object body) :
    (packHead (sentHead object) ++ body).length = (kind.messageClass.size object).toNat := by
  rw [List.length_append, packHead_length, trip.sized]

theorem unPackData_admitted (formed : WellFormed object) (other : Kind)
    (admitted : other.admits kind.constructed = true) (fresh : other.Object) (body : Bytes)
    (len : Nat)
    (covers : other.messageClass.checksLen = true → Covers len (other.messageClass.size fresh)) :
    other.messageClass.unPackData fresh (packHead (sentHead object) ++ body) len =
      other.messageClass.unPackBody (other.messageClass.setHead fresh (sentHead object)) body 0 := by
  rw [unPackData_packed fresh _ body len covers, sentHead_typed formed, if_pos admitted]

theorem unPackData_refused (formed : WellFormed object) (other : Kind)
    (refused : ¬ other.admits kind.constructed = true) (body : Bytes) :
    Rejects other (packHead (sentHead object) ++ body) := by
  intro fresh
  rw [unPackData_packed fresh _ body 0 fun _ => .inl rfl, sentHead_typed formed, if_neg refused]
  exact ⟨_, rfl⟩

theorem restores_of_admits (formed : WellFormed object) (trip : BodyTrip object body)
    (admitted : kind.admits kind.constructed = true) :
    Restores object (packHead (sentHead object) ++ body) := by
  intro fresh len covers
  have checked : kind.messageClass.checksLen = true → Covers len (kind.messageClass.size fresh) := by
    intro checks
    rw [Kind.size_fixed fresh object checks]
    exact covers
  obtain ⟨decoded, unpacked, head, agrees⟩ :=
    trip.unpacked (kind.messageClass.setHead fresh (sentHead object))
  refine ⟨decoded, ?_, ?_, agrees⟩
  · rw [unPackData_admitted formed kind admitted fresh body len checked, unpacked]
  · rw [head, Kind.head_setHead]
    rfl

end Frame

theorem confirmAliveRsp_unPackBody (fresh : MsgBusConfirmAliveRsp) {body : Bytes}
    (enough : 2 ≤ body.length) : ∃ read, fresh.unPackBody body 0 = .ok (0, read) := by
  simp only [MsgBusConfirmAliveRsp.unPackBody, load16, memcpy, if_pos enough, checkRoom_zero,
    ok_bind]
  exact ⟨_, rfl⟩

theorem confirmAliveRsp_rejects_own (object : Kind.confirmAliveRsp.Object)
    (formed : WellFormed object) : ¬ DecodesOnlyAsItself object := by
  rintro ⟨bytes, packed, length, restores, others⟩
  have trip := body_trip object formed.fits
  have written := (packed 0 (.inl rfl)).symm.trans (packData_frame trip 0 (.inl rfl))
  simp only [Except.ok.injEq, Prod.mk.injEq, true_and] at written
  obtain ⟨decoded, unpacked, _⟩ := restores object 0 (.inl rfl)
  obtain ⟨left, refused⟩ := unPackData_refused formed .confirmAliveRsp (by decide) _ object
  rw [written, refused] at unpacked
  cases unpacked

theorem registerRsp_read_by_other (object : Kind.registerRsp.Object)
    (formed : WellFormed object) : ¬ DecodesOnlyAsItself object := by
  rintro ⟨bytes, packed, length, restores, others⟩
  have trip := body_trip object formed.fits
  have written := (packed 0 (.inl rfl)).symm.trans (packData_frame trip 0 (.inl rfl))
  simp only [Except.ok.injEq, Prod.mk.injEq, true_and] at written
  have enough : 2 ≤ (Kind.registerRsp.layout object).length := by
    have sized := trip.sized.trans (MsgBusRegisterRsp.size_toNat object)
    omega
  let fresh : Kind.confirmAliveRsp.Object :=
    { head := sentHead object, retCode := 0 : MsgBusConfirmAliveRsp }
  obtain ⟨left, refused⟩ := others .confirmAliveRsp (by decide) fresh
  have admitted := unPackData_admitted formed .confirmAliveRsp (by decide) fresh
    (Kind.registerRsp.layout object) 0 fun _ => .inl rfl
  obtain ⟨read, accepted⟩ := confirmAliveRsp_unPackBody
    (Kind.confirmAliveRsp.messageClass.setHead fresh (sentHead object)) enough
  rw [written, admitted] at refused
  cases accepted.symm.trans refused

theorem decodes_only_as_itself_iff (object : kind.Object) (formed : WellFormed object) :
    DecodesOnlyAsItself object ↔ kind ≠ .confirmAliveRsp ∧ kind ≠ .registerRsp := by
  constructor
  next =>
    intro decodes
    constructor
    next =>
      rintro rfl
      exact confirmAliveRsp_rejects_own object formed decodes
    next =>
      rintro rfl
      exact registerRsp_read_by_other object formed decodes
  next =>
    rintro ⟨notConfirm, notRegister⟩
    have trip := body_trip object formed.fits
    have own : kind.admits kind.constructed = true :=
      (Kind.admits_constructed kind kind).mpr (.inl ⟨rfl, notConfirm⟩)
    refine ⟨_, packData_frame trip, frame_length trip, restores_of_admits formed trip own, ?_⟩
    intro other different
    apply unPackData_refused formed other
    rw [Kind.admits_constructed]
    rintro (⟨same, _⟩ | ⟨_, register⟩)
    · exact different same
    · exact notRegister register

-- An answer to a relay request that could not be served.
def sampleSendMsgRsp : Kind.sendMsgRsp.Object :=
  { head := newHead 1 BodyType.rspSendmsg, retCode := 1, errMsgLen := 3, errMsg := [110, 111, 0]
    needfree := false : MsgBusSendMsgRsp }

theorem decodes_only_as_itself_iff_sendMsgRsp : DecodesOnlyAsItself sampleSendMsgRsp ↔
    Kind.sendMsgRsp ≠ .confirmAliveRsp ∧ Kind.sendMsgRsp ≠ .registerRsp :=
  decodes_only_as_itself_iff sampleSendMsgRsp
    ⟨rfl, rfl, (by decide +kernel : Textual [110, 111, 0])⟩

def sampleConfirmAliveRsp : Kind.confirmAliveRsp.Object :=
  { head := newHead 1 BodyType.rspConfirmAlive, retCode := 0 : MsgBusConfirmAliveRsp }

theorem confirmAliveRsp_not_decoded :
    WellFormed sampleConfirmAliveRsp ∧ ¬ DecodesOnlyAsItself sampleConfirmAliveRsp :=
  ⟨⟨rfl, trivial⟩, confirmAliveRsp_rejects_own sampleConfirmAliveRsp ⟨rfl, trivial⟩⟩

end MessageBus.Messages
