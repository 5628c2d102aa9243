import MessageBus.Wire.MessageCodec
import MessageBus.Wire.PyMessages

set_option autoImplicit false

namespace MessageBus.Messages

open Bytes Readers StructFormat

-- The values of a head and a host as Python holds them.
def pyHead (head : MsgBusPackHead) : PyPort.MsgBusPackHead where
  magic := head.magic.toNat
  version := head.version.toNat
  msgType := head.msgType.toNat
  msgId := head.msgId.toNat
  bodyType := head.bodyType.toNat
  bodyLen := head.bodyLen.toNat

-- The same as the format of PackHead has it, where the body type is signed.
def wireHead (head : MsgBusPackHead) : PyPort.MsgBusPackHead :=
  { pyHead head with bodyType := head.bodyType.toInt32.toInt }

def pyHost (host : Server.ClientHost) : PyPort.ClientHost where
  serverIp := htonl host.ip
  serverPort := host.port.toNat
  busyState := host.busyState.toInt32.toInt

def withMsgId (head : PyPort.MsgBusPackHead) (msgId : UInt32) : PyPort.MsgBusPackHead :=
  { head with msgId := msgId.toNat }

-- The messages as Python makes them from the same values.
def MsgBusRegisterReq.py (req : MsgBusRegisterReq) : PyPort.MsgBusRegisterReq where
  head := withMsgId PyPort.MsgBusRegisterReq.new.head req.head.msgId
  serviceName := text req.serviceName.toList
  serviceHost := pyHost req.serviceHost

def MsgBusUnRegisterReq.py (req : MsgBusUnRegisterReq) : PyPort.MsgBusUnRegisterReq where
  head := withMsgId PyPort.MsgBusUnRegisterReq.new.head req.head.msgId
  serviceName := text req.serviceName.toList
  serviceHost := pyHost req.serviceHost

def MsgBusConfirmAliveReq.py (req : MsgBusConfirmAliveReq) : PyPort.MsgBusConfirmAliveReq where
  head := withMsgId PyPort.MsgBusConfirmAliveReq.new.head req.head.msgId
  aliveFlag := req.aliveFlag.toNat

def MsgBusGetClientReq.py (req : MsgBusGetClientReq) : PyPort.MsgBusGetClientReq where
  head := withMsgId PyPort.MsgBusGetClientReq.new.head req.head.msgId
  destName := text req.destName.toList

def MsgBusSendMsgReq.py (req : MsgBusSendMsgReq) : PyPort.MsgBusSendMsgReq :=
  { PyPort.MsgBusSendMsgReq.new.setMsgContent req.msgContent with
    head := withMsgId PyPort.MsgBusSendMsgReq.new.head req.head.msgId
    destName := text req.destName.toList
    fromName := text req.fromName.toList }

def MsgBusPackPBType.py (pack : MsgBusPackPBType) : PyPort.MsgBusPackPBType :=
  { PyPort.MsgBusPackPBType.new.setPBTypeAndData pack.pbtype pack.pbdata with
    head := withMsgId PyPort.MsgBusPackPBType.new.head pack.head.msgId }

def MsgBusRegisterRsp.py (rsp : MsgBusRegisterRsp) : PyPort.MsgBusRegisterRsp where
  head := withMsgId PyPort.MsgBusRegisterRsp.new.head rsp.head.msgId
  retCode := rsp.retCode.toNat
  serviceName := text rsp.serviceName.toList
  errMsgLen := rsp.errMsgLen.toNat
  errMsg := rsp.errMsg

def MsgBusConfirmAliveRsp.py (rsp : MsgBusConfirmAliveRsp) : PyPort.MsgBusConfirmAliveRsp where
  head := withMsgId PyPort.MsgBusConfirmAliveRsp.new.head rsp.head.msgId
  retCode := rsp.retCode.toNat

def MsgBusGetClientRsp.py (rsp : MsgBusGetClientRsp) : PyPort.MsgBusGetClientRsp where
  head := withMsgId PyPort.MsgBusGetClientRsp.new.head rsp.head.msgId
  retCode := rsp.retCode.toNat
  destName := text rsp.destName.toList
  destHost := pyHost rsp.destHost

def MsgBusSendMsgRsp.py (rsp : MsgBusSendMsgRsp) : PyPort.MsgBusSendMsgRsp where
  head := withMsgId PyPort.MsgBusSendMsgRsp.new.head rsp.head.msgId
  retCode := rsp.retCode.toNat
  errMsgLen := rsp.errMsgLen.toNat
  errMsg := rsp.errMsg

section Fields

theorem wireHead_eq_iff (head : MsgBusPackHead) :
    wireHead head = pyHead head ↔ head.bodyType.toNat < 2 ^ 31 := by
  have signed : head.bodyType.toInt32.toInt =
      if 2 * head.bodyType.toNat < 2 ^ 32 then (head.bodyType.toNat : Int)
      else head.bodyType.toNat - (2 ^ 32 : Nat) :=
    BitVec.toInt_eq_toNat_cond _
  rw [wireHead, pyHead, PyPort.MsgBusPackHead.mk.injEq]
  simp only [true_and, and_true, signed]
  split <;> omega

theorem packHead_wire (head : MsgBusPackHead) :
    (wireHead head).packHead = some (packHead head) := by
  have bodyType := packOne_i head.bodyType.toInt32
  simp only [PyPort.MsgBusPackHead.packHead, PyPort.MsgBusPackHead.format,
    PyPort.MsgBusPackHead.values, wireHead, pyHead, pack, packOne_B, packOne_H, packOne_I, bodyType]
  rfl

theorem packHost_py (host : Server.ClientHost) : (pyHost host).pack = some (hostBytes host) := by
  have busyState := packOne_i host.busyState.toInt32
  simp only [PyPort.ClientHost.pack, pyHost, pack, packOne_H, busyState]
  rfl

theorem field_text {count : Nat} (chars : CharArray count) :
    field count (text chars.toList) = (padded chars.toList count).toList := by
  have whole : chars.toList.take count = chars.toList :=
    List.take_of_length_le (Nat.le_of_eq chars.toList_length)
  have short : (text chars.toList).length ≤ count :=
    Nat.le_trans (List.takeWhile_prefix _).length_le (Nat.le_of_eq chars.toList_length)
  change _ = text (chars.toList.take count) ++ _
  rw [field, whole, List.take_of_length_le short]

theorem field_ljust {count : Nat} (bytes : Bytes) (short : bytes.length ≤ count) :
    field count (PyPort.ljustNul bytes count) = field count bytes := by
  have filled : (PyPort.ljustNul bytes count).length = count := by
    simp [PyPort.ljustNul]
    omega
  rw [field, filled, List.take_of_length_le (Nat.le_of_eq filled), Nat.sub_self, field,
    List.take_of_length_le short]
  exact List.append_nil _

theorem text_without_nul (chars : Bytes) : ∀ byte ∈ text chars, byte ≠ 0 := by
  intro byte inside
  simpa using List.mem_takeWhile_imp inside

theorem rstrip_zeros {front : Bytes} (clean : ∀ byte ∈ front, byte ≠ 0) (zeros : Nat) :
    PyPort.rstripNul (front ++ List.replicate zeros 0) = front := by
  induction zeros with
  | zero =>
    rw [List.replicate_zero, List.append_nil, PyPort.rstripNul, List.rdropWhile_eq_self_iff]
    intro nonempty
    simpa using clean _ (List.getLast_mem nonempty)
  | succ zeros ih =>
    rw [List.replicate_succ', ← List.append_assoc, PyPort.rstripNul,
      List.rdropWhile_concat_pos _ _ _ (by decide)]
    exact ih

theorem strip_field {count : Nat} (chars : CharArray count) :
    PyPort.stripNul (field count (text chars.toList)) = text chars.toList := by
  have clean := text_without_nul chars.toList
  have short : (text chars.toList).length ≤ count :=
    Nat.le_trans (List.takeWhile_prefix _).length_le (Nat.le_of_eq chars.toList_length)
  rw [field, List.take_of_length_le short, PyPort.stripNul]
  rcases empty : text chars.toList with _ | ⟨first, rest⟩
  next => simp [PyPort.rstripNul]
  next =>
    have kept : ¬ (first == 0) = true := by simpa using clean first (by simp [empty])
    rw [List.cons_append, List.dropWhile_cons, if_neg kept, ← List.cons_append, ← empty]
    exact rstrip_zeros clean _

theorem rstrip_textual {chars : Bytes} (textual : Textual chars) :
    PyPort.rstripNul chars = text chars := by
  have padded := padded_textual textual rfl
  change text (chars.take chars.length) ++ _ = chars at padded
  rw [List.take_length] at padded
  conv_lhs => rw [← padded]
  exact rstrip_zeros (text_without_nul chars) _

end Fields

namespace Kind

-- The head of a new Python object of the class.
def pyNew : Kind -> PyPort.MsgBusPackHead
  | registerReq => PyPort.MsgBusRegisterReq.new.head
  | registerRsp => PyPort.MsgBusRegisterRsp.new.head
  | unRegisterReq => PyPort.MsgBusUnRegisterReq.new.head
  | confirmAliveReq => PyPort.MsgBusConfirmAliveReq.new.head
  | confirmAliveRsp => PyPort.MsgBusConfirmAliveRsp.new.head
  | getClientReq => PyPort.MsgBusGetClientReq.new.head
  | getClientRsp => PyPort.MsgBusGetClientRsp.new.head
  | sendMsgReq => PyPort.MsgBusSendMsgReq.new.head
  | sendMsgRsp => PyPort.MsgBusSendMsgRsp.new.head
  | packPBType => PyPort.MsgBusPackPBType.new.head

theorem constructed_py (kind : Kind) :
    pyHead (newHead kind.constructed.1 kind.constructed.2) = kind.pyNew := by
  cases kind <;> rfl

theorem constructed_small (kind : Kind) : kind.constructed.2.toNat < 2 ^ 31 := by
  cases kind <;> decide

end Kind

variable {kind : Kind}

def PacksAlike (object : kind.Object) (pyBytes : Option Bytes) : Prop :=
  ∃ bytes, kind.messageClass.packData object 0 = .ok (kind.messageClass.sent object, bytes) ∧
    pyBytes = some bytes

-- Whatever object receives it, Python accepts what the C++ object packs into as these values.
def ReadsAlike {Message : Type} (object : kind.Object)
    (receive : Message -> Bytes -> Option (Bool × Message)) (values : Message) : Prop :=
  ∃ bytes, kind.messageClass.packData object 0 = .ok (kind.messageClass.sent object, bytes) ∧
    ∀ fresh, receive fresh bytes = some (true, values)

section Frames

variable {object : kind.Object}

theorem sentHead_bodyLen {body : Bytes} (trip : BodyTrip object body) :
    (sentHead object).bodyLen.toNat = body.length := by
  have sized := trip.sized
  have covered : UInt32.ofNat MsgBusPackHead.size ≤ kind.messageClass.size object := by
    rw [UInt32.le_iff_toNat_le, ← sized]
    exact Nat.le_add_right _ _
  have head : (UInt32.ofNat MsgBusPackHead.size).toNat = MsgBusPackHead.size := rfl
  rw [sentHead, MessageClass.sent, Kind.head_setHead, UInt32.toNat_sub_of_le _ _ covered, ← sized,
    head, Nat.add_sub_cancel_left]

structure Constructed (object : kind.Object) : Prop where
  made : ∃ msgId bodyLen, kind.messageClass.head object =
    { newHead kind.constructed.1 kind.constructed.2 with msgId, bodyLen }
  fits : kind.Fits object

theorem Constructed.sent (formed : Constructed object) :
    ∃ msgId bodyLen, sentHead object =
      { newHead kind.constructed.1 kind.constructed.2 with msgId, bodyLen } ∧
      (kind.messageClass.head object).msgId = msgId := by
  obtain ⟨msgId, _, made⟩ := formed.made
  refine ⟨msgId, kind.messageClass.size object - UInt32.ofNat MsgBusPackHead.size, ?_,
    congrArg MsgBusPackHead.msgId made⟩
  rw [sentHead, MessageClass.sent, Kind.head_setHead, made]

theorem Constructed.wireHead_sent (formed : Constructed object) :
    wireHead (sentHead object) = pyHead (sentHead object) := by
  obtain ⟨_, _, made, _⟩ := formed.sent
  rw [wireHead_eq_iff, made]
  exact Kind.constructed_small kind

theorem packs_alike (formed : Constructed object) {bodySize : Option Nat}
    {packBody : Option Bytes} (sized : bodySize = some (kind.layout object).length)
    (packed : packBody = some (kind.layout object)) :
    PacksAlike object (PyPort.packDataWith
      (withMsgId kind.pyNew (kind.messageClass.head object).msgId) bodySize packBody) := by
  have trip := body_trip object formed.fits
  refine ⟨_, packData_frame trip 0 (.inl rfl), ?_⟩
  have head : { withMsgId kind.pyNew (kind.messageClass.head object).msgId with
      bodyLen := ((kind.layout object).length : Int) } = wireHead (sentHead object) := by
    obtain ⟨_, _, made, rfl⟩ := formed.sent
    rw [formed.wireHead_sent, ← sentHead_bodyLen trip, made, ← Kind.constructed_py]
    rfl
  rw [PyPort.packDataWith, sized, packed]
  simp only [Option.bind_eq_bind, Option.bind_some, head, packHead_wire]
  rfl

theorem unPackHead_py {head : MsgBusPackHead} (magic : head.magic = 0x66)
    (version : head.version = 1) (body : Bytes) :
    PyPort.MsgBusPackHead.unPackHead (packHead head ++ body) = some (true, wireHead head) := by
  have unpacked := unpack_pack (packHead_wire head) body
  simp only [PyPort.MsgBusPackHead.unPackHead, unpackFrom, List.drop_zero, unpacked]
  simp [PyPort.MsgBusPackHead.format, PyPort.MsgBusPackHead.values, Code.read, wireHead, pyHead,
    magic, version]

theorem reads_alike {Message : Type} (formed : Constructed object)
    {setHead : Message -> PyPort.MsgBusPackHead -> Message}
    {unPackBody : Message -> Bytes -> Option Message} {values : Message}
    (unpacked : ∀ fresh,
      unPackBody (setHead fresh (pyHead (sentHead object))) (kind.layout object) = some values) :
    ReadsAlike object (PyPort.receive setHead unPackBody) values := by
  have trip := body_trip object formed.fits
  refine ⟨_, packData_frame trip 0 (.inl rfl), ?_⟩
  intro fresh
  have kept : (sentHead object).magic = 0x66 ∧ (sentHead object).version = 1 := by
    obtain ⟨_, _, made, _⟩ := formed.sent
    rw [made]
    exact ⟨rfl, rfl⟩
  have drop : (packHead (sentHead object) ++ kind.layout object).drop
      PyPort.MsgBusPackHead.headSize = kind.layout object :=
    List.drop_left' (packHead_length _)
  rw [PyPort.receive, unPackHead_py kept.1 kept.2, formed.wireHead_sent]
  simp only [Option.bind_eq_bind, Option.bind_some, drop, unpacked]
  rfl

end Frames

section Requests

theorem packName (chars : ServiceName) :
    packOne PyPort.nameField (.str (text chars.toList)) =
      some (padded chars.toList maxServiceName).toList := by
  rw [PyPort.nameField, packOne, field_text]

theorem registerReq_packs (req : MsgBusRegisterReq) (formed : @Constructed .registerReq req) :
    @PacksAlike .registerReq req req.py.packData := by
  have short : (text req.serviceName.toList).length ≤ maxServiceName :=
    Nat.le_trans (List.takeWhile_prefix _).length_le (Nat.le_of_eq req.serviceName.toList_length)
  have justified : packOne PyPort.nameField
      (.str (PyPort.ljustNul (text req.serviceName.toList) maxServiceName)) =
        some (padded req.serviceName.toList maxServiceName).toList := by
    rw [PyPort.nameField, packOne, field_ljust _ short, field_text]
  apply @packs_alike .registerReq req formed
  case sized => simp [Kind.layout, MsgBusRegisterReq.layout]; rfl
  case packed =>
    simp only [PyPort.MsgBusRegisterReq.packBody, MsgBusRegisterReq.py, pack, justified,
      packHost_py]
    simp [Kind.layout, MsgBusRegisterReq.layout]

theorem unRegisterReq_packs (req : MsgBusUnRegisterReq) (formed : @Constructed .unRegisterReq req) :
    @PacksAlike .unRegisterReq req req.py.packData := by
  apply @packs_alike .unRegisterReq req formed
  case sized => simp [Kind.layout, MsgBusUnRegisterReq.layout]; rfl
  case packed =>
    simp only [PyPort.MsgBusUnRegisterReq.packBody, MsgBusUnRegisterReq.py, pack, packName,
      packHost_py]
    simp [Kind.layout, MsgBusUnRegisterReq.layout]

theorem confirmAliveReq_packs (req : MsgBusConfirmAliveReq)
    (formed : @Constructed .confirmAliveReq req) :
    @PacksAlike .confirmAliveReq req req.py.packData := by
  apply @packs_alike .confirmAliveReq req formed
  case sized => rfl
  case packed =>
    simp only [PyPort.MsgBusConfirmAliveReq.packBody, MsgBusConfirmAliveReq.py, pack, packOne_B]
    rfl

theorem getClientReq_packs (req : MsgBusGetClientReq) (formed : @Constructed .getClientReq req) :
    @PacksAlike .getClientReq req req.py.packData := by
  apply @packs_alike .getClientReq req formed
  case sized => simp [Kind.layout, MsgBusGetClientReq.layout]; rfl
  case packed =>
    simp only [PyPort.MsgBusGetClientReq.packBody, MsgBusGetClientReq.py, pack, packName]
    simp [Kind.layout, MsgBusGetClientReq.layout]

theorem sCode_length {bytes : Bytes} {length : Int} (same : length = bytes.length) :
    PyPort.sCode length = some (.s bytes.length) := by
  rw [PyPort.sCode, same, if_pos (Int.natCast_nonneg _), Int.toNat_natCast]

theorem packWhole (bytes : Bytes) : packOne (.s bytes.length) (.str bytes) = some bytes := by
  rw [packOne, field_whole]

theorem sendMsgReq_packs (req : MsgBusSendMsgReq) (formed : @Constructed .sendMsgReq req) :
    @PacksAlike .sendMsgReq req req.py.packData := by
  obtain ⟨length, _⟩ := formed.fits
  have content : PyPort.sCode req.py.msgLen = some (.s req.msgContent.length) := sCode_length rfl
  have msgLen : req.py.msgLen = (req.msgLen.toNat : Int) := congrArg Int.ofNat length
  apply @packs_alike .sendMsgReq req formed
  case sized =>
    rw [PyPort.MsgBusSendMsgReq.bodySize, content]
    simp [Kind.layout, MsgBusSendMsgReq.layout, calcsize, Code.size, PyPort.nameField]
  case packed =>
    rw [PyPort.MsgBusSendMsgReq.packBody, content, msgLen]
    simp only [MsgBusSendMsgReq.py, PyPort.MsgBusSendMsgReq.setMsgContent, Option.bind_eq_bind,
      Option.bind_some, pack, packName, packOne_I, packWhole]
    simp [Kind.layout, MsgBusSendMsgReq.layout]

theorem packPBType_packs (pb : MsgBusPackPBType) (formed : @Constructed .packPBType pb) :
    @PacksAlike .packPBType pb pb.py.packData := by
  obtain ⟨typeLength, _, dataLength, _⟩ := formed.fits
  have pbtype : PyPort.sCode pb.py.pbtypeLen = some (.s pb.pbtype.length) := sCode_length rfl
  have pbdata : PyPort.sCode pb.py.pbdataLen = some (.s pb.pbdata.length) := sCode_length rfl
  have pbtypeLen : pb.py.pbtypeLen = pb.pbtypeLen.toInt := typeLength
  have pbdataLen : pb.py.pbdataLen = pb.pbdataLen.toInt := dataLength
  apply @packs_alike .packPBType pb formed
  case sized =>
    rw [PyPort.MsgBusPackPBType.bodySize, pbtype, pbdata]
    simp [Kind.layout, MsgBusPackPBType.layout, calcsize, Code.size]
  case packed =>
    rw [PyPort.MsgBusPackPBType.packBody, pbtype, pbdata, pbtypeLen, pbdataLen]
    simp only [MsgBusPackPBType.py, PyPort.MsgBusPackPBType.setPBTypeAndData, Option.bind_eq_bind,
      Option.bind_some, pack, packOne_i, packWhole]
    simp [Kind.layout, MsgBusPackPBType.layout]

end Requests

section Answers

theorem unpackWhole (bytes : Bytes) : unpack [.s bytes.length] bytes = some [.str bytes] := by
  rw [unpack, Code.size, if_neg (Nat.lt_irrefl _), List.take_length]
  rfl

theorem read_name (bytes : Bytes) :
    Code.read PyPort.nameField (.str bytes) = .str (field maxServiceName bytes) := rfl

theorem registerRsp_reads (rsp : MsgBusRegisterRsp) (formed : @Constructed .registerRsp rsp) :
    @ReadsAlike .registerRsp _ rsp
      (PyPort.receive (fun rsp head => { rsp with head }) PyPort.MsgBusRegisterRsp.unPackBody)
      { rsp.py with head := pyHead (@sentHead .registerRsp rsp) } := by
  obtain ⟨length, _⟩ := formed.fits
  have errMsg : PyPort.sCode (rsp.errMsgLen.toNat : Int) = some (.s rsp.errMsg.length) :=
    sCode_length (by rw [length])
  have packed : pack [.H, PyPort.nameField, .H] [.int rsp.retCode.toNat,
      .str (text rsp.serviceName.toList), .int rsp.errMsgLen.toNat] =
        some (htons rsp.retCode ++ ((padded rsp.serviceName.toList maxServiceName).toList ++
          htons rsp.errMsgLen)) := by
    simp only [pack, packOne_H, packName]
    simp
  obtain ⟨front, rest⟩ := unpackFrom_front packed rsp.errMsg
  simp only [List.append_assoc] at front rest
  apply reads_alike formed
  intro fresh
  simp only [PyPort.MsgBusRegisterRsp.unPackBody, Kind.layout, MsgBusRegisterRsp.layout, front,
    rest, Option.bind_eq_bind, Option.bind_some, List.zipWith, read_name, Code.read_int, errMsg,
    unpackWhole, strip_field]
  rfl

theorem confirmAliveRsp_reads (rsp : MsgBusConfirmAliveRsp)
    (formed : @Constructed .confirmAliveRsp rsp) :
    @ReadsAlike .confirmAliveRsp _ rsp
      (PyPort.receive (fun rsp head => { rsp with head }) PyPort.MsgBusConfirmAliveRsp.unPackBody)
      { rsp.py with head := pyHead (@sentHead .confirmAliveRsp rsp) } := by
  have packed : pack [.H] [.int rsp.retCode.toNat] = some (htons rsp.retCode) := by
    simp only [pack, packOne_H]
    rfl
  obtain ⟨front, _⟩ := unpackFrom_front packed []
  rw [List.append_nil] at front
  apply reads_alike formed
  intro fresh
  simp only [PyPort.MsgBusConfirmAliveRsp.unPackBody, Kind.layout, MsgBusConfirmAliveRsp.layout,
    front, Option.bind_eq_bind, Option.bind_some, List.zipWith, Code.read_int]
  rfl

theorem unpackHost_py (host : Server.ClientHost) :
    PyPort.ClientHost.unpack (hostBytes host) = some (pyHost host) := by
  have packed : pack [.H, .i] [.int host.port.toNat, .int host.busyState.toInt32.toInt] =
      some (htons host.port ++ htonl host.busyState) := by
    have busyState := packOne_i host.busyState.toInt32
    simp only [pack, packOne_H, busyState]
    rfl
  have unpacked := unpack_pack packed []
  rw [List.append_nil] at unpacked
  have drop : (hostBytes host).drop 4 = htons host.port ++ htonl host.busyState := rfl
  simp only [PyPort.ClientHost.unpack, unpackFrom, drop, unpacked]
  rfl

theorem getClientRsp_reads (rsp : MsgBusGetClientRsp) (formed : @Constructed .getClientRsp rsp) :
    @ReadsAlike .getClientRsp _ rsp
      (PyPort.receive (fun rsp head => { rsp with head }) PyPort.MsgBusGetClientRsp.unPackBody)
      { rsp.py with head := pyHead (@sentHead .getClientRsp rsp) } := by
  have packed : pack [.H, PyPort.nameField] [.int rsp.retCode.toNat,
      .str (text rsp.destName.toList)] =
        some (htons rsp.retCode ++ (padded rsp.destName.toList maxServiceName).toList) := by
    simp only [pack, packOne_H, packName]
    simp
  obtain ⟨front, _⟩ := unpackFrom_front packed (hostBytes rsp.destHost)
  have drop := @List.drop_left' _ _ (hostBytes rsp.destHost) _ (pack_length packed)
  rw [List.append_assoc] at front drop
  apply reads_alike formed
  intro fresh
  simp only [PyPort.MsgBusGetClientRsp.unPackBody, Kind.layout, MsgBusGetClientRsp.layout, front,
    drop, unpackHost_py, Option.bind_eq_bind, Option.bind_some, List.zipWith, read_name,
    Code.read_int, strip_field]
  rfl

theorem sendMsgRsp_reads (rsp : MsgBusSendMsgRsp) (formed : @Constructed .sendMsgRsp rsp) :
    @ReadsAlike .sendMsgRsp _ rsp
      (PyPort.receive (fun rsp head => { rsp with head }) PyPort.MsgBusSendMsgRsp.unPackBody)
      { rsp.py with head := pyHead (@sentHead .sendMsgRsp rsp) } := by
  obtain ⟨length, _⟩ := formed.fits
  have errMsg : PyPort.sCode (rsp.errMsgLen.toNat : Int) = some (.s rsp.errMsg.length) :=
    sCode_length (by rw [length])
  have packed : pack [.H, .H] [.int rsp.retCode.toNat, .int rsp.errMsgLen.toNat] =
      some (htons rsp.retCode ++ htons rsp.errMsgLen) := by
    simp only [pack, packOne_H]
    rfl
  obtain ⟨front, rest⟩ := unpackFrom_front packed rsp.errMsg
  simp only [List.append_assoc] at front rest
  apply reads_alike formed
  intro fresh
  simp only [PyPort.MsgBusSendMsgRsp.unPackBody, Kind.layout, MsgBusSendMsgRsp.layout, front, rest,
    Option.bind_eq_bind, Option.bind_some, List.zipWith, Code.read_int, errMsg, unpackWhole]
  rfl

theorem sendMsgReq_reads (req : MsgBusSendMsgReq) (formed : @Constructed .sendMsgReq req) :
    @ReadsAlike .sendMsgReq _ req
      (PyPort.receive (fun req head => { req with head }) PyPort.MsgBusSendMsgReq.unPackBody)
      { req.py with head := pyHead (@sentHead .sendMsgReq req) } := by
  obtain ⟨length, _⟩ := formed.fits
  have content : PyPort.sCode (req.msgLen.toNat : Int) = some (.s req.msgContent.length) :=
    sCode_length (by rw [length])
  have msgLen : (req.msgLen.toNat : Int) = req.py.msgLen := congrArg Int.ofNat length.symm
  have packed : pack [PyPort.nameField, PyPort.nameField, .I] [.str (text req.destName.toList),
      .str (text req.fromName.toList), .int req.msgLen.toNat] =
        some ((padded req.destName.toList maxServiceName).toList ++
          ((padded req.fromName.toList maxServiceName).toList ++ htonl req.msgLen)) := by
    simp only [pack, packOne_I, packName]
    simp
  obtain ⟨front, rest⟩ := unpackFrom_front packed req.msgContent
  simp only [List.append_assoc] at front rest
  apply reads_alike formed
  intro fresh
  simp only [PyPort.MsgBusSendMsgReq.unPackBody, Kind.layout, MsgBusSendMsgReq.layout, front, rest,
    Option.bind_eq_bind, Option.bind_some, List.zipWith, read_name, Code.read_int, content,
    unpackWhole, strip_field]
  rw [msgLen]
  rfl

theorem packPBType_reads (pb : MsgBusPackPBType) (formed : @Constructed .packPBType pb) :
    @ReadsAlike .packPBType _ pb
      (PyPort.receive (fun pb head => { pb with head }) PyPort.MsgBusPackPBType.unPackBody)
      { pb.py with head := pyHead (@sentHead .packPBType pb), pbtype := text pb.pbtype } := by
  obtain ⟨typeLength, textual, dataLength, _⟩ := formed.fits
  have pbtype : PyPort.sCode pb.pbtypeLen.toInt = some (.s pb.pbtype.length) :=
    sCode_length typeLength.symm
  have pbdata : PyPort.sCode pb.pbdataLen.toInt = some (.s pb.pbdata.length) :=
    sCode_length dataLength.symm
  have pbtypeLen : pb.pbtypeLen.toInt = pb.py.pbtypeLen := typeLength.symm
  have pbdataLen : pb.pbdataLen.toInt = pb.py.pbdataLen := dataLength.symm
  have packed : pack [.i, .i] [.int pb.pbtypeLen.toInt, .int pb.pbdataLen.toInt] =
      some (htonl pb.pbtypeLen.toUInt32 ++ htonl pb.pbdataLen.toUInt32) := by
    simp only [pack, packOne_i]
    rfl
  have both : pack [.s pb.pbtype.length, .s pb.pbdata.length] [.str pb.pbtype, .str pb.pbdata] =
      some (pb.pbtype ++ pb.pbdata) := by
    simp only [pack, packWhole]
    simp
  have texts := unpack_pack both []
  rw [List.append_nil] at texts
  obtain ⟨front, rest⟩ := unpackFrom_front packed (pb.pbtype ++ pb.pbdata)
  simp only [List.append_assoc] at front rest
  apply reads_alike formed
  intro fresh
  simp only [PyPort.MsgBusPackPBType.unPackBody, Kind.layout, MsgBusPackPBType.layout, front, rest,
    Option.bind_eq_bind, Option.bind_some, List.zipWith, Code.read_int, Code.read_s, pbtype, pbdata,
    texts, field_whole, rstrip_textual textual]
  rw [pbtypeLen, pbdataLen]
  rfl

end Answers

namespace Kind

-- The classes a Python client sends, packed from the same values.
def PyPacks : (kind : Kind) -> kind.Object -> Prop
  | registerReq, (req : MsgBusRegisterReq) => @PacksAlike registerReq req req.py.packData
  | unRegisterReq, (req : MsgBusUnRegisterReq) => @PacksAlike unRegisterReq req req.py.packData
  | confirmAliveReq, (req : MsgBusConfirmAliveReq) =>
    @PacksAlike confirmAliveReq req req.py.packData
  | getClientReq, (req : MsgBusGetClientReq) => @PacksAlike getClientReq req req.py.packData
  | sendMsgReq, (req : MsgBusSendMsgReq) => @PacksAlike sendMsgReq req req.py.packData
  | packPBType, (pb : MsgBusPackPBType) => @PacksAlike packPBType pb pb.py.packData
  | _, _ => True

-- The classes the server sends to a Python client, and the values it takes from them.
def PyReads : (kind : Kind) -> kind.Object -> Prop
  | registerRsp, (rsp : MsgBusRegisterRsp) => @ReadsAlike registerRsp _ rsp
    (PyPort.receive (fun rsp head => { rsp with head }) PyPort.MsgBusRegisterRsp.unPackBody)
    { rsp.py with head := pyHead (@sentHead registerRsp rsp) }
  | confirmAliveRsp, (rsp : MsgBusConfirmAliveRsp) => @ReadsAlike confirmAliveRsp _ rsp
    (PyPort.receive (fun rsp head => { rsp with head }) PyPort.MsgBusConfirmAliveRsp.unPackBody)
    { rsp.py with head := pyHead (@sentHead confirmAliveRsp rsp) }
  | getClientRsp, (rsp : MsgBusGetClientRsp) => @ReadsAlike getClientRsp _ rsp
    (PyPort.receive (fun rsp head => { rsp with head }) PyPort.MsgBusGetClientRsp.unPackBody)
    { rsp.py with head := pyHead (@sentHead getClientRsp rsp) }
  | sendMsgRsp, (rsp : MsgBusSendMsgRsp) => @ReadsAlike sendMsgRsp _ rsp
    (PyPort.receive (fun rsp head => { rsp with head }) PyPort.MsgBusSendMsgRsp.unPackBody)
    { rsp.py with head := pyHead (@sentHead sendMsgRsp rsp) }
  | sendMsgReq, (req : MsgBusSendMsgReq) => @ReadsAlike sendMsgReq _ req
    (PyPort.receive (fun req head => { req with head }) PyPort.MsgBusSendMsgReq.unPackBody)
    { req.py with head := pyHead (@sentHead sendMsgReq req) }
  | packPBType, (pb : MsgBusPackPBType) => @ReadsAlike packPBType _ pb
    (PyPort.receive (fun pb head => { pb with head }) PyPort.MsgBusPackPBType.unPackBody)
    { pb.py with head := pyHead (@sentHead packPBType pb), pbtype := text pb.pbtype }
  | _, _ => True

end Kind

theorem python_speaks_same_frames (object : kind.Object) (formed : Constructed object) :
    kind.PyPacks object ∧ kind.PyReads object := by
  cases kind with
  | registerReq => exact ⟨registerReq_packs object formed, trivial⟩
  | registerRsp => exact ⟨trivial, registerRsp_reads object formed⟩
  | unRegisterReq => exact ⟨unRegisterReq_packs object formed, trivial⟩
  | confirmAliveReq => exact ⟨confirmAliveReq_packs object formed, trivial⟩
  | confirmAliveRsp => exact ⟨trivial, confirmAliveRsp_reads object formed⟩
  | getClientReq => exact ⟨getClientReq_packs object formed, trivial⟩
  | getClientRsp => exact ⟨trivial, getClientRsp_reads object formed⟩
  | sendMsgReq => exact ⟨sendMsgReq_packs object formed, sendMsgReq_reads object formed⟩
  | sendMsgRsp => exact ⟨trivial, sendMsgRsp_reads object formed⟩
  | packPBType => exact ⟨packPBType_packs object formed, packPBType_reads object formed⟩

def samplePBType (pbtype : Bytes) : Kind.packPBType.Object :=
  { head := newHead 0 BodyType.bodyPbtype, pbtypeLen := 3, pbdataLen := 1, pbtype, pbdata := [7]
    needfree := false : MsgBusPackPBType }

theorem python_speaks_same_frames_pbtype :
    Kind.packPBType.PyPacks (samplePBType [80, 66, 0]) ∧
      Kind.packPBType.PyReads (samplePBType [80, 66, 0]) :=
  python_speaks_same_frames (samplePBType [80, 66, 0])
    ⟨⟨0, 0, rfl⟩, rfl, (by decide +kernel : Textual [80, 66, 0]), rfl,
      (by decide : MsgBusPackHead.size + 4 + 3 + 4 + 1 < 2 ^ 32)⟩

-- C++ stops at the NUL and pads, Python copies.
theorem python_packs_inner_nul : (samplePBType [80, 0, 66] : MsgBusPackPBType).pbtype.length = 3 ∧
    (samplePBType [80, 0, 66] : MsgBusPackPBType).pbdata.length = 1 ∧
    ¬ Kind.packPBType.PyPacks (samplePBType [80, 0, 66]) := by
  refine ⟨rfl, rfl, ?_⟩
  rintro ⟨bytes, packed, same⟩
  have different : (Kind.packPBType.messageClass.packData
      (samplePBType [80, 0, 66]) 0).toOption.map Prod.snd ≠
        (MsgBusPackPBType.py (samplePBType [80, 0, 66])).packData := by decide +kernel
  rw [packed, same] at different
  exact different rfl

end MessageBus.Messages
