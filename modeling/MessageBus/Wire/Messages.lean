import MessageBus.Wire.Readers
import MessageBus.Server.Registry

set_option autoImplicit false

namespace MessageBus.Messages

open Bytes Readers Server

-- How a call does not return: a bare throw, or an access past the end of a buffer.
inductive Abort where
  | terminate
  | pastEnd
  deriving DecidableEq, Repr

-- char name[count].
abbrev CharArray (count : Nat) := List.Vector UInt8 count

def maxServiceName : Nat := 64

abbrev ServiceName := CharArray maxServiceName

-- What a buffer holds as a C string.
def text (chars : Bytes) : Bytes := chars.takeWhile (· != 0)

def padded (src : Bytes) (count : Nat) : CharArray count :=
  ⟨text (src.take count) ++ List.replicate (count - (text (src.take count)).length) 0, by
    have short : (text (src.take count)).length ≤ count :=
      Nat.le_trans (List.takeWhile_prefix _).length_le (List.length_take_le _ _)
    rw [List.length_append, List.length_replicate]
    omega⟩

-- strncpy stops reading at a NUL, or after count bytes.
def strncpy (src : Bytes) (count : Nat) : Except Abort (CharArray count) :=
  if count ≤ src.length ∨ 0 ∈ src then .ok (padded src count) else .error .pastEnd

-- The same into a buffer whose size is not fixed by its type.
def strncpyBytes (src : Bytes) (count : Nat) : Except Abort Bytes := do
  return (← strncpy src count).toList

def memcpy (src : Bytes) (count : Nat) : Except Abort Bytes :=
  if count ≤ src.length then .ok (src.take count) else .error .pastEnd

def load8 (p : Bytes) : Except Abort UInt8 := do return (← memcpy p 1).getD 0 0

def load16 (p : Bytes) : Except Abort UInt16 := do return ntohs (← memcpy p 2)

def load32 (p : Bytes) : Except Abort UInt32 := do return ntohl (← memcpy p 4)

-- `throw;` with no exception to throw again.
def checkRoom (len needed : Nat) : Except Abort Unit :=
  if len ≠ 0 ∧ len < needed then .error .terminate else .ok ()

def packHead (head : MsgBusPackHead) : Bytes :=
  [head.magic] ++ htons head.version ++ [head.msgType] ++ htonl head.msgId ++
    htonl head.bodyType ++ htonl head.bodyLen

def unPackTypedHead (type : UInt8) (head : MsgBusPackHead) (data : Bytes) : Int × MsgBusPackHead :=
  let unpacked := head.unPackHead data 0
  if unpacked.1 ≥ 0 ∧ unpacked.2.msgType = type then unpacked else (-1, unpacked.2)

def unPackReqHead : MsgBusPackHead -> Bytes -> Int × MsgBusPackHead := unPackTypedHead 0

def unPackRspHead : MsgBusPackHead -> Bytes -> Int × MsgBusPackHead := unPackTypedHead 1

namespace BodyType

def reqRegister : UInt32 := 0x010001
def reqUnregister : UInt32 := 0x010002
def reqConfirmAlive : UInt32 := 0x010003
def reqSendmsg : UInt32 := 0x010004
def reqGetclient : UInt32 := 0x010005
def rspRegister : UInt32 := 0x020001
def rspConfirmAlive : UInt32 := 0x020003
def rspSendmsg : UInt32 := 0x020004
def rspGetclient : UInt32 := 0x020005
def bodyPbtype : UInt32 := 0x030001

end BodyType

-- MsgBusPackHead(type, msgbody_type).
def newHead (type : UInt8) (bodyType : UInt32) : MsgBusPackHead :=
  { MsgBusPackHead.default with msgType := type, bodyType }

-- The functions of one message class. PackData and UnPackData have the same text in all of them, up
-- to what is named here.
structure MessageClass (Object : Type) where
  head : Object -> MsgBusPackHead
  setHead : Object -> MsgBusPackHead -> Object
  size : Object -> UInt32
  packBody : Object -> Nat -> Except Abort Bytes
  unPackBody : Object -> Bytes -> Nat -> Except Abort (Int × Object)
  unPackHead : MsgBusPackHead -> Bytes -> Int × MsgBusPackHead
  -- The body type UnPackData asks for.
  bodyType : UInt32
  -- UnPackData looks at len.
  checksLen : Bool

namespace MessageClass

variable {Object : Type} (messageClass : MessageClass Object)

-- The object PackData leaves: it fills in body_len.
def sent (object : Object) : Object :=
  messageClass.setHead object { messageClass.head object with
    bodyLen := messageClass.size object - UInt32.ofNat MsgBusPackHead.size }

def packData (object : Object) (len : Nat) : Except Abort (Object × Bytes) := do
  checkRoom len (messageClass.size object).toNat
  let object := messageClass.sent object
  return (object, packHead (messageClass.head object) ++ (← messageClass.packBody object 0))

def unPackData (object : Object) (data : Bytes) (len : Nat) : Except Abort (Int × Object) := do
  checkRoom (if messageClass.checksLen then len else 0) (messageClass.size object).toNat
  let _ ← memcpy data MsgBusPackHead.size
  let unpacked := messageClass.unPackHead (messageClass.head object) data
  let object := messageClass.setHead object unpacked.2
  if unpacked.1 ≥ 0 ∧ unpacked.2.bodyType = messageClass.bodyType then
    messageClass.unPackBody object (data.drop MsgBusPackHead.size) 0
  else return (-1, object)

end MessageClass

-- The struct as it lies in memory, every member in network order.
def hostBytes (host : ClientHost) : Bytes :=
  htonl host.ip ++ htons host.port ++ htonl host.busyState

def hostSize : Nat := 10

def loadHost (p : Bytes) : Except Abort ClientHost := do
  return { ip := ← load32 p, port := ← load16 (p.drop 4), busyState := ← load32 (p.drop 6) }

-- Size() without the head.
def bodySize (size : UInt32) : Nat := (size - UInt32.ofNat MsgBusPackHead.size).toNat

structure MsgBusRegisterReq where
  head : MsgBusPackHead
  serviceName : ServiceName
  serviceHost : ClientHost
  deriving DecidableEq

namespace MsgBusRegisterReq

def size : UInt32 := UInt32.ofNat (MsgBusPackHead.size + maxServiceName + hostSize)

def packBody (req : MsgBusRegisterReq) (len : Nat) : Except Abort Bytes := do
  checkRoom len (bodySize size)
  return (← strncpy req.serviceName.toList maxServiceName).toList ++ hostBytes req.serviceHost

def unPackBody (req : MsgBusRegisterReq) (data : Bytes) (len : Nat) :
    Except Abort (Int × MsgBusRegisterReq) := do
  checkRoom len (bodySize size)
  return (0, { req with
    serviceName := ← strncpy data maxServiceName
    serviceHost := ← loadHost (data.drop maxServiceName) })

def messageClass : MessageClass MsgBusRegisterReq where
  head := head
  setHead := fun req head => { req with head }
  size := fun _ => size
  packBody := packBody
  unPackBody := unPackBody
  unPackHead := unPackReqHead
  bodyType := BodyType.reqRegister
  checksLen := true

end MsgBusRegisterReq

structure MsgBusRegisterRsp where
  head : MsgBusPackHead
  retCode : UInt16
  serviceName : ServiceName
  errMsgLen : UInt16
  -- The bytes err_msg points to, none for NULL.
  errMsg : Bytes
  needfree : Bool
  deriving DecidableEq

namespace MsgBusRegisterRsp

def size (rsp : MsgBusRegisterRsp) : UInt32 :=
  UInt32.ofNat (MsgBusPackHead.size + 2 + maxServiceName + 2 + rsp.errMsgLen.toNat)

def freeVarData (rsp : MsgBusRegisterRsp) : MsgBusRegisterRsp :=
  if rsp.needfree then { rsp with errMsg := [] } else rsp

def packBody (rsp : MsgBusRegisterRsp) (len : Nat) : Except Abort Bytes := do
  checkRoom len (bodySize rsp.size)
  let serviceName ← strncpy rsp.serviceName.toList maxServiceName
  let errMsg ← strncpyBytes rsp.errMsg rsp.errMsgLen.toNat
  return htons rsp.retCode ++ serviceName.toList ++ htons rsp.errMsgLen ++ errMsg

def unPackBody (rsp : MsgBusRegisterRsp) (data : Bytes) (len : Nat) :
    Except Abort (Int × MsgBusRegisterRsp) := do
  if len ≠ 0 ∧ len < 2 + maxServiceName + 2 then return (-1, rsp)
  let rsp := { rsp with retCode := ← load16 data }
  let p := data.drop 2
  let rsp := { rsp with serviceName := ← strncpy p maxServiceName }
  let p := p.drop maxServiceName
  let rsp := { rsp with errMsgLen := ← load16 p }
  let p := p.drop 2
  if len ≠ 0 ∧ len < 2 + maxServiceName + 2 + rsp.errMsgLen.toNat then return (-1, rsp)
  let errMsg ← strncpyBytes p rsp.errMsgLen.toNat
  return (0, { rsp.freeVarData with needfree := true, errMsg })

def messageClass : MessageClass MsgBusRegisterRsp where
  head := head
  setHead := fun rsp head => { rsp with head }
  size := size
  packBody := packBody
  unPackBody := unPackBody
  unPackHead := unPackRspHead
  bodyType := BodyType.rspRegister
  checksLen := false

end MsgBusRegisterRsp

structure MsgBusUnRegisterReq where
  head : MsgBusPackHead
  serviceName : ServiceName
  serviceHost : ClientHost
  deriving DecidableEq

namespace MsgBusUnRegisterReq

def size : UInt32 := UInt32.ofNat (MsgBusPackHead.size + maxServiceName + hostSize)

def packBody (req : MsgBusUnRegisterReq) (len : Nat) : Except Abort Bytes := do
  checkRoom len (bodySize size)
  return (← strncpy req.serviceName.toList maxServiceName).toList ++ hostBytes req.serviceHost

def unPackBody (req : MsgBusUnRegisterReq) (data : Bytes) (len : Nat) :
    Except Abort (Int × MsgBusUnRegisterReq) := do
  checkRoom len (bodySize size)
  return (0, { req with
    serviceName := ← strncpy data maxServiceName
    serviceHost := ← loadHost (data.drop maxServiceName) })

def messageClass : MessageClass MsgBusUnRegisterReq where
  head := head
  setHead := fun req head => { req with head }
  size := fun _ => size
  packBody := packBody
  unPackBody := unPackBody
  unPackHead := unPackReqHead
  bodyType := BodyType.reqUnregister
  checksLen := true

end MsgBusUnRegisterReq

structure MsgBusConfirmAliveReq where
  head : MsgBusPackHead
  aliveFlag : UInt8
  deriving DecidableEq

namespace MsgBusConfirmAliveReq

def size : UInt32 := UInt32.ofNat (MsgBusPackHead.size + 1)

def packBody (req : MsgBusConfirmAliveReq) (len : Nat) : Except Abort Bytes := do
  checkRoom len (bodySize size)
  return [req.aliveFlag]

def unPackBody (req : MsgBusConfirmAliveReq) (data : Bytes) (len : Nat) :
    Except Abort (Int × MsgBusConfirmAliveReq) := do
  checkRoom len (bodySize size)
  return (0, { req with aliveFlag := ← load8 data })

def messageClass : MessageClass MsgBusConfirmAliveReq where
  head := head
  setHead := fun req head => { req with head }
  size := fun _ => size
  packBody := packBody
  unPackBody := unPackBody
  unPackHead := unPackReqHead
  bodyType := BodyType.reqConfirmAlive
  checksLen := true

end MsgBusConfirmAliveReq

structure MsgBusConfirmAliveRsp where
  head : MsgBusPackHead
  retCode : UInt16
  deriving DecidableEq

namespace MsgBusConfirmAliveRsp

def size : UInt32 := UInt32.ofNat (MsgBusPackHead.size + 2)

def packBody (rsp : MsgBusConfirmAliveRsp) (len : Nat) : Except Abort Bytes := do
  checkRoom len (bodySize size)
  return htons rsp.retCode

def unPackBody (rsp : MsgBusConfirmAliveRsp) (data : Bytes) (len : Nat) :
    Except Abort (Int × MsgBusConfirmAliveRsp) := do
  checkRoom len (bodySize size)
  return (0, { rsp with retCode := ← load16 data })

def messageClass : MessageClass MsgBusConfirmAliveRsp where
  head := head
  setHead := fun rsp head => { rsp with head }
  size := fun _ => size
  packBody := packBody
  unPackBody := unPackBody
  unPackHead := unPackRspHead
  -- UnPackData asks for RSP_REGISTER here; the constructor sets RSP_CONFIRM_ALIVE.
  bodyType := BodyType.rspRegister
  checksLen := true

end MsgBusConfirmAliveRsp

structure MsgBusGetClientReq where
  head : MsgBusPackHead
  destName : ServiceName
  deriving DecidableEq

namespace MsgBusGetClientReq

def size : UInt32 := UInt32.ofNat (MsgBusPackHead.size + maxServiceName)

def packBody (req : MsgBusGetClientReq) (len : Nat) : Except Abort Bytes := do
  checkRoom len (bodySize size)
  return (← strncpy req.destName.toList maxServiceName).toList

def unPackBody (req : MsgBusGetClientReq) (data : Bytes) (len : Nat) :
    Except Abort (Int × MsgBusGetClientReq) := do
  checkRoom len (bodySize size)
  return (0, { req with destName := ← strncpy data maxServiceName })

def messageClass : MessageClass MsgBusGetClientReq where
  head := head
  setHead := fun req head => { req with head }
  size := fun _ => size
  packBody := packBody
  unPackBody := unPackBody
  unPackHead := unPackReqHead
  bodyType := BodyType.reqGetclient
  checksLen := true

end MsgBusGetClientReq

structure MsgBusGetClientRsp where
  head : MsgBusPackHead
  retCode : UInt16
  destName : ServiceName
  destHost : ClientHost
  deriving DecidableEq

namespace MsgBusGetClientRsp

def size : UInt32 := UInt32.ofNat (MsgBusPackHead.size + 2 + maxServiceName + hostSize)

def packBody (rsp : MsgBusGetClientRsp) (len : Nat) : Except Abort Bytes := do
  checkRoom len (bodySize size)
  let destName ← strncpy rsp.destName.toList maxServiceName
  return htons rsp.retCode ++ destName.toList ++ hostBytes rsp.destHost

def unPackBody (rsp : MsgBusGetClientRsp) (data : Bytes) (len : Nat) :
    Except Abort (Int × MsgBusGetClientRsp) := do
  checkRoom len (bodySize size)
  let rsp := { rsp with retCode := ← load16 data }
  let p := data.drop 2
  let rsp := { rsp with destName := ← strncpy p maxServiceName }
  let p := p.drop maxServiceName
  return (0, { rsp with destHost := ← loadHost p })

def messageClass : MessageClass MsgBusGetClientRsp where
  head := head
  setHead := fun rsp head => { rsp with head }
  size := fun _ => size
  packBody := packBody
  unPackBody := unPackBody
  unPackHead := unPackRspHead
  bodyType := BodyType.rspGetclient
  checksLen := true

end MsgBusGetClientRsp

structure MsgBusSendMsgReq where
  head : MsgBusPackHead
  destName : ServiceName
  fromName : ServiceName
  msgLen : UInt32
  msgContent : Bytes
  needfree : Bool
  deriving DecidableEq

namespace MsgBusSendMsgReq

def size (req : MsgBusSendMsgReq) : UInt32 :=
  UInt32.ofNat (MsgBusPackHead.size + 2 * maxServiceName + 4 + req.msgLen.toNat)

def freeVarData (req : MsgBusSendMsgReq) : MsgBusSendMsgReq :=
  if req.needfree then { req with msgContent := [] } else req

def packBody (req : MsgBusSendMsgReq) (len : Nat) : Except Abort Bytes := do
  checkRoom len (bodySize req.size)
  let destName ← strncpy req.destName.toList maxServiceName
  let fromName ← strncpy req.fromName.toList maxServiceName
  let msgContent ← memcpy req.msgContent req.msgLen.toNat
  return destName.toList ++ fromName.toList ++ htonl req.msgLen ++ msgContent

def unPackBody (req : MsgBusSendMsgReq) (data : Bytes) (len : Nat) :
    Except Abort (Int × MsgBusSendMsgReq) := do
  if len ≠ 0 ∧ len < maxServiceName * 2 + 4 then return (-1, req)
  let req := { req with destName := ← strncpy data maxServiceName }
  let p := data.drop maxServiceName
  let req := { req with fromName := ← strncpy p maxServiceName }
  let p := p.drop maxServiceName
  let req := { req with msgLen := ← load32 p }
  let p := p.drop 4
  if len ≠ 0 ∧ len < maxServiceName * 2 + 4 + req.msgLen.toNat then return (-1, req)
  let msgContent ← memcpy p req.msgLen.toNat
  return (0, { req.freeVarData with needfree := true, msgContent })

def messageClass : MessageClass MsgBusSendMsgReq where
  head := head
  setHead := fun req head => { req with head }
  size := size
  packBody := packBody
  unPackBody := unPackBody
  unPackHead := unPackReqHead
  bodyType := BodyType.reqSendmsg
  checksLen := false

end MsgBusSendMsgReq

structure MsgBusSendMsgRsp where
  head : MsgBusPackHead
  retCode : UInt16
  errMsgLen : UInt16
  errMsg : Bytes
  needfree : Bool
  deriving DecidableEq

namespace MsgBusSendMsgRsp

def size (rsp : MsgBusSendMsgRsp) : UInt32 :=
  UInt32.ofNat (MsgBusPackHead.size + 2 + 2 + rsp.errMsgLen.toNat)

def freeVarData (rsp : MsgBusSendMsgRsp) : MsgBusSendMsgRsp :=
  if rsp.needfree then { rsp with errMsg := [] } else rsp

def packBody (rsp : MsgBusSendMsgRsp) (len : Nat) : Except Abort Bytes := do
  checkRoom len (bodySize rsp.size)
  let errMsg ← strncpyBytes rsp.errMsg rsp.errMsgLen.toNat
  return htons rsp.retCode ++ htons rsp.errMsgLen ++ errMsg

def unPackBody (rsp : MsgBusSendMsgRsp) (data : Bytes) (len : Nat) :
    Except Abort (Int × MsgBusSendMsgRsp) := do
  if len ≠ 0 ∧ len < 2 then return (-1, rsp)
  let rsp := { rsp with retCode := ← load16 data }
  let p := data.drop 2
  if len ≠ 0 ∧ len < 2 + 2 then return (-1, rsp)
  let rsp := { rsp with errMsgLen := ← load16 p }
  let p := p.drop 2
  if len ≠ 0 ∧ len < 2 + 2 + rsp.errMsgLen.toNat then return (-1, rsp)
  let errMsg ← strncpyBytes p rsp.errMsgLen.toNat
  return (0, { rsp.freeVarData with needfree := true, errMsg })

def messageClass : MessageClass MsgBusSendMsgRsp where
  head := head
  setHead := fun rsp head => { rsp with head }
  size := size
  packBody := packBody
  unPackBody := unPackBody
  unPackHead := unPackRspHead
  bodyType := BodyType.rspSendmsg
  checksLen := false

end MsgBusSendMsgRsp

structure MsgBusPackPBType where
  head : MsgBusPackHead
  pbtypeLen : Int32
  pbdataLen : Int32
  pbtype : Bytes
  pbdata : Bytes
  needfree : Bool
  deriving DecidableEq

namespace MsgBusPackPBType

-- A length as an operand of size_t, where a negative one is huge, and of a sum of 32 bits.
def sizeT (length : Int32) : Nat := (length.toInt % 2 ^ 64).toNat

def size (pack : MsgBusPackPBType) : UInt32 :=
  UInt32.ofNat (MsgBusPackHead.size + 4 + sizeT pack.pbtypeLen + 4 + sizeT pack.pbdataLen)

def freeVarData (pack : MsgBusPackPBType) : MsgBusPackPBType :=
  if pack.needfree then { pack with pbtype := [], pbdata := [], needfree := false }
  else pack

def packBody (pack : MsgBusPackPBType) (len : Nat) : Except Abort Bytes := do
  checkRoom len (bodySize pack.size)
  let pbtype ← strncpyBytes pack.pbtype (sizeT pack.pbtypeLen)
  let pbdata ← memcpy pack.pbdata (sizeT pack.pbdataLen)
  return htonl pack.pbtypeLen.toUInt32 ++ htonl pack.pbdataLen.toUInt32 ++ pbtype ++ pbdata

def unPackBody (pack : MsgBusPackPBType) (data : Bytes) (len : Nat) :
    Except Abort (Int × MsgBusPackPBType) := do
  checkRoom len 4
  let pack := { pack with pbtypeLen := (← load32 data).toInt32 }
  let p := data.drop 4
  if len ≠ 0 ∧ len < (4 + sizeT pack.pbtypeLen) % 2 ^ 64 then return (-1, pack)
  let pack := { pack with pbdataLen := (← load32 p).toInt32 }
  if len ≠ 0 ∧ len < bodySize pack.size then return (-1, pack)
  let p := p.drop 4
  let pack := { pack.freeVarData with needfree := true }
  -- new[] of a negative length throws, which the handler turns into -1.
  if pack.pbtypeLen < 0 then return (-1, pack)
  let pack := { pack with pbtype := ← strncpyBytes p (sizeT pack.pbtypeLen) }
  let p := p.drop (sizeT pack.pbtypeLen)
  if len ≠ 0 ∧ len < (4 + sizeT pack.pbtypeLen + 4) % 2 ^ 64 then return (-1, pack)
  if pack.pbdataLen < 0 then return (-1, pack)
  let pbdata ← memcpy p (sizeT pack.pbdataLen)
  return (0, { pack with pbdata })

def messageClass : MessageClass MsgBusPackPBType where
  head := head
  setHead := fun pack head => { pack with head }
  size := size
  packBody := packBody
  unPackBody := unPackBody
  unPackHead := fun head data => head.unPackHead data 0
  bodyType := BodyType.bodyPbtype
  checksLen := false

end MsgBusPackPBType

end MessageBus.Messages
