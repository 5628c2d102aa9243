import MessageBus.Shared.StructFormat
import MessageBus.Wire.Messages

set_option autoImplicit false

-- The message classes of the Python port. Its numbers have no bound; its strings are bytes.
namespace MessageBus.PyPort

open StructFormat
open Messages (maxServiceName)

-- str.strip and str.rstrip of NULs.
def rstripNul (value : Bytes) : Bytes := value.rdropWhile (· == 0)

def stripNul (value : Bytes) : Bytes := rstripNul (value.dropWhile (· == 0))

def ljustNul (value : Bytes) (width : Nat) : Bytes :=
  value ++ List.replicate (width - value.length) 0

-- str(length) + 's' in a format; a sign in it is an error.
def sCode (length : Int) : Option Code :=
  if 0 ≤ length then some (.s length.toNat) else none

structure ClientHost where
  serverIp : Bytes
  serverPort : Int
  busyState : Int
  deriving DecidableEq, Repr

namespace ClientHost

def pack (host : ClientHost) : Option Bytes := do
  return ljustNul host.serverIp 4 ++
    (← StructFormat.pack [.H, .i] [.int host.serverPort, .int host.busyState])

def unpack (data : Bytes) : Option ClientHost := do
  match ← unpackFrom [.H, .i] data 4 with
  | [.int serverPort, .int busyState] =>
    return { serverIp := data.take 4, serverPort, busyState }
  | _ => none

def size : Nat := 4 + calcsize [.H, .i]

-- ClientHost().
def new : ClientHost := { serverIp := [], serverPort := 0, busyState := 0 }

end ClientHost

-- kMsgBusBodyType.
namespace BodyType

def reqRegister : Int := 0x010001
def reqUnregister : Int := 0x010002
def reqConfirmAlive : Int := 0x010003
def reqSendmsg : Int := 0x010004
def reqGetclient : Int := 0x010005
def rspRegister : Int := 0x020001
def rspConfirmAlive : Int := 0x020003
def rspSendmsg : Int := 0x020004
def rspGetclient : Int := 0x020005
def bodyPbtype : Int := 0x030001

end BodyType

structure MsgBusPackHead where
  magic : Int
  version : Int
  msgType : Int
  msgId : Int
  bodyType : Int
  bodyLen : Int
  deriving DecidableEq, Repr

namespace MsgBusPackHead

-- MsgBusPackHead(type, msgbody_type), and so on below.
def new (type msgbodyType : Int) : MsgBusPackHead :=
  { magic := 0x66, version := 0x0001, msgType := type, msgId := 0, bodyType := msgbodyType
    bodyLen := 0 }

def format : List Code := [.B, .H, .B, .I, .i, .I]

def values (head : MsgBusPackHead) : List Value :=
  [.int head.magic, .int head.version, .int head.msgType, .int head.msgId, .int head.bodyType,
    .int head.bodyLen]

def packHead (head : MsgBusPackHead) : Option Bytes := pack format head.values

-- The flag is what UnPackHead returns.
def unPackHead (data : Bytes) : Option (Bool × MsgBusPackHead) := do
  match ← unpackFrom format data 0 with
  | [.int magic, .int version, .int msgType, .int msgId, .int bodyType, .int bodyLen] =>
    return (!(magic != 0x66 || version != 0x0001),
      { magic, version, msgType, msgId, bodyType, bodyLen })
  | _ => none

def headSize : Nat := calcsize format

end MsgBusPackHead

def MsgBusPackHeadReq.new (type : Int) : MsgBusPackHead := .new 0 type

def MsgBusPackHeadRsp.new (type : Int) : MsgBusPackHead := .new 1 type

-- What PackData does in every class, given its BodySize and its PackBody.
def packDataWith (head : MsgBusPackHead) (bodySize : Option Nat) (packBody : Option Bytes) :
    Option Bytes := do
  return (← { head with bodyLen := (← bodySize) }.packHead) ++ (← packBody)

-- '64s'.
def nameField : Code := .s maxServiceName

structure MsgBusRegisterReq where
  head : MsgBusPackHead
  serviceName : Bytes
  serviceHost : ClientHost
  deriving DecidableEq, Repr

def MsgBusRegisterReq.new : MsgBusRegisterReq :=
  { head := MsgBusPackHeadReq.new BodyType.reqRegister, serviceName := [], serviceHost := .new }

namespace MsgBusRegisterReq

def packBody (req : MsgBusRegisterReq) : Option Bytes := do
  return (← pack [nameField] [.str (ljustNul req.serviceName maxServiceName)]) ++
    (← req.serviceHost.pack)

def bodySize : Nat := maxServiceName + ClientHost.size

def packData (req : MsgBusRegisterReq) : Option Bytes :=
  packDataWith req.head (some bodySize) req.packBody

end MsgBusRegisterReq

structure MsgBusUnRegisterReq where
  head : MsgBusPackHead
  serviceName : Bytes
  serviceHost : ClientHost
  deriving DecidableEq, Repr

def MsgBusUnRegisterReq.new : MsgBusUnRegisterReq :=
  { head := MsgBusPackHeadReq.new BodyType.reqUnregister, serviceName := [], serviceHost := .new }

namespace MsgBusUnRegisterReq

-- Without the ljust of MsgBusRegisterReq: the format fills the field.
def packBody (req : MsgBusUnRegisterReq) : Option Bytes := do
  return (← pack [nameField] [.str req.serviceName]) ++ (← req.serviceHost.pack)

def bodySize : Nat := calcsize [nameField] + ClientHost.size

def packData (req : MsgBusUnRegisterReq) : Option Bytes :=
  packDataWith req.head (some bodySize) req.packBody

end MsgBusUnRegisterReq

structure MsgBusConfirmAliveReq where
  head : MsgBusPackHead
  aliveFlag : Int
  deriving DecidableEq, Repr

def MsgBusConfirmAliveReq.new : MsgBusConfirmAliveReq :=
  { head := MsgBusPackHeadReq.new BodyType.reqConfirmAlive, aliveFlag := 0 }

namespace MsgBusConfirmAliveReq

def packBody (req : MsgBusConfirmAliveReq) : Option Bytes := pack [.B] [.int req.aliveFlag]

def bodySize : Nat := calcsize [.B]

def packData (req : MsgBusConfirmAliveReq) : Option Bytes :=
  packDataWith req.head (some bodySize) req.packBody

end MsgBusConfirmAliveReq

structure MsgBusGetClientReq where
  head : MsgBusPackHead
  destName : Bytes
  deriving DecidableEq, Repr

def MsgBusGetClientReq.new : MsgBusGetClientReq :=
  { head := MsgBusPackHeadReq.new BodyType.reqGetclient, destName := [] }

namespace MsgBusGetClientReq

def packBody (req : MsgBusGetClientReq) : Option Bytes := pack [nameField] [.str req.destName]

def bodySize : Nat := calcsize [nameField]

def packData (req : MsgBusGetClientReq) : Option Bytes :=
  packDataWith req.head (some bodySize) req.packBody

end MsgBusGetClientReq

structure MsgBusSendMsgReq where
  head : MsgBusPackHead
  destName : Bytes
  fromName : Bytes
  msgLen : Int
  msgContent : Bytes
  deriving DecidableEq, Repr

def MsgBusSendMsgReq.new : MsgBusSendMsgReq :=
  { head := MsgBusPackHeadReq.new BodyType.reqSendmsg, destName := [], fromName := [], msgLen := 0
    msgContent := [] }

namespace MsgBusSendMsgReq

def setMsgContent (req : MsgBusSendMsgReq) (content : Bytes) : MsgBusSendMsgReq :=
  { req with msgContent := content, msgLen := content.length }

def packBody (req : MsgBusSendMsgReq) : Option Bytes := do
  pack [nameField, nameField, .I, ← sCode req.msgLen]
    [.str req.destName, .str req.fromName, .int req.msgLen, .str req.msgContent]

def bodySize (req : MsgBusSendMsgReq) : Option Nat := do
  return calcsize [nameField, nameField, .I, ← sCode req.msgLen]

def packData (req : MsgBusSendMsgReq) : Option Bytes :=
  packDataWith req.head req.bodySize req.packBody

def unPackBody (req : MsgBusSendMsgReq) (data : Bytes) : Option MsgBusSendMsgReq := do
  match ← unpackFrom [nameField, nameField, .I] data 0 with
  | [.str destName, .str fromName, .int msgLen] =>
    match ← unpackFrom [← sCode msgLen] data (calcsize [nameField, nameField, .I]) with
    | [.str msgContent] =>
      return { req with
        destName := stripNul destName, fromName := stripNul fromName, msgLen, msgContent }
    | _ => none
  | _ => none

end MsgBusSendMsgReq

structure MsgBusPackPBType where
  head : MsgBusPackHead
  pbtypeLen : Int
  pbdataLen : Int
  pbtype : Bytes
  pbdata : Bytes
  deriving DecidableEq, Repr

def MsgBusPackPBType.new : MsgBusPackPBType :=
  { head := .new 0 BodyType.bodyPbtype, pbtypeLen := 0, pbdataLen := 0, pbtype := [], pbdata := [] }

namespace MsgBusPackPBType

def setPBTypeAndData (pb : MsgBusPackPBType) (pbtype pbdata : Bytes) : MsgBusPackPBType :=
  { pb with pbtype, pbdata, pbtypeLen := pbtype.length, pbdataLen := pbdata.length }

def packBody (pb : MsgBusPackPBType) : Option Bytes := do
  pack [.i, .i, ← sCode pb.pbtypeLen, ← sCode pb.pbdataLen]
    [.int pb.pbtypeLen, .int pb.pbdataLen, .str pb.pbtype, .str pb.pbdata]

def bodySize (pb : MsgBusPackPBType) : Option Nat := do
  return calcsize [.i, .i, ← sCode pb.pbtypeLen, ← sCode pb.pbdataLen]

def packData (pb : MsgBusPackPBType) : Option Bytes :=
  packDataWith pb.head pb.bodySize pb.packBody

def unPackBody (pb : MsgBusPackPBType) (data : Bytes) : Option MsgBusPackPBType := do
  match ← unpackFrom [.i, .i] data 0 with
  | [.int pbtypeLen, .int pbdataLen] =>
    match ← unpackFrom [← sCode pbtypeLen, ← sCode pbdataLen] data (calcsize [.i, .i]) with
    | [.str pbtype, .str pbdata] =>
      return { pb with pbtypeLen, pbdataLen, pbtype := rstripNul pbtype, pbdata }
    | _ => none
  | _ => none

end MsgBusPackPBType

structure MsgBusRegisterRsp where
  head : MsgBusPackHead
  retCode : Int
  serviceName : Bytes
  errMsgLen : Int
  errMsg : Bytes
  deriving DecidableEq, Repr

def MsgBusRegisterRsp.new : MsgBusRegisterRsp :=
  { head := MsgBusPackHeadRsp.new BodyType.rspRegister, retCode := 0, serviceName := []
    errMsgLen := 0, errMsg := [] }

def MsgBusRegisterRsp.unPackBody (rsp : MsgBusRegisterRsp) (data : Bytes) :
    Option MsgBusRegisterRsp := do
  match ← unpackFrom [.H, nameField, .H] data 0 with
  | [.int retCode, .str serviceName, .int errMsgLen] =>
    match ← unpackFrom [← sCode errMsgLen] data (calcsize [.H, nameField, .H]) with
    | [.str errMsg] =>
      return { rsp with retCode, serviceName := stripNul serviceName, errMsgLen, errMsg }
    | _ => none
  | _ => none

structure MsgBusConfirmAliveRsp where
  head : MsgBusPackHead
  retCode : Int
  deriving DecidableEq, Repr

def MsgBusConfirmAliveRsp.new : MsgBusConfirmAliveRsp :=
  { head := MsgBusPackHeadRsp.new BodyType.rspConfirmAlive, retCode := 0 }

def MsgBusConfirmAliveRsp.unPackBody (rsp : MsgBusConfirmAliveRsp) (data : Bytes) :
    Option MsgBusConfirmAliveRsp := do
  match ← unpackFrom [.H] data 0 with
  | [.int retCode] => return { rsp with retCode }
  | _ => none

structure MsgBusGetClientRsp where
  head : MsgBusPackHead
  retCode : Int
  destName : Bytes
  destHost : ClientHost
  deriving DecidableEq, Repr

def MsgBusGetClientRsp.new : MsgBusGetClientRsp :=
  { head := MsgBusPackHeadRsp.new BodyType.rspGetclient, retCode := 0, destName := []
    destHost := .new }

def MsgBusGetClientRsp.unPackBody (rsp : MsgBusGetClientRsp) (data : Bytes) :
    Option MsgBusGetClientRsp := do
  match ← unpackFrom [.H, nameField] data 0 with
  | [.int retCode, .str destName] =>
    return { rsp with
      retCode, destName := stripNul destName
      destHost := ← ClientHost.unpack (data.drop (calcsize [.H, nameField])) }
  | _ => none

structure MsgBusSendMsgRsp where
  head : MsgBusPackHead
  retCode : Int
  errMsgLen : Int
  errMsg : Bytes
  deriving DecidableEq, Repr

def MsgBusSendMsgRsp.new : MsgBusSendMsgRsp :=
  { head := MsgBusPackHeadRsp.new BodyType.rspSendmsg, retCode := 0, errMsgLen := 0, errMsg := [] }

def MsgBusSendMsgRsp.unPackBody (rsp : MsgBusSendMsgRsp) (data : Bytes) :
    Option MsgBusSendMsgRsp := do
  match ← unpackFrom [.H, .H] data 0 with
  | [.int retCode, .int errMsgLen] =>
    match ← unpackFrom [← sCode errMsgLen] data (calcsize [.H, .H]) with
    | [.str errMsg] => return { rsp with retCode, errMsgLen, errMsg }
    | _ => none
  | _ => none

-- UnPackHead on the frame, then UnPackBody on what follows the head; with the flag.
def receive {Message : Type} (setHead : Message -> MsgBusPackHead -> Message)
    (unPackBody : Message -> Bytes -> Option Message) (message : Message) (data : Bytes) :
    Option (Bool × Message) := do
  let (valid, head) ← MsgBusPackHead.unPackHead data
  return (valid, ← unPackBody (setHead message head) (data.drop MsgBusPackHead.headSize))

end MessageBus.PyPort
