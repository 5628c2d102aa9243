import MessageBus.Server.SendMsgReq
import MessageBus.Wire.Content
import MessageBus.Wire.MessageCodec

set_option autoImplicit false

namespace MessageBus.Outbound

open Bytes Content Messages Server

-- A memcpy goes past the end of its destination.
def Overruns {Result : Type} (result : Except Abort Result) : Prop := result = .error .pastEnd

theorem overruns_bind {First Result : Type} {first : Except Abort First} (after : First -> Result) :
    Overruns (do return after (← first)) ↔ Overruns first := by
  cases first <;> simp [Overruns, bind, Except.bind, pure, Except.pure]

theorem not_overruns {Result : Type} (result : Result) : ¬ Overruns (.ok result) := by
  intro overruns
  cases overruns

structure Writing where
  size : UInt32
  bytes : Bytes
  deriving DecidableEq, Repr

namespace Writing

variable (writing : Writing)

def Exact : Prop := writing.size.toNat = writing.bytes.length

def run : Except Abort Bytes := writeTo writing.size writing.bytes

variable {writing} {total : Nat}

theorem exact_iff (size : writing.size = .ofNat total) (length : writing.bytes.length = total) :
    writing.Exact ↔ total < 2 ^ 32 := by
  rw [Exact, size, length, UInt32.toNat_ofNat']
  exact ⟨fun same => same ▸ Nat.mod_lt _ (by decide), Nat.mod_eq_of_lt⟩

theorem run_eq (size : writing.size = .ofNat total) (length : writing.bytes.length = total) :
    writing.run = if total < 2 ^ 32 then .ok writing.bytes else .error .pastEnd := by
  rw [run, writeTo, size, length, UInt32.toNat_ofNat']
  by_cases fits : total < 2 ^ 32
  · rw [Nat.mod_eq_of_lt fits, if_pos (Nat.le_refl _), if_pos fits]
  · rw [if_neg fits, if_neg]
    have wrapped : total % 2 ^ 32 < 2 ^ 32 := Nat.mod_lt _ (by decide)
    omega

theorem overruns_iff (size : writing.size = .ofNat total)
    (length : writing.bytes.length = total) : Overruns writing.run ↔ 2 ^ 32 ≤ total := by
  rw [run_eq size length]
  split
  next fits => exact iff_of_false (not_overruns _) (Nat.not_le.mpr fits)
  next wraps => exact iff_of_true rfl (Nat.not_lt.mp wraps)

end Writing

abbrev Payload := { param : MsgBusParam // param.WellSized }

def netmsgData (msgid : Bytes) (param : MsgBusParam) (msgsender : Bytes) : Writing :=
  let data := generateNetMsgContent msgid param msgsender
  { size := data.paramlen, bytes := data.paramdata }

structure Req2ReceiverTask where
  sync : Bool
  futureId : UInt32
  dataLen : UInt32
  data : Bytes
  deriving DecidableEq, Repr

-- The writedata of WriteTaskDataToReceiver.
def Req2ReceiverTask.writedata (task : Req2ReceiverTask) : Writing :=
  let syncflag : UInt8 := if task.sync then 1 else 0
  { size := .ofNat (1 + 4 + 4 + task.dataLen.toNat)
    bytes := [syncflag] ++ htonl task.futureId ++ htonl task.dataLen ++
      task.data.take task.dataLen.toNat }

-- The writedata of NetMsgBusRspSendMsg, with what SendMsg returned and left in data.
def rspWritedata (syncSid : UInt32) (sent : Bool) (data : MsgBusParam) : Writing :=
  let dataLen := if sent then data.paramlen else 0
  { size := .ofNat (4 + 4 + dataLen.toNat)
    bytes := htonl syncSid ++ htonl dataLen ++ data.paramdata.take dataLen.toNat }

def netMsgBusRspSendMsg (syncSid : UInt32) (sent : Bool) (data : MsgBusParam) :
    Except Abort Bytes := (rspWritedata syncSid sent data).run

-- PackData into a buffer of Size() bytes.
def reqData (req : Messages.MsgBusSendMsgReq) : Except Abort Writing := do
  let packed ← MsgBusSendMsgReq.messageClass.packData req 0
  return { size := req.size, bytes := packed.2 }

inductive Connection where
  | none
  | pooled
  | created
  deriving DecidableEq, Repr

structure BusClient where
  receiverName : Bytes
  serverConnecting : Bool
  req2receiverRunning : Bool
  connection : Connection
  -- What safe_insert_future returns first.
  futureId : UInt32
  deriving DecidableEq, Repr

inductive MsgSendType where
  | sendDirectToClient
  | sendUseServerRelay
  -- Another number in the enumeration's type.
  | other
  deriving DecidableEq, Repr

namespace BusClient

def generateContent (msgid : Bytes) (param : MsgBusParam) (msgsender : Bytes) :
    Except Abort MsgBusParam := do
  let written := netmsgData msgid param msgsender
  return { paramdata := ← written.run, paramlen := written.size }

def writeTaskDataToReceiver (task : Req2ReceiverTask) : Except Abort Bytes := task.writedata.run

variable (client : BusClient)

def identiySelfToReceiver : Except Abort Bytes := do
  let netmsgParam ← generateContent [] { paramdata := [], paramlen := 0 } client.receiverName
  writeTaskDataToReceiver
    { sync := false, futureId := 0, dataLen := netmsgParam.paramlen, data := netmsgParam.paramdata }

def processReqToReceiver (task : Req2ReceiverTask) : Except Abort (List Bytes) :=
  match client.connection with
  | .none => return []
  | .pooled => return [← writeTaskDataToReceiver task]
  | .created => do
    let identity ← client.identiySelfToReceiver
    return [identity, ← writeTaskDataToReceiver task]

def postMsgDirectToClient (netmsg : MsgBusParam) : Except Abort (List Bytes) :=
  if client.req2receiverRunning then
    client.processReqToReceiver
      { sync := false, futureId := client.futureId, dataLen := netmsg.paramlen
        data := netmsg.paramdata }
  else return []

def sendmsgReq (clientname : Bytes) (netmsg : MsgBusParam) : Messages.MsgBusSendMsgReq where
  head := { newHead 0 BodyType.reqSendmsg with msgId := client.futureId }
  destName := padded clientname maxServiceName
  fromName := padded client.receiverName maxServiceName
  msgLen := netmsg.paramlen
  msgContent := netmsg.paramdata
  needfree := false

def postNetMsgUseServerRelay (clientname : Bytes) (netmsg : MsgBusParam) :
    Except Abort (List Bytes) :=
  if client.serverConnecting then do
    let written ← reqData (client.sendmsgReq clientname netmsg)
    return [← written.run]
  else return []

def netMsgBusSendMsg (destName msgid : Bytes) (param : MsgBusParam) (sendtype : MsgSendType) :
    Except Abort (List Bytes) := do
  let netmsgParam ← generateContent msgid param destName
  if destName = [] then client.postNetMsgUseServerRelay [] netmsgParam
  else
    match sendtype with
    | .sendDirectToClient => client.postMsgDirectToClient netmsgParam
    | .sendUseServerRelay => client.postNetMsgUseServerRelay destName netmsgParam
    | .other => return []

def netMsgBusSendMsgTo (destIp msgid : Bytes) (param : MsgBusParam) : Except Abort (List Bytes) := do
  let netmsgParam ← generateContent msgid param []
  if destIp = [] then return [] else client.postMsgDirectToClient netmsgParam

end BusClient

section Sizes

theorem netmsgData_size (msgid : Bytes) (param : MsgBusParam) (msgsender : Bytes) :
    (netmsgData msgid param msgsender).size = .ofNat (encodedLen msgid param msgsender) := by
  simp only [netmsgData, generateNetMsgContent, encodedLen, senderLenBytes, msgkeyLenBytes,
    msgvalueLenBytes, UInt8.toNat_ofNat']
  congr 1
  omega

theorem netmsgData_length (msgid : Bytes) {param : MsgBusParam} (sized : param.WellSized)
    (msgsender : Bytes) :
    (netmsgData msgid param msgsender).bytes.length = encodedLen msgid param msgsender := by
  rw [netmsgData, generateNetMsgContent_bytes msgid param msgsender sized, layout_length,
    keptName_length, keptName_length, sized, encodedLen]

theorem writedata_length (task : Req2ReceiverTask) (sized : task.data.length = task.dataLen.toNat) :
    task.writedata.bytes.length = 9 + task.dataLen.toNat := by
  simp only [Req2ReceiverTask.writedata, List.length_append, List.length_singleton, htonl_length,
    List.length_take, sized, Nat.min_self]

theorem rspWritedata_length (syncSid : UInt32) (sent : Bool) {data : MsgBusParam}
    (sized : data.WellSized) :
    (rspWritedata syncSid sent data).bytes.length =
      8 + (if sent then data.paramlen else 0).toNat := by
  have enough : (if sent then data.paramlen else 0).toNat ≤ data.paramdata.length := by
    rw [show data.paramdata.length = _ from sized]
    cases sent <;> simp
  simp only [rspWritedata, List.length_append, htonl_length, List.length_take, Nat.min_eq_left enough]

theorem reqData_eq (req : Messages.MsgBusSendMsgReq)
    (sized : req.msgContent.length = req.msgLen.toNat) :
    ∃ written, reqData req = .ok written ∧ written.size = .ofNat (148 + req.msgLen.toNat) ∧
      written.bytes.length = 148 + req.msgLen.toNat := by
  have content := memcpy_last sized
  have packed : reqData req = .ok
      { size := req.size
        bytes := packHead (MsgBusSendMsgReq.messageClass.sent req).head ++
          ((padded req.destName.toList maxServiceName).toList ++
            (padded req.fromName.toList maxServiceName).toList ++ htonl req.msgLen ++
            req.msgContent) } := by
    simp only [reqData, MessageClass.packData, MessageClass.sent, MsgBusSendMsgReq.messageClass,
      MsgBusSendMsgReq.packBody, checkRoom_zero, strncpy_array, content, ok_bind]
    rfl
  refine ⟨_, packed, rfl, ?_⟩
  simp only [List.length_append, packHead_length, List.Vector.toList_length, htonl_length, sized,
    Readers.MsgBusPackHead.size, maxServiceName]
  omega

end Sizes

namespace BusClient

-- The bytes that each way puts in front of a content, where it is open.
def relayHeader (client : BusClient) : Nat := if client.serverConnecting then 148 else 0

def directHeader (client : BusClient) : Nat :=
  if client.req2receiverRunning ∧ client.connection ≠ .none then 9 else 0

def header (client : BusClient) (destName : Bytes) (sendtype : MsgSendType) : Nat :=
  if destName = [] then client.relayHeader
  else
    match sendtype with
    | .sendDirectToClient => client.directHeader
    | .sendUseServerRelay => client.relayHeader
    | .other => 0

theorem generateContent_fits (msgid : Bytes) {param : MsgBusParam} (msgsender : Bytes)
    (sized : param.WellSized) (fits : encodedLen msgid param msgsender < 2 ^ 32) :
    ∃ content, generateContent msgid param msgsender = .ok content ∧ content.WellSized ∧
      content.paramlen.toNat = encodedLen msgid param msgsender := by
  have length := netmsgData_length msgid sized msgsender
  have size := netmsgData_size msgid param msgsender
  have kept : (netmsgData msgid param msgsender).size.toNat = encodedLen msgid param msgsender := by
    rw [size, UInt32.toNat_ofNat', Nat.mod_eq_of_lt fits]
  refine ⟨{ paramdata := (netmsgData msgid param msgsender).bytes
            paramlen := (netmsgData msgid param msgsender).size }, ?_, length.trans kept.symm, kept⟩
  rw [generateContent, Writing.run_eq size length, if_pos fits]
  rfl

theorem generateContent_wraps (msgid : Bytes) {param : MsgBusParam} (msgsender : Bytes)
    (sized : param.WellSized) (wraps : ¬ encodedLen msgid param msgsender < 2 ^ 32) :
    generateContent msgid param msgsender = .error .pastEnd := by
  rw [generateContent, Writing.run_eq (netmsgData_size msgid param msgsender)
    (netmsgData_length msgid sized msgsender), if_neg wraps]
  rfl

theorem writeTask_eq (task : Req2ReceiverTask) (sized : task.data.length = task.dataLen.toNat) :
    writeTaskDataToReceiver task =
      if 9 + task.dataLen.toNat < 2 ^ 32 then .ok task.writedata.bytes else .error .pastEnd :=
  Writing.run_eq rfl (writedata_length task sized)

theorem identiySelf_fits (client : BusClient) :
    ∃ identity, client.identiySelfToReceiver = .ok identity := by
  have empty : MsgBusParam.WellSized { paramdata := [], paramlen := 0 } := rfl
  have short : encodedLen [] { paramdata := [], paramlen := 0 } client.receiverName ≤ 261 := by
    simp only [encodedLen, List.length_nil, Nat.zero_mod, UInt32.toNat_zero]
    omega
  obtain ⟨content, generated, sized, length⟩ :=
    generateContent_fits [] client.receiverName empty (by omega)
  have fits : 9 + content.paramlen.toNat < 2 ^ 32 := by omega
  have written := writeTask_eq ⟨false, 0, content.paramlen, content.paramdata⟩ sized
  rw [if_pos fits] at written
  exact ⟨_, by rw [identiySelfToReceiver, generated, ok_bind, written]⟩

theorem unsent_overruns (netmsg : MsgBusParam) :
    Overruns (.ok ([] : List Bytes)) ↔ 2 ^ 32 ≤ 0 + netmsg.paramlen.toNat := by
  have short : netmsg.paramlen.toNat < 2 ^ 32 := netmsg.paramlen.toNat_lt
  exact iff_of_false (not_overruns []) (by omega)

theorem direct_overruns (client : BusClient) {netmsg : MsgBusParam} (sized : netmsg.WellSized) :
    Overruns (client.postMsgDirectToClient netmsg) ↔
      2 ^ 32 ≤ client.directHeader + netmsg.paramlen.toNat := by
  have written := Writing.overruns_iff rfl
    (writedata_length ⟨false, client.futureId, netmsg.paramlen, netmsg.paramdata⟩ sized)
  obtain ⟨identity, identified⟩ := client.identiySelf_fits
  unfold postMsgDirectToClient directHeader
  cases client.req2receiverRunning with
  | false => exact unsent_overruns netmsg
  | true =>
    simp only [if_true, true_and, processReqToReceiver]
    cases client.connection with
    | none => exact unsent_overruns netmsg
    | pooled => exact (overruns_bind _).trans written
    | created =>
      simp only [identified, ok_bind]
      exact (overruns_bind _).trans written

theorem relay_overruns (client : BusClient) (clientname : Bytes) {netmsg : MsgBusParam}
    (sized : netmsg.WellSized) :
    Overruns (client.postNetMsgUseServerRelay clientname netmsg) ↔
      2 ^ 32 ≤ client.relayHeader + netmsg.paramlen.toNat := by
  obtain ⟨written, packed, size, length⟩ := reqData_eq (client.sendmsgReq clientname netmsg) sized
  unfold postNetMsgUseServerRelay relayHeader
  cases client.serverConnecting with
  | false => exact unsent_overruns netmsg
  | true =>
    simp only [if_true, packed, ok_bind]
    exact (overruns_bind _).trans (Writing.overruns_iff size length)

theorem content_overruns (msgid : Bytes) {param : MsgBusParam} (sized : param.WellSized)
    (msgsender : Bytes) {header : Nat} {send : MsgBusParam -> Except Abort (List Bytes)}
    (sends : ∀ content : MsgBusParam, content.WellSized →
      (Overruns (send content) ↔ 2 ^ 32 ≤ header + content.paramlen.toNat)) :
    Overruns (generateContent msgid param msgsender >>= send) ↔
      2 ^ 32 ≤ header + encodedLen msgid param msgsender := by
  by_cases fits : encodedLen msgid param msgsender < 2 ^ 32
  · obtain ⟨content, generated, contentSized, length⟩ :=
      generateContent_fits msgid msgsender sized fits
    rw [generated, ok_bind, ← length]
    exact sends content contentSized
  · rw [generateContent_wraps msgid msgsender sized fits]
    exact iff_of_true rfl (by omega)

theorem netMsgBusSendMsg_overruns (client : BusClient) (destName msgid : Bytes)
    {param : MsgBusParam} (sized : param.WellSized) (sendtype : MsgSendType) :
    Overruns (client.netMsgBusSendMsg destName msgid param sendtype) ↔
      2 ^ 32 ≤ client.header destName sendtype + encodedLen msgid param destName := by
  apply content_overruns msgid sized destName
  intro content contentSized
  unfold header
  by_cases broadcast : destName = []
  · rw [if_pos broadcast, if_pos broadcast]
    exact client.relay_overruns [] contentSized
  · rw [if_neg broadcast, if_neg broadcast]
    cases sendtype with
    | sendDirectToClient => exact client.direct_overruns contentSized
    | sendUseServerRelay => exact client.relay_overruns destName contentSized
    | other => exact unsent_overruns content

theorem netMsgBusSendMsgTo_overruns (client : BusClient) (destIp msgid : Bytes)
    {param : MsgBusParam} (sized : param.WellSized) :
    Overruns (client.netMsgBusSendMsgTo destIp msgid param) ↔
      2 ^ 32 ≤ (if destIp = [] then 0 else client.directHeader) + encodedLen msgid param [] := by
  apply content_overruns msgid sized []
  intro content contentSized
  split
  · exact unsent_overruns content
  · exact client.direct_overruns contentSized

end BusClient

theorem lengths_exact_below_wrap (param : Payload) :
    (∀ msgid msgsender : Bytes,
      (netmsgData msgid param msgsender).Exact ↔ encodedLen msgid param msgsender < 2 ^ 32) ∧
    (∀ req : Messages.MsgBusSendMsgReq, ∃ written,
      reqData { req with msgLen := param.1.paramlen, msgContent := param.1.paramdata } =
        .ok written ∧ (written.Exact ↔ 148 + param.1.paramlen.toNat < 2 ^ 32)) ∧
    (∀ (sync : Bool) (futureId : UInt32),
      (Req2ReceiverTask.writedata ⟨sync, futureId, param.1.paramlen, param.1.paramdata⟩).Exact ↔
        9 + param.1.paramlen.toNat < 2 ^ 32) ∧
    (∀ (syncSid : UInt32) (sent : Bool),
      ((rspWritedata syncSid sent param).Exact ↔
        8 + (if sent then param.1.paramlen else 0).toNat < 2 ^ 32) ∧
      (¬ Overruns (netMsgBusRspSendMsg syncSid sent param) ↔
        8 + (if sent then param.1.paramlen else 0).toNat < 2 ^ 32)) ∧
    (∀ (client : BusClient) (destName msgid : Bytes) (sendtype : MsgSendType),
      ¬ Overruns (client.netMsgBusSendMsg destName msgid param sendtype) ↔
        client.header destName sendtype + encodedLen msgid param destName < 2 ^ 32) ∧
    ∀ (client : BusClient) (destIp msgid : Bytes),
      ¬ Overruns (client.netMsgBusSendMsgTo destIp msgid param) ↔
        (if destIp = [] then 0 else client.directHeader) + encodedLen msgid param [] < 2 ^ 32 := by
  obtain ⟨param, sized⟩ := param
  refine ⟨?_, ?_, ?_, ?_, ?_, ?_⟩
  · intro msgid msgsender
    exact Writing.exact_iff (netmsgData_size msgid param msgsender)
      (netmsgData_length msgid sized msgsender)
  · intro req
    obtain ⟨written, packed, size, length⟩ :=
      reqData_eq { req with msgLen := param.paramlen, msgContent := param.paramdata } sized
    exact ⟨written, packed, Writing.exact_iff size length⟩
  · intro sync futureId
    exact Writing.exact_iff rfl (writedata_length _ sized)
  · intro syncSid sent
    have length := rspWritedata_length syncSid sent sized
    refine ⟨Writing.exact_iff rfl length, ?_⟩
    rw [netMsgBusRspSendMsg, Writing.overruns_iff rfl length, not_le]
  · intro client destName msgid sendtype
    rw [client.netMsgBusSendMsg_overruns destName msgid sized, not_le]
  · intro client destIp msgid
    rw [client.netMsgBusSendMsgTo_overruns destIp msgid sized, not_le]

-- The largest parameter wraps the length of its content, before it is on its way.
def largest : Payload :=
  ⟨{ paramdata := List.replicate (2 ^ 32 - 1) 0, paramlen := 0xFFFFFFFF }, List.length_replicate⟩

theorem largest_overruns :
    ¬ (netmsgData [0x6D] largest []).Exact ∧
      ∀ client : BusClient,
        Overruns (client.netMsgBusSendMsg [0x61] [0x6D] largest .sendDirectToClient) := by
  have wraps (msgsender : Bytes) : 2 ^ 32 ≤ encodedLen [0x6D] largest msgsender := by
    have length : largest.1.paramlen.toNat = 2 ^ 32 - 1 := rfl
    rw [encodedLen, length]
    omega
  constructor
  · rw [Writing.exact_iff (netmsgData_size _ _ _) (netmsgData_length _ largest.2 _), not_lt]
    exact wraps []
  · intro client
    rw [client.netMsgBusSendMsg_overruns _ _ largest.2]
    exact Nat.le_add_left_of_le (wraps [0x61])

end MessageBus.Outbound
