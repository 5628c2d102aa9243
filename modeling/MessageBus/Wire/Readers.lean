import MessageBus.Shared.Framing
import MessageBus.Wire.Content

set_option autoImplicit false

namespace MessageBus.Readers

open Bytes Framing

structure MsgBusPackHead where
  magic : UInt8
  version : UInt16
  msgType : UInt8
  msgId : UInt32
  bodyType : UInt32
  bodyLen : UInt32
  deriving DecidableEq, Repr

namespace MsgBusPackHead

-- sizeof(MsgBusPackHead), packed.
def size : Nat := 16

-- The constructor leaves body_type unset; every caller below overwrites it.
def default : MsgBusPackHead :=
  { magic := 0x66, version := 1, msgType := 0, msgId := 0, bodyType := 0, bodyLen := 0 }

def unPackHead (head : MsgBusPackHead) (data : Bytes) (len : Nat) : Int × MsgBusPackHead :=
  if len ≠ 0 ∧ len < size then (-1, head)
  else
    -- The offset returned is that of the last field, which the loads do not step over.
    (12, { magic := data.getD 0 0
           version := ntohs (data.drop 1)
           msgType := data.getD 3 0
           msgId := ntohl (data.drop 4)
           bodyType := ntohl (data.drop 8)
           bodyLen := ntohl (data.drop 12) })

theorem unPackHead_take (head : MsgBusPackHead) (data : Bytes) :
    head.unPackHead (data.take size) 0 = head.unPackHead data 0 := by
  simp [unPackHead, size, List.drop_take, ntohl_take, ntohs_take]

end MsgBusPackHead

def packHeadFormat : Format (MsgBusPackHead × Bytes) where
  headLen := MsgBusPackHead.size
  headLen_pos := by decide
  bodyLen := fun head => (MsgBusPackHead.default.unPackHead head 0).2.bodyLen.toNat
  frame := fun head body => ((MsgBusPackHead.default.unPackHead head 0).2, body)

theorem packHeadFormat_missing {data : Bytes} (missing : packHeadFormat.first data = none) :
    data.length < MsgBusPackHead.size ∨
    ∃ head, MsgBusPackHead.default.unPackHead data 0 = (12, head) ∧
      data.length < MsgBusPackHead.size + head.bodyLen.toNat := by
  have unpacked := MsgBusPackHead.unPackHead_take MsgBusPackHead.default data
  rcases packHeadFormat.first_cases data with ⟨noHead, _⟩ | ⟨_, noBody, _⟩ | ⟨_, found⟩
  · exact .inl noHead
  · refine .inr ⟨(MsgBusPackHead.default.unPackHead data 0).2, rfl, ?_⟩
    simpa only [packHeadFormat, unpacked] using noBody
  · rw [missing] at found
    cases found

theorem packHeadFormat_found {data : Bytes} {frame : MsgBusPackHead × Bytes} {total : Nat}
    (found : packHeadFormat.first data = some (frame, total)) :
    ∃ head, MsgBusPackHead.default.unPackHead data 0 = (12, head) ∧
      MsgBusPackHead.size + head.bodyLen.toNat ≤ data.length ∧
      frame = (head, (data.drop MsgBusPackHead.size).take head.bodyLen.toNat) ∧
      total = MsgBusPackHead.size + head.bodyLen.toNat := by
  have unpacked := MsgBusPackHead.unPackHead_take MsgBusPackHead.default data
  obtain ⟨complete, rfl, rfl⟩ := packHeadFormat.first_found found
  simp only [packHeadFormat, unpacked] at complete ⊢
  exact ⟨(MsgBusPackHead.default.unPackHead data 0).2, rfl, complete, rfl, rfl⟩

section MsgBusServer

variable {State : Type}

-- The loop of server_onRead; `none` is the failed assertion on body_len.
def serverOnReadLoop (queueWorkTask : MsgBusPackHead -> Bytes -> State -> State)
    (pdata : Bytes) (size readedlen : Nat) (state : State) : Option (Nat × State) :=
  if _small : size < MsgBusPackHead.size then some (readedlen, state)
  else
    let unpacked := MsgBusPackHead.default.unPackHead pdata 0
    if unpacked.1 = -1 then some (readedlen, state)
    else
      let head := unpacked.2
      let bodydata := pdata.drop MsgBusPackHead.size
      let needlen := MsgBusPackHead.size + head.bodyLen.toNat
      if size < needlen then some (readedlen, state)
      else if head.bodyLen.toNat = 0 then none
      else
        let bodybuffer := bodydata.take head.bodyLen.toNat
        serverOnReadLoop queueWorkTask (bodydata.drop head.bodyLen.toNat) (size - needlen)
          (readedlen + needlen) (queueWorkTask head bodybuffer state)
termination_by size
decreasing_by
  have positive : 0 < MsgBusPackHead.size := by decide
  omega

def serverOnRead (queueWorkTask : MsgBusPackHead -> Bytes -> State -> State)
    (pdata : Bytes) (state : State) : Option (Nat × State) :=
  serverOnReadLoop queueWorkTask pdata pdata.length 0 state

def serverHandle (queueWorkTask : MsgBusPackHead -> Bytes -> State -> State) (state : State)
    (frame : MsgBusPackHead × Bytes) : Option State :=
  if frame.1.bodyLen.toNat = 0 then none else some (queueWorkTask frame.1 frame.2 state)

theorem serverOnReadLoop_correct (queueWorkTask : MsgBusPackHead -> Bytes -> State -> State)
    (pdata : Bytes) (readedlen : Nat) (state : State) :
    serverOnReadLoop queueWorkTask pdata pdata.length readedlen state =
      (packHeadFormat.consume (serverHandle queueWorkTask) pdata state).map
        fun result => (readedlen + result.1, result.2) := by
  apply packHeadFormat.loop_correct (serverHandle queueWorkTask) (serverOnReadLoop queueWorkTask)
  · intro pdata readedlen state missing
    unfold serverOnReadLoop
    rcases packHeadFormat_missing missing with noHead | ⟨head, unpacked, noBody⟩
    · rw [dif_pos noHead]
    · simp [unpacked, noBody]
  · intro pdata readedlen state frame total found
    conv_lhs => unfold serverOnReadLoop
    obtain ⟨head, unpacked, complete, rfl, rfl⟩ := packHeadFormat_found found
    have there : MsgBusPackHead.size ≤ pdata.length := Nat.le_of_add_right_le complete
    simp only [unpacked, dif_neg (Nat.not_lt.mpr there), if_neg (Nat.not_lt.mpr complete),
      serverHandle, List.drop_drop]
    by_cases empty : head.bodyLen.toNat = 0
    · simp [empty]
    · simp [empty]

theorem serverOnRead_correct (queueWorkTask : MsgBusPackHead -> Bytes -> State -> State) :
    serverOnRead queueWorkTask = packHeadFormat.consume (serverHandle queueWorkTask) := by
  funext pdata state
  rw [serverOnRead, serverOnReadLoop_correct]
  simp

end MsgBusServer

section ServerConnMgr

variable {State : Type}

def serverRspProcessLoop (processRspBody : UInt32 -> UInt32 -> Bytes -> State -> State)
    (pdata : Bytes) (size readedlen : Nat) (state : State) : Option (Nat × State) :=
  if _small : size < MsgBusPackHead.size then some (readedlen, state)
  else
    let unpacked := MsgBusPackHead.default.unPackHead pdata 0
    if unpacked.1 = -1 then some (size, state)
    else
      let head := unpacked.2
      let bodydata := pdata.drop MsgBusPackHead.size
      let needlen := MsgBusPackHead.size + head.bodyLen.toNat
      if size < needlen then some (readedlen, state)
      else
        let serverRspBody := bodydata.take head.bodyLen.toNat
        serverRspProcessLoop processRspBody (bodydata.drop head.bodyLen.toNat) (size - needlen)
          (readedlen + needlen) (processRspBody head.msgId head.bodyType serverRspBody state)
termination_by size
decreasing_by
  have positive : 0 < MsgBusPackHead.size := by decide
  omega

def serverRspProcess (processRspBody : UInt32 -> UInt32 -> Bytes -> State -> State)
    (pdata : Bytes) (state : State) : Option (Nat × State) :=
  serverRspProcessLoop processRspBody pdata pdata.length 0 state

def serverRspHandle (processRspBody : UInt32 -> UInt32 -> Bytes -> State -> State) (state : State)
    (frame : MsgBusPackHead × Bytes) : Option State :=
  some (processRspBody frame.1.msgId frame.1.bodyType frame.2 state)

theorem serverRspProcessLoop_correct (processRspBody : UInt32 -> UInt32 -> Bytes -> State -> State)
    (pdata : Bytes) (readedlen : Nat) (state : State) :
    serverRspProcessLoop processRspBody pdata pdata.length readedlen state =
      (packHeadFormat.consume (serverRspHandle processRspBody) pdata state).map
        fun result => (readedlen + result.1, result.2) := by
  apply packHeadFormat.loop_correct (serverRspHandle processRspBody)
    (serverRspProcessLoop processRspBody)
  · intro pdata readedlen state missing
    unfold serverRspProcessLoop
    rcases packHeadFormat_missing missing with noHead | ⟨head, unpacked, noBody⟩
    · rw [dif_pos noHead]
    · simp [unpacked, noBody]
  · intro pdata readedlen state frame total found
    conv_lhs => unfold serverRspProcessLoop
    obtain ⟨head, unpacked, complete, rfl, rfl⟩ := packHeadFormat_found found
    have there : MsgBusPackHead.size ≤ pdata.length := Nat.le_of_add_right_le complete
    simp [unpacked, dif_neg (Nat.not_lt.mpr there), if_neg (Nat.not_lt.mpr complete),
      serverRspHandle]

theorem serverRspProcess_correct (processRspBody : UInt32 -> UInt32 -> Bytes -> State -> State) :
    serverRspProcess processRspBody = packHeadFormat.consume (serverRspHandle processRspBody) := by
  funext pdata state
  rw [serverRspProcess, serverRspProcessLoop_correct]
  simp

end ServerConnMgr

section ReceiverMgr

-- The message content is followed by nothing else: data_len is its length.
structure SendMsgFrame where
  isSync : UInt8
  syncSid : UInt32
  msgcontent : Bytes
  deriving DecidableEq, Repr

structure ReceiverMgr where
  clientSenders : Std.ExtTreeMap Int Bytes
  -- The NetMsgBusRspSendMsg tasks queued to the worker pool, in order.
  workTasks : List (Int × Bytes × UInt32)
  disAllowedSend : List Int

def filterBySender (includeSenders : List Bytes) (name : Bytes) : Bool :=
  includeSenders.isEmpty || includeSenders.contains name

def checkMsgSender (includeSenders : List Bytes) (content : Bytes) :
    Except Fault (Option Bytes) := do
  match ← Content.getMsgSender content with
  | some sender => return if filterBySender includeSenders sender then some sender else none
  | none => return none

def ReceiverMgr.queueWorkTask (mgr : ReceiverMgr) (fd : Int) (msgcontent : Bytes)
    (syncSid : UInt32) : ReceiverMgr :=
  if syncSid ≠ 0 then { mgr with workTasks := mgr.workTasks ++ [(fd, msgcontent, syncSid)] }
  else mgr

def receiverHeadSize : Nat := 9

-- The loop of receiver_onRead; `none` is a read outside the message content.
def receiverOnReadLoop (includeSenders : List Bytes) (fd : Int) (pdata : Bytes)
    (size readedlen : Nat) (mgr : ReceiverMgr) : Option (Nat × ReceiverMgr) :=
  if _small : size < receiverHeadSize then some (readedlen, mgr)
  else
    let syncSid := ntohl (pdata.drop 1)
    let dataLen := ntohl (pdata.drop 5)
    let bodydata := pdata.drop receiverHeadSize
    let needlen := receiverHeadSize + dataLen.toNat
    if size < needlen then some (readedlen, mgr)
    else
      let msgcontent := bodydata.take dataLen.toNat
      let nextdata := bodydata.drop dataLen.toNat
      if mgr.clientSenders[fd]?.isNone then
        match checkMsgSender includeSenders msgcontent with
        | .error _ => none
        | .ok none =>
          receiverOnReadLoop includeSenders fd nextdata (size - needlen) (readedlen + needlen)
            { mgr with disAllowedSend := mgr.disAllowedSend ++ [fd] }
        | .ok (some sendername) =>
          receiverOnReadLoop includeSenders fd nextdata (size - needlen) (readedlen + needlen)
            ({ mgr with clientSenders := mgr.clientSenders.insert fd sendername }.queueWorkTask
              fd msgcontent syncSid)
      else
        receiverOnReadLoop includeSenders fd nextdata (size - needlen) (readedlen + needlen)
          (mgr.queueWorkTask fd msgcontent syncSid)
termination_by size
decreasing_by
  all_goals
    have positive : 0 < receiverHeadSize := by decide
    omega

def receiverOnRead (includeSenders : List Bytes) (fd : Int) (pdata : Bytes) (mgr : ReceiverMgr) :
    Option (Nat × ReceiverMgr) :=
  receiverOnReadLoop includeSenders fd pdata pdata.length 0 mgr

def sendMsgFormat : Format SendMsgFrame where
  headLen := receiverHeadSize
  headLen_pos := by decide
  bodyLen := fun head => (ntohl (head.drop 5)).toNat
  frame := fun head body => ⟨head.getD 0 0, ntohl (head.drop 1), body⟩

def receiverFrame (includeSenders : List Bytes) (fd : Int) (mgr : ReceiverMgr)
    (frame : SendMsgFrame) : ReceiverMgr :=
  match mgr.clientSenders[fd]? with
  | some _ => mgr.queueWorkTask fd frame.msgcontent frame.syncSid
  | none =>
    match checkMsgSender includeSenders frame.msgcontent with
    | .ok (some sendername) =>
      ReceiverMgr.queueWorkTask { mgr with clientSenders := mgr.clientSenders.insert fd sendername }
        fd frame.msgcontent frame.syncSid
    | _ => { mgr with disAllowedSend := mgr.disAllowedSend ++ [fd] }

theorem checkMsgSender_total (includeSenders : List Bytes) (content : Bytes) :
    ∃ result, checkMsgSender includeSenders content = .ok result := by
  unfold checkMsgSender
  rw [Content.getMsgSender_correct, ok_bind]
  split <;> exact ⟨_, rfl⟩

theorem sendMsgFormat_cases (data : Bytes) :
    (data.length < receiverHeadSize ∧ sendMsgFormat.first data = none) ∨
    (receiverHeadSize ≤ data.length ∧
      data.length < receiverHeadSize + (ntohl (data.drop 5)).toNat ∧
      sendMsgFormat.first data = none) ∨
    (receiverHeadSize ≤ data.length ∧
      receiverHeadSize + (ntohl (data.drop 5)).toNat ≤ data.length ∧
      sendMsgFormat.first data = some (⟨data.getD 0 0, ntohl (data.drop 1),
        (data.drop receiverHeadSize).take (ntohl (data.drop 5)).toNat⟩,
        receiverHeadSize + (ntohl (data.drop 5)).toNat)) := by
  have syncSid : ntohl ((data.take receiverHeadSize).drop 1) = ntohl (data.drop 1) := by
    rw [List.drop_take, ntohl_take _ _ (by decide)]
  have dataLen : ntohl ((data.take receiverHeadSize).drop 5) = ntohl (data.drop 5) := by
    rw [List.drop_take, ntohl_take _ _ (by decide)]
  have isSync : (data.take receiverHeadSize).getD 0 0 = data.getD 0 0 := by
    simp [receiverHeadSize]
  rcases sendMsgFormat.first_cases data with small | ⟨there, noBody, missing⟩ | ⟨complete, found⟩
  · exact .inl small
  · simp only [sendMsgFormat, dataLen] at noBody
    exact .inr (.inl ⟨there, noBody, missing⟩)
  · simp only [sendMsgFormat, dataLen] at complete
    refine .inr (.inr ⟨Nat.le_of_add_right_le complete, complete, ?_⟩)
    rw [found]
    simp only [sendMsgFormat, dataLen, syncSid, isSync]

theorem receiverOnReadLoop_correct (includeSenders : List Bytes) (fd : Int)
    (pdata : Bytes) (readedlen : Nat) (mgr : ReceiverMgr) :
    receiverOnReadLoop includeSenders fd pdata pdata.length readedlen mgr =
      (sendMsgFormat.consume (fun mgr frame => some (receiverFrame includeSenders fd mgr frame))
        pdata mgr).map fun result => (readedlen + result.1, result.2) := by
  apply sendMsgFormat.loop_correct _ (receiverOnReadLoop includeSenders fd)
  · intro pdata readedlen mgr missing
    unfold receiverOnReadLoop
    rcases sendMsgFormat_cases pdata with ⟨small, _⟩ | ⟨there, noBody, _⟩ | ⟨_, _, found⟩
    · rw [dif_pos small]
    · rw [dif_neg (Nat.not_lt.mpr there)]
      exact if_pos noBody
    · rw [missing] at found
      cases found
  · intro pdata readedlen mgr frame total found
    conv_lhs => unfold receiverOnReadLoop
    rcases sendMsgFormat_cases pdata with ⟨_, missing⟩ | ⟨_, _, missing⟩ | ⟨there, complete, first⟩
    · rw [missing] at found
      cases found
    · rw [missing] at found
      cases found
    · rw [first] at found
      cases found
      simp only [dif_neg (Nat.not_lt.mpr there), if_neg (Nat.not_lt.mpr complete),
        Option.bind_some, List.drop_drop, receiverFrame]
      cases known : mgr.clientSenders[fd]? with
      | some sender => rfl
      | none =>
        obtain ⟨result, checked⟩ := checkMsgSender_total includeSenders
          ((pdata.drop receiverHeadSize).take (ntohl (pdata.drop 5)).toNat)
        rw [checked]
        cases result <;> rfl

theorem receiverOnRead_correct (includeSenders : List Bytes) (fd : Int) :
    receiverOnRead includeSenders fd =
      sendMsgFormat.consume fun mgr frame => some (receiverFrame includeSenders fd mgr frame) := by
  funext pdata mgr
  rw [receiverOnRead, receiverOnReadLoop_correct]
  simp

end ReceiverMgr

section Req2ReceiverMgr

variable {State : Type}

def req2ReceiverHeadSize : Nat := 8

-- The loop of Req2Receiver_onRead; `answer` looks the future up and sets its result.
def req2ReceiverOnReadLoop (answer : UInt32 -> Bytes -> State -> State)
    (pdata : Bytes) (size readedlen : Nat) (state : State) : Option (Nat × State) :=
  if _small : size < req2ReceiverHeadSize then some (readedlen, state)
  else
    let futureSid := ntohl pdata
    let dataLen := ntohl (pdata.drop 4)
    let bodydata := pdata.drop req2ReceiverHeadSize
    let needlen := req2ReceiverHeadSize + dataLen.toNat
    if size < needlen then some (readedlen, state)
    else
      req2ReceiverOnReadLoop answer (bodydata.drop dataLen.toNat) (size - needlen)
        (readedlen + needlen) (answer futureSid (bodydata.take dataLen.toNat) state)
termination_by size
decreasing_by
  have positive : 0 < req2ReceiverHeadSize := by decide
  omega

def req2ReceiverOnRead (answer : UInt32 -> Bytes -> State -> State) (pdata : Bytes)
    (state : State) : Option (Nat × State) :=
  req2ReceiverOnReadLoop answer pdata pdata.length 0 state

def responseFormat : Format (UInt32 × Bytes) where
  headLen := req2ReceiverHeadSize
  headLen_pos := by decide
  bodyLen := fun head => (ntohl (head.drop 4)).toNat
  frame := fun head body => (ntohl head, body)

theorem responseFormat_cases (data : Bytes) :
    (data.length < req2ReceiverHeadSize ∧ responseFormat.first data = none) ∨
    (req2ReceiverHeadSize ≤ data.length ∧
      data.length < req2ReceiverHeadSize + (ntohl (data.drop 4)).toNat ∧
      responseFormat.first data = none) ∨
    (req2ReceiverHeadSize ≤ data.length ∧
      req2ReceiverHeadSize + (ntohl (data.drop 4)).toNat ≤ data.length ∧
      responseFormat.first data = some ((ntohl data,
        (data.drop req2ReceiverHeadSize).take (ntohl (data.drop 4)).toNat),
        req2ReceiverHeadSize + (ntohl (data.drop 4)).toNat)) := by
  have futureSid : ntohl (data.take req2ReceiverHeadSize) = ntohl data :=
    ntohl_take _ _ (by decide)
  have dataLen : ntohl ((data.take req2ReceiverHeadSize).drop 4) = ntohl (data.drop 4) := by
    rw [List.drop_take, ntohl_take _ _ (by decide)]
  rcases responseFormat.first_cases data with small | ⟨there, noBody, missing⟩ | ⟨complete, found⟩
  · exact .inl small
  · simp only [responseFormat, dataLen] at noBody
    exact .inr (.inl ⟨there, noBody, missing⟩)
  · simp only [responseFormat, dataLen] at complete
    refine .inr (.inr ⟨Nat.le_of_add_right_le complete, complete, ?_⟩)
    rw [found]
    simp only [responseFormat, dataLen, futureSid]

theorem req2ReceiverOnReadLoop_correct (answer : UInt32 -> Bytes -> State -> State)
    (pdata : Bytes) (readedlen : Nat) (state : State) :
    req2ReceiverOnReadLoop answer pdata pdata.length readedlen state =
      (responseFormat.consume (fun state frame => some (answer frame.1 frame.2 state))
        pdata state).map fun result => (readedlen + result.1, result.2) := by
  apply responseFormat.loop_correct _ (req2ReceiverOnReadLoop answer)
  · intro pdata readedlen state missing
    unfold req2ReceiverOnReadLoop
    rcases responseFormat_cases pdata with ⟨small, _⟩ | ⟨there, noBody, _⟩ | ⟨_, _, found⟩
    · rw [dif_pos small]
    · rw [dif_neg (Nat.not_lt.mpr there)]
      exact if_pos noBody
    · rw [missing] at found
      cases found
  · intro pdata readedlen state frame total found
    conv_lhs => unfold req2ReceiverOnReadLoop
    rcases responseFormat_cases pdata with ⟨_, missing⟩ | ⟨_, _, missing⟩ | ⟨there, complete, first⟩
    · rw [missing] at found
      cases found
    · rw [missing] at found
      cases found
    · rw [first] at found
      cases found
      simp only [dif_neg (Nat.not_lt.mpr there), if_neg (Nat.not_lt.mpr complete),
        Option.bind_some, List.drop_drop]

theorem req2ReceiverOnRead_correct (answer : UInt32 -> Bytes -> State -> State) :
    req2ReceiverOnRead answer =
      responseFormat.consume fun state frame => some (answer frame.1 frame.2 state) := by
  funext pdata state
  rw [req2ReceiverOnRead, req2ReceiverOnReadLoop_correct]
  simp

end Req2ReceiverMgr

section HandleEvent

variable {State : Type}

-- The branch of TcpSock::HandleEvent for a read that returned the bytes `readed`.
def handleRead (onRead : Bytes -> State -> Option (Nat × State)) (session : Bytes × State)
    (readed : Bytes) : Option (Bytes × State) :=
  let inbuf := session.1 ++ readed
  match onRead inbuf session.2 with
  | none => none
  | some (n, state) =>
    if n > 0 then
      -- A count past the buffer clears it.
      if n > inbuf.length then some ([], state) else some (inbuf.drop n, state)
    else some (inbuf, state)

def handleReads (onRead : Bytes -> State -> Option (Nat × State)) (reads : List Bytes)
    (state : State) : Option (Bytes × State) :=
  reads.foldlM (handleRead onRead) ([], state)

theorem handleRead_consume {Frame : Type} (format : Format Frame)
    (handle : State -> Frame -> Option State) :
    handleRead (format.consume handle) = format.receive handle := by
  funext session readed
  simp only [handleRead, Format.receive, format.consume_correct]
  cases (format.frames (session.1 ++ readed)).foldlM handle session.2 with
  | none => rfl
  | some state =>
    simp only [Option.map_some]
    split
    · rw [if_neg (by omega)]
    · have nothing : (session.1 ++ readed).length -
          (format.tail (session.1 ++ readed)).length = 0 := by omega
      rw [nothing]
      rfl

theorem handleReads_consume {Frame : Type} (format : Format Frame)
    (handle : State -> Frame -> Option State) (reads : List Bytes) (state : State) :
    handleReads (format.consume handle) reads state =
      ((format.frames reads.flatten).foldlM handle state).map
        fun final => (format.tail reads.flatten, final) := by
  have empty : format.first [] = none := by
    simp [Format.first, format.headLen_pos]
  rw [handleReads, handleRead_consume]
  exact format.receive_all handle reads [] empty state

-- However the stream is cut into reads, its complete frames are handed on once each, in order, and
-- the bytes of the incomplete last one stay in the buffer.
def FramesHandedOn {Frame : Type} (format : Format Frame)
    (onRead : Bytes -> State -> Option (Nat × State)) (handOn : State -> Frame -> State)
    (stream : Bytes) : Prop :=
  ∃ frames tail, format.Decomposes stream frames tail ∧
    ∀ (reads : List Bytes) (state : State), reads.flatten = stream →
      handleReads onRead reads state = some (tail, frames.foldl handOn state) ∧
        handleReads onRead [stream] state = some (tail, frames.foldl handOn state)

theorem frames_handed_on {Frame : Type} (format : Format Frame)
    (handle : State -> Frame -> Option State) (handOn : State -> Frame -> State) (stream : Bytes)
    (hands : ∀ state, ∀ frame ∈ format.frames stream, handle state frame = some (handOn state frame)) :
    FramesHandedOn format (format.consume handle) handOn stream := by
  refine ⟨format.frames stream, format.tail stream, format.decomposes stream, ?_⟩
  have folds : ∀ state : State, (format.frames stream).foldlM handle state =
      some ((format.frames stream).foldl handOn state) := by
    generalize format.frames stream = frames at hands
    induction frames with
    | nil => simp
    | cons frame rest ih =>
      intro state
      rw [List.foldlM_cons, hands state frame (by simp)]
      exact ih (fun state later member => hands state later (by simp [member])) _
  intro reads state cut
  rw [handleReads_consume, handleReads_consume, cut]
  simp [folds]

end HandleEvent

theorem framing_independent_of_cuts :
    (∀ (State : Type) (queueWorkTask : MsgBusPackHead -> Bytes -> State -> State) (stream : Bytes),
      (∀ frame ∈ packHeadFormat.frames stream, 1 ≤ frame.1.bodyLen.toNat) →
      FramesHandedOn packHeadFormat (serverOnRead queueWorkTask)
        (fun state frame => queueWorkTask frame.1 frame.2 state) stream) ∧
    (∀ (State : Type) (processRspBody : UInt32 -> UInt32 -> Bytes -> State -> State)
      (stream : Bytes), FramesHandedOn packHeadFormat (serverRspProcess processRspBody)
        (fun state frame => processRspBody frame.1.msgId frame.1.bodyType frame.2 state) stream) ∧
    (∀ (includeSenders : List Bytes) (fd : Int) (stream : Bytes),
      FramesHandedOn sendMsgFormat (receiverOnRead includeSenders fd)
        (receiverFrame includeSenders fd) stream) ∧
    (∀ (State : Type) (answer : UInt32 -> Bytes -> State -> State) (stream : Bytes),
      FramesHandedOn responseFormat (req2ReceiverOnRead answer)
        (fun state frame => answer frame.1 frame.2 state) stream) := by
  refine ⟨?_, ?_, ?_, ?_⟩
  · intro State queueWorkTask stream announced
    rw [serverOnRead_correct]
    apply frames_handed_on
    intro state frame member
    have positive := announced frame member
    exact if_neg (by omega)
  · intro State processRspBody stream
    rw [serverRspProcess_correct]
    exact frames_handed_on _ _ _ _ fun _ _ _ => rfl
  · intro includeSenders fd stream
    rw [receiverOnRead_correct]
    exact frames_handed_on _ _ _ _ fun _ _ _ => rfl
  · intro State answer stream
    rw [req2ReceiverOnRead_correct]
    exact frames_handed_on _ _ _ _ fun _ _ _ => rfl

-- One register head that announces a body of one byte, and half of the next head.
def sampleStream : Bytes :=
  [0x66, 0, 1, 0, 0, 0, 0, 7, 0, 1, 0, 1, 0, 0, 0, 1] ++ [0x2A] ++ [0x66, 0, 1]

theorem framing_of_sampleStream :
    FramesHandedOn packHeadFormat
      (serverOnRead fun head body (tasks : List (MsgBusPackHead × Bytes)) => tasks ++ [(head, body)])
      (fun tasks frame => tasks ++ [frame]) sampleStream :=
  framing_independent_of_cuts.1 _ (fun head body tasks => tasks ++ [(head, body)]) sampleStream
    (by decide +kernel)

end MessageBus.Readers
