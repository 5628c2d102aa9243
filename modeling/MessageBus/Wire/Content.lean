import MessageBus.Shared.Bytes

set_option autoImplicit false

namespace MessageBus.Content

open Bytes

def senderLenBytes : Nat := 1
def msgkeyLenBytes : Nat := 1
def msgvalueLenBytes : Nat := 4

structure MsgBusParam where
  paramdata : Bytes
  paramlen : UInt32
  deriving DecidableEq, Repr

-- What every caller hands over: a buffer of exactly paramlen bytes.
def MsgBusParam.WellSized (param : MsgBusParam) : Prop :=
  param.paramdata.length = param.paramlen.toNat

def MsgBusParam.content (param : MsgBusParam) : Bytes :=
  param.paramdata.take param.paramlen.toNat

def generateNetMsgContent (msgid : Bytes) (param : MsgBusParam) (msgsender : Bytes) :
    MsgBusParam :=
  -- (uint8_t)msgsender.size() and (uint8_t)msgid.size() keep the low byte of the length.
  let msgsenderLen : UInt8 := .ofNat msgsender.length
  let msgidLen : UInt8 := .ofNat msgid.length
  { paramlen := .ofNat (senderLenBytes + msgsenderLen.toNat + msgkeyLenBytes + msgidLen.toNat +
      msgvalueLenBytes + param.paramlen.toNat)
    paramdata := [msgsenderLen] ++ msgsender.take msgsenderLen.toNat ++
      [msgidLen] ++ msgid.take msgidLen.toNat ++
      htonl param.paramlen ++ param.paramdata.take param.paramlen.toNat }

def getMsgSender (content : Bytes) : Except Fault (Option Bytes) := do
  if content.length < senderLenBytes then return none
  let msgsenderLen ← readAt content 0
  if content.length < senderLenBytes + msgsenderLen.toNat then return none
  let sender ← substr content senderLenBytes msgsenderLen.toNat
  return some sender

def getMsgId (content : Bytes) : Except Fault (Option Bytes) := do
  if content.length < senderLenBytes then return none
  let msgsenderLen ← readAt content 0
  if content.length < senderLenBytes + msgsenderLen.toNat + msgkeyLenBytes then return none
  let msgidLen ← readAt content (senderLenBytes + msgsenderLen.toNat)
  if content.length < senderLenBytes + msgsenderLen.toNat + msgkeyLenBytes + msgidLen.toNat then
    return none
  let msgid ← substr content (senderLenBytes + msgsenderLen.toNat + msgkeyLenBytes) msgidLen.toNat
  return some msgid

def getMsgParam (content : Bytes) : Except Fault (Option (Bytes × UInt32)) := do
  if content.length < senderLenBytes then return none
  let msgsenderLen ← readAt content 0
  if content.length < senderLenBytes + msgsenderLen.toNat + msgkeyLenBytes then return none
  let msgkeyLen ← readAt content (senderLenBytes + msgsenderLen.toNat)
  -- From here on the sums are uint32_t.
  let msgparamOffset :=
    (senderLenBytes + msgsenderLen.toNat + msgkeyLenBytes + msgkeyLen.toNat) % 2 ^ 32
  if content.length < (msgparamOffset + msgvalueLenBytes) % 2 ^ 32 then return none
  let netparamLen ← readRange content msgparamOffset 4
  let paramLen := ntohl netparamLen
  if content.length < (msgparamOffset + msgvalueLenBytes + paramLen.toNat) % 2 ^ 32 then return none
  let msgparam ← readRange content ((msgparamOffset + msgvalueLenBytes) % 2 ^ 32) paramLen.toNat
  return some (msgparam, paramLen)

def senderLen (content : Bytes) : Nat := (content.getD 0 0).toNat

def msgidLen (content : Bytes) : Nat := (content.getD (1 + senderLen content) 0).toNat

-- Where the parameter length field of a message content stands.
def paramOffset (content : Bytes) : Nat := 1 + senderLen content + 1 + msgidLen content

def announcedLen (content : Bytes) : Nat :=
  (ntohl ((content.drop (paramOffset content)).take 4)).toNat

theorem senderLen_lt (content : Bytes) : senderLen content < 256 := UInt8.toNat_lt _

theorem msgidLen_lt (content : Bytes) : msgidLen content < 256 := UInt8.toNat_lt _

theorem announcedLen_lt (content : Bytes) : announcedLen content < 2 ^ 32 := UInt32.toNat_lt _

theorem readAt_sender (content : Bytes) (there : 1 ≤ content.length) :
    ∃ byte, readAt content 0 = .ok byte ∧ byte.toNat = senderLen content :=
  ⟨_, readAt_inside content 0 (by omega), rfl⟩

theorem readAt_msgid (content : Bytes) (there : 1 + senderLen content + 1 ≤ content.length) :
    ∃ byte, readAt content (1 + senderLen content) = .ok byte ∧ byte.toNat = msgidLen content :=
  ⟨_, readAt_inside content _ (by omega), rfl⟩

theorem getMsgSender_correct (content : Bytes) :
    getMsgSender content =
      .ok (if content.length < 1 + senderLen content then none
        else some ((content.drop 1).take (senderLen content))) := by
  unfold getMsgSender senderLenBytes
  by_cases empty : content.length < 1
  · rw [if_pos empty, if_pos (by omega)]
    rfl
  · obtain ⟨senderByte, read, isSender⟩ := readAt_sender content (by omega)
    simp only [if_neg empty, read, isSender, bind, Except.bind, pure, Except.pure]
    by_cases short : content.length < 1 + senderLen content
    · rw [if_pos short, if_pos short]
    · rw [if_neg short, if_neg short, substr_inside content 1 _ (by omega)]

theorem getMsgId_correct (content : Bytes) :
    getMsgId content =
      .ok (if content.length < paramOffset content then none
        else some ((content.drop (1 + senderLen content + 1)).take (msgidLen content))) := by
  have offset : paramOffset content = 1 + senderLen content + 1 + msgidLen content := rfl
  unfold getMsgId senderLenBytes msgkeyLenBytes
  by_cases empty : content.length < 1
  · rw [if_pos empty, if_pos (by omega)]
    rfl
  · obtain ⟨senderByte, read, isSender⟩ := readAt_sender content (by omega)
    simp only [if_neg empty, read, isSender, bind, Except.bind, pure, Except.pure]
    by_cases noKey : content.length < 1 + senderLen content + 1
    · rw [if_pos noKey, if_pos (by omega)]
    · obtain ⟨msgidByte, readKey, isMsgid⟩ := readAt_msgid content (by omega)
      simp only [if_neg noKey, readKey, isMsgid, ← offset]
      by_cases short : content.length < paramOffset content
      · rw [if_pos short, if_pos short]
      · rw [if_neg short, if_neg short, substr_inside content _ _ (by omega)]

-- GetMsgParam in plain arithmetic: only the last bound check is done modulo 2^32.
theorem getMsgParam_correct (content : Bytes) :
    getMsgParam content =
      if content.length < paramOffset content + 4 then .ok none
      else if content.length < (paramOffset content + 4 + announcedLen content) % 2 ^ 32 then .ok none
      else (readRange content (paramOffset content + 4) (announcedLen content)).map fun msgparam =>
        some (msgparam, ntohl ((content.drop (paramOffset content)).take 4)) := by
  have senderBound := senderLen_lt content
  have msgidBound := msgidLen_lt content
  have offset : paramOffset content = 1 + senderLen content + 1 + msgidLen content := rfl
  have start : paramOffset content % 2 ^ 32 = paramOffset content := Nat.mod_eq_of_lt (by omega)
  have valueStart : (paramOffset content + 4) % 2 ^ 32 = paramOffset content + 4 :=
    Nat.mod_eq_of_lt (by omega)
  unfold getMsgParam senderLenBytes msgkeyLenBytes msgvalueLenBytes
  by_cases empty : content.length < 1
  · rw [if_pos empty, if_pos (by omega)]
    rfl
  · obtain ⟨senderByte, read, isSender⟩ := readAt_sender content (by omega)
    simp only [if_neg empty, read, isSender, ok_bind]
    by_cases noKey : content.length < 1 + senderLen content + 1
    · rw [if_pos noKey, if_pos (by omega)]
      rfl
    · obtain ⟨msgidByte, readKey, isMsgid⟩ := readAt_msgid content (by omega)
      simp only [if_neg noKey, readKey, isMsgid, ok_bind, ← offset, start, valueStart]
      by_cases noLength : content.length < paramOffset content + 4
      · rw [if_pos noLength, if_pos noLength]
        rfl
      · simp only [if_neg noLength, readRange_inside content (paramOffset content) 4 (by omega), ok_bind]
        rw [← announcedLen]
        by_cases reject : content.length <
            (paramOffset content + 4 + announcedLen content) % 2 ^ 32
        · rw [if_pos reject, if_pos reject]
          rfl
        · rw [if_neg reject, if_neg reject]
          cases readRange content (paramOffset content + 4) (announcedLen content) <;> rfl

def ParamLenFits (content : Bytes) : Prop :=
  content.length < paramOffset content + 4 ∨
    paramOffset content + 4 + announcedLen content < 2 ^ 32 ∨
    paramOffset content + 4 + announcedLen content ≤ content.length

-- Every read of the decoders, and the copy of a GetMsgParam that returns true, is inside.
def DecodersStayInside (content : Bytes) : Prop :=
  (∃ sender, getMsgSender content = .ok sender) ∧
  (∃ msgid, getMsgId content = .ok msgid) ∧
  ∃ result, getMsgParam content = .ok result ∧
    ∀ msgparam paramLen, result = some (msgparam, paramLen) →
      paramOffset content + 4 + paramLen.toNat ≤ content.length ∧
        msgparam = (content.drop (paramOffset content + 4)).take paramLen.toNat

theorem getMsgParam_inside (content : Bytes) (fits : ParamLenFits content) :
    ∃ result, getMsgParam content = .ok result ∧
      ∀ msgparam paramLen, result = some (msgparam, paramLen) →
        paramOffset content + 4 + paramLen.toNat ≤ content.length ∧
          msgparam = (content.drop (paramOffset content + 4)).take paramLen.toNat := by
  rw [getMsgParam_correct]
  by_cases noLength : content.length < paramOffset content + 4
  · exact ⟨none, if_pos noLength, by simp⟩
  · rw [if_neg noLength]
    by_cases reject : content.length < (paramOffset content + 4 + announcedLen content) % 2 ^ 32
    · exact ⟨none, if_pos reject, by simp⟩
    · have inside : paramOffset content + 4 + announcedLen content ≤ content.length := by
        rcases fits with short | small | long
        · exact absurd short noLength
        · rw [Nat.mod_eq_of_lt small] at reject
          omega
        · exact long
      rw [if_neg reject, readRange_inside content _ _ inside]
      refine ⟨_, rfl, ?_⟩
      intro msgparam paramLen same
      simp only [Option.some.injEq, Prod.mk.injEq] at same
      obtain ⟨rfl, rfl⟩ := same
      exact ⟨inside, rfl⟩

theorem getMsgParam_overrun (content : Bytes) (wraps : ¬ ParamLenFits content) :
    getMsgParam content = .error (.outOfBounds content.length) := by
  have announced := announcedLen_lt content
  simp only [ParamLenFits, not_or, not_lt, not_le] at wraps
  obtain ⟨there, large, outside⟩ := wraps
  rw [getMsgParam_correct, if_neg (by omega), if_neg (by omega),
    readRange_outside content _ _ outside]
  rfl

theorem decoders_stay_inside_iff (content : Bytes) :
    DecodersStayInside content ↔ ParamLenFits content := by
  constructor
  · rintro ⟨_, _, result, decoded, _⟩
    by_contra wraps
    rw [getMsgParam_overrun content wraps] at decoded
    cases decoded
  · intro fits
    exact ⟨⟨_, getMsgSender_correct content⟩, ⟨_, getMsgId_correct content⟩,
      getMsgParam_inside content fits⟩

theorem decoders_leave_the_content :
    ¬ ∀ content : Bytes, DecodersStayInside content := by
  intro claimed
  obtain ⟨_, _, result, decoded, _⟩ := claimed [0, 0, 0xFF, 0xFF, 0xFF, 0xFF]
  have fault : getMsgParam [0, 0, 0xFF, 0xFF, 0xFF, 0xFF] = .error (.outOfBounds 6) := by decide
  rw [fault] at decoded
  cases decoded

def layout (sender msgid : Bytes) (paramlen : UInt32) (paramdata : Bytes) : Bytes :=
  .ofNat sender.length :: (sender ++ .ofNat msgid.length :: (msgid ++ (htonl paramlen ++ paramdata)))

section Layout

variable {sender msgid paramdata : Bytes} {paramlen : UInt32}

theorem senderLen_layout (senderFits : sender.length < 256) :
    senderLen (layout sender msgid paramlen paramdata) = sender.length := by
  simp [senderLen, layout]
  omega

theorem msgidLen_layout (senderFits : sender.length < 256) (msgidFits : msgid.length < 256) :
    msgidLen (layout sender msgid paramlen paramdata) = msgid.length := by
  rw [msgidLen, senderLen_layout senderFits, Nat.add_comm]
  simp [layout]
  omega

theorem paramOffset_layout (senderFits : sender.length < 256) (msgidFits : msgid.length < 256) :
    paramOffset (layout sender msgid paramlen paramdata) = 1 + sender.length + 1 + msgid.length := by
  rw [paramOffset, senderLen_layout senderFits, msgidLen_layout senderFits msgidFits]

theorem layout_length : (layout sender msgid paramlen paramdata).length =
    6 + sender.length + msgid.length + paramdata.length := by
  simp [layout]
  omega

theorem layout_drop_offset : (layout sender msgid paramlen paramdata).drop
    (1 + sender.length + 1 + msgid.length) = htonl paramlen ++ paramdata := by
  have parts : layout sender msgid paramlen paramdata =
      ((UInt8.ofNat sender.length :: sender) ++ (UInt8.ofNat msgid.length :: msgid)) ++
        (htonl paramlen ++ paramdata) := by
    simp [layout]
  have length : ((UInt8.ofNat sender.length :: sender) ++
      (UInt8.ofNat msgid.length :: msgid)).length = 1 + sender.length + 1 + msgid.length := by
    simp
    omega
  rw [parts, ← length, List.drop_left]

theorem announcedLen_layout (senderFits : sender.length < 256) (msgidFits : msgid.length < 256) :
    announcedLen (layout sender msgid paramlen paramdata) = paramlen.toNat := by
  rw [announcedLen, paramOffset_layout senderFits msgidFits, layout_drop_offset,
    ntohl_take _ 4 (by omega), ntohl_htonl]

theorem getMsgSender_layout (senderFits : sender.length < 256) :
    getMsgSender (layout sender msgid paramlen paramdata) = .ok (some sender) := by
  rw [getMsgSender_correct, senderLen_layout senderFits, if_neg (by rw [layout_length]; omega)]
  simp [layout]

theorem getMsgId_layout (senderFits : sender.length < 256) (msgidFits : msgid.length < 256) :
    getMsgId (layout sender msgid paramlen paramdata) = .ok (some msgid) := by
  rw [getMsgId_correct, paramOffset_layout senderFits msgidFits,
    if_neg (by rw [layout_length]; omega), senderLen_layout senderFits,
    msgidLen_layout senderFits msgidFits, Nat.add_assoc, Nat.add_comm 1]
  simp [layout]

theorem getMsgParam_layout (senderFits : sender.length < 256) (msgidFits : msgid.length < 256)
    (paramFits : paramdata.length = paramlen.toNat)
    (total : 6 + sender.length + msgid.length + paramlen.toNat < 2 ^ 32) :
    getMsgParam (layout sender msgid paramlen paramdata) = .ok (some (paramdata, paramlen)) := by
  have length := @layout_length sender msgid paramdata paramlen
  have value : (layout sender msgid paramlen paramdata).drop
      (1 + sender.length + 1 + msgid.length + 4) = paramdata := by
    rw [← List.drop_drop, layout_drop_offset, ← htonl_length paramlen, List.drop_left]
  rw [getMsgParam_correct, paramOffset_layout senderFits msgidFits,
    announcedLen_layout senderFits msgidFits, if_neg (by omega),
    Nat.mod_eq_of_lt (by omega), if_neg (by omega), readRange_inside _ _ _ (by omega), value,
    ← paramFits, List.take_length, layout_drop_offset, ntohl_take _ 4 (by omega), ntohl_htonl]
  rfl

end Layout

-- What the uint8_t length bytes leave of a name.
def keptName (name : Bytes) : Bytes := name.take (name.length % 256)

theorem keptName_length (name : Bytes) : (keptName name).length = name.length % 256 := by
  simp [keptName]
  omega

theorem keptName_eq_iff (name : Bytes) : keptName name = name ↔ name.length < 256 := by
  constructor
  · intro same
    have length := keptName_length name
    rw [same] at length
    omega
  · intro short
    simp [keptName, Nat.mod_eq_of_lt short]

-- The length of an encoded message, as the encoder adds it up before the uint32_t store.
def encodedLen (msgid : Bytes) (param : MsgBusParam) (msgsender : Bytes) : Nat :=
  6 + msgsender.length % 256 + msgid.length % 256 + param.paramlen.toNat

theorem lengthByte (name : Bytes) : UInt8.ofNat (keptName name).length = .ofNat name.length := by
  apply UInt8.toNat.inj
  simp only [keptName_length, UInt8.toNat_ofNat']
  omega

theorem generateNetMsgContent_bytes (msgid : Bytes) (param : MsgBusParam) (msgsender : Bytes)
    (sized : param.WellSized) :
    (generateNetMsgContent msgid param msgsender).paramdata =
      layout (keptName msgsender) (keptName msgid) param.paramlen param.paramdata := by
  have whole : param.paramdata.take param.paramlen.toNat = param.paramdata :=
    List.take_of_length_le (Nat.le_of_eq sized)
  simp only [generateNetMsgContent, layout, lengthByte, whole]
  simp [keptName]

theorem generateNetMsgContent_content (msgid : Bytes) (param : MsgBusParam) (msgsender : Bytes)
    (sized : param.WellSized) (total : encodedLen msgid param msgsender < 2 ^ 32) :
    (generateNetMsgContent msgid param msgsender).content =
      layout (keptName msgsender) (keptName msgid) param.paramlen param.paramdata := by
  rw [MsgBusParam.content, generateNetMsgContent_bytes msgid param msgsender sized]
  apply List.take_of_length_le
  unfold MsgBusParam.WellSized at sized
  unfold encodedLen at total
  rw [layout_length, keptName_length, keptName_length, sized]
  simp only [generateNetMsgContent, senderLenBytes, msgkeyLenBytes, msgvalueLenBytes,
    UInt32.toNat_ofNat', UInt8.toNat_ofNat']
  omega

theorem getMsgSender_generated (msgid : Bytes) (param : MsgBusParam) (msgsender : Bytes)
    (sized : param.WellSized) (total : encodedLen msgid param msgsender < 2 ^ 32) :
    getMsgSender (generateNetMsgContent msgid param msgsender).content =
      .ok (some (keptName msgsender)) := by
  rw [generateNetMsgContent_content msgid param msgsender sized total]
  exact getMsgSender_layout (by rw [keptName_length]; omega)

theorem getMsgId_generated (msgid : Bytes) (param : MsgBusParam) (msgsender : Bytes)
    (sized : param.WellSized) (total : encodedLen msgid param msgsender < 2 ^ 32) :
    getMsgId (generateNetMsgContent msgid param msgsender).content =
      .ok (some (keptName msgid)) := by
  rw [generateNetMsgContent_content msgid param msgsender sized total]
  exact getMsgId_layout (by rw [keptName_length]; omega) (by rw [keptName_length]; omega)

theorem getMsgParam_generated (msgid : Bytes) (param : MsgBusParam) (msgsender : Bytes)
    (sized : param.WellSized) (total : encodedLen msgid param msgsender < 2 ^ 32) :
    getMsgParam (generateNetMsgContent msgid param msgsender).content =
      .ok (some (param.paramdata, param.paramlen)) := by
  rw [generateNetMsgContent_content msgid param msgsender sized total]
  exact getMsgParam_layout (by rw [keptName_length]; omega) (by rw [keptName_length]; omega) sized
    (by simpa only [keptName_length, encodedLen] using total)

def SurvivesEncoding (msgid : Bytes) (param : MsgBusParam) (msgsender : Bytes) : Prop :=
  let content := (generateNetMsgContent msgid param msgsender).content
  getMsgSender content = .ok (some msgsender) ∧ getMsgId content = .ok (some msgid) ∧
    getMsgParam content = .ok (some (param.paramdata, param.paramlen))

theorem survives_encoding_iff (msgid : Bytes) (param : MsgBusParam) (msgsender : Bytes)
    (sized : param.WellSized) (total : encodedLen msgid param msgsender < 2 ^ 32) :
    SurvivesEncoding msgid param msgsender ↔ msgsender.length < 256 ∧ msgid.length < 256 := by
  simp only [SurvivesEncoding, getMsgSender_generated msgid param msgsender sized total,
    getMsgId_generated msgid param msgsender sized total,
    getMsgParam_generated msgid param msgsender sized total,
    Except.ok.injEq, Option.some.injEq, keptName_eq_iff, and_true]

theorem survives_encoding_short :
    MsgBusParam.WellSized ⟨[1, 2, 3], 3⟩ ∧ SurvivesEncoding [0x70, 0x71] ⟨[1, 2, 3], 3⟩ [0x61] :=
  ⟨rfl, (survives_encoding_iff [0x70, 0x71] ⟨[1, 2, 3], 3⟩ [0x61] rfl (by decide)).mpr (by decide)⟩

-- A sender of 256 bytes gets the length byte 0 and is read back as the empty name.
theorem long_sender_lost :
    ¬ ∀ (msgid : Bytes) (param : MsgBusParam) (msgsender : Bytes), param.WellSized →
      6 + msgsender.length + msgid.length + param.paramlen.toNat < 2 ^ 32 →
      SurvivesEncoding msgid param msgsender := by
  intro claimed
  have long : (List.replicate 256 (0x61 : UInt8)).length = 256 := List.length_replicate
  have survives := claimed [0x70] ⟨[], 0⟩ (List.replicate 256 0x61) rfl (by rw [long]; decide)
  have back := survives.1
  rw [getMsgSender_generated [0x70] ⟨[], 0⟩ _ rfl (by rw [encodedLen, long]; decide)] at back
  simp only [Except.ok.injEq, Option.some.injEq, keptName_eq_iff, long] at back
  omega

end MessageBus.Content
