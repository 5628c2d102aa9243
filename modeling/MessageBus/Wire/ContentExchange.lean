import MessageBus.Wire.PyContent

set_option autoImplicit false

-- A C++ client and a Python client that send each other message contents.
namespace MessageBus.Content

open Bytes PyPort

-- A msgid and a parameter as they follow the sender.
def keyedParam (msgid paramdata : Bytes) : Bytes :=
  .ofNat msgid.length :: (msgid ++ (htonl (.ofNat paramdata.length) ++ paramdata))

variable {content msgid paramdata : Bytes}

theorem decoders_read_keyed {rest : Bytes} (msgidFits : msgid.length < 256)
    (paramFits : paramdata.length < 2 ^ 32)
    (there : content.drop (1 + senderLen content) = keyedParam msgid paramdata ++ rest) :
    getMsgId content = .ok (some msgid) ∧
      getMsgParam content = .ok (some (paramdata, .ofNat paramdata.length)) := by
  have total : content.length =
      1 + senderLen content + (1 + msgid.length + 4 + paramdata.length) + rest.length := by
    have lengths := congrArg List.length there
    simp [keyedParam] at lengths
    omega
  have idLen : msgidLen content = msgid.length := by
    have head : content[1 + senderLen content]? = some (.ofNat msgid.length) := by
      have first := congrArg (·[0]?) there
      simpa [keyedParam] using first
    rw [msgidLen, List.getD_eq_getElem?_getD, head]
    exact UInt8.toNat_ofNat_of_lt' msgidFits
  have offset : paramOffset content = 1 + senderLen content + 1 + msgid.length := by
    rw [paramOffset, idLen]
  have afterId : content.drop (1 + senderLen content + 1) =
      msgid ++ (htonl (.ofNat paramdata.length) ++ (paramdata ++ rest)) := by
    rw [← List.drop_drop, there]
    simp [keyedParam]
  have afterOffset : content.drop (paramOffset content) =
      htonl (.ofNat paramdata.length) ++ (paramdata ++ rest) := by
    rw [offset, ← List.drop_drop, afterId, List.drop_left]
  have announced : announcedLen content = paramdata.length := by
    rw [announcedLen, afterOffset, ntohl_take _ 4 (by omega), ntohl_htonl]
    exact UInt32.toNat_ofNat_of_lt' paramFits
  have value : content.drop (paramOffset content + 4) = paramdata ++ rest := by
    rw [← List.drop_drop, afterOffset, ← htonl_length (.ofNat paramdata.length), List.drop_left]
  constructor
  next =>
    rw [getMsgId_correct, if_neg (by omega), afterId, idLen, List.take_left]
  next =>
    rw [getMsgParam_correct, if_neg (by omega), if_neg, announced,
      readRange_inside _ _ _ (by omega), value, List.take_left, afterOffset,
      ntohl_take _ 4 (by omega), ntohl_htonl]
    · rfl
    · have wrapped := Nat.mod_le (paramOffset content + 4 + announcedLen content) (2 ^ 32)
      omega

theorem drop_split (text : Bytes) (start count : Nat) :
    text.drop start = (text.drop start).take count ++ text.drop (start + count) := by
  rw [← List.drop_drop, List.take_append_drop]

theorem keyed_of_decoders {paramlen : UInt32} (read : getMsgId content = .ok (some msgid))
    (param : getMsgParam content = .ok (some (paramdata, paramlen))) :
    keyedParam msgid paramdata <+: content.drop (1 + senderLen content) := by
  have offset : paramOffset content = 1 + senderLen content + 1 + msgidLen content := rfl
  rw [getMsgId_correct] at read
  rw [getMsgParam_correct] at param
  split at param
  · cases param
  next there =>
    split at param
    · cases param
    next =>
      have inside : paramOffset content + 4 + announcedLen content ≤ content.length := by
        by_contra outside
        rw [readRange_outside _ _ _ (by omega)] at param
        cases param
      rw [if_neg (by omega)] at read
      rw [readRange_inside _ _ _ inside] at param
      simp only [Except.ok.injEq, Option.some.injEq, Except.map, Prod.mk.injEq] at read param
      obtain ⟨value, _⟩ := param
      have idLen : msgid.length = msgidLen content := by
        rw [← read, List.length_take, List.length_drop]
        omega
      have paramLen : paramdata.length = announcedLen content := by
        rw [← value, List.length_take, List.length_drop]
        omega
      have first : content.drop (1 + senderLen content) =
          .ofNat msgid.length :: content.drop (1 + senderLen content + 1) := by
        rw [List.drop_eq_getElem_cons (by omega), idLen, msgidLen, UInt8.ofNat_toNat,
          List.getD_eq_getElem _ _ (by omega)]
      have second : content.drop (1 + senderLen content + 1) =
          msgid ++ content.drop (paramOffset content) := by
        rw [← read, offset]
        exact drop_split content _ _
      have word : htonl (.ofNat paramdata.length) = (content.drop (paramOffset content)).take 4 := by
        rw [paramLen, announcedLen, UInt32.ofNat_toNat, htonl_ntohl]
        rw [List.length_take, List.length_drop]
        omega
      have third : content.drop (paramOffset content) =
          htonl (.ofNat paramdata.length) ++ content.drop (paramOffset content + 4) := by
        rw [word]
        exact drop_split content _ _
      have fourth : content.drop (paramOffset content + 4) = paramdata ++
          content.drop (paramOffset content + 4 + announcedLen content) := by
        rw [← value]
        exact drop_split content _ _
      refine ⟨content.drop (paramOffset content + 4 + announcedLen content), ?_⟩
      rw [first, second, third, fourth]
      simp [keyedParam]

-- The parameter of a C++ caller, its length the uint32_t it is passed with.
def exchanged (msgparam : Bytes) : MsgBusParam :=
  { paramdata := msgparam, paramlen := .ofNat msgparam.length }

def pyContent (msgid msgparam msgsender : Bytes) : Bytes :=
  ReceiverMsgUtil.makeMsgNetData msgid msgparam msgsender

def UnderstandEachOther (msgid msgparam msgsender : Bytes) : Prop :=
  let sent := (generateNetMsgContent msgid (exchanged msgparam) msgsender).content
  getMsgId (pyContent msgid msgparam msgsender) = .ok (some msgid) ∧
    getMsgParam (pyContent msgid msgparam msgsender) =
      .ok (some (msgparam, .ofNat msgparam.length)) ∧
    ReceiverMsgUtil.getMsgId sent = msgid ∧ ReceiverMsgUtil.getMsgParam sent = msgparam

-- The 'm' of "msgid=" taken for the length of a sender.
def pySenderLen : Nat := 0x6d

-- Each side's format also stands where the other side looks for its own: behind 110 bytes of the
-- Python text, and at the first "msgid=" and "msgparam=" of the C++ bytes.
structure Crafted (msgid msgparam msgsender : Bytes) : Prop where
  keyed : keyedParam msgid msgparam <+:
    (pyContent msgid msgparam msgsender).drop (1 + pySenderLen)
  spelledId : ReceiverMsgUtil.Spelled
    (layout msgsender msgid (.ofNat msgparam.length) msgparam) ReceiverMsgUtil.msgidKey msgid
  spelledParam : ReceiverMsgUtil.Spelled
    (layout msgsender msgid (.ofNat msgparam.length) msgparam) ReceiverMsgUtil.msgparamKey msgparam

section Exchange

variable {msgid msgparam msgsender : Bytes}

theorem senderLen_pyContent : senderLen (pyContent msgid msgparam msgsender) = pySenderLen := by
  unfold pyContent ReceiverMsgUtil.makeMsgNetData
  dsimp only
  split <;> rfl

theorem read_by_cpp_iff (msgidFits : msgid.length < 256) (paramFits : msgparam.length < 2 ^ 32) :
    (getMsgId (pyContent msgid msgparam msgsender) = .ok (some msgid) ∧
      getMsgParam (pyContent msgid msgparam msgsender) =
        .ok (some (msgparam, .ofNat msgparam.length))) ↔
      keyedParam msgid msgparam <+:
        (pyContent msgid msgparam msgsender).drop (1 + pySenderLen) := by
  rw [← @senderLen_pyContent msgid msgparam msgsender]
  constructor
  next =>
    rintro ⟨read, param⟩
    exact keyed_of_decoders read param
  next =>
    rintro ⟨rest, there⟩
    exact decoders_read_keyed msgidFits paramFits there.symm

theorem exchanged_content (msgidFits : msgid.length < 256) (senderFits : msgsender.length < 256)
    (total : 6 + msgsender.length + msgid.length + msgparam.length < 2 ^ 32) :
    (generateNetMsgContent msgid (exchanged msgparam) msgsender).content =
      layout msgsender msgid (.ofNat msgparam.length) msgparam := by
  have length : (exchanged msgparam).paramlen.toNat = msgparam.length :=
    UInt32.toNat_ofNat_of_lt' (Nat.lt_of_le_of_lt (Nat.le_add_left _ _) total)
  rw [generateNetMsgContent_content msgid (exchanged msgparam) msgsender length.symm,
    (keptName_eq_iff msgsender).mpr senderFits, (keptName_eq_iff msgid).mpr msgidFits]
  · rfl
  · rw [encodedLen, length, Nat.mod_eq_of_lt msgidFits, Nat.mod_eq_of_lt senderFits]
    exact total

theorem understand_each_other_iff (msgid msgparam msgsender : Bytes) (hasId : msgid ≠ [])
    (hasParam : msgparam ≠ []) (msgidFits : msgid.length < 256)
    (senderFits : msgsender.length < 256)
    (total : 6 + msgsender.length + msgid.length + msgparam.length < 2 ^ 32) :
    UnderstandEachOther msgid msgparam msgsender ↔ Crafted msgid msgparam msgsender := by
  have paramFits : msgparam.length < 2 ^ 32 := Nat.lt_of_le_of_lt (Nat.le_add_left _ _) total
  have byCpp := @read_by_cpp_iff msgid msgparam msgsender msgidFits paramFits
  have idByPy := @ReceiverMsgUtil.getMsgKey_eq_iff
    (layout msgsender msgid (.ofNat msgparam.length) msgparam) ReceiverMsgUtil.msgidKey msgid
    (by decide) hasId
  have paramByPy := @ReceiverMsgUtil.getMsgKey_eq_iff
    (layout msgsender msgid (.ofNat msgparam.length) msgparam) ReceiverMsgUtil.msgparamKey msgparam
    (by decide) hasParam
  unfold UnderstandEachOther
  rw [exchanged_content msgidFits senderFits total]
  constructor
  next =>
    rintro ⟨readId, readParam, pyId, pyParam⟩
    exact ⟨byCpp.mp ⟨readId, readParam⟩, idByPy.mp pyId, paramByPy.mp pyParam⟩
  next =>
    rintro ⟨keyed, spelledId, spelledParam⟩
    obtain ⟨readId, readParam⟩ := byCpp.mpr keyed
    exact ⟨readId, readParam, idByPy.mpr spelledId, paramByPy.mpr spelledParam⟩

end Exchange

-- "msgid=a&msgparam=p&", filled up, and a C++ frame of "a" and "p" at the byte C++ looks at.
def craftedSender : Bytes :=
  ReceiverMsgUtil.assigned ReceiverMsgUtil.msgidKey ++ [0x61, 0x26] ++
    ReceiverMsgUtil.assigned ReceiverMsgUtil.msgparamKey ++ [0x70, 0x26] ++
    List.replicate 58 0x78 ++ keyedParam [0x61] [0x70]

theorem understand_each_other_iff_crafted :
    UnderstandEachOther [0x61] [0x70] craftedSender ↔ Crafted [0x61] [0x70] craftedSender :=
  understand_each_other_iff [0x61] [0x70] craftedSender (by decide) (by decide) (by decide)
    (by decide) (by decide)

example : UnderstandEachOther [0x61] [0x70] craftedSender := by
  unfold UnderstandEachOther
  decide +kernel

theorem ordinary_message_not_understood :
    ¬ UnderstandEachOther [0x61] [0x70] [0x73] := by
  rintro ⟨readId, _⟩
  revert readId
  decide +kernel

end MessageBus.Content
