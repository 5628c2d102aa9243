import MessageBus.Shared.Transition
import MessageBus.Wire.PBEnvelope

set_option autoImplicit false

namespace MessageBus.Messages

open Bytes Readers Server

-- What UnPackBody is called on: at least one byte.
abbrev Filled := { body : Bytes // 1 ≤ body.length }

-- A MsgBusRegisterRsp and a MsgBusSendMsgRsp without their messages.
def registerRspFixed : Nat := 2 + maxServiceName + 2

def sendMsgRspFixed : Nat := 2 + 2

section Decoders

variable (body : Bytes)

-- The length of the message behind the fixed part, as the bytes give it.
def registerErrMsgLen : UInt16 := ntohs (body.drop (2 + maxServiceName))

def sendMsgErrMsgLen : UInt16 := ntohs (body.drop 2)

def sendMsgLen : UInt32 := ntohl (body.drop (maxServiceName * 2))

inductive UnPacksRegisterRsp (rsp : MsgBusRegisterRsp) : Int × MsgBusRegisterRsp -> Prop where
  | short (few : body.length < registerRspFixed) : UnPacksRegisterRsp rsp (-1, rsp)
  | cut (fixed : registerRspFixed ≤ body.length)
      (few : body.length < registerRspFixed + (registerErrMsgLen body).toNat) :
      UnPacksRegisterRsp rsp (-1, { rsp with
        retCode := ntohs body
        serviceName := padded (body.drop 2) maxServiceName
        errMsgLen := registerErrMsgLen body })
  | whole (enough : registerRspFixed + (registerErrMsgLen body).toNat ≤ body.length) :
      UnPacksRegisterRsp rsp (0, { rsp with
        retCode := ntohs body
        serviceName := padded (body.drop 2) maxServiceName
        errMsgLen := registerErrMsgLen body
        needfree := true
        errMsg := (padded (body.drop registerRspFixed) (registerErrMsgLen body).toNat).toList })

theorem unPackBody_registerRsp (rsp : MsgBusRegisterRsp) (filled : 1 ≤ body.length) :
    ∃ result, rsp.unPackBody body body.length = .ok result ∧
      UnPacksRegisterRsp body rsp result := by
  have fixedSize : registerRspFixed = 2 + maxServiceName + 2 := rfl
  have given : body.length ≠ 0 := by omega
  unfold MsgBusRegisterRsp.unPackBody
  by_cases short : body.length < registerRspFixed
  · rw [if_pos ⟨given, short⟩]
    exact ⟨_, rfl, .short short⟩
  rw [if_neg (fun both => short both.2)]
  have name := @strncpy_inside (body.drop 2) maxServiceName (by rw [List.length_drop]; omega)
  have length := @load16_inside (body.drop (2 + maxServiceName)) (by rw [List.length_drop]; omega)
  have behindName : (body.drop 2).drop maxServiceName = body.drop (2 + maxServiceName) :=
    List.drop_drop
  have behindLength : (body.drop (2 + maxServiceName)).drop 2 = body.drop registerRspFixed :=
    List.drop_drop
  simp only [@load16_inside body (by omega), name, length, behindName, behindLength, ok_bind]
  by_cases cut : body.length < registerRspFixed + (registerErrMsgLen body).toNat
  · rw [if_pos ⟨given, cut⟩]
    exact ⟨_, rfl, .cut (Nat.not_lt.mp short) cut⟩
  · rw [if_neg (fun both => cut both.2)]
    have copied := @strncpy_inside (body.drop registerRspFixed) (registerErrMsgLen body).toNat
      (by rw [List.length_drop]; omega)
    rw [registerErrMsgLen] at copied
    simp only [strncpyBytes, copied, ok_bind, MsgBusRegisterRsp.freed]
    exact ⟨_, rfl, .whole (Nat.not_lt.mp cut)⟩

inductive UnPacksSendMsgRsp (rsp : MsgBusSendMsgRsp) : Int × MsgBusSendMsgRsp -> Prop where
  | short (few : body.length < 2) : UnPacksSendMsgRsp rsp (-1, rsp)
  -- The return code is taken over before the length is known to be there.
  | coded (few : body.length < sendMsgRspFixed) :
      UnPacksSendMsgRsp rsp (-1, { rsp with retCode := ntohs body })
  | cut (fixed : sendMsgRspFixed ≤ body.length)
      (few : body.length < sendMsgRspFixed + (sendMsgErrMsgLen body).toNat) :
      UnPacksSendMsgRsp rsp (-1, { rsp with
        retCode := ntohs body
        errMsgLen := sendMsgErrMsgLen body })
  | whole (enough : sendMsgRspFixed + (sendMsgErrMsgLen body).toNat ≤ body.length) :
      UnPacksSendMsgRsp rsp (0, { rsp with
        retCode := ntohs body
        errMsgLen := sendMsgErrMsgLen body
        needfree := true
        errMsg := (padded (body.drop sendMsgRspFixed) (sendMsgErrMsgLen body).toNat).toList })

theorem unPackBody_sendMsgRsp (rsp : MsgBusSendMsgRsp) (filled : 1 ≤ body.length) :
    ∃ result, rsp.unPackBody body body.length = .ok result ∧
      UnPacksSendMsgRsp body rsp result := by
  have fixedSize : sendMsgRspFixed = 2 + 2 := rfl
  have given : body.length ≠ 0 := by omega
  unfold MsgBusSendMsgRsp.unPackBody
  by_cases short : body.length < 2
  · rw [if_pos ⟨given, short⟩]
    exact ⟨_, rfl, .short short⟩
  rw [if_neg (fun both => short both.2), @load16_inside body (by omega), ok_bind]
  by_cases coded : body.length < sendMsgRspFixed
  · rw [if_pos ⟨given, coded⟩]
    exact ⟨_, rfl, .coded coded⟩
  rw [if_neg (fun both => coded both.2)]
  have length := @load16_inside (body.drop 2) (by rw [List.length_drop]; omega)
  have behindLength : (body.drop 2).drop 2 = body.drop sendMsgRspFixed := List.drop_drop
  simp only [length, behindLength, ok_bind]
  by_cases cut : body.length < sendMsgRspFixed + (sendMsgErrMsgLen body).toNat
  · rw [if_pos ⟨given, cut⟩]
    exact ⟨_, rfl, .cut (Nat.not_lt.mp coded) cut⟩
  · rw [if_neg (fun both => cut both.2)]
    have copied := @strncpy_inside (body.drop sendMsgRspFixed) (sendMsgErrMsgLen body).toNat
      (by rw [List.length_drop]; omega)
    rw [sendMsgErrMsgLen] at copied
    simp only [strncpyBytes, copied, ok_bind, MsgBusSendMsgRsp.freed]
    exact ⟨_, rfl, .whole (Nat.not_lt.mp cut)⟩

end Decoders

-- The length fields of a message, each with the buffer it describes.
def payloads : (kind : Kind) -> kind.Object -> List (Int × Bytes)
  | .registerRsp, (rsp : MsgBusRegisterRsp) => [(rsp.errMsgLen.toNat, rsp.errMsg)]
  | .sendMsgReq, (req : MsgBusSendMsgReq) => [(req.msgLen.toNat, req.msgContent)]
  | .sendMsgRsp, (rsp : MsgBusSendMsgRsp) => [(rsp.errMsgLen.toNat, rsp.errMsg)]
  | .packPBType, (pack : MsgBusPackPBType) =>
    [(pack.pbtypeLen.toInt, pack.pbtype), (pack.pbdataLen.toInt, pack.pbdata)]
  | _, _ => []

def Matched {kind : Kind} (object : kind.Object) : Prop :=
  ∀ payload ∈ payloads kind object, (payload.2.length : Int) = payload.1

-- One call, whatever it returns; a call that does not return leaves no object.
def unPacked {kind : Kind} (object : kind.Object) (body : Filled) : Option kind.Object :=
  (kind.messageClass.unPackBody object body.1 body.1.length).toOption.map Prod.snd

-- The exits of MsgBusPackPBType::UnPackBody at which a length is the new one and its buffer is not.
def MsgBusPackPBType.LeavesApart (pack : MsgBusPackPBType) (body : Bytes) : Prop :=
  4 ≤ body.length ∧
    if TypeRefused body then wireTypeLen body ≠ pack.pbtypeLen
    else 8 ≤ body.length ∧
      if SumRefused body then
        ¬ (wireTypeLen body = pack.pbtypeLen ∧ wireDataLen body = pack.pbdataLen)
      else wireTypeLen body < 0 ∨
        (body.length < typeEnd body ∧ 0 ∈ body.drop 8 ∧
          (pack.freeVarData.pbdata.length : Int) ≠ (wireDataLen body).toInt) ∨
        (typeEnd body ≤ body.length ∧ wireDataLen body < 0)

-- The calls that leave by an exit between the length and its buffer, with a length that is not the
-- one of the buffer still there.
def Breaks {kind : Kind} (object : kind.Object) (body : Filled) : Prop :=
  match kind, object with
  | .registerRsp, (rsp : MsgBusRegisterRsp) =>
    registerRspFixed ≤ body.1.length ∧
      body.1.length < registerRspFixed + (registerErrMsgLen body.1).toNat ∧
      registerErrMsgLen body.1 ≠ rsp.errMsgLen
  | .sendMsgReq, (req : MsgBusSendMsgReq) =>
    sendMsgFixed ≤ body.1.length ∧ body.1.length < sendMsgFixed + (sendMsgLen body.1).toNat ∧
      sendMsgLen body.1 ≠ req.msgLen
  | .sendMsgRsp, (rsp : MsgBusSendMsgRsp) =>
    sendMsgRspFixed ≤ body.1.length ∧
      body.1.length < sendMsgRspFixed + (sendMsgErrMsgLen body.1).toNat ∧
      sendMsgErrMsgLen body.1 ≠ rsp.errMsgLen
  | .packPBType, (pack : MsgBusPackPBType) => pack.LeavesApart body.1
  | _, _ => False

section Steps

variable {body : Filled}

theorem unPacked_of_ok {kind : Kind} {object : kind.Object} {result : Int × kind.Object}
    (ran : kind.messageClass.unPackBody object body.1 body.1.length = .ok result) :
    unPacked object body = some result.2 := by
  rw [unPacked, ran]
  rfl

theorem unPacked_some {kind : Kind} {object next : kind.Object}
    (taken : unPacked object body = some next) :
    ∃ code, kind.messageClass.unPackBody object body.1 body.1.length = .ok (code, next) := by
  unfold unPacked at taken
  cases ran : kind.messageClass.unPackBody object body.1 body.1.length with
  | error abort =>
    rw [ran] at taken
    cases taken
  | ok result =>
    rw [ran] at taken
    cases taken
    exact ⟨result.1, rfl⟩

theorem matched_one {kind : Kind} {object : kind.Object} {length : Nat} {buffer : Bytes}
    (only : payloads kind object = [((length : Int), buffer)]) :
    Matched object ↔ buffer.length = length := by
  simp [Matched, only]

theorem registerRsp_matched (rsp : MsgBusRegisterRsp) :
    @Matched .registerRsp rsp ↔ rsp.errMsg.length = rsp.errMsgLen.toNat :=
  @matched_one .registerRsp rsp _ _ rfl

theorem sendMsgReq_matched (req : MsgBusSendMsgReq) :
    @Matched .sendMsgReq req ↔ req.msgContent.length = req.msgLen.toNat :=
  @matched_one .sendMsgReq req _ _ rfl

theorem sendMsgRsp_matched (rsp : MsgBusSendMsgRsp) :
    @Matched .sendMsgRsp rsp ↔ rsp.errMsg.length = rsp.errMsgLen.toNat :=
  @matched_one .sendMsgRsp rsp _ _ rfl

theorem packPBType_matched (pack : MsgBusPackPBType) : @Matched .packPBType pack ↔
    (pack.pbtype.length : Int) = pack.pbtypeLen.toInt ∧
      (pack.pbdata.length : Int) = pack.pbdataLen.toInt := by
  simp [Matched, payloads]

theorem registerRsp_step {rsp : MsgBusRegisterRsp} (matched : @Matched .registerRsp rsp) :
    ∃ next, @unPacked .registerRsp rsp body = some next ∧
      (@Matched .registerRsp next ↔ ¬ @Breaks .registerRsp rsp body) := by
  obtain ⟨result, unpacked, ways⟩ := unPackBody_registerRsp body.1 rsp body.2
  refine ⟨result.2, @unPacked_of_ok body .registerRsp rsp result unpacked, ?_⟩
  rw [registerRsp_matched] at matched
  rw [registerRsp_matched]
  cases ways with
  | short few => exact iff_of_true matched (fun breaks => absurd breaks.1 (Nat.not_le.mpr few))
  | cut fixed few =>
    simp only [Breaks, fixed, few, true_and, ne_eq, not_not, matched]
    rw [UInt16.toNat_inj, eq_comm]
  | whole enough =>
    exact iff_of_true (List.Vector.toList_length _)
      (fun breaks => absurd breaks.2.1 (Nat.not_lt.mpr enough))

theorem sendMsgRsp_step {rsp : MsgBusSendMsgRsp} (matched : @Matched .sendMsgRsp rsp) :
    ∃ next, @unPacked .sendMsgRsp rsp body = some next ∧
      (@Matched .sendMsgRsp next ↔ ¬ @Breaks .sendMsgRsp rsp body) := by
  obtain ⟨result, unpacked, ways⟩ := unPackBody_sendMsgRsp body.1 rsp body.2
  refine ⟨result.2, @unPacked_of_ok body .sendMsgRsp rsp result unpacked, ?_⟩
  have fixedSize : sendMsgRspFixed = 2 + 2 := rfl
  rw [sendMsgRsp_matched] at matched
  rw [sendMsgRsp_matched]
  cases ways with
  | short few =>
    exact iff_of_true matched (fun breaks => absurd breaks.1 (by omega))
  | coded few => exact iff_of_true matched (fun breaks => absurd breaks.1 (Nat.not_le.mpr few))
  | cut fixed few =>
    simp only [Breaks, fixed, few, true_and, ne_eq, not_not, matched]
    rw [UInt16.toNat_inj, eq_comm]
  | whole enough =>
    exact iff_of_true (List.Vector.toList_length _)
      (fun breaks => absurd breaks.2.1 (Nat.not_lt.mpr enough))

theorem sendMsgReq_step {req : MsgBusSendMsgReq} (matched : @Matched .sendMsgReq req) :
    ∃ next, @unPacked .sendMsgReq req body = some next ∧
      (@Matched .sendMsgReq next ↔ ¬ @Breaks .sendMsgReq req body) := by
  obtain ⟨result, unpacked, ways⟩ := unPackBody_sendMsg req body.2
  refine ⟨result.2, @unPacked_of_ok body .sendMsgReq req result unpacked, ?_⟩
  rw [sendMsgReq_matched] at matched
  rw [sendMsgReq_matched]
  cases ways with
  | short few => exact iff_of_true matched (fun breaks => absurd breaks.1 (Nat.not_le.mpr few))
  | cut fixed few =>
    have short : body.1.length < sendMsgFixed + (sendMsgLen body.1).toNat := few
    simp only [Breaks, fixed, short, true_and, ne_eq, not_not, matched]
    rw [UInt32.toNat_inj, eq_comm, sendMsgLen]
  | whole enough =>
    refine iff_of_true ?_ (fun breaks => absurd breaks.2.1 (Nat.not_lt.mpr enough))
    rw [List.length_take_of_le]
    rw [List.length_drop]
    omega

section PBType

open MsgBusPackPBType

variable {pack : MsgBusPackPBType}

-- A length that is taken over without its buffer.
theorem still_matched {buffer : Bytes} {old new : Int32}
    (matched : (buffer.length : Int) = old.toInt) :
    (buffer.length : Int) = new.toInt ↔ new = old := by
  rw [matched, Int32.toInt_inj, eq_comm]

theorem negative_unmatched {buffer : Bytes} {length : Int32} (negative : length < 0) :
    (buffer.length : Int) ≠ length.toInt := by
  rw [Int32.lt_iff_toInt_lt, Int32.toInt_zero] at negative
  omega

theorem packPBType_step (matched : @Matched .packPBType pack) {next : MsgBusPackPBType}
    (taken : @unPacked .packPBType pack body = some next) :
    @Matched .packPBType next ↔ ¬ pack.LeavesApart body.1 := by
  rw [packPBType_matched] at matched
  rw [packPBType_matched]
  obtain ⟨code, unpacked⟩ := @unPacked_some body .packPBType pack next taken
  have ways := takes_a_way pack body.1 body.2
  change pack.unPackBody body.1 body.1.length = _ at unpacked
  rw [unpacked] at ways
  unfold LeavesApart
  cases ways with
  | typeRefused known refused =>
    simp only [known, refused, if_true, true_and, ne_eq, not_not, still_matched matched.1,
      matched.2, and_true]
  | sumRefused known passed refused =>
    have four : 4 ≤ body.1.length := by omega
    simp only [four, known, passed, refused, if_true, if_false, true_and, not_not, claimed,
      still_matched matched.1, still_matched matched.2]
  | negativeType known passed summed negative =>
    refine iff_of_false (fun both => negative_unmatched negative both.1) ?_
    simp only [not_not, passed, summed, if_false]
    exact ⟨by omega, known, .inl negative⟩
  | typeShort known passed summed nonneg few ended =>
    have four : 4 ≤ body.1.length := by omega
    have short : ¬ typeEnd body.1 ≤ body.1.length := Nat.not_le.mpr few
    have typeLen : ((pack.typed body.1).pbtype.length : Int) = (wireTypeLen body.1).toInt := by
      rw [← (sizeT_of_nonneg nonneg).1]
      exact congrArg _ (List.Vector.toList_length _)
    have same : (pack.typed body.1).pbtypeLen = wireTypeLen body.1 := rfl
    simp only [four, known, passed, summed, nonneg, few, ended, short, if_false, true_and,
      false_and, false_or, or_false, ne_eq, not_not, same, typeLen]
    rfl
  | negativeData passed summed nonneg enough negative =>
    have known : 8 ≤ body.1.length := Nat.le_trans (Nat.le_add_right _ _) enough
    refine iff_of_false (fun both => negative_unmatched negative both.2) ?_
    simp only [not_not, passed, summed, if_false]
    exact ⟨by omega, known, .inr (.inr ⟨enough, negative⟩)⟩
  | whole passed summed nonneg enough nonnegData all =>
    have typeLen : ((pack.typed body.1).pbtype.length : Int) = (wireTypeLen body.1).toInt := by
      rw [← (sizeT_of_nonneg nonneg).1]
      exact congrArg _ (List.Vector.toList_length _)
    have dataLen : (((body.1.drop (typeEnd body.1)).take (sizeT (wireDataLen body.1))).length : Int) =
        (wireDataLen body.1).toInt := by
      rw [← (sizeT_of_nonneg nonnegData).1, List.length_take_of_le]
      rw [List.length_drop]
      have total : dataEnd body.1 = typeEnd body.1 + sizeT (wireDataLen body.1) := rfl
      omega
    refine iff_of_true ⟨typeLen, dataLen⟩ ?_
    have short : ¬ body.1.length < typeEnd body.1 := Nat.not_lt.mpr enough
    simp only [passed, summed, nonneg, nonnegData, short, if_false, false_and, and_false, or_self,
      not_false_eq_true]

theorem packPBType_stops (stopped : @unPacked .packPBType pack body = none) :
    ¬ pack.LeavesApart body.1 := by
  have ways := takes_a_way pack body.1 body.2
  rintro ⟨four, apart⟩
  unfold unPacked at stopped
  change ((pack.unPackBody body.1 body.1.length).toOption).map Prod.snd = none at stopped
  generalize pack.unPackBody body.1 body.1.length = ended at ways stopped
  cases ways with
  | thrown few => omega
  | dataLenPast known passed few =>
    rw [if_neg passed] at apart
    omega
  | typePast known passed summed nonneg few unended =>
    rw [if_neg passed, if_neg summed] at apart
    rcases apart.2 with negative | ⟨_, ended, _⟩ | ⟨enough, _⟩
    · exact nonneg negative
    · exact unended ended
    · omega
  | dataPast passed summed nonneg enough nonnegData few =>
    rw [if_neg passed, if_neg summed] at apart
    rcases apart.2 with negative | ⟨short, _⟩ | ⟨_, negative⟩
    · exact nonneg negative
    · omega
    · exact nonnegData negative
  | _ => cases stopped

end PBType

structure Settled {kind : Kind} (object : kind.Object) (body : Filled) : Prop where
  returned : ∀ next, unPacked object body = some next → (Matched next ↔ ¬ Breaks object body)
  stopped : unPacked object body = none → ¬ Breaks object body

theorem settled_of_returned {kind : Kind} {object : kind.Object}
    (always : ∃ next, unPacked object body = some next ∧ (Matched next ↔ ¬ Breaks object body)) :
    Settled object body := by
  obtain ⟨next, taken, step⟩ := always
  constructor
  case returned =>
    intro other same
    rw [taken, Option.some.injEq] at same
    rwa [← same]
  case stopped =>
    intro none
    rw [taken] at none
    cases none

theorem matched_settled {kind : Kind} {object : kind.Object} (matched : Matched object) :
    Settled object body := by
  cases kind with
  | registerRsp => exact settled_of_returned (registerRsp_step matched)
  | sendMsgReq => exact settled_of_returned (sendMsgReq_step matched)
  | sendMsgRsp => exact settled_of_returned (sendMsgRsp_step matched)
  | packPBType =>
    exact ⟨fun next taken => packPBType_step matched taken, fun none => packPBType_stops none⟩
  | _ => exact ⟨fun _ _ => iff_of_true (List.forall_mem_nil _) not_false, fun _ => not_false⟩

end Steps

def MatchedThroughout {kind : Kind} (object : kind.Object) (bodies : List Filled) : Prop :=
  Transition.Throughout unPacked Matched object bodies

theorem matched_throughout_iff {kind : Kind} (object : kind.Object) (bodies : List Filled)
    (matched : Matched object) :
    MatchedThroughout object bodies ↔ Transition.Never unPacked Breaks object bodies :=
  Transition.throughout_iff_never
    (fun _ _ start stopped => (matched_settled start).stopped stopped)
    (fun _ _ next start taken => (matched_settled start).returned next taken) matched bodies

def freshSendMsgRsp : MsgBusSendMsgRsp := ⟨newHead 1 BodyType.rspSendmsg, 0, 0, [], false⟩

-- Two texts, one after the other, on the same object.
theorem matched_throughout_twoTexts : @MatchedThroughout .sendMsgRsp freshSendMsgRsp
    [⟨[0, 0, 0, 2, 104, 105], by decide⟩, ⟨[0, 1, 0, 0], by decide⟩] :=
  (@matched_throughout_iff .sendMsgRsp freshSendMsgRsp _
    ((sendMsgRsp_matched freshSendMsgRsp).mpr rfl)).mpr (by
      refine ⟨?_, fun _ _ => ⟨?_, fun _ _ => trivial⟩⟩ <;>
      · rintro ⟨_, few, _⟩
        exact absurd few (by decide))

-- A response that announces two bytes and ends.
theorem cut_text_unmatched : ¬ @MatchedThroughout .sendMsgRsp freshSendMsgRsp
    [⟨[0, 0, 0, 2], by decide⟩] := by
  rintro ⟨_, after⟩
  have unmatched : @Matched .sendMsgRsp { freshSendMsgRsp with errMsgLen := 2 } := after _ rfl
  rw [sendMsgRsp_matched] at unmatched
  cases unmatched

end MessageBus.Messages
