import MessageBus.Server.RequestBodies

set_option autoImplicit false

namespace MessageBus.Messages.MsgBusPackPBType

open Bytes Readers Server

section Wire

variable (body : Bytes)

def wireTypeLen : Int32 := (ntohl body).toInt32

def wireDataLen : Int32 := (ntohl (body.drop 4)).toInt32

def wireSum : Nat := (8 + sizeT (wireTypeLen body) + sizeT (wireDataLen body)) % 2 ^ 32

def TypeRefused : Prop := body.length < (4 + sizeT (wireTypeLen body)) % 2 ^ 64

def SumRefused : Prop := body.length < wireSum body

def typeEnd : Nat := 8 + sizeT (wireTypeLen body)

def dataEnd : Nat := typeEnd body + sizeT (wireDataLen body)

instance : Decidable (TypeRefused body) :=
  inferInstanceAs (Decidable (body.length < (4 + sizeT (wireTypeLen body)) % 2 ^ 64))

instance : Decidable (SumRefused body) :=
  inferInstanceAs (Decidable (body.length < wireSum body))

end Wire

section Sizes

theorem sizeT_of_nonneg {length : Int32} (nonneg : ¬ length < 0) :
    (sizeT length : Int) = length.toInt ∧ sizeT length < 2 ^ 31 := by
  have high := length.toInt_lt
  rw [Int32.lt_iff_toInt_lt, Int32.toInt_zero] at nonneg
  rw [sizeT]
  omega

theorem bodySize_wire (pack : MsgBusPackPBType) (body : Bytes) :
    bodySize { pack with pbtypeLen := wireTypeLen body, pbdataLen := wireDataLen body }.size =
      wireSum body := by
  have head : MsgBusPackHead.size = 16 := rfl
  simp only [bodySize, size, wireSum, UInt32.toNat_sub, UInt32.toNat_ofNat', head]
  omega

end Sizes

section Decoder

variable (pack : MsgBusPackPBType) (body : Bytes)

-- Both lengths are taken over before anything is freed.
def claimed : MsgBusPackPBType :=
  { pack with pbtypeLen := wireTypeLen body, pbdataLen := wireDataLen body }

def renewed : MsgBusPackPBType :=
  { pack.freeVarData with
    pbtypeLen := wireTypeLen body
    pbdataLen := wireDataLen body
    needfree := true }

theorem claimed_freed :
    { (pack.claimed body).freeVarData with needfree := true } = pack.renewed body := by
  unfold renewed freeVarData claimed
  split <;> rfl

def typed : MsgBusPackPBType :=
  { pack.renewed body with pbtype := (padded (body.drop 8) (sizeT (wireTypeLen body))).toList }

inductive UnPacksPBType : Except Abort (Int × MsgBusPackPBType) -> Prop where
  | thrown (few : body.length < 4) : UnPacksPBType (.error .terminate)
  | typeRefused (known : 4 ≤ body.length) (refused : TypeRefused body) :
      UnPacksPBType (.ok (-1, { pack with pbtypeLen := wireTypeLen body }))
  -- The second length is loaded before its bytes are known to be there.
  | dataLenPast (known : 4 ≤ body.length) (passed : ¬ TypeRefused body) (few : body.length < 8) :
      UnPacksPBType (.error .pastEnd)
  | sumRefused (known : 8 ≤ body.length) (passed : ¬ TypeRefused body)
      (refused : SumRefused body) : UnPacksPBType (.ok (-1, pack.claimed body))
  | negativeType (known : 8 ≤ body.length) (passed : ¬ TypeRefused body)
      (summed : ¬ SumRefused body) (negative : wireTypeLen body < 0) :
      UnPacksPBType (.ok (-1, pack.renewed body))
  | typePast (known : 8 ≤ body.length) (passed : ¬ TypeRefused body)
      (summed : ¬ SumRefused body) (nonneg : ¬ wireTypeLen body < 0)
      (few : body.length < typeEnd body) (unended : 0 ∉ body.drop 8) :
      UnPacksPBType (.error .pastEnd)
  -- strncpy stops at a NUL, and only then is the end of the type compared with len.
  | typeShort (known : 8 ≤ body.length) (passed : ¬ TypeRefused body)
      (summed : ¬ SumRefused body) (nonneg : ¬ wireTypeLen body < 0)
      (few : body.length < typeEnd body) (ended : 0 ∈ body.drop 8) :
      UnPacksPBType (.ok (-1, pack.typed body))
  | negativeData (passed : ¬ TypeRefused body) (summed : ¬ SumRefused body)
      (nonneg : ¬ wireTypeLen body < 0) (enough : typeEnd body ≤ body.length)
      (negative : wireDataLen body < 0) : UnPacksPBType (.ok (-1, pack.typed body))
  | dataPast (passed : ¬ TypeRefused body) (summed : ¬ SumRefused body)
      (nonneg : ¬ wireTypeLen body < 0) (enough : typeEnd body ≤ body.length)
      (nonnegData : ¬ wireDataLen body < 0) (few : body.length < dataEnd body) :
      UnPacksPBType (.error .pastEnd)
  | whole (passed : ¬ TypeRefused body) (summed : ¬ SumRefused body)
      (nonneg : ¬ wireTypeLen body < 0) (enough : typeEnd body ≤ body.length)
      (nonnegData : ¬ wireDataLen body < 0) (all : dataEnd body ≤ body.length) :
      UnPacksPBType (.ok (0, { pack.typed body with
        pbdata := (body.drop (typeEnd body)).take (sizeT (wireDataLen body)) }))

-- What UnPackBody does behind the two lengths, to an object that has them.
def unPackBehind (pack : MsgBusPackPBType) (p : Bytes) (len : Nat) :
    Except Abort (Int × MsgBusPackPBType) := do
  if pack.pbtypeLen < 0 then return (-1, pack)
  let pack := { pack with pbtype := ← strncpyBytes p (sizeT pack.pbtypeLen) }
  let p := p.drop (sizeT pack.pbtypeLen)
  if len ≠ 0 ∧ len < (4 + sizeT pack.pbtypeLen + 4) % 2 ^ 64 then return (-1, pack)
  if pack.pbdataLen < 0 then return (-1, pack)
  let pbdata ← memcpy p (sizeT pack.pbdataLen)
  return (0, { pack with pbdata })

theorem behind_takes_a_way (known : 8 ≤ body.length) (passed : ¬ TypeRefused body)
    (summed : ¬ SumRefused body) :
    UnPacksPBType pack body (unPackBehind (pack.renewed body) (body.drop 8) body.length) := by
  have given : body.length ≠ 0 := by omega
  have sameType : (pack.renewed body).pbtypeLen = wireTypeLen body := rfl
  have sameData : (pack.renewed body).pbdataLen = wireDataLen body := rfl
  unfold unPackBehind
  by_cases negative : wireTypeLen body < 0
  · rw [sameType, if_pos negative]
    exact .negativeType known passed summed negative
  obtain ⟨_, small⟩ := sizeT_of_nonneg negative
  have ends : typeEnd body = 8 + sizeT (wireTypeLen body) := rfl
  have wraps : (4 + sizeT (wireTypeLen body) + 4) % 2 ^ 64 = typeEnd body := by omega
  have left : (body.drop 8).length = body.length - 8 := List.length_drop
  simp only [sameType, sameData, if_neg negative, strncpyBytes, strncpy, wraps]
  by_cases few : body.length < typeEnd body
  · by_cases ended : 0 ∈ body.drop 8
    · rw [if_pos (.inr ended), ok_bind, pure_bind, if_pos ⟨given, few⟩]
      exact .typeShort known passed summed negative few ended
    · rw [if_neg (by rintro (long | ended') <;> [omega; exact ended ended'])]
      exact .typePast known passed summed negative few ended
  have enough : typeEnd body ≤ body.length := Nat.not_lt.mp few
  rw [if_pos (.inl (by omega)), ok_bind, pure_bind, if_neg (fun both => few both.2)]
  by_cases negativeData : wireDataLen body < 0
  · rw [if_pos negativeData]
    exact .negativeData passed summed negative enough negativeData
  have behindType : (body.drop 8).drop (sizeT (wireTypeLen body)) = body.drop (typeEnd body) :=
    List.drop_drop
  have total : dataEnd body = typeEnd body + sizeT (wireDataLen body) := rfl
  have rest : (body.drop (typeEnd body)).length = body.length - typeEnd body := List.length_drop
  rw [if_neg negativeData, behindType, memcpy]
  by_cases short : body.length < dataEnd body
  · rw [if_neg (by omega)]
    exact .dataPast passed summed negative enough negativeData short
  · rw [if_pos (by omega), ok_bind]
    exact .whole passed summed negative enough negativeData (Nat.not_lt.mp short)

theorem takes_a_way (filled : 1 ≤ body.length) :
    UnPacksPBType pack body (pack.unPackBody body body.length) := by
  have given : body.length ≠ 0 := by omega
  unfold unPackBody
  by_cases bare : body.length < 4
  · rw [checkRoom, if_pos ⟨given, bare⟩]
    exact .thrown bare
  have known : 4 ≤ body.length := Nat.not_lt.mp bare
  rw [checkRoom_covered (.inr known), ok_bind, load32_inside known, ok_bind]
  by_cases refused : TypeRefused body
  · rw [if_pos ⟨given, refused⟩]
    exact .typeRefused known refused
  rw [if_neg (fun both => refused both.2)]
  have behind : (body.drop 4).length = body.length - 4 := List.length_drop
  by_cases dataLen : body.length < 8
  · have past : load32 (body.drop 4) = .error .pastEnd := by
      rw [load32, memcpy, if_neg (by omega)]
      rfl
    rw [past]
    exact .dataLenPast known refused dataLen
  have known : 8 ≤ body.length := Nat.not_lt.mp dataLen
  rw [load32_inside (by omega), ok_bind]
  have size := bodySize_wire pack body
  simp only [wireTypeLen, wireDataLen] at size
  by_cases sum : SumRefused body
  · rw [if_pos ⟨given, by rw [size]; exact sum⟩]
    exact .sumRefused known refused sum
  rw [if_neg (fun both => sum (by rw [size] at both; exact both.2))]
  have twice : (body.drop 4).drop 4 = body.drop 8 := List.drop_drop
  rw [twice]
  change UnPacksPBType pack body
    (unPackBehind { (pack.claimed body).freeVarData with needfree := true } _ _)
  rw [claimed_freed]
  exact behind_takes_a_way pack body known refused sum

end Decoder

section Bounds

variable (body : Bytes)

def DecodesWithin : Prop :=
  ∀ pack : MsgBusPackPBType, ∃ result, pack.unPackBody body body.length = .ok result ∧
    (result.1 = 0 ∨ result.1 = -1) ∧
    (result.1 = 0 → 0 ≤ result.2.pbtypeLen ∧ 0 ≤ result.2.pbdataLen ∧
      8 + result.2.pbtypeLen.toInt + result.2.pbdataLen.toInt ≤ body.length)

-- Four bytes are there, and eight unless the first length alone is refused; and where both checks
-- pass, the ends of the type and of the data that are read are inside the body, the type also where
-- a NUL ends it.
def EndsInside : Prop :=
  4 ≤ body.length ∧ (TypeRefused body ∨ (8 ≤ body.length ∧ (SumRefused body ∨
    wireTypeLen body < 0 ∨ (body.length < typeEnd body ∧ 0 ∈ body.drop 8) ∨
      (typeEnd body ≤ body.length ∧
        (wireDataLen body < 0 ∨ dataEnd body ≤ body.length)))))

instance : Decidable (EndsInside body) :=
  inferInstanceAs (Decidable (4 ≤ body.length ∧ (TypeRefused body ∨ (8 ≤ body.length ∧
    (SumRefused body ∨ wireTypeLen body < 0 ∨ (body.length < typeEnd body ∧ 0 ∈ body.drop 8) ∨
      (typeEnd body ≤ body.length ∧ (wireDataLen body < 0 ∨ dataEnd body ≤ body.length)))))))

-- The constructor leaves the lengths unset; here they are 0.
def fresh : MsgBusPackPBType := ⟨newHead 0 BodyType.bodyPbtype, 0, 0, [], [], false⟩

theorem decodes_within_iff (filled : 1 ≤ body.length) :
    DecodesWithin body ↔ EndsInside body := by
  constructor
  · intro within
    obtain ⟨result, unpacked, _⟩ := within fresh
    have ways := takes_a_way fresh body filled
    rw [unpacked] at ways
    cases ways with
    | typeRefused known refused => exact ⟨known, .inl refused⟩
    | sumRefused known passed refused => exact ⟨by omega, .inr ⟨known, .inl refused⟩⟩
    | negativeType known passed summed negative =>
      exact ⟨by omega, .inr ⟨known, .inr (.inl negative)⟩⟩
    | typeShort known passed summed nonneg few ended =>
      exact ⟨by omega, .inr ⟨known, .inr (.inr (.inl ⟨few, ended⟩))⟩⟩
    | negativeData passed summed nonneg enough negative =>
      have known : 8 ≤ body.length := Nat.le_trans (Nat.le_add_right _ _) enough
      exact ⟨by omega, .inr ⟨known, .inr (.inr (.inr ⟨enough, .inl negative⟩))⟩⟩
    | whole passed summed nonneg enough nonnegData all =>
      have known : 8 ≤ body.length := Nat.le_trans (Nat.le_add_right _ _) enough
      exact ⟨by omega, .inr ⟨known, .inr (.inr (.inr ⟨enough, .inr all⟩))⟩⟩
  · rintro ⟨four, exits⟩ pack
    have ways := takes_a_way pack body filled
    generalize outcome : pack.unPackBody body body.length = result at ways
    cases ways with
    | thrown few => omega
    | typeRefused known refused => exact ⟨_, rfl, .inr rfl, fun accepted => by cases accepted⟩
    | dataLenPast known passed few =>
      rcases exits with refused | ⟨eight, _⟩
      · exact absurd refused passed
      · omega
    | sumRefused known passed refused =>
      exact ⟨_, rfl, .inr rfl, fun accepted => by cases accepted⟩
    | negativeType known passed summed negative =>
      exact ⟨_, rfl, .inr rfl, fun accepted => by cases accepted⟩
    | typePast known passed summed nonneg few unended =>
      rcases exits with refused | ⟨_, refused | negative | ⟨_, ended⟩ | ⟨enough, _⟩⟩
      · exact absurd refused passed
      · exact absurd refused summed
      · exact absurd negative nonneg
      · exact absurd ended unended
      · omega
    | typeShort known passed summed nonneg few ended =>
      exact ⟨_, rfl, .inr rfl, fun accepted => by cases accepted⟩
    | negativeData passed summed nonneg enough negative =>
      exact ⟨_, rfl, .inr rfl, fun accepted => by cases accepted⟩
    | dataPast passed summed nonneg enough nonnegData few =>
      rcases exits with refused | ⟨_, refused | negative | ⟨short, _⟩ | ⟨_, negative | all⟩⟩
      · exact absurd refused passed
      · exact absurd refused summed
      · exact absurd negative nonneg
      · omega
      · exact absurd negative nonnegData
      · omega
    | whole passed summed nonneg enough nonnegData all =>
      refine ⟨_, rfl, .inl rfl, fun _ => ?_⟩
      have inside : 8 + sizeT (wireTypeLen body) + sizeT (wireDataLen body) ≤ body.length := all
      obtain ⟨typeLen, _⟩ := sizeT_of_nonneg nonneg
      obtain ⟨dataLen, _⟩ := sizeT_of_nonneg nonnegData
      refine ⟨Int32.not_lt.mp nonneg, Int32.not_lt.mp nonnegData, ?_⟩
      change 8 + (wireTypeLen body).toInt + (wireDataLen body).toInt ≤ _
      omega

end Bounds

-- Three bytes of type, one of data.
theorem whole_envelope_within :
    DecodesWithin ([0, 0, 0, 3, 0, 0, 0, 1] ++ [97, 98, 0] ++ [7]) :=
  (decodes_within_iff ([0, 0, 0, 3, 0, 0, 0, 1] ++ [97, 98, 0] ++ [7]) (by decide)).mpr (by decide)

-- An envelope of its first length alone is read past, and one of a single byte ends the process.
theorem short_envelope_read_past : ¬ DecodesWithin [0, 0, 0, 0] ∧ ¬ DecodesWithin [0] := by
  constructor
  · intro within
    obtain ⟨result, unpacked, _⟩ := within fresh
    have past : fresh.unPackBody [0, 0, 0, 0] 4 = .error .pastEnd := by decide
    cases past.symm.trans unpacked
  · intro within
    obtain ⟨result, unpacked, _⟩ := within fresh
    have thrown : fresh.unPackBody [0] 1 = .error .terminate := by decide
    cases thrown.symm.trans unpacked

end MessageBus.Messages.MsgBusPackPBType
