import MessageBus.Json.Reader

set_option autoImplicit false

namespace MessageBus.Json

def digit (value : Nat) : UInt8 := (Nat.digitChar value).toUInt8

theorem digitText_small {base value : Nat} (small : value < base) :
    digitText base value = [digit value] := by
  rw [digitText, Nat.toDigits_of_lt_base small]
  rfl

theorem digitText_large {base value : Nat} (big : 1 < base) (large : base ≤ value) :
    digitText base value = digitText base (value / base) ++ [digit (value % base)] := by
  rw [digitText, Nat.toDigits_of_base_le big large, List.map_append]
  rfl

theorem isDigit_digit : ∀ value < 10, isDigit (digit value) = true := by decide

theorem digit_value : ∀ value < 10, (digit value - 0x30).toUInt32 = UInt32.ofNat value := by decide

theorem digitText_digits (value : Nat) : ∀ c ∈ digitText 10 value, isDigit c = true := by
  induction value using Nat.strongRecOn with
  | ind value ih =>
    by_cases small : value < 10
    · rw [digitText_small small]
      intro c inside
      rw [List.mem_singleton.mp inside]
      exact isDigit_digit value small
    · rw [digitText_large (by decide) (Nat.le_of_not_lt small)]
      intro c inside
      rcases List.mem_append.mp inside with earlier | last
      · exact ih (value / 10) (by omega) c earlier
      · rw [List.mem_singleton.mp last]
        exact isDigit_digit _ (Nat.mod_lt _ (by decide))

theorem digitText_ne_nil (base value : Nat) : digitText base value ≠ [] := by
  rw [digitText, ne_eq, List.map_eq_nil_iff]
  exact Nat.toDigits_ne_nil

theorem uintToString_digits (value : UInt32) :
    ∃ c tail, uintToString value = c :: tail ∧ isDigit c = true ∧
      ∀ other ∈ tail, isDigit other = true := by
  have digits := digitText_digits value.toNat
  cases text : digitText 10 value.toNat with
  | nil => exact absurd text (digitText_ne_nil 10 value.toNat)
  | cons c tail =>
    rw [text, List.forall_mem_cons] at digits
    exact ⟨c, tail, text, digits⟩

theorem intToString_digits (value : Int32) :
    ∃ c tail, intToString value = c :: tail ∧ (isDigit c = true ∨ c = minus) ∧
      ∀ other ∈ tail, isDigit other = true := by
  rw [intToString]
  split_ifs with negative
  · exact ⟨minus, _, rfl, .inr rfl, digitText_digits _⟩
  · obtain ⟨c, tail, text, first, digits⟩ := uintToString_digits value.toUInt32
    exact ⟨c, tail, text, .inl first, digits⟩

theorem decodeDigits_digit {threshold value : UInt32} {next : Nat} (isNext : next < 10)
    (rest : Bytes) :
    decodeDigits threshold value (digit next :: rest) =
      if threshold ≤ value then .large
      else decodeDigits threshold (value * 10 + UInt32.ofNat next) rest := by
  rw [decodeDigits, if_pos (isDigit_digit next isNext), digit_value next isNext]

-- The whole number is read just when it stays below ten times the threshold.
theorem decodeDigits_text {threshold : UInt32} (positive : 0 < threshold)
    (fits : threshold ≤ maxUInt / 10) (value : Nat) (rest : Bytes) :
    decodeDigits threshold 0 (digitText 10 value ++ rest) =
      if value / 10 < threshold.toNat then decodeDigits threshold (UInt32.ofNat value) rest
      else .large := by
  have bound : threshold.toNat ≤ 429496729 := fits
  induction value using Nat.strongRecOn generalizing rest with
  | ind value ih =>
    by_cases small : value < 10
    · have below : value / 10 < threshold.toNat := by
        rw [Nat.div_eq_of_lt small]
        exact positive
      rw [digitText_small small, List.singleton_append, decodeDigits_digit small,
        if_neg (by rwa [UInt32.not_le]), if_pos below]
      simp
    · rw [digitText_large (by decide) (Nat.le_of_not_lt small), List.append_assoc,
        ih (value / 10) (by omega), List.singleton_append,
        decodeDigits_digit (Nat.mod_lt _ (by decide))]
      by_cases before : value / 10 / 10 < threshold.toNat
      · rw [if_pos before]
        have read : (UInt32.ofNat (value / 10)).toNat = value / 10 :=
          UInt32.toNat_ofNat_of_lt' (by simp only [UInt32.size]; omega)
        have reached : threshold ≤ UInt32.ofNat (value / 10) ↔ threshold.toNat ≤ value / 10 := by
          rw [UInt32.le_iff_toNat_le, read]
        by_cases below : value / 10 < threshold.toNat
        · have next : UInt32.ofNat (value / 10) * 10 + UInt32.ofNat (value % 10) =
              UInt32.ofNat value := by
            apply UInt32.toNat.inj
            simp only [UInt32.toNat_add, UInt32.toNat_mul, read, UInt32.toNat_ofNat']
            rw [show (10 : UInt32).toNat = 10 from rfl]
            omega
          rw [if_neg (by rwa [reached, Nat.not_le]), if_pos below, next]
        · rw [if_pos (reached.mpr (Nat.le_of_not_lt below)), if_neg below]
      · rw [if_neg before, if_neg (by omega)]

theorem digit_apart {c : UInt8} (digit : isDigit c = true) {others : List UInt8}
    (none : others.any isDigit = false) : c ∉ others := by
  intro inside
  exact List.any_eq_false.mp none c inside digit

theorem digits_marks {text : Bytes} (digits : ∀ c ∈ text, isDigit c = true) :
    text.any isDoubleMark = false ∧ minus ∉ text := by
  have mark : ∀ c, isDigit c = true -> isDoubleMark c = false ∧ c ≠ minus := by
    intro c isDigit
    constructor
    · exact decide_eq_false (digit_apart isDigit (by decide))
    · rintro rfl
      cases isDigit
  constructor
  · rw [List.any_eq_false]
    intro c inside
    simp [(mark c (digits c inside)).1]
  · intro inside
    exact (mark minus (digits minus inside)).2 rfl

theorem isDouble_digits {text : Bytes} (digits : ∀ c ∈ text, isDigit c = true) :
    isDouble text = false := by
  obtain ⟨marks, clean⟩ := digits_marks digits
  rw [isDouble, marks, decide_eq_false_iff_not]
  rintro (mark | inside)
  · cases mark
  · exact clean (List.mem_of_mem_tail inside)

theorem isDouble_minus {text : Bytes} (digits : ∀ c ∈ text, isDigit c = true) :
    isDouble (minus :: text) = false := by
  obtain ⟨marks, clean⟩ := digits_marks digits
  rw [isDouble, List.any_cons, marks, decide_eq_false_iff_not]
  rintro (mark | inside)
  · cases mark
  · exact clean inside

variable {Double : Type} [Doubles Double]

-- Half open: the numbers that reach the threshold with their last digit are read as doubles.
theorem decodeNumber_uint (value : UInt32) :
    (decodeNumber (uintToString value) : Option (Value Double)) =
      if value < 4294967290 then some (unsignedNumber value)
      else decodeDouble (uintToString value) := by
  have digits := digitText_digits value.toNat
  have unsigned : (uintToString value).head? ≠ some minus := by
    intro first
    exact (digits_marks digits).2 (List.mem_of_mem_head? first)
  have scanned := decodeDigits_text (show 0 < maxUInt / 10 by decide) (by decide)
    value.toNat []
  rw [List.append_nil, show (maxUInt / 10).toNat = 429496729 from rfl] at scanned
  rw [decodeNumber, uintToString, isDouble_digits digits, if_neg (by decide), ← uintToString,
    if_neg unsigned, uintToString, scanned]
  have bound : value < 4294967290 ↔ value.toNat / 10 < 429496729 := by
    rw [UInt32.lt_iff_toNat_lt, show (4294967290 : UInt32).toNat = 4294967290 from rfl]
    omega
  by_cases below : value < 4294967290
  · rw [if_pos below, if_pos (bound.mp below), UInt32.ofNat_toNat]
    rfl
  · rw [if_neg below, if_neg (mt bound.mpr below)]
    rfl

theorem magnitude_negative {value : Int32} (negative : value < 0) :
    ((-value).toUInt32.toNat : Int) = -value.toInt := by
  rw [Int32.lt_iff_toInt_lt, ← Int32.toInt_toBitVec, BitVec.toInt_eq_toNat_cond,
    show (0 : Int32).toInt = 0 from rfl] at negative
  rw [← Int32.toNat_toBitVec, Int32.toBitVec_neg, BitVec.toNat_neg, ← Int32.toInt_toBitVec,
    BitVec.toInt_eq_toNat_cond]
  have bound := value.toBitVec.isLt
  split_ifs at negative ⊢ <;> omega

theorem magnitude_positive {value : Int32} (positive : 0 ≤ value) :
    value.toUInt32.toNat < 2147483648 := by
  rw [Int32.toNat_toUInt32_of_le positive]
  exact value.toNatClampNeg_lt

theorem decodeNumber_int (value : Int32) :
    (decodeNumber (intToString value) : Option (Value Double)) =
      if -2147483640 < value then some (.int value) else decodeDouble (intToString value) := by
  by_cases negative : value < 0
  · rw [intToString, if_pos negative, decodeNumber, uintToString,
      isDouble_minus (digitText_digits _), if_neg (by decide), List.head?_cons, if_pos rfl, List.tail_cons]
    have scanned := decodeDigits_text (show 0 < minIntMagnitude / 10 by decide) (by decide)
      (-value).toUInt32.toNat []
    rw [List.append_nil, show (minIntMagnitude / 10).toNat = 214748364 from rfl] at scanned
    rw [scanned]
    have bound : -2147483640 < value ↔ (-value).toUInt32.toNat / 10 < 214748364 := by
      have magnitude := magnitude_negative negative
      rw [Int32.lt_iff_toInt_lt, show (-2147483640 : Int32).toInt = -2147483640 from rfl]
      omega
    by_cases above : -2147483640 < value
    · rw [if_pos above, if_pos (bound.mp above), UInt32.ofNat_toNat, decodeDigits, ofScanned,
        Int32.toInt32_toUInt32, Int32.neg_neg]
    · rw [if_neg above, if_neg (mt bound.mpr above)]
      rfl
  · have positive : 0 ≤ value := Int32.not_lt.mp negative
    have small := magnitude_positive positive
    rw [intToString, if_neg negative, decodeNumber_uint, if_pos, if_pos, unsignedNumber, if_pos,
      Int32.toInt32_toUInt32]
    · rw [UInt32.le_iff_toNat_le, maxInt, show (0x7FFFFFFF : UInt32).toNat = 2147483647 from rfl]
      omega
    · exact Int32.lt_of_lt_of_le (by decide) positive
    · rw [UInt32.lt_iff_toNat_lt, show (4294967290 : UInt32).toNat = 4294967290 from rfl]
      omega

end MessageBus.Json
