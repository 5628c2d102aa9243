import MessageBus.Json.Reader

set_option autoImplicit false

namespace MessageBus.Json

theorem cString_eq {text : Bytes} (nulFree : 0 ∉ text) : cString text = text := by
  rw [cString, List.takeWhile_eq_self_iff]
  intro c inside
  simpa using ne_of_mem_of_not_mem inside nulFree

theorem cString_nulFree (text : Bytes) : 0 ∉ cString text := by
  intro inside
  have kept := List.mem_takeWhile_imp inside
  simp at kept

theorem duplicate_eq {text : Bytes} (fits : text.length < 2 ^ 32) :
    duplicateStringValue text = text := by
  rw [duplicateStringValue, Nat.mod_eq_of_lt fits, List.take_length]

theorem duplicate_length (text : Bytes) : (duplicateStringValue text).length < 2 ^ 32 :=
  lt_of_le_of_lt (List.length_take_le _ _) (Nat.mod_lt _ (by decide))

theorem makeMemberName_eq {name : Bytes} (nulFree : 0 ∉ name) (fits : name.length < 2 ^ 32) :
    makeMemberName name = name := by
  rw [makeMemberName, cString_eq nulFree, duplicate_eq fits]

theorem ofString_eq {Double : Type} {value : Bytes} (nulFree : 0 ∉ value)
    (fits : value.length < 2 ^ 32) :
    (Value.ofString value : Value Double) = .string value := by
  rw [Value.ofString, duplicate_eq fits, cString_eq nulFree]

theorem hexDigit_upperHexDigit : ∀ value < 16, hexDigit (upperHexDigit value) = some value := by
  decide

theorem upperHexDigit_plain :
    ∀ value < 16, upperHexDigit value ≠ backslash ∧ upperHexDigit value ≠ quote := by
  decide

theorem fourHexDigits_plain (value : Nat) :
    ∀ c ∈ fourHexDigits value, c ≠ backslash ∧ c ≠ quote := by
  have plain := fun value => upperHexDigit_plain (value % 16) (Nat.mod_lt _ (by decide))
  simp only [fourHexDigits, List.mem_cons, List.not_mem_nil, or_false]
  rintro c (rfl | rfl | rfl | rfl) <;> exact plain _

theorem decode_fourHexDigits {value : Nat} (small : value < 2 ^ 16) (rest : Bytes) :
    decodeUnicodeEscapeSequence (fourHexDigits value ++ rest) = some (value, rest) := by
  have digit := fun value => hexDigit_upperHexDigit (value % 16) (Nat.mod_lt _ (by decide))
  have whole : ((value / 16 ^ 3 % 16 * 16 + value / 16 ^ 2 % 16) * 16 + value / 16 % 16) * 16 +
      value % 16 = value := by
    omega
  simp only [fourHexDigits, List.cons_append, List.nil_append, decodeUnicodeEscapeSequence, digit,
    Option.bind_eq_bind, Option.bind_some, whole]

theorem readString_plain {front : Bytes} (plain : ∀ c ∈ front, c ≠ backslash ∧ c ≠ quote)
    (rest : Bytes) : readString (front ++ rest) = readString rest := by
  induction front with
  | nil => rfl
  | cons c front ih =>
    obtain ⟨unescaped, unquoted⟩ := plain c List.mem_cons_self
    rw [List.cons_append, readString, readStringFrom, if_neg unescaped, if_neg unquoted]
    exact ih fun c inside => plain c (List.mem_cons_of_mem _ inside)

-- What is written for one byte: itself, or an escape that both passes of the reader take as one.
inductive Escaped (c : UInt8) : Bytes -> Prop
  | plain (unescaped : c ≠ backslash) (unquoted : c ≠ quote) : Escaped c [c]
  | escape (letter : UInt8) (code : Bytes)
      (skipped : ∀ rest, readString (code ++ rest) = readString rest)
      (decoded : ∀ rest, decodeEscape (letter :: code ++ rest) = some ([c], rest)) :
      Escaped c (backslash :: letter :: code)

theorem escaped_letter {c letter : UInt8} (different : letter ≠ 0x75)
    (stands : simpleEscape letter = some c) : Escaped c [backslash, letter] := by
  refine .escape letter [] (fun rest => rfl) ?_
  intro rest
  rw [List.singleton_append, decodeEscape, if_neg different, stands]
  rfl

theorem escaped_control {c : UInt8} (control : isControlCharacter c = true) :
    Escaped c (backslash :: 0x75 :: fourHexDigits c.toNat) := by
  have small : c.toNat ≤ 0x1F := (of_decide_eq_true control).2
  refine .escape 0x75 _ (readString_plain (fourHexDigits_plain _)) ?_
  intro rest
  rw [List.cons_append, decodeEscape, if_pos rfl, decodeUnicodeCodePoint,
    decode_fourHexDigits (by omega), Option.bind_some, if_neg (by omega), Option.map_some,
    codePointToUTF8, if_pos (by omega), UInt8.ofNat_toNat]

theorem escape_escaped (c : UInt8) : Escaped c (escape c) := by
  unfold escape
  split_ifs with isQuote isBackslash isBackspace isFormFeed isNewline isReturn isTab control
  · subst isQuote
    exact escaped_letter (by decide) rfl
  · subst isBackslash
    exact escaped_letter (by decide) rfl
  · subst isBackspace
    exact escaped_letter (by decide) rfl
  · subst isFormFeed
    exact escaped_letter (by decide) rfl
  · subst isNewline
    exact escaped_letter (by decide) rfl
  · subst isReturn
    exact escaped_letter (by decide) rfl
  · subst isTab
    exact escaped_letter (by decide) rfl
  · exact escaped_control control
  · exact .plain isBackslash isQuote

theorem readString_escaped {c : UInt8} {written : Bytes} (escaped : Escaped c written)
    (rest : Bytes) : readString (written ++ rest) = readString rest := by
  cases escaped with
  | plain unescaped unquoted =>
    exact readString_plain (by simp [unescaped, unquoted]) rest
  | escape letter code skipped decoded =>
    rw [List.cons_append, readString, readStringFrom, if_pos rfl]
    exact skipped rest

theorem readString_body (value rest : Bytes) :
    readString (value.flatMap escape ++ quote :: rest) = (true, rest) := by
  induction value with
  | nil => rfl
  | cons c value ih =>
    rw [List.flatMap_cons, List.append_assoc, readString_escaped (escape_escaped c), ih]

theorem decodeCharacters_escaped {c : UInt8} {written : Bytes} (escaped : Escaped c written)
    (fuel : Nat) (rest : Bytes) :
    decodeCharacters (fuel + 1) (written ++ rest) = (decodeCharacters fuel rest).map (c :: ·) := by
  cases escaped with
  | plain unescaped unquoted =>
    rw [List.singleton_append, decodeCharacters, if_neg unquoted, if_neg unescaped]
  | escape letter code skipped decoded =>
    rw [List.cons_append, decodeCharacters, if_neg (by decide), if_pos rfl, decoded]
    rfl

theorem decodeCharacters_body (value : Bytes) {fuel : Nat} (enough : value.length ≤ fuel) :
    decodeCharacters fuel (value.flatMap escape) = some value := by
  induction value generalizing fuel with
  | nil =>
    rw [List.flatMap_nil, decodeCharacters]
  | cons c value ih =>
    obtain ⟨fuel, rfl⟩ := Nat.exists_eq_add_of_le' (Nat.le_trans (Nat.le_add_left 1 _) enough)
    rw [List.flatMap_cons, decodeCharacters_escaped (escape_escaped c),
      ih (Nat.le_of_succ_le_succ enough), Option.map_some]

theorem escape_not_special {c : UInt8} (plain : special c = false) : escape c = [c] := by
  have plain := of_decide_eq_false plain
  simp only [List.mem_cons, List.not_mem_nil, or_false, not_or] at plain
  obtain ⟨⟨isQuote, isBackslash, isBackspace, isFormFeed, isNewline, isReturn, isTab⟩, control⟩ :=
    plain
  rw [escape, if_neg isQuote, if_neg isBackslash, if_neg isBackspace, if_neg isFormFeed,
    if_neg isNewline, if_neg isReturn, if_neg isTab, if_neg control]

theorem quoted_eq {value : Bytes} (nulFree : 0 ∉ value) :
    valueToQuotedString value = quote :: value.flatMap escape ++ [quote] := by
  rw [valueToQuotedString, cString_eq nulFree]
  split_ifs with needed
  · rfl
  · have plain : value.flatMap escape = value.flatMap fun c => [c] := by
      refine List.flatMap_congr fun c inside => escape_not_special ?_
      simpa using fun isSpecial => needed (List.any_eq_true.mpr ⟨c, inside, isSpecial⟩)
    rw [plain, List.flatMap_singleton']

theorem escaped_length {c : UInt8} {written : Bytes} (escaped : Escaped c written) :
    1 ≤ written.length := by
  cases escaped with
  | plain => exact Nat.le_refl 1
  | escape => exact Nat.le_add_left 1 _

theorem length_flatMap_escape (value : Bytes) : value.length ≤ (value.flatMap escape).length := by
  induction value with
  | nil => exact Nat.le_refl 0
  | cons c value ih =>
    have positive := escaped_length (escape_escaped c)
    rw [List.flatMap_cons, List.length_append, List.length_cons]
    omega

theorem decodeString_quoted {value : Bytes} (nulFree : 0 ∉ value) :
    decodeString (valueToQuotedString value) = some value := by
  rw [quoted_eq nulFree, decodeString, List.cons_append, List.drop_succ_cons, List.drop_zero,
    List.dropLast_concat]
  refine decodeCharacters_body value ?_
  simp only [List.length_cons, List.length_append]
  exact Nat.le_trans (length_flatMap_escape value) (by omega)

end MessageBus.Json
