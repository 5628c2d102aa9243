import MessageBus.Json.Numbers
import MessageBus.Json.Strings

set_option autoImplicit false

namespace MessageBus.Json

-- What may stand behind a number without being read as a part of it.
def Boundary (rest : Bytes) : Prop := ∀ c ∈ rest.head?, isNumberCharacter c = false

theorem boundary_comma (rest : Bytes) : Boundary (comma :: rest) := by
  rintro c ⟨⟩
  decide

theorem boundary_rightBracket (rest : Bytes) : Boundary (rightBracket :: rest) := by
  rintro c ⟨⟩
  decide

theorem boundary_rightBrace (rest : Bytes) : Boundary (rightBrace :: rest) := by
  rintro c ⟨⟩
  decide

theorem skipSpaces_visible {c : UInt8} (visible : isSpace c = false) (rest : Bytes) :
    skipSpaces (c :: rest) = c :: rest := by
  rw [skipSpaces, List.dropWhile_cons_of_neg (by simp [visible])]

theorem readToken_of {c : UInt8} {tail rest : Bytes} {type : TokenType}
    (visible : isSpace c = false) (scanned : readTokenFrom c (tail ++ rest) = (type, rest)) :
    readToken (c :: tail ++ rest) = { type := type, text := c :: tail, rest := rest } := by
  have length : (tail ++ rest).length + 1 - rest.length = (c :: tail).length := by
    simp only [List.length_append, List.length_cons]
    omega
  rw [List.cons_append, readToken, skipSpaces_visible visible]
  simp only [scanned, length]
  rw [← List.cons_append, List.take_left]

theorem skipCommentTokens_of {input : Bytes} {token : Token} (read : readToken input = token)
    (real : token.type ≠ .comment) : skipCommentTokens input = token := by
  rw [skipCommentTokens, read, skipComments, skipCommentsFrom, if_neg real]

theorem readToken_single {c : UInt8} {rest : Bytes} {type : TokenType} (visible : isSpace c = false)
    (scanned : readTokenFrom c rest = (type, rest)) :
    readToken (c :: rest) = { type := type, text := [c], rest := rest } := by
  have scanned : readTokenFrom c ([] ++ rest) = (type, rest) := scanned
  exact readToken_of visible scanned

theorem skipCommentTokens_leftBracket (rest : Bytes) :
    skipCommentTokens (leftBracket :: rest) =
      { type := .arrayBegin, text := [leftBracket], rest := rest } :=
  skipCommentTokens_of (readToken_single (by decide) rfl) (by simp)

theorem skipCommentTokens_comma (rest : Bytes) :
    skipCommentTokens (comma :: rest) =
      { type := .arraySeparator, text := [comma], rest := rest } :=
  skipCommentTokens_of (readToken_single (by decide) rfl) (by simp)

theorem skipCommentTokens_rightBracket (rest : Bytes) :
    skipCommentTokens (rightBracket :: rest) =
      { type := .arrayEnd, text := [rightBracket], rest := rest } :=
  skipCommentTokens_of (readToken_single (by decide) rfl) (by simp)

theorem readNumber_digits {text rest : Bytes} (digits : ∀ c ∈ text, isDigit c = true)
    (boundary : Boundary rest) : readNumber (text ++ rest) = rest := by
  rw [readNumber, List.dropWhile_append_of_pos]
  · cases rest with
    | nil => rfl
    | cons c rest => exact List.dropWhile_cons_of_neg (by simp [boundary c rfl])
  · intro c inside
    simp [isNumberCharacter, digits c inside]

theorem readToken_number {c : UInt8} {tail rest : Bytes} (first : isDigit c = true ∨ c = minus)
    (digits : ∀ c ∈ tail, isDigit c = true) (boundary : Boundary rest) :
    skipCommentTokens (c :: tail ++ rest) =
      { type := .number, text := c :: tail, rest := rest } := by
  have other : ∀ letter, ¬ (isDigit letter = true ∨ letter = minus) -> c ≠ letter := by
    rintro letter different rfl
    exact different first
  have visible : isSpace c = false := by
    refine decide_eq_false ?_
    simp only [List.mem_cons, List.not_mem_nil, or_false, not_or]
    exact ⟨other _ (by decide), other _ (by decide), other _ (by decide), other _ (by decide)⟩
  refine skipCommentTokens_of (readToken_of visible ?_) (by simp)
  rw [readTokenFrom, if_neg (other _ (by decide)), if_neg (other _ (by decide)),
    if_neg (other _ (by decide)), if_neg (other _ (by decide)), if_neg (other _ (by decide)),
    if_neg (other _ (by decide)), if_pos first, readNumber_digits digits boundary]

theorem readToken_uint (value : UInt32) {rest : Bytes} (boundary : Boundary rest) :
    skipCommentTokens (uintToString value ++ rest) =
      { type := .number, text := uintToString value, rest := rest } := by
  obtain ⟨c, tail, text, first, digits⟩ := uintToString_digits value
  rw [text]
  exact readToken_number (.inl first) digits boundary

theorem readToken_int (value : Int32) {rest : Bytes} (boundary : Boundary rest) :
    skipCommentTokens (intToString value ++ rest) =
      { type := .number, text := intToString value, rest := rest } := by
  obtain ⟨c, tail, text, first, digits⟩ := intToString_digits value
  rw [text]
  exact readToken_number first digits boundary

theorem readToken_quoted {value : Bytes} (nulFree : 0 ∉ value) (rest : Bytes) :
    readToken (valueToQuotedString value ++ rest) =
      { type := .string, text := valueToQuotedString value, rest := rest } := by
  rw [quoted_eq nulFree, List.cons_append]
  refine readToken_of (by decide) ?_
  rw [List.append_assoc, List.singleton_append]
  change okOr .string (readString _) = _
  rw [readString_body]
  rfl

end MessageBus.Json
