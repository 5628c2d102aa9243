import MessageBus.Json.Tokens

set_option autoImplicit false

namespace MessageBus.Json

variable {Double : Type}

mutual

-- A value without doubles, as puts make it: strings end at a NUL and their length fits, members
-- stand in the order of their names.
def Plain : Value Double -> Prop
  | .real _ => False
  | .string value => 0 ∉ value ∧ value.length < 2 ^ 32
  | .array elements => PlainElements elements
  | .object members => OrderedMap.Sorted members ∧ PlainMembers members
  | .null | .int _ | .uint _ | .boolean _ => True

def PlainElements : List (Value Double) -> Prop
  | [] => True
  | value :: rest => Plain value ∧ PlainElements rest

def PlainMembers : List (Bytes × Value Double) -> Prop
  | [] => True
  | (name, value) :: rest =>
    (0 ∉ name ∧ name.length < 2 ^ 32) ∧ Plain value ∧ PlainMembers rest

end

theorem above_next {members more : List (Bytes × Value Double)} {name nextName : Bytes}
    {value next : Value Double}
    (sorted : OrderedMap.Sorted ((name, value) :: (nextName, next) :: more))
    (above : ∀ member ∈ members, member.1 < name) (read : Value Double) :
    ∀ member ∈ members ++ [(name, read)], member.1 < nextName := by
  have before : name < nextName := (List.pairwise_cons.mp sorted).1 _ List.mem_cons_self
  intro member inside
  rcases List.mem_append.mp inside with old | last
  · exact Std.lt_trans (above member old) before
  · rw [List.mem_singleton.mp last]
    exact before

variable [Doubles Double]

mutual

-- What the reader makes of a written value: small unsigned numbers are signed ones, and the numbers
-- near the limits doubles.
def received : Value Double -> Option (Value Double)
  | .null => some .null
  | .int value =>
    if -2147483640 < value then some (.int value) else decodeDouble (intToString value)
  | .uint value =>
    if value < 4294967290 then some (unsignedNumber value) else decodeDouble (uintToString value)
  | .real value => decodeNumber (Doubles.valueToString value)
  | .string value => some (.string value)
  | .boolean value => some (.boolean value)
  | .array elements => (receivedElements elements).map .array
  | .object members => (receivedMembers members).map .object

def receivedElements : List (Value Double) -> Option (List (Value Double))
  | [] => some []
  | value :: rest =>
    (received value).bind fun read => (receivedElements rest).map (read :: ·)

def receivedMembers : List (Bytes × Value Double) -> Option (List (Bytes × Value Double))
  | [] => some []
  | (name, value) :: rest =>
    (received value).bind fun read => (receivedMembers rest).map ((name, read) :: ·)

end

section Steps

variable {fuel : Nat} {input text rest : Bytes}

theorem readValue_number
    (token : skipCommentTokens input = { type := .number, text := text, rest := rest }) :
    (readValue (fuel + 1) input : Option (Value Double × Bytes)) =
      (decodeNumber text).map (·, rest) := by
  rw [readValue, token]

theorem readElement {elements : List (Value Double)} :
    readArray (fuel + 1) elements input =
      (readValue fuel input).bind fun read =>
        if (skipCommentTokens read.2).type = .arrayEnd then
          some (.array (elements ++ [read.1]), (skipCommentTokens read.2).rest)
        else readArray fuel (elements ++ [read.1]) (skipCommentTokens read.2).rest := by
  rw [readArray]
  rfl

end Steps

theorem digit_visible {c : UInt8} (digit : isDigit c = true) :
    isSpace c = false ∧ c ≠ rightBracket := by
  constructor
  · exact decide_eq_false (digit_apart digit (by decide))
  · rintro rfl
    cases digit

-- A text that no array's beginning takes for its end.
def Begins (text : Bytes) : Prop :=
  ∃ c tail, text = c :: tail ∧ isSpace c = false ∧ c ≠ rightBracket

theorem Begins.append {text : Bytes} (begins : Begins text) (rest : Bytes) :
    Begins (text ++ rest) := by
  obtain ⟨c, tail, rfl, visible, opened⟩ := begins
  exact ⟨c, tail ++ rest, rfl, visible, opened⟩

theorem readValue_array {text : Bytes} (begins : Begins text) (fuel : Nat) :
    (readValue (fuel + 1) (leftBracket :: text) : Option (Value Double × Bytes)) =
      readArray fuel [] text := by
  obtain ⟨c, tail, rfl, visible, opened⟩ := begins
  simp only [readValue, skipCommentTokens_leftBracket, skipSpaces_visible visible, List.head?_cons,
    Option.some.injEq, if_neg opened]

theorem uintToString_begins (value : UInt32) : Begins (uintToString value) := by
  obtain ⟨c, tail, text, first, -⟩ := uintToString_digits value
  exact ⟨c, tail, text, digit_visible first⟩

theorem intToString_begins (value : Int32) : Begins (intToString value) := by
  obtain ⟨c, tail, text, first | rfl, -⟩ := intToString_digits value
  · exact ⟨c, tail, text, digit_visible first⟩
  · exact ⟨minus, tail, text, by decide, by decide⟩

theorem quoted_begins {value : Bytes} (nulFree : 0 ∉ value) :
    Begins (valueToQuotedString value) := by
  rw [quoted_eq nulFree]
  exact ⟨quote, _, rfl, by decide, by decide⟩

theorem writeValue_begins {value : Value Double} (plain : Plain value) :
    Begins (writeValue value) := by
  cases value with
  | null => exact ⟨0x6E, _, rfl, by decide, by decide⟩
  | int value => exact intToString_begins value
  | uint value => exact uintToString_begins value
  | real value => exact plain.elim
  | string value => exact quoted_begins plain.1
  | boolean value =>
    cases value with
    | true => exact ⟨0x74, _, rfl, by decide, by decide⟩
    | false => exact ⟨0x66, _, rfl, by decide, by decide⟩
  | array elements => exact ⟨leftBracket, _, rfl, by decide, by decide⟩
  | object members => exact ⟨leftBrace, _, rfl, by decide, by decide⟩

theorem writeElements_first (value : Value Double) (more : List (Value Double)) :
    writeElements true (value :: more) = writeValue value ++ writeElements false more := by
  rw [writeElements, if_pos rfl, List.nil_append]

theorem writeElements_next (value : Value Double) (more : List (Value Double)) :
    writeElements false (value :: more) = comma :: writeElements true (value :: more) := by
  rw [writeElements_first, writeElements, if_neg (by decide), List.singleton_append]

theorem writeMembers_first (name : Bytes) (value : Value Double)
    (more : List (Bytes × Value Double)) :
    writeMembers true ((name, value) :: more) =
      valueToQuotedString name ++ colon :: (writeValue value ++ writeMembers false more) := by
  rw [writeMembers, if_pos rfl, List.nil_append]

theorem writeMembers_next (member : Bytes × Value Double) (more : List (Bytes × Value Double)) :
    writeMembers false (member :: more) = comma :: writeMembers true (member :: more) := by
  obtain ⟨name, value⟩ := member
  rw [writeMembers_first, writeMembers, if_neg (by decide), List.singleton_append]

def memberRead (fuel : Nat) (members : List (Bytes × Value Double)) (name : Bytes)
    (read : Value Double × Bytes) : Option (Value Double × Bytes) :=
  let members := OrderedMap.insert name read.1 members
  if (readToken read.2).type = .objectEnd ∨ (readToken read.2).type = .arraySeparator ∨
      (readToken read.2).type = .comment then
    if (skipCommentTokens read.2).type = .objectEnd then
      some (.object members, (skipCommentTokens read.2).rest)
    else readObject fuel members name (skipCommentTokens read.2).rest
  else none

theorem readObject_member {name : Bytes} (nulFree : 0 ∉ name) (fits : name.length < 2 ^ 32)
    (fuel : Nat) (members : List (Bytes × Value Double)) (lastName input : Bytes) :
    readObject (fuel + 1) members lastName (valueToQuotedString name ++ colon :: input) =
      (readValue fuel input).bind (memberRead fuel members name) := by
  have token : skipComments (readToken (valueToQuotedString name ++ colon :: input)) =
      { type := .string, text := valueToQuotedString name, rest := colon :: input } :=
    skipCommentTokens_of (readToken_quoted nulFree _) (by simp)
  have separator : readToken (colon :: input) =
      { type := .memberSeparator, text := [colon], rest := input } :=
    readToken_single (by decide) rfl
  simp only [readObject, token, reduceCtorEq, false_and, if_false, ne_eq, not_true_eq_false,
    decodeString_quoted nulFree, Option.bind_some, separator, makeMemberName_eq nulFree fits]
  rfl

theorem memberRead_last {fuel : Nat} {members : List (Bytes × Value Double)} {name : Bytes}
    (above : ∀ member ∈ members, member.1 < name) (read : Value Double) (rest : Bytes) :
    memberRead fuel members name (read, rightBrace :: rest) =
      some (.object (members ++ [(name, read)]), rest) := by
  have token : readToken (rightBrace :: rest) =
      { type := .objectEnd, text := [rightBrace], rest := rest } :=
    readToken_single (by decide) rfl
  rw [memberRead, OrderedMap.insert_last above, skipCommentTokens_of token (by simp), token]
  simp

theorem memberRead_next {fuel : Nat} {members : List (Bytes × Value Double)} {name : Bytes}
    (above : ∀ member ∈ members, member.1 < name) (read : Value Double) (rest : Bytes) :
    memberRead fuel members name (read, comma :: rest) =
      readObject fuel (members ++ [(name, read)]) name rest := by
  have token : readToken (comma :: rest) =
      { type := .arraySeparator, text := [comma], rest := rest } :=
    readToken_single (by decide) rfl
  rw [memberRead, OrderedMap.insert_last above, skipCommentTokens_of token (by simp), token]
  simp

theorem readValue_object (fuel : Nat) (rest : Bytes) :
    (readValue (fuel + 1) (leftBrace :: rest) : Option (Value Double × Bytes)) =
      readObject fuel [] [] rest := by
  have token : skipCommentTokens (leftBrace :: rest) =
      { type := .objectBegin, text := [leftBrace], rest := rest } :=
    skipCommentTokens_of (readToken_single (by decide) rfl) (by simp)
  simp only [readValue, token]

-- One fuel for each of the loop's passes, and one for the value inside of it.
mutual

theorem readValue_write (value : Value Double) (plain : Plain value) {fuel : Nat} {rest : Bytes}
    (enough : 2 * (writeValue value).length + 1 ≤ fuel) (boundary : Boundary rest) :
    readValue fuel (writeValue value ++ rest) = (received value).map (·, rest) := by
  obtain ⟨fuel, rfl⟩ := Nat.exists_eq_add_of_le' (Nat.le_trans (Nat.le_add_left 1 _) enough)
  cases value with
  | null => rfl
  | int value =>
    rw [writeValue, readValue_number (readToken_int value boundary), decodeNumber_int, received]
  | uint value =>
    rw [writeValue, readValue_number (readToken_uint value boundary), decodeNumber_uint, received]
  | real value => exact plain.elim
  | string value =>
    have token := skipCommentTokens_of (readToken_quoted plain.1 rest) (by simp)
    simp only [writeValue, readValue, token, decodeString_quoted plain.1, Option.map_some,
      ofString_eq plain.1 plain.2, received]
  | boolean value => cases value <;> rfl
  | array elements =>
    cases elements with
    | nil => rfl
    | cons value more =>
      have begins : Begins (writeElements true (value :: more)) := by
        rw [writeElements_first]
        exact (writeValue_begins plain.1).append _
      have input : writeValue (.array (value :: more)) ++ rest =
          leftBracket :: (writeElements true (value :: more) ++ rightBracket :: rest) := by
        rw [writeValue]
        simp
      have length : (writeValue (.array (value :: more))).length =
          (writeElements true (value :: more)).length + 2 := by
        rw [writeValue]
        simp
      rw [input, readValue_array (begins.append _),
        readArray_write value more plain.1 plain.2 [] rest (by omega), received, Option.map_map]
      rfl
  | object members =>
    cases members with
    | nil =>
      obtain ⟨fuel, rfl⟩ := Nat.exists_eq_add_of_le' (show 1 ≤ fuel by
        rw [writeValue] at enough
        simp only [List.length_append, List.length_cons] at enough
        omega)
      rfl
    | cons member more =>
      obtain ⟨name, value⟩ := member
      obtain ⟨sorted, names, plain, plains⟩ := plain
      have input : writeValue (.object ((name, value) :: more)) ++ rest =
          leftBrace :: (writeMembers true ((name, value) :: more) ++ rightBrace :: rest) := by
        rw [writeValue]
        simp
      have length : (writeValue (.object ((name, value) :: more))).length =
          (writeMembers true ((name, value) :: more)).length + 2 := by
        rw [writeValue]
        simp
      rw [input, readValue_object, readObject_write name value more sorted names plain plains []
        (by simp) [] rest (by omega), received, Option.map_map]
      rfl
termination_by fuel

theorem readArray_write (value : Value Double) (more : List (Value Double)) (plain : Plain value)
    (plains : PlainElements more) {fuel : Nat} (elements : List (Value Double)) (rest : Bytes)
    (enough : 2 * (writeElements true (value :: more)).length + 2 ≤ fuel) :
    readArray fuel elements (writeElements true (value :: more) ++ rightBracket :: rest) =
      (receivedElements (value :: more)).map fun read => (.array (elements ++ read), rest) := by
  obtain ⟨fuel, rfl⟩ := Nat.exists_eq_add_of_le' (Nat.le_trans (Nat.le_add_left 1 _) enough)
  have length : (writeElements true (value :: more)).length =
      (writeValue value).length + (writeElements false more).length := by
    rw [writeElements_first, List.length_append]
  rw [writeElements_first, List.append_assoc, readElement, receivedElements]
  cases more with
  | nil =>
    rw [writeElements, List.nil_append,
      readValue_write value plain (by omega) (boundary_rightBracket rest)]
    cases received value with
    | none => rfl
    | some read =>
      simp only [Option.map_some, Option.bind_some, skipCommentTokens_rightBracket, if_pos,
        receivedElements]
  | cons next more =>
    rw [writeElements_next, List.length_cons] at length
    rw [writeElements_next, List.cons_append,
      readValue_write value plain (by omega) (boundary_comma _)]
    cases received value with
    | none => rfl
    | some read =>
      simp only [Option.map_some, Option.bind_some, skipCommentTokens_comma]
      rw [if_neg (by decide), readArray_write next more plains.1 plains.2 _ rest (by omega),
        Option.map_map]
      simp [Function.comp_def]
termination_by fuel

theorem readObject_write (name : Bytes) (value : Value Double)
    (more : List (Bytes × Value Double)) (sorted : OrderedMap.Sorted ((name, value) :: more))
    (names : 0 ∉ name ∧ name.length < 2 ^ 32) (plain : Plain value) (plains : PlainMembers more)
    {fuel : Nat} (members : List (Bytes × Value Double))
    (above : ∀ member ∈ members, member.1 < name) (lastName rest : Bytes)
    (enough : 2 * (writeMembers true ((name, value) :: more)).length + 2 ≤ fuel) :
    readObject fuel members lastName
        (writeMembers true ((name, value) :: more) ++ rightBrace :: rest) =
      (receivedMembers ((name, value) :: more)).map fun read =>
        (.object (members ++ read), rest) := by
  obtain ⟨fuel, rfl⟩ := Nat.exists_eq_add_of_le' (Nat.le_trans (Nat.le_add_left 1 _) enough)
  have length : (writeMembers true ((name, value) :: more)).length =
      (valueToQuotedString name).length +
        ((writeValue value).length + (writeMembers false more).length + 1) := by
    rw [writeMembers_first]
    simp
  rw [writeMembers_first, List.append_assoc, List.cons_append, List.append_assoc,
    readObject_member names.1 names.2, receivedMembers]
  cases more with
  | nil =>
    rw [writeMembers, List.nil_append,
      readValue_write value plain (by omega) (boundary_rightBrace rest)]
    cases received value with
    | none => rfl
    | some read =>
      simp only [Option.map_some, Option.bind_some, receivedMembers,
        memberRead_last above]
  | cons next more =>
    rw [writeMembers_next, List.length_cons] at length
    rw [writeMembers_next, List.cons_append,
      readValue_write value plain (by omega) (boundary_comma _)]
    cases received value with
    | none => rfl
    | some read =>
      simp only [Option.map_some, Option.bind_some, memberRead_next above]
      obtain ⟨nextName, next⟩ := next
      obtain ⟨nextNames, nextPlain, others⟩ := plains
      rw [readObject_write nextName next more (List.pairwise_cons.mp sorted).2 nextNames nextPlain
        others _ (above_next sorted above read) name rest (by omega), Option.map_map]
      simp [Function.comp_def]
termination_by fuel

end

theorem parse_write {value : Value Double} (plain : Plain value) :
    parse (write value) = received value := by
  have boundary : Boundary [0x0A] := by
    rintro c ⟨⟩
    decide
  rw [parse, write, readValue_write value plain _ boundary, Option.map_map]
  · exact Option.map_id'
  · rw [List.length_append, List.length_singleton]
    omega

end MessageBus.Json
