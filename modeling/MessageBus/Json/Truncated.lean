import MessageBus.Json.RoundTrip

set_option autoImplicit false

namespace MessageBus.Json

-- The front of a text that something of it is missing behind.
def Cut (front text : Bytes) : Prop := ∃ c rest, text = front ++ c :: rest

theorem cut_nil {front : Bytes} : ¬ Cut front [] := by
  rintro ⟨c, rest, same⟩
  simp at same

theorem cut_cons {front text : Bytes} {c : UInt8} (cut : Cut front (c :: text)) :
    front = [] ∨ ∃ more, front = c :: more ∧ Cut more text := by
  obtain ⟨next, rest, same⟩ := cut
  cases front with
  | nil => exact .inl rfl
  | cons first more =>
    obtain ⟨rfl, rfl⟩ := List.cons.inj same
    exact .inr ⟨more, rfl, next, rest, rfl⟩

theorem cut_single {front : Bytes} {c : UInt8} (cut : Cut front [c]) : front = [] := by
  rcases cut_cons cut with rfl | ⟨_, _, nothing⟩
  · rfl
  · exact absurd nothing cut_nil

theorem cut_take {text : Bytes} {count : Nat} (short : count < text.length) :
    Cut (text.take count) text := by
  refine ⟨text[count], text.drop (count + 1), ?_⟩
  rw [← List.drop_eq_getElem_cons short, List.take_append_drop]

theorem cut_append {front first second : Bytes} (cut : Cut front (first ++ second)) :
    Cut front first ∨ ∃ more, front = first ++ more ∧ Cut more second := by
  induction first generalizing front with
  | nil => exact .inr ⟨front, rfl, cut⟩
  | cons c first ih =>
    rcases cut_cons cut with rfl | ⟨more, rfl, tail⟩
    · exact .inl ⟨c, first, rfl⟩
    · rcases ih tail with ⟨next, rest, rfl⟩ | ⟨behind, rfl, missing⟩
      · exact .inl ⟨next, rest, rfl⟩
      · exact .inr ⟨behind, rfl, missing⟩

theorem readStringFrom_append {escaped : Bool} {front rest : Bytes}
    (closed : readStringFrom escaped front = (true, rest)) (more : Bytes) :
    readStringFrom escaped (front ++ more) = (true, rest ++ more) := by
  induction front generalizing escaped with
  | nil => cases escaped <;> cases closed
  | cons c front ih =>
    cases escaped with
    | true => exact ih closed
    | false =>
      rw [readStringFrom] at closed
      rw [List.cons_append, readStringFrom]
      split_ifs at closed ⊢ with isBackslash isQuote
      · exact ih closed
      · cases closed
        rfl
      · exact ih closed

theorem readString_cut {value front : Bytes}
    (cut : Cut front (value.flatMap escape ++ [quote])) : (readString front).1 = false := by
  obtain ⟨c, rest, same⟩ := cut
  by_contra closed
  have closed : readStringFrom false front = (true, (readString front).2) :=
    Prod.ext (Bool.eq_true_of_not_eq_false closed) rfl
  have whole := readStringFrom_append closed (c :: rest)
  have body := readString_body value []
  rw [readString, same, whole, Prod.mk.injEq] at body
  simp at body

variable {Double : Type} [Doubles Double]

theorem readValue_nil (fuel : Nat) :
    (readValue fuel [] : Option (Value Double × Bytes)) = none := by
  cases fuel <;> rfl

theorem readArray_nil (fuel : Nat) (elements : List (Value Double)) :
    readArray fuel elements [] = none := by
  cases fuel with
  | zero => rfl
  | succ fuel => rw [readArray, readValue_nil, Option.bind_none]

theorem token_quoted_cut {value front : Bytes} (nulFree : 0 ∉ value)
    (cut : Cut front (valueToQuotedString value)) :
    (skipCommentTokens front).type = .endOfStream ∨ (skipCommentTokens front).type = .error := by
  rw [quoted_eq nulFree, List.cons_append] at cut
  rcases cut_cons cut with rfl | ⟨body, rfl, tail⟩
  · exact .inl rfl
  · have unclosed : (readToken (quote :: body)).type = .error := by
      change (okOr .string (readString body)).1 = .error
      rw [okOr, readString_cut tail]
      rfl
    rw [skipCommentTokens_of rfl (by simp [unclosed])]
    exact .inr unclosed

theorem cut_begins {front text rest : Bytes} (begins : Begins text)
    (cut : Cut front (text ++ rest)) : front = [] ∨ Begins front := by
  obtain ⟨c, tail, rfl, visible, opened⟩ := begins
  rcases cut_cons cut with rfl | ⟨more, rfl, -⟩
  · exact .inl rfl
  · exact .inr ⟨c, more, rfl, visible, opened⟩

theorem readValue_number_cut {fuel : Nat} {c : UInt8} {tail front : Bytes}
    (first : isDigit c = true ∨ c = minus) (digits : ∀ c ∈ tail, isDigit c = true)
    (cut : Cut front (c :: tail)) {read : Value Double × Bytes}
    (accepted : readValue (fuel + 1) front = some read) : read.2 = [] := by
  rcases cut_cons cut with rfl | ⟨more, rfl, next, rest, rfl⟩
  · rw [readValue_nil] at accepted
    cases accepted
  · have boundary : Boundary [] := by rintro c ⟨⟩
    have token := readToken_number first
      (fun c inside => digits c (List.mem_append_left _ inside)) boundary
    rw [List.append_nil] at token
    rw [readValue_number token] at accepted
    obtain ⟨value, -, rfl⟩ := Option.map_eq_some_iff.mp accepted
    rfl

theorem readObject_nil (fuel : Nat) (members : List (Bytes × Value Double)) (lastName : Bytes) :
    readObject fuel members lastName [] = none := by
  cases fuel <;> rfl

theorem readValue_leftBracket (fuel : Nat) :
    (readValue (fuel + 1) [leftBracket] : Option (Value Double × Bytes)) = none :=
  readArray_nil fuel []

-- Where the text is used up behind a value, nothing that needs more of it is accepted.
theorem readValue_ends {fuel : Nat} {front : Bytes} {Result : Type}
    {next : Value Double × Bytes -> Option Result}
    (ends : ∀ {read : Value Double × Bytes}, readValue fuel front = some read -> read.2 = [])
    (stops : ∀ value, next (value, []) = none) : (readValue fuel front).bind next = none := by
  cases found : (readValue fuel front : Option (Value Double × Bytes)) with
  | none => rfl
  | some read =>
    obtain ⟨value, rest⟩ := read
    obtain rfl : rest = [] := ends found
    exact stops value

theorem readArray_end {fuel : Nat} {front : Bytes} {elements : List (Value Double)}
    (ends : ∀ {read : Value Double × Bytes}, readValue fuel front = some read -> read.2 = []) :
    readArray (fuel + 1) elements front = none := by
  rw [readElement]
  exact readValue_ends ends fun _ => readArray_nil fuel _

theorem readObject_end {name front : Bytes} (nulFree : 0 ∉ name) (fits : name.length < 2 ^ 32)
    {fuel : Nat} (members : List (Bytes × Value Double)) (lastName : Bytes)
    (ends : ∀ {read : Value Double × Bytes}, readValue fuel front = some read -> read.2 = []) :
    readObject (fuel + 1) members lastName (valueToQuotedString name ++ colon :: front) = none := by
  rw [readObject_member nulFree fits]
  exact readValue_ends ends fun _ => rfl

theorem readObject_name_cut {name front : Bytes} (nulFree : 0 ∉ name)
    (cut : Cut front (valueToQuotedString name ++ [colon])) (fuel : Nat)
    (members : List (Bytes × Value Double)) (lastName : Bytes) :
    readObject fuel members lastName front = none := by
  cases fuel with
  | zero => rfl
  | succ fuel =>
    rcases cut_append cut with inside | ⟨more, rfl, behind⟩
    · have name : skipComments (readToken front) = skipCommentTokens front := rfl
      rw [readObject]
      rcases token_quoted_cut nulFree inside with type | type <;> simp [name, type]
    · obtain rfl := cut_single behind
      have token : skipComments (readToken (valueToQuotedString name ++ [])) =
          { type := .string, text := valueToQuotedString name, rest := [] } :=
        skipCommentTokens_of (readToken_quoted nulFree []) (by simp)
      simp only [readObject, token, reduceCtorEq, false_and, if_false, ne_eq, not_true_eq_false,
        decodeString_quoted nulFree, Option.bind_some]
      rfl

theorem literal_cut {fuel : Nat} {c : UInt8} {word front : Bytes} {type : TokenType}
    (visible : isSpace c = false)
    (scanned : ∀ rest, readTokenFrom c rest = matchWord type word rest)
    (cut : Cut front (c :: word)) :
    (readValue fuel front : Option (Value Double × Bytes)) = none := by
  rcases cut_cons cut with rfl | ⟨more, rfl, next, rest, rfl⟩
  · exact readValue_nil fuel
  cases fuel with
  | zero => rfl
  | succ fuel =>
    have short : (more ++ next :: rest).isPrefixOf more = false := by
      rw [Bool.eq_false_iff, ne_eq, List.isPrefixOf_iff_prefix]
      intro whole
      have length := whole.length_le
      simp at length
    have token : (skipCommentTokens (c :: more)).type = .error := by
      have read : (readToken (c :: more)).type = .error := by
        rw [readToken, skipSpaces_visible visible]
        change (readTokenFrom c more).1 = .error
        rw [scanned, matchWord, if_neg (by simp [short])]
      rw [skipCommentTokens_of rfl (by simp [read]), read]
    simp only [readValue, token]

theorem readValue_end {value : Value Double} (plain : Plain value) {fuel : Nat}
    (enough : 2 * (writeValue value ++ []).length + 1 ≤ fuel) {read : Value Double × Bytes}
    (accepted : readValue fuel (writeValue value ++ []) = some read) : read.2 = [] := by
  have boundary : Boundary [] := by rintro c ⟨⟩
  rw [List.append_nil] at enough
  rw [readValue_write value plain enough boundary] at accepted
  obtain ⟨value, -, rfl⟩ := Option.map_eq_some_iff.mp accepted
  rfl

theorem readValue_array_cut {elements : List (Value Double)} (plain : PlainElements elements)
    {fuel : Nat} {front : Bytes} (cut : Cut front (writeValue (.array elements)))
    (refused : ∀ {inside : Bytes}, Cut inside (writeElements true elements ++ [rightBracket]) ->
      inside.length + 1 = front.length ->
        readArray fuel [] inside = (none : Option (Value Double × Bytes))) :
    (readValue (fuel + 1) front : Option (Value Double × Bytes)) = none := by
  rw [writeValue, List.cons_append] at cut
  rcases cut_cons cut with rfl | ⟨inside, rfl, missing⟩
  · exact readValue_nil _
  have opened : inside = [] ∨ Begins inside := by
    cases elements with
    | nil => exact .inl (cut_single missing)
    | cons value more =>
      rw [writeElements_first, List.append_assoc] at missing
      exact cut_begins (writeValue_begins plain.1) missing
  rcases opened with rfl | begins
  · exact readValue_leftBracket fuel
  · rw [readValue_array begins]
    exact refused missing rfl

theorem readValue_object_cut {members : List (Bytes × Value Double)} {fuel : Nat} {front : Bytes}
    (cut : Cut front (writeValue (.object members)))
    (refused : ∀ {inside : Bytes}, Cut inside (writeMembers true members ++ [rightBrace]) ->
      inside.length + 1 = front.length ->
        readObject fuel [] [] inside = (none : Option (Value Double × Bytes))) :
    (readValue (fuel + 1) front : Option (Value Double × Bytes)) = none := by
  rw [writeValue, List.cons_append] at cut
  rcases cut_cons cut with rfl | ⟨inside, rfl, missing⟩
  · exact readValue_nil _
  · rw [readValue_object]
    exact refused missing rfl

mutual

theorem readValue_cut (value : Value Double) (plain : Plain value) {fuel : Nat} {front : Bytes}
    (enough : 2 * front.length + 1 ≤ fuel) (cut : Cut front (writeValue value))
    {read : Value Double × Bytes} (accepted : readValue fuel front = some read) :
    read.2 = [] := by
  obtain ⟨fuel, rfl⟩ := Nat.exists_eq_add_of_le' (Nat.le_trans (Nat.le_add_left 1 _) enough)
  cases value with
  | null =>
    rw [literal_cut (by decide) (fun _ => rfl) cut] at accepted
    cases accepted
  | int value =>
    obtain ⟨c, tail, text, first, digits⟩ := intToString_digits value
    rw [writeValue, text] at cut
    exact readValue_number_cut first digits cut accepted
  | uint value =>
    obtain ⟨c, tail, text, first, digits⟩ := uintToString_digits value
    rw [writeValue, text] at cut
    exact readValue_number_cut (.inl first) digits cut accepted
  | real value => exact plain.elim
  | string value =>
    rw [readValue] at accepted
    rcases token_quoted_cut plain.1 cut with type | type <;> simp [type] at accepted
  | boolean value =>
    cases value with
    | true =>
      rw [literal_cut (by decide) (fun _ => rfl) cut] at accepted
      cases accepted
    | false =>
      rw [literal_cut (by decide) (fun _ => rfl) cut] at accepted
      cases accepted
  | array elements =>
    have refused : readValue (fuel + 1) front = (none : Option (Value Double × Bytes)) := by
      refine readValue_array_cut plain cut fun missing length => ?_
      cases elements with
      | nil =>
        obtain rfl := cut_single missing
        exact readArray_nil fuel []
      | cons value more => exact readArray_cut value more plain.1 plain.2 [] (by omega) missing
    rw [refused] at accepted
    cases accepted
  | object members =>
    have refused : readValue (fuel + 1) front = (none : Option (Value Double × Bytes)) := by
      refine readValue_object_cut cut fun missing length => ?_
      cases members with
      | nil =>
        obtain rfl := cut_single missing
        exact readObject_nil fuel [] []
      | cons member more =>
        obtain ⟨name, value⟩ := member
        obtain ⟨sorted, names, plain, plains⟩ := plain
        exact readObject_cut name value more sorted names plain plains [] (by simp) [] (by omega)
          missing
    rw [refused] at accepted
    cases accepted
termination_by fuel

theorem readArray_cut (value : Value Double) (more : List (Value Double)) (plain : Plain value)
    (plains : PlainElements more) {fuel : Nat} (elements : List (Value Double)) {front : Bytes}
    (enough : 2 * front.length + 2 ≤ fuel)
    (cut : Cut front (writeElements true (value :: more) ++ [rightBracket])) :
    readArray fuel elements front = none := by
  obtain ⟨fuel, rfl⟩ := Nat.exists_eq_add_of_le' (Nat.le_trans (Nat.le_add_left 1 _) enough)
  rw [writeElements_first, List.append_assoc] at cut
  rcases cut_append cut with inside | ⟨behind, rfl, missing⟩
  · exact readArray_end fun accepted => readValue_cut value plain (by omega) inside accepted
  rw [List.length_append] at enough
  cases more with
  | nil =>
    obtain rfl := cut_single missing
    exact readArray_end fun accepted => readValue_end plain (by simp; omega) accepted
  | cons next more =>
    rw [writeElements_next, List.cons_append] at missing
    rcases cut_cons missing with rfl | ⟨others, rfl, missingOthers⟩
    · exact readArray_end fun accepted => readValue_end plain (by simp; omega) accepted
    · rw [List.length_cons] at enough
      rw [readElement, readValue_write value plain (by omega) (boundary_comma others)]
      cases received value with
      | none => rfl
      | some read =>
        simp only [Option.map_some, Option.bind_some, skipCommentTokens_comma]
        rw [if_neg (by decide)]
        exact readArray_cut next more plains.1 plains.2 _ (by omega) missingOthers
termination_by fuel

theorem readObject_cut (name : Bytes) (value : Value Double)
    (more : List (Bytes × Value Double)) (sorted : OrderedMap.Sorted ((name, value) :: more))
    (names : 0 ∉ name ∧ name.length < 2 ^ 32) (plain : Plain value) (plains : PlainMembers more)
    {fuel : Nat} (members : List (Bytes × Value Double))
    (above : ∀ member ∈ members, member.1 < name) (lastName : Bytes) {front : Bytes}
    (enough : 2 * front.length + 2 ≤ fuel)
    (cut : Cut front (writeMembers true ((name, value) :: more) ++ [rightBrace])) :
    readObject fuel members lastName front = none := by
  obtain ⟨fuel, rfl⟩ := Nat.exists_eq_add_of_le' (Nat.le_trans (Nat.le_add_left 1 _) enough)
  have parts : writeMembers true ((name, value) :: more) ++ [rightBrace] =
      (valueToQuotedString name ++ [colon]) ++
        (writeValue value ++ (writeMembers false more ++ [rightBrace])) := by
    rw [writeMembers_first]
    simp
  rw [parts] at cut
  rcases cut_append cut with inside | ⟨behindName, rfl, missing⟩
  · exact readObject_name_cut names.1 inside _ members lastName
  rw [List.append_assoc, List.singleton_append] at enough ⊢
  rw [List.length_append, List.length_cons] at enough
  rcases cut_append missing with inside | ⟨behind, rfl, missingOthers⟩
  · exact readObject_end names.1 names.2 members lastName fun accepted =>
      readValue_cut value plain (by omega) inside accepted
  rw [List.length_append] at enough
  cases more with
  | nil =>
    obtain rfl := cut_single missingOthers
    exact readObject_end names.1 names.2 members lastName fun accepted =>
      readValue_end plain (by simp; omega) accepted
  | cons next more =>
    rw [writeMembers_next, List.cons_append] at missingOthers
    rcases cut_cons missingOthers with rfl | ⟨others, rfl, missingNext⟩
    · exact readObject_end names.1 names.2 members lastName fun accepted =>
        readValue_end plain (by simp; omega) accepted
    · rw [List.length_cons] at enough
      rw [readObject_member names.1 names.2,
        readValue_write value plain (by omega) (boundary_comma others)]
      cases received value with
      | none => rfl
      | some read =>
        obtain ⟨nextName, next⟩ := next
        obtain ⟨nextNames, nextPlain, nextPlains⟩ := plains
        rw [Option.map_some, Option.bind_some, memberRead_next above]
        exact readObject_cut nextName next more (List.pairwise_cons.mp sorted).2 nextNames nextPlain
          nextPlains _ (above_next sorted above read) name (by omega) missingNext
termination_by fuel

end

theorem parse_truncated {member : Bytes × Value Double} {more : List (Bytes × Value Double)}
    (plain : Plain (.object (member :: more))) {count : Nat}
    (short : count < (writeValue (.object (member :: more))).length) :
    (parse ((write (.object (member :: more))).take count) : Option (Value Double)) = none := by
  have cut : Cut ((write (.object (member :: more))).take count)
      (writeValue (.object (member :: more))) := by
    rw [write, List.take_append_of_le_length (Nat.le_of_lt short)]
    exact cut_take short
  obtain ⟨name, value⟩ := member
  obtain ⟨sorted, names, plain, plains⟩ := plain
  rw [parse, readValue_object_cut cut]
  · rfl
  · intro inside missing length
    exact readObject_cut name value more sorted names plain plains [] (by simp) [] (by omega)
      missing

end MessageBus.Json
