import MessageBus.Json.Writer

set_option autoImplicit false

namespace MessageBus.Json

inductive TokenType where
  | endOfStream
  | objectBegin
  | objectEnd
  | arrayBegin
  | arrayEnd
  | string
  | number
  | true
  | false
  | null
  | arraySeparator
  | memberSeparator
  | comment
  | error
  deriving DecidableEq, Repr

-- A token with its text, and what is left of the document behind it.
structure Token where
  type : TokenType
  text : Bytes
  rest : Bytes

def isSpace (c : UInt8) : Bool := c ∈ [0x20, 0x09, 0x0D, 0x0A]

def skipSpaces (input : Bytes) : Bytes := input.dropWhile isSpace

def isDigit (c : UInt8) : Bool := 0x30 ≤ c ∧ c ≤ 0x39

-- '.', 'e', 'E' and '+'.
def isDoubleMark (c : UInt8) : Bool := c ∈ [0x2E, 0x65, 0x45, 0x2B]

def isNumberCharacter (c : UInt8) : Bool := isDigit c ∨ isDoubleMark c ∨ c = minus

def readNumber (input : Bytes) : Bytes := input.dropWhile isNumberCharacter

-- The character behind a backslash is skipped whatever it is.
def readStringFrom : Bool -> Bytes -> Bool × Bytes
  | _, [] => (false, [])
  | true, _ :: rest => readStringFrom false rest
  | false, c :: rest =>
    if c = backslash then readStringFrom true rest
    else if c = quote then (true, rest)
    else readStringFrom false rest

def readString (input : Bytes) : Bool × Bytes := readStringFrom false input

def readCStyleComment : Bytes -> Bool × Bytes
  | [] => (false, [])
  | c :: rest =>
    if c = 0x2A ∧ rest.head? = some slash then (true, rest.tail) else readCStyleComment rest

def readCppStyleComment : Bytes -> Bytes
  | [] => []
  | c :: rest => if c = 0x0D ∨ c = 0x0A then rest else readCppStyleComment rest

def readComment : Bytes -> Bool × Bytes
  | [] => (false, [])
  | c :: rest =>
    if c = 0x2A then readCStyleComment rest
    else if c = slash then (true, readCppStyleComment rest)
    else (false, rest)

-- match, for a word whose first letter is read.
def matchWord (type : TokenType) (pattern rest : Bytes) : TokenType × Bytes :=
  if pattern.isPrefixOf rest then (type, rest.drop pattern.length) else (.error, rest)

def okOr (type : TokenType) (scanned : Bool × Bytes) : TokenType × Bytes :=
  (if scanned.1 then type else .error, scanned.2)

-- The token that the character begins, and what is left behind it.
def readTokenFrom (c : UInt8) (rest : Bytes) : TokenType × Bytes :=
  if c = leftBrace then (.objectBegin, rest)
  else if c = rightBrace then (.objectEnd, rest)
  else if c = leftBracket then (.arrayBegin, rest)
  else if c = rightBracket then (.arrayEnd, rest)
  else if c = quote then okOr .string (readString rest)
  else if c = slash then okOr .comment (readComment rest)
  else if isDigit c ∨ c = minus then (.number, readNumber rest)
  else if c = 0x74 then matchWord .true [0x72, 0x75, 0x65] rest
  else if c = 0x66 then matchWord .false [0x61, 0x6C, 0x73, 0x65] rest
  else if c = 0x6E then matchWord .null [0x75, 0x6C, 0x6C] rest
  else if c = comma then (.arraySeparator, rest)
  else if c = colon then (.memberSeparator, rest)
  else if c = 0 then (.endOfStream, rest)
  else (.error, rest)

def readToken (input : Bytes) : Token :=
  match skipSpaces input with
  | [] => { type := .endOfStream, text := [], rest := [] }
  | c :: rest =>
    { type := (readTokenFrom c rest).1
      text := (c :: rest).take (rest.length + 1 - (readTokenFrom c rest).2.length)
      rest := (readTokenFrom c rest).2 }

-- The number of tokens bounds the loop: each of them takes a character at least.
def skipCommentsFrom : Nat -> Token -> Token
  | 0, token => token
  | fuel + 1, token =>
    if token.type = .comment then skipCommentsFrom fuel (readToken token.rest) else token

def skipComments (token : Token) : Token := skipCommentsFrom (token.rest.length + 1) token

def skipCommentTokens (input : Bytes) : Token := skipComments (readToken input)

inductive Scanned where
  | value (value : UInt32)
  | large
  | malformed

-- The loop of decodeNumber.
def decodeDigits (threshold : UInt32) : UInt32 -> Bytes -> Scanned
  | value, [] => .value value
  | value, c :: rest =>
    if isDigit c then
      if value ≥ threshold then .large
      else decodeDigits threshold (value * 10 + (c - 0x30).toUInt32) rest
    else .malformed

def isDouble (text : Bytes) : Bool := text.any isDoubleMark ∨ minus ∈ text.tail

section Decode

variable {Double : Type} [Doubles Double]

-- An error is none: parse returns false whatever the recovery finds behind it, and the texts of the
-- errors are for a caller who asks for them.
def decodeDouble (text : Bytes) : Option (Value Double) := (Doubles.scan text).map .real

def ofScanned (text : Bytes) (number : UInt32 -> Value Double) :
    Scanned -> Option (Value Double)
  | .value value => some (number value)
  | .large => decodeDouble text
  | .malformed => none

def unsignedNumber (value : UInt32) : Value Double :=
  if value ≤ maxInt then .int value.toInt32 else .uint value

def decodeNumber (text : Bytes) : Option (Value Double) :=
  if isDouble text then decodeDouble text
  else if text.head? = some minus then
    ofScanned text (fun value => .int (-value.toInt32))
      (decodeDigits (minIntMagnitude / 10) 0 text.tail)
  else ofScanned text unsignedNumber (decodeDigits (maxUInt / 10) 0 text)

end Decode

def hexDigit (c : UInt8) : Option Nat :=
  if isDigit c then some (c.toNat - 0x30)
  else if 0x61 ≤ c ∧ c ≤ 0x66 then some (c.toNat - 0x61 + 10)
  else if 0x41 ≤ c ∧ c ≤ 0x46 then some (c.toNat - 0x41 + 10)
  else none

def decodeUnicodeEscapeSequence : Bytes -> Option (Nat × Bytes)
  | c0 :: c1 :: c2 :: c3 :: rest => do
    let digit0 <- hexDigit c0
    let digit1 <- hexDigit c1
    let digit2 <- hexDigit c2
    let digit3 <- hexDigit c3
    some (((digit0 * 16 + digit1) * 16 + digit2) * 16 + digit3, rest)
  | _ => none

-- The second half of a surrogate pair may be any four digits.
def decodeSurrogatePair (unicode : Nat) (rest : Bytes) : Option (Nat × Bytes) :=
  if rest.length < 6 then none
  else if rest.take 2 = [backslash, 0x75] then
    (decodeUnicodeEscapeSequence (rest.drop 2)).map fun second =>
      (0x10000 + (unicode &&& 0x3FF) * 2 ^ 10 + (second.1 &&& 0x3FF), second.2)
  else none

def decodeUnicodeCodePoint (input : Bytes) : Option (Nat × Bytes) :=
  (decodeUnicodeEscapeSequence input).bind fun first =>
    if 0xD800 ≤ first.1 ∧ first.1 ≤ 0xDBFF then decodeSurrogatePair first.1 first.2
    else some first

def codePointToUTF8 (cp : Nat) : Bytes :=
  if cp ≤ 0x7F then [.ofNat cp]
  else if cp ≤ 0x7FF then
    [.ofNat (0xC0 ||| (0x1F &&& cp / 2 ^ 6)), .ofNat (0x80 ||| (0x3F &&& cp))]
  else if cp ≤ 0xFFFF then
    [.ofNat (0xE0 ||| (0xF &&& cp / 2 ^ 12)), .ofNat (0x80 ||| (0x3F &&& cp / 2 ^ 6)),
      .ofNat (0x80 ||| (0x3F &&& cp))]
  else if cp ≤ 0x10FFFF then
    [.ofNat (0xF0 ||| (0x7 &&& cp / 2 ^ 18)), .ofNat (0x80 ||| (0x3F &&& cp / 2 ^ 12)),
      .ofNat (0x80 ||| (0x3F &&& cp / 2 ^ 6)), .ofNat (0x80 ||| (0x3F &&& cp))]
  else []

-- The escapes of one character, but for \u.
def simpleEscape (c : UInt8) : Option UInt8 :=
  if c = quote then some quote
  else if c = slash then some slash
  else if c = backslash then some backslash
  else if c = 0x62 then some 0x08
  else if c = 0x66 then some 0x0C
  else if c = 0x6E then some 0x0A
  else if c = 0x72 then some 0x0D
  else if c = 0x74 then some 0x09
  else none

-- What one escape behind its backslash stands for, and what is left behind it.
def decodeEscape : Bytes -> Option (Bytes × Bytes)
  | [] => none
  | c :: rest =>
    if c = 0x75 then
      (decodeUnicodeCodePoint rest).map fun found => (codePointToUTF8 found.1, found.2)
    else (simpleEscape c).map fun byte => ([byte], rest)

-- The characters between the quotes, each step taking one of them at least.
def decodeCharacters : Nat -> Bytes -> Option Bytes
  | _, [] => some []
  | 0, _ => none
  | fuel + 1, c :: rest =>
    if c = quote then some []
    else if c = backslash then
      (decodeEscape rest).bind fun decoded =>
        (decodeCharacters fuel decoded.2).map (decoded.1 ++ ·)
    else (decodeCharacters fuel rest).map (c :: ·)

def decodeString (text : Bytes) : Option Bytes :=
  decodeCharacters text.length (text.drop 1).dropLast

variable {Double : Type} [Doubles Double]

mutual

-- The calls are nested twice as deep as the document is long at most.
def readValue : Nat -> Bytes -> Option (Value Double × Bytes)
  | 0, _ => none
  | fuel + 1, input =>
    let token := skipCommentTokens input
    match token.type with
    | .objectBegin => readObject fuel [] [] token.rest
    | .arrayBegin =>
      -- An empty array's end is looked for behind spaces alone.
      if (skipSpaces token.rest).head? = some rightBracket then
        some (.array [], (skipSpaces token.rest).tail)
      else readArray fuel [] token.rest
    | .number => (decodeNumber token.text).map (·, token.rest)
    | .string => (decodeString token.text).map (.ofString ·, token.rest)
    | .true => some (.boolean true, token.rest)
    | .false => some (.boolean false, token.rest)
    | .null => some (.null, token.rest)
    | _ => none

-- The loop of readObject, with the members read so far and the last member's name.
def readObject : Nat -> List (Bytes × Value Double) -> Bytes -> Bytes ->
    Option (Value Double × Bytes)
  | 0, _, _, _ => none
  | fuel + 1, members, lastName, input =>
    let tokenName := skipComments (readToken input)
    if tokenName.type = .objectEnd ∧ lastName = [] then some (.object members, tokenName.rest)
    else if tokenName.type ≠ .string then none
    else
      (decodeString tokenName.text).bind fun name =>
        let colon := readToken tokenName.rest
        if colon.type ≠ .memberSeparator then none
        else
          (readValue fuel colon.rest).bind fun read =>
            let members := OrderedMap.insert (makeMemberName name) read.1 members
            let comma := readToken read.2
            if comma.type = .objectEnd ∨ comma.type = .arraySeparator ∨ comma.type = .comment then
              let comma := skipComments comma
              if comma.type = .objectEnd then some (.object members, comma.rest)
              else readObject fuel members name comma.rest
            else none

-- The loop of readArray: no token is refused where a comma is expected (the test for a bad one asks
-- for two types at once).
def readArray : Nat -> List (Value Double) -> Bytes -> Option (Value Double × Bytes)
  | 0, _, _ => none
  | fuel + 1, elements, input =>
    (readValue fuel input).bind fun read =>
      let token := skipComments (readToken read.2)
      if token.type = .arrayEnd then some (.array (elements ++ [read.1]), token.rest)
      else readArray fuel (elements ++ [read.1]) token.rest

end

-- Reader::parse with the default features: what follows the root is not looked at.
def parse (document : Bytes) : Option (Value Double) :=
  (readValue (2 * document.length + 1) document).map (·.1)

end MessageBus.Json
