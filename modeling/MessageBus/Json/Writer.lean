import MessageBus.Json.Value

set_option autoImplicit false

namespace MessageBus.Json

def quote : UInt8 := 0x22
def backslash : UInt8 := 0x5C
def slash : UInt8 := 0x2F
def comma : UInt8 := 0x2C
def colon : UInt8 := 0x3A
def minus : UInt8 := 0x2D
def leftBracket : UInt8 := 0x5B
def rightBracket : UInt8 := 0x5D
def leftBrace : UInt8 := 0x7B
def rightBrace : UInt8 := 0x7D

def nullText : Bytes := [0x6E, 0x75, 0x6C, 0x6C]

def digitText (base value : Nat) : Bytes := (Nat.toDigits base value).map Char.toUInt8

def uintToString (value : UInt32) : Bytes := digitText 10 value.toNat

-- The smallest integer is its own opposite, and as an unsigned one it is its absolute value.
def intToString (value : Int32) : Bytes :=
  if value < 0 then minus :: uintToString (-value).toUInt32 else uintToString value.toUInt32

def isControlCharacter (ch : UInt8) : Bool := 0 < ch ∧ ch ≤ 0x1F

def upperHexDigit (value : Nat) : UInt8 :=
  .ofNat (if value < 10 then 0x30 + value else 0x37 + value)

-- std::hex, std::uppercase and four places filled with zeros.
def fourHexDigits (value : Nat) : Bytes :=
  [upperHexDigit (value / 16 ^ 3 % 16), upperHexDigit (value / 16 ^ 2 % 16),
    upperHexDigit (value / 16 % 16), upperHexDigit (value % 16)]

def escape (c : UInt8) : Bytes :=
  if c = quote then [backslash, quote]
  else if c = backslash then [backslash, backslash]
  else if c = 0x08 then [backslash, 0x62]
  else if c = 0x0C then [backslash, 0x66]
  else if c = 0x0A then [backslash, 0x6E]
  else if c = 0x0D then [backslash, 0x72]
  else if c = 0x09 then [backslash, 0x74]
  else if isControlCharacter c then backslash :: 0x75 :: fourHexDigits c.toNat
  else [c]

def special (c : UInt8) : Bool :=
  c ∈ [quote, backslash, 0x08, 0x0C, 0x0A, 0x0D, 0x09] ∨ isControlCharacter c

def valueToQuotedString (value : Bytes) : Bytes :=
  if (cString value).any special then quote :: (cString value).flatMap escape ++ [quote]
  else quote :: cString value ++ [quote]

variable {Double : Type} [Doubles Double]

mutual

-- FastWriter::writeValue, without the YAML compatibility nothing here turns on. An array's size
-- fits its int: the indices are ints.
def writeValue : Value Double -> Bytes
  | .null => nullText
  | .int value => intToString value
  | .uint value => uintToString value
  | .real value => Doubles.valueToString value
  | .string value => valueToQuotedString value
  | .boolean value => if value then trueText else falseText
  | .array elements => leftBracket :: writeElements true elements ++ [rightBracket]
  | .object members => leftBrace :: writeMembers true members ++ [rightBrace]

def writeElements : Bool -> List (Value Double) -> Bytes
  | _, [] => []
  | first, value :: rest =>
    (if first then [] else [comma]) ++ (writeValue value ++ writeElements false rest)

def writeMembers : Bool -> List (Bytes × Value Double) -> Bytes
  | _, [] => []
  | first, (name, value) :: rest =>
    (if first then [] else [comma]) ++
      (valueToQuotedString name ++ colon :: (writeValue value ++ writeMembers false rest))

end

-- FastWriter::write.
def write (root : Value Double) : Bytes := writeValue root ++ [0x0A]

end MessageBus.Json
