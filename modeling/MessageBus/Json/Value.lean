import MessageBus.Shared.Bytes
import MessageBus.Shared.OrderedMap

set_option autoImplicit false

namespace MessageBus.Json

-- What is left to the machine's doubles: sscanf's "%lf", the text of a double, a double as an
-- integer (none where asInt or asUInt throws) and as a truth value.
class Doubles (Double : Type) where
  scan : Bytes -> Option Double
  valueToString : Double -> Bytes
  asInt : Double -> Option Int32
  asUInt : Double -> Option UInt32
  asBool : Double -> Bool

-- Json::Value. An array is a map from its indices 0, 1, … in the source, an object one from member
-- names in the order of strcmp. Comments are not modelled.
inductive Value (Double : Type) where
  | null
  | int (value : Int32)
  | uint (value : UInt32)
  | real (value : Double)
  | string (value : Bytes)
  | boolean (value : Bool)
  | array (elements : List (Value Double))
  | object (members : List (Bytes × Value Double))

def maxInt : UInt32 := 0x7FFFFFFF
def maxUInt : UInt32 := 0xFFFFFFFF

-- UInt(-Value::minInt), which wraps to itself.
def minIntMagnitude : UInt32 := 0x80000000

def trueText : Bytes := [0x74, 0x72, 0x75, 0x65]
def falseText : Bytes := [0x66, 0x61, 0x6C, 0x73, 0x65]

-- What a reader of the C string sees.
def cString (text : Bytes) : Bytes := text.takeWhile (· ≠ 0)

-- The length is an unsigned int. (For the length 2^32 - 1 the allocation of length + 1 is empty.)
def duplicateStringValue (value : Bytes) : Bytes := value.take (value.length % 2 ^ 32)

def makeMemberName (memberName : Bytes) : Bytes := duplicateStringValue (cString memberName)

namespace Value

variable {Double : Type}

def ofString (value : Bytes) : Value Double := .string (cString (duplicateStringValue value))

def isInt : Value Double -> Bool
  | .int _ => true
  | _ => false

def isUInt : Value Double -> Bool
  | .uint _ => true
  | _ => false

def isBool : Value Double -> Bool
  | .boolean _ => true
  | _ => false

def isString : Value Double -> Bool
  | .string _ => true
  | _ => false

def isArray : Value Double -> Bool
  | .null | .array _ => true
  | _ => false

def isObject : Value Double -> Bool
  | .null | .object _ => true
  | _ => false

-- The conversions are none where the source throws.
def asString : Value Double -> Option Bytes
  | .null => some []
  | .string value => some value
  | .boolean value => some (if value then trueText else falseText)
  | .int _ | .uint _ | .real _ | .array _ | .object _ => none

def asInt [Doubles Double] : Value Double -> Option Int32
  | .null => some 0
  | .int value => some value
  | .uint value => if value < maxInt then some value.toInt32 else none
  | .real value => Doubles.asInt value
  | .boolean value => some (if value then 1 else 0)
  | .string _ | .array _ | .object _ => none

def asUInt [Doubles Double] : Value Double -> Option UInt32
  | .null => some 0
  | .int value => if 0 ≤ value then some value.toUInt32 else none
  | .uint value => some value
  | .real value => Doubles.asUInt value
  | .boolean value => some (if value then 1 else 0)
  | .string _ | .array _ | .object _ => none

def asBool [Doubles Double] : Value Double -> Bool
  | .null => false
  | .int value => value ≠ 0
  | .uint value => value ≠ 0
  | .real value => Doubles.asBool value
  | .boolean value => value
  | .string value => value ≠ []
  | .array elements => elements.length ≠ 0
  | .object members => members.length ≠ 0

-- Clearing keeps the type. The assertion before it is compiled out.
def clear : Value Double -> Value Double
  | .array _ => .array []
  | .object _ => .object []
  | value => value

-- What size and operator[] say of an array. The assertions are compiled out: none is what
-- happens to a value of another type.
def elements : Value Double -> Option (List (Value Double))
  | .null => some []
  | .array elements => some elements
  | _ => none

def members : Value Double -> Option (List (Bytes × Value Double))
  | .null => some []
  | .object members => some members
  | _ => none

-- A name that is there is never longer than a stored one, so the stored key is the copy's.
def put (object : Value Double) (key : Bytes) (value : Value Double) : Option (Value Double) :=
  object.members.map fun members =>
    .object (OrderedMap.insert (makeMemberName key) value members)

def append (array value : Value Double) : Option (Value Double) :=
  array.elements.map fun elements => .array (elements ++ [value])

def get (object : Value Double) (key : Bytes) (defaultValue : Value Double) :
    Option (Value Double) :=
  object.members.map fun members => (members.lookup (cString key)).getD defaultValue

end Value

end MessageBus.Json
