import MessageBus.Json.Reader
import MessageBus.Wire.Content

set_option autoImplicit false

-- The calls of core::XParam on the value it holds, m_internal_obj. None is what the source leaves
-- undefined, or a conversion that throws.
namespace MessageBus.XParam

open Json Content

-- strtoull(text, NULL, 16).
def readHex : Nat -> Bytes -> Nat
  | value, [] => value
  | value, c :: rest =>
    match hexDigit c with
    | some digit => readHex (value * 16 + digit) rest
    | none => value

def skipHexMark (text : Bytes) : Bytes :=
  if text.take 2 ∈ [[0x30, 0x78], [0x30, 0x58]] ∧ ((text.drop 2).head?.bind hexDigit).isSome then
    text.drop 2
  else text

def strtoull16 (text : Bytes) : UInt64 :=
  let signed := text.dropWhile (· ∈ [0x20, 0x09, 0x0A, 0x0B, 0x0C, 0x0D])
  let unsigned := if signed.head? ∈ [some minus, some 0x2B] then signed.tail else signed
  let value := readHex 0 (skipHexMark unsigned)
  if value ≥ 2 ^ 64 then 0xFFFFFFFFFFFFFFFF
  else if signed.head? = some minus then -.ofNat value
  else .ofNat value

variable {Double : Type}

def putInt (param : Value Double) (key : Bytes) (value : Int32) : Option (Value Double) :=
  param.put key (.int value)

def putUInt (param : Value Double) (key : Bytes) (value : UInt32) : Option (Value Double) :=
  param.put key (.uint value)

def putStr (param : Value Double) (key value : Bytes) : Option (Value Double) :=
  param.put key (.ofString value)

-- "%" PRIx64.
def putULongLong (param : Value Double) (key : Bytes) (value : UInt64) : Option (Value Double) :=
  putStr param key (digitText 16 value.toNat)

def putBool (param : Value Double) (key : Bytes) (value : Bool) : Option (Value Double) :=
  param.put key (.boolean value)

def putCharArray (param : Value Double) (key chararray : Bytes) : Option (Value Double) :=
  (chararray.foldlM (fun array onechar => Value.append array (.uint onechar.toUInt32)) .null).bind
    (param.put key)

def putXParam (param : Value Double) (key : Bytes) (value : Value Double) :
    Option (Value Double) :=
  param.put key value

def putXParamVector (param : Value Double) (key : Bytes) (params : List (Value Double)) :
    Option (Value Double) :=
  (params.foldlM (fun paramarray one => Value.append paramarray one) .null).bind (param.put key)

def putXParamMap (param : Value Double) (key : Bytes) (params : List (Bytes × Value Double)) :
    Option (Value Double) :=
  (params.foldlM (fun paramobj entry => Value.put paramobj entry.1 entry.2) .null).bind
    (param.put key)

def getValue (param : Value Double) (key : Bytes) : Option (Value Double) := param.get key .null

def getStr (param : Value Double) (key value : Bytes) : Option Bytes :=
  (getValue param key).bind fun result =>
    if result.isString then result.asString else some value

def getULongLong (param : Value Double) (key : Bytes) (_value : UInt64) : Option UInt64 :=
  (getStr param key []).map strtoull16

def getXParam (param : Value Double) (key : Bytes) (value : Value Double) :
    Option (Value Double) :=
  (getValue param key).map fun result => if result.isObject then result else value

def getXParamVector (param : Value Double) (key : Bytes) (params : List (Value Double)) :
    Option (List (Value Double)) :=
  (getValue param key).bind fun result =>
    if result.isArray then result.elements else some params

def getXParamMap (param : Value Double) (key : Bytes) (params : List (Bytes × Value Double)) :
    Option (List (Bytes × Value Double)) :=
  (getValue param key).bind fun result =>
    if result.isObject then
      result.members.map (List.foldl (fun made entry => OrderedMap.insert entry.1 entry.2 made) [])
    else some params

variable [Doubles Double]

def getInt (param : Value Double) (key : Bytes) (value : Int32) : Option Int32 :=
  (getValue param key).bind fun result => if result.isInt then result.asInt else some value

def getInt16 (param : Value Double) (key : Bytes) (value : Int16) : Option Int16 :=
  (getValue param key).bind fun result =>
    if result.isInt then result.asInt.map Int32.toInt16 else some value

def getInt8 (param : Value Double) (key : Bytes) (value : Int8) : Option Int8 :=
  (getValue param key).bind fun result =>
    if result.isInt then result.asInt.map Int32.toInt8 else some value

def getUInt8 (param : Value Double) (key : Bytes) (value : UInt8) : Option UInt8 :=
  (getValue param key).bind fun result =>
    if result.isUInt ∨ result.isInt then result.asUInt.map UInt32.toUInt8 else some value

def getUInt16 (param : Value Double) (key : Bytes) (value : UInt16) : Option UInt16 :=
  (getValue param key).bind fun result =>
    if result.isUInt ∨ result.isInt then result.asUInt.map UInt32.toUInt16 else some value

def getUInt (param : Value Double) (key : Bytes) (value : UInt32) : Option UInt32 :=
  (getValue param key).bind fun result =>
    if result.isUInt ∨ result.isInt then result.asUInt else some value

def getBool (param : Value Double) (key : Bytes) (value : Bool) : Option Bool :=
  (getValue param key).map fun result => if result.isBool then result.asBool else value

def getCharArray (param : Value Double) (key chararray : Bytes) : Option Bytes :=
  (getValue param key).bind fun result =>
    if result.isArray then
      result.elements.bind (List.mapM fun element => element.asUInt.map UInt32.toUInt8)
    else some chararray

def toJsonStr (param : Value Double) : Bytes := write param

def toMsgBusParam (param : Value Double) : MsgBusParam :=
  { paramdata := toJsonStr param, paramlen := .ofNat (toJsonStr param).length }

def fromJsonStr (param : Value Double) (jsonstr : Bytes) : Bool × Value Double :=
  ((parse jsonstr).filter Value.isObject).elim (false, param.clear) fun root => (true, root)

def fromMsgBusParam (param : Value Double) (message : MsgBusParam) : Bool × Value Double :=
  fromJsonStr param message.content

end MessageBus.XParam
