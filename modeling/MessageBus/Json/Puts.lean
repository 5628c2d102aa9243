import MessageBus.Json.XParam

set_option autoImplicit false

namespace MessageBus.XParam

open Json Content

-- A key or a string as put_Str asks for it.
structure CText where
  bytes : Bytes
  nulFree : 0 ∉ bytes

mutual

inductive Puts where
  | empty
  | put (before : Puts) (key : CText) (value : PutValue)

inductive PutValue where
  | int (value : Int32)
  | uint (value : UInt32)
  | uLongLong (value : UInt64)
  | str (value : CText)
  | bool (value : Bool)
  | charArray (value : Bytes)
  | xparam (value : Puts)
  | xparamVector (params : PutsVector)
  | xparamMap (params : PutsMap)

inductive PutsVector where
  | nil
  | cons (param : Puts) (params : PutsVector)

-- A std::map<std::string, XParam> by its assignments.
inductive PutsMap where
  | empty
  | assign (before : PutsMap) (key : CText) (param : Puts)

end

variable {Double : Type}

mutual

def Puts.build : Puts -> Option (Value Double)
  | .empty => some .null
  | .put before key value => before.build.bind fun param => value.putInto param key.bytes

def PutValue.putInto (param : Value Double) (key : Bytes) : PutValue -> Option (Value Double)
  | .int value => putInt param key value
  | .uint value => putUInt param key value
  | .uLongLong value => putULongLong param key value
  | .str value => putStr param key value.bytes
  | .bool value => putBool param key value
  | .charArray value => putCharArray param key value
  | .xparam value => value.build.bind (putXParam param key)
  | .xparamVector params => params.build.bind (putXParamVector param key)
  | .xparamMap params => params.build.bind (putXParamMap param key)

def PutsVector.build : PutsVector -> Option (List (Value Double))
  | .nil => some []
  | .cons param params => param.build.bind fun first => params.build.map (first :: ·)

def PutsMap.build : PutsMap -> Option (List (Bytes × Value Double))
  | .empty => some []
  | .assign before key param =>
    before.build.bind fun entries =>
      param.build.map fun value => OrderedMap.insert key.bytes value entries

end

def Puts.lastPut (key : Bytes) : Puts -> Option PutValue
  | .empty => none
  | .put before last value => if last.bytes = key then some value else before.lastPut key

variable [Doubles Double]

mutual

-- The getter that matches the put yields its value, whatever the variable held. A key met before
-- belongs to a later put.
def Puts.Delivered (param : Value Double) : List Bytes -> Puts -> Prop
  | _, .empty => True
  | later, .put before key value =>
    (key.bytes ∉ later -> value.Yielded param key.bytes) ∧
      before.Delivered param (key.bytes :: later)

def PutValue.Yielded (param : Value Double) (key : Bytes) : PutValue -> Prop
  | .int value => ∀ old, getInt param key old = some value
  | .uint value => ∀ old, getUInt param key old = some value
  | .uLongLong value => ∀ old, getULongLong param key old = some value
  | .str value => ∀ old, getStr param key old = some value.bytes
  | .bool value => ∀ old, getBool param key old = some value
  | .charArray value => ∀ old, getCharArray param key old = some value
  | .xparam value =>
    ∃ read, (∀ old, getXParam param key old = some read) ∧ value.Delivered read []
  | .xparamVector params =>
    ∃ read, (∀ old, getXParamVector param key old = some read) ∧ params.Delivered read
  | .xparamMap params =>
    ∃ read, (∀ old, getXParamMap param key old = some read) ∧ params.Delivered read []

def PutsVector.Delivered : List (Value Double) -> PutsVector -> Prop
  | read, .nil => read = []
  | read, .cons param params =>
    ∃ first rest, read = first :: rest ∧ param.Delivered first [] ∧ params.Delivered rest

def PutsMap.Delivered (read : List (Bytes × Value Double)) : List Bytes -> PutsMap -> Prop
  | later, .empty => ∀ entry ∈ read, entry.1 ∈ later
  | later, .assign before key param =>
    (key.bytes ∉ later ->
        ∃ value, read.lookup key.bytes = some value ∧ param.Delivered value []) ∧
      before.Delivered read (key.bytes :: later)

end

-- Across the message bus and back: every key's last put can be had again.
def Survives (Double : Type) [Doubles Double] (x : Puts) : Prop :=
  ∀ y : Value Double, ∃ param : Value Double, x.build = some param ∧
    (fromMsgBusParam y (toMsgBusParam param)).1 = true ∧
    ∀ key value, x.lastPut key = some value ->
      value.Yielded (fromMsgBusParam y (toMsgBusParam param)).2 key

mutual

-- What holds of every value that no later put on its key replaces.
def Puts.Every (holds : Bytes -> PutValue -> Prop) : List Bytes -> Puts -> Prop
  | _, .empty => True
  | later, .put before key value =>
    (key.bytes ∉ later -> holds key.bytes value ∧ value.Every holds) ∧
      before.Every holds (key.bytes :: later)

def PutValue.Every (holds : Bytes -> PutValue -> Prop) : PutValue -> Prop
  | .xparam value => value.Every holds []
  | .xparamVector params => params.Every holds
  | .xparamMap params => params.Every holds []
  | .int _ | .uint _ | .uLongLong _ | .str _ | .bool _ | .charArray _ => True

def PutsVector.Every (holds : Bytes -> PutValue -> Prop) : PutsVector -> Prop
  | .nil => True
  | .cons param params => param.Every holds [] ∧ params.Every holds

def PutsMap.Every (holds : Bytes -> PutValue -> Prop) : List Bytes -> PutsMap -> Prop
  | _, .empty => True
  | later, .assign before key param =>
    (key.bytes ∉ later -> holds key.bytes (.xparam param) ∧ param.Every holds []) ∧
      before.Every holds (key.bytes :: later)

end

-- What reaches the other side: every int32 but the nine smallest and every uint32 but the six
-- largest (the reader takes those for doubles), and the strings whose length is an unsigned int.
def Kept (_key : Bytes) : PutValue -> Prop
  | .int value => -2147483640 < value
  | .uint value => value < 4294967290
  | .str value => value.bytes.length < 2 ^ 32
  | _ => True

def KeySized (key : Bytes) (_value : PutValue) : Prop := key.length < 2 ^ 32

-- The length of a parameter is a uint32_t.
def Short (Double : Type) [Doubles Double] (x : Puts) : Prop :=
  ∀ param : Value Double, x.build = some param -> (toJsonStr param).length < 2 ^ 32

end MessageBus.XParam
