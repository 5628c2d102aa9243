import MessageBus.Json.Deliveries

set_option autoImplicit false

namespace MessageBus.XParam

open Json

inductive Getter where
  | int8
  | int16
  | int32
  | uint8
  | uint16
  | uint32
  | ulongLong
  | str
  | bool
  | charArray
  | xparam
  | xparamVector
  | xparamMap
  deriving DecidableEq, Repr

variable {Double : Type}

section Typed

def signedValue (width : Nat) : Value Double -> Option Int
  | .int value =>
    if -2 ^ (width - 1) ≤ value.toInt ∧ value.toInt < 2 ^ (width - 1) then some value.toInt else none
  | _ => none

def unsignedValue (width : Nat) : Value Double -> Option Nat
  | .int value => if 0 ≤ value.toInt ∧ value.toInt < 2 ^ width then some value.toInt.toNat else none
  | .uint value => if value.toNat < 2 ^ width then some value.toNat else none
  | _ => none

def hexNumber (text : Bytes) : Option Nat :=
  text.foldlM (fun value c => (hexDigit c).map (value * 16 + ·)) 0

-- Numbers of 64 bits travel as the text of their hexadecimal digits.
def hexValue : Value Double -> Option Nat
  | .string text => if text = [] then none else (hexNumber text).filter (· < 2 ^ 64)
  | _ => none

def stringValue : Value Double -> Option Bytes
  | .string text => some text
  | _ => none

def booleanValue : Value Double -> Option Bool
  | .boolean value => some value
  | _ => none

def charsValue : Value Double -> Option Bytes
  | .array elements => elements.mapM fun element => (unsignedValue 8 element).map UInt8.ofNat
  | _ => none

def objectValue : Value Double -> Option (Value Double)
  | .object members => some (.object members)
  | _ => none

def objectsValue : Value Double -> Option (List (Value Double))
  | .array elements =>
    if elements.all fun element => (objectValue element).isSome then some elements else none
  | _ => none

def objectMapValue : Value Double -> Option (List (Bytes × Value Double))
  | .object members =>
    if members.all fun member => (objectValue member.2).isSome then
      some (members.foldl (fun made entry => OrderedMap.insert entry.1 entry.2 made) [])
    else none
  | _ => none

theorem mapM_of_imp {Item Read : Type} {first second : Item -> Option Read}
    (same : ∀ item read, first item = some read → second item = some read) (items : List Item)
    {reads : List Read} (read : items.mapM first = some reads) :
    items.mapM second = some reads := by
  induction items generalizing reads with
  | nil => exact read
  | cons item rest ih =>
    simp only [List.mapM_cons, Option.bind_eq_bind, Option.bind_eq_some_iff] at read ⊢
    obtain ⟨value, own, values, others, all⟩ := read
    exact ⟨value, same item value own, values, ih others, all⟩

theorem signedValue_some {width : Nat} {value : Value Double} {number : Int}
    (typed : signedValue width value = some number) :
    ∃ int, value = .int int ∧ number = int.toInt := by
  cases value with
  | int int =>
    simp only [signedValue, Option.ite_none_right_eq_some, Option.some.injEq] at typed
    exact ⟨int, rfl, typed.2.symm⟩
  | _ => cases typed

theorem toNat_toUInt32 {value : Int32} (positive : 0 ≤ value.toInt) :
    value.toUInt32.toNat = value.toInt.toNat := by
  have same : value.toInt = value.toUInt32.toBitVec.toInt := rfl
  have bound := value.toUInt32.toNat_lt
  rw [same, BitVec.toInt_eq_toNat_cond, UInt32.toNat_toBitVec] at positive ⊢
  split at positive <;> omega

theorem objectValue_some {value read : Value Double} (typed : objectValue value = some read) :
    value = read ∧ value.isObject = true := by
  cases value with
  | object members => exact ⟨Option.some.inj typed, rfl⟩
  | _ => cases typed

theorem hexNumber_some {text : Bytes} {value number : Nat}
    (read : text.foldlM (fun value c => (hexDigit c).map (value * 16 + ·)) value = some number) :
    readHex value text = number ∧ ∀ c ∈ text, (hexDigit c).isSome = true := by
  induction text generalizing value with
  | nil => exact ⟨Option.some.inj read, fun _ impossible => by cases impossible⟩
  | cons c rest ih =>
    simp only [List.foldlM_cons, Option.bind_eq_bind, Option.bind_eq_some_iff,
      Option.map_eq_some_iff] at read
    obtain ⟨_, ⟨digit, found, rfl⟩, read⟩ := read
    obtain ⟨same, digits⟩ := ih read
    refine ⟨?_, ?_⟩
    · rw [readHex, found]
      exact same
    · rintro other (_ | ⟨_, inside⟩)
      · rw [found]
        rfl
      · exact digits other inside

theorem hexValue_some {value : Value Double} {number : Nat}
    (typed : hexValue value = some number) :
    ∃ text, value = .string text ∧ strtoull16 text = .ofNat number := by
  cases value with
  | string text =>
    simp only [hexValue, Option.ite_none_left_eq_some, Option.filter_eq_some_iff,
      decide_eq_true_eq] at typed
    obtain ⟨filled, read, bound⟩ := typed
    obtain ⟨rfl, digits⟩ := hexNumber_some read
    exact ⟨text, rfl, strtoull16_digits filled digits bound⟩
  | _ => cases typed

variable [Doubles Double]

theorem unsignedValue_some {width : Nat} {value : Value Double} {number : Nat}
    (typed : unsignedValue width value = some number) :
    (value.isUInt || value.isInt) = true ∧ ∃ uint, value.asUInt = some uint ∧ number = uint.toNat := by
  cases value with
  | int int =>
    simp only [unsignedValue, Option.ite_none_right_eq_some, Option.some.injEq] at typed
    obtain ⟨⟨positive, -⟩, rfl⟩ := typed
    have above : 0 ≤ int := Int32.le_iff_toInt_le.mpr positive
    refine ⟨rfl, int.toUInt32, ?_, (toNat_toUInt32 positive).symm⟩
    rw [Value.asUInt, if_pos above]
  | uint uint =>
    simp only [unsignedValue, Option.ite_none_right_eq_some, Option.some.injEq] at typed
    exact ⟨rfl, uint, rfl, typed.2.symm⟩
  | _ => cases typed

end Typed

namespace Getter

@[reducible] def Out (Double : Type) : Getter -> Type
  | .int8 => Int8
  | .int16 => Int16
  | .int32 => Int32
  | .uint8 => UInt8
  | .uint16 => UInt16
  | .uint32 => UInt32
  | .ulongLong => UInt64
  | .str => Bytes
  | .bool => Bool
  | .charArray => Bytes
  | .xparam => Value Double
  | .xparamVector => List (Value Double)
  | .xparamMap => List (Bytes × Value Double)

-- What a value is to the getter if it has its type and fits its width.
def typed : (getter : Getter) -> Value Double -> Option (getter.Out Double)
  | .int8, value => (signedValue 8 value).map Int8.ofInt
  | .int16, value => (signedValue 16 value).map Int16.ofInt
  | .int32, value => (signedValue 32 value).map Int32.ofInt
  | .uint8, value => (unsignedValue 8 value).map UInt8.ofNat
  | .uint16, value => (unsignedValue 16 value).map UInt16.ofNat
  | .uint32, value => (unsignedValue 32 value).map UInt32.ofNat
  | .ulongLong, value => (hexValue value).map UInt64.ofNat
  | .str, value => stringValue value
  | .bool, value => booleanValue value
  | .charArray, value => charsValue value
  | .xparam, value => objectValue value
  | .xparamVector, value => objectsValue value
  | .xparamMap, value => objectMapValue value

def accepts : Getter -> Value Double -> Bool
  | .int8, value | .int16, value | .int32, value => value.isInt
  | .uint8, value | .uint16, value | .uint32, value => value.isUInt || value.isInt
  | .ulongLong, _ => true
  | .str, value => value.isString
  | .bool, value => value.isBool
  | .charArray, value | .xparamVector, value => value.isArray
  | .xparam, value | .xparamMap, value => value.isObject

variable [Doubles Double]

def get : (getter : Getter) -> Value Double -> Bytes -> getter.Out Double ->
    Option (getter.Out Double)
  | .int8 => getInt8
  | .int16 => getInt16
  | .int32 => getInt
  | .uint8 => getUInt8
  | .uint16 => getUInt16
  | .uint32 => getUInt
  | .ulongLong => getULongLong
  | .str => getStr
  | .bool => getBool
  | .charArray => getCharArray
  | .xparam => getXParam
  | .xparamVector => getXParamVector
  | .xparamMap => getXParamMap

def convert : (getter : Getter) -> Value Double -> Option (getter.Out Double)
  | .int8, value => value.asInt.map Int32.toInt8
  | .int16, value => value.asInt.map Int32.toInt16
  | .int32, value => value.asInt
  | .uint8, value => value.asUInt.map UInt32.toUInt8
  | .uint16, value => value.asUInt.map UInt32.toUInt16
  | .uint32, value => value.asUInt
  | .ulongLong, value => (if value.isString then value.asString else some []).map strtoull16
  | .str, value => value.asString
  | .bool, value => some value.asBool
  | .charArray, value =>
    value.elements.bind (List.mapM fun element => element.asUInt.map UInt32.toUInt8)
  | .xparam, value => some value
  | .xparamVector, value => value.elements
  | .xparamMap, value =>
    value.members.map (List.foldl (fun made entry => OrderedMap.insert entry.1 entry.2 made) [])

theorem get_eq {param value : Value Double} {key : Bytes} (found : getValue param key = some value)
    (getter : Getter) (out : getter.Out Double) :
    getter.get param key out = if getter.accepts value then getter.convert value else some out := by
  cases getter <;>
    simp only [get, accepts, convert, getInt8, getInt16, getInt, getUInt8, getUInt16, getUInt,
      getULongLong, getStr, getBool, getCharArray, getXParam, getXParamVector, getXParamMap, found,
      Option.bind_some, Option.map_some]
  case bool | xparam => exact apply_ite some _ _ _
  case uint8 | uint16 | uint32 => cases value <;> rfl
  all_goals rfl

theorem convert_typed (getter : Getter) {value : Value Double} {read : getter.Out Double}
    (typed : getter.typed value = some read) :
    getter.accepts value = true ∧ getter.convert value = some read := by
  cases getter with
  | int8 | int16 | int32 =>
    obtain ⟨number, own, rfl⟩ := Option.map_eq_some_iff.mp typed
    obtain ⟨int, rfl, rfl⟩ := signedValue_some own
    refine ⟨rfl, ?_⟩
    simp [convert, Value.asInt]
  | uint8 | uint16 | uint32 =>
    obtain ⟨number, own, rfl⟩ := Option.map_eq_some_iff.mp typed
    obtain ⟨accepted, uint, read, rfl⟩ := unsignedValue_some own
    refine ⟨accepted, ?_⟩
    simp [convert, read]
  | ulongLong =>
    obtain ⟨number, own, rfl⟩ := Option.map_eq_some_iff.mp typed
    obtain ⟨text, rfl, read⟩ := hexValue_some own
    exact ⟨rfl, congrArg some read⟩
  | str =>
    cases value with
    | string text => exact ⟨rfl, typed⟩
    | _ => cases typed
  | bool =>
    cases value with
    | boolean value => exact ⟨rfl, typed⟩
    | _ => cases typed
  | charArray =>
    cases value with
    | array elements =>
      refine ⟨rfl, mapM_of_imp (fun element read own => ?_) elements typed⟩
      obtain ⟨number, char, rfl⟩ := Option.map_eq_some_iff.mp own
      obtain ⟨-, uint, asUInt, rfl⟩ := unsignedValue_some char
      simp [asUInt]
    | _ => cases typed
  | xparam =>
    obtain ⟨rfl, object⟩ := objectValue_some typed
    exact ⟨object, rfl⟩
  | xparamVector =>
    cases value with
    | array elements =>
      simp only [Getter.typed, objectsValue, Option.ite_none_right_eq_some] at typed
      exact ⟨rfl, typed.2⟩
    | _ => cases typed
  | xparamMap =>
    cases value with
    | object members =>
      simp only [Getter.typed, objectMapValue, Option.ite_none_right_eq_some] at typed
      exact ⟨rfl, typed.2⟩
    | _ => cases typed

theorem exists_different (Double : Type) (getter : Getter) :
    ∃ first second : getter.Out Double, first ≠ second := by
  cases getter with
  | int8 | int16 | int32 | uint8 | uint16 | uint32 | ulongLong => exact ⟨0, 1, by simp⟩
  | str | charArray => exact ⟨[], [0], by simp⟩
  | bool => exact ⟨false, true, by simp⟩
  | xparam => exact ⟨.null, .boolean true, by simp⟩
  | xparamVector => exact ⟨[], [.null], by simp⟩
  | xparamMap => exact ⟨[], [([], .null)], by simp⟩

end Getter

def member (param : Value Double) (key : Bytes) : Option (Value Double) :=
  param.members.bind fun members => members.lookup key

def Named (param : Value Double) : Prop :=
  ∃ members, param.members = some members ∧ ∀ entry ∈ members, 0 ∉ entry.1

theorem Named.getValue {param : Value Double} (named : Named param) (key : Bytes) :
    ∃ value, getValue param key = some value ∧
      ∀ own, member param key = some own → value = own := by
  obtain ⟨members, held, nulFree⟩ := named
  refine ⟨(members.lookup (cString key)).getD .null, ?_, ?_⟩
  · rw [XParam.getValue, Value.get, held, Option.map_some]
  · intro own there
    rw [member, held, Option.bind_some] at there
    rw [cString_eq (nulFree _ (OrderedMap.mem_of_lookup there)), there, Option.getD_some]

section Parsed

variable [Doubles Double]

theorem readObject_named {fuel : Nat} {members : List (Bytes × Value Double)}
    {lastName input rest : Bytes} {value : Value Double}
    (nulFree : ∀ entry ∈ members, 0 ∉ entry.1)
    (read : readObject fuel members lastName input = some (value, rest)) : Named value := by
  induction fuel generalizing members lastName input with
  | zero => cases read
  | succ fuel ih =>
    rw [readObject] at read
    dsimp only at read
    split at read
    next ended =>
      cases read
      exact ⟨members, rfl, nulFree⟩
    next =>
      split at read
      · cases read
      · obtain ⟨name, -, read⟩ := Option.bind_eq_some_iff.mp read
        split at read
        · cases read
        · obtain ⟨own, -, read⟩ := Option.bind_eq_some_iff.mp read
          have named : ∀ entry ∈ OrderedMap.insert (makeMemberName name) own.1 members,
              0 ∉ entry.1 := by
            intro entry inside
            rcases OrderedMap.mem_insert inside with rfl | older
            · exact (makeMemberName_plain name).1
            · exact nulFree entry older
          split at read
          · split at read
            · cases read
              exact ⟨_, rfl, named⟩
            · exact ih named read
          · cases read

theorem readArray_array {fuel : Nat} {elements : List (Value Double)} {input rest : Bytes}
    {value : Value Double} (read : readArray fuel elements input = some (value, rest)) :
    ∃ all, value = .array all := by
  induction fuel generalizing elements input with
  | zero => cases read
  | succ fuel ih =>
    rw [readArray] at read
    obtain ⟨element, -, read⟩ := Option.bind_eq_some_iff.mp read
    dsimp only at read
    split at read
    · cases read
      exact ⟨_, rfl⟩
    · exact ih read

theorem decodeNumber_number {text : Bytes} {value : Value Double}
    (decoded : decodeNumber text = some value) : value.isObject = false := by
  have double (decoded : decodeDouble text = some value) : value.isObject = false := by
    obtain ⟨number, -, rfl⟩ := Option.map_eq_some_iff.mp decoded
    rfl
  have scanned {number : UInt32 -> Value Double} {result : Scanned}
      (numbers : ∀ value, (number value).isObject = false)
      (decoded : ofScanned text number result = some value) : value.isObject = false := by
    cases result with
    | value found => exact Option.some.inj decoded ▸ numbers found
    | large => exact double decoded
    | malformed => cases decoded
  rw [decodeNumber] at decoded
  split at decoded
  · exact double decoded
  · split at decoded
    · exact scanned (fun _ => rfl) decoded
    · refine scanned (fun value => ?_) decoded
      rw [unsignedNumber]
      split <;> rfl

theorem readValue_named {fuel : Nat} {input rest : Bytes} {value : Value Double}
    (read : readValue fuel input = some (value, rest)) (object : value.isObject = true) :
    Named value := by
  cases fuel with
  | zero => cases read
  | succ fuel =>
    rw [readValue] at read
    split at read
    next => exact readObject_named (fun _ impossible => by cases impossible) read
    next =>
      split at read
      · cases read
        cases object
      · obtain ⟨all, rfl⟩ := readArray_array read
        cases object
    next =>
      obtain ⟨number, decoded, same⟩ := Option.map_eq_some_iff.mp read
      cases same
      rw [decodeNumber_number decoded] at object
      cases object
    next =>
      obtain ⟨string, -, same⟩ := Option.map_eq_some_iff.mp read
      cases same
      cases object
    next =>
      cases read
      cases object
    next =>
      cases read
      cases object
    next =>
      cases read
      exact ⟨[], rfl, fun _ impossible => by cases impossible⟩
    next => cases read

theorem fromJsonStr_named {before param : Value Double} {text : Bytes}
    (obtained : fromJsonStr before text = (true, param)) : Named param := by
  rw [fromJsonStr] at obtained
  cases parsed : (parse text : Option (Value Double)).filter Value.isObject with
  | none =>
    rw [parsed] at obtained
    cases obtained
  | some root =>
    rw [parsed] at obtained
    cases obtained
    obtain ⟨whole, object⟩ := Option.filter_eq_some_iff.mp parsed
    obtain ⟨read, found, rfl⟩ := Option.map_eq_some_iff.mp whole
    exact readValue_named found object

end Parsed

namespace Getter

variable [Doubles Double]

-- The getter never throws, and it leaves the variable of its caller alone unless the key has a
-- value of its type that fits its width.
def DeliversOrNothing (getter : Getter) (param : Value Double) (key : Bytes) : Prop :=
  ∀ out, ∃ after, getter.get param key out = some after ∧
    ((member param key).bind getter.typed = none → after = out)

omit [Doubles Double] in
def TestsType (getter : Getter) (param : Value Double) (key : Bytes) : Prop :=
  ∀ value, getValue param key = some value → getter.accepts value = true →
    ((member param key).bind getter.typed).isSome = true

theorem not_deliversOrNothing {getter : Getter} {param : Value Double} {key : Bytes}
    (out : getter.Out Double) (untyped : (member param key).bind getter.typed = none)
    (other : getter.get param key out ≠ some out) : ¬ getter.DeliversOrNothing param key := by
  intro delivers
  obtain ⟨after, got, kept⟩ := delivers out
  rw [kept untyped] at got
  exact other got

theorem get_typed {param : Value Double} (named : Named param) {key : Bytes} {getter : Getter}
    {read : getter.Out Double} (typed : (member param key).bind getter.typed = some read)
    (out : getter.Out Double) : getter.get param key out = some read := by
  obtain ⟨value, found, same⟩ := named.getValue key
  obtain ⟨own, there, typed⟩ := Option.bind_eq_some_iff.mp typed
  obtain ⟨accepted, converted⟩ := getter.convert_typed (same own there ▸ typed)
  rw [get_eq found, if_pos accepted, converted]

theorem deliversOrNothing_iff {param : Value Double} (named : Named param) (key : Bytes)
    (getter : Getter) : getter.DeliversOrNothing param key ↔ getter.TestsType param key := by
  obtain ⟨value, found, -⟩ := named.getValue key
  constructor
  · intro delivers other there accepted
    cases found.symm.trans there
    -- The converted value would be every variable's own.
    by_contra untyped
    rw [Option.not_isSome_iff_eq_none] at untyped
    have constant (out : getter.Out Double) : getter.convert value = some out := by
      obtain ⟨after, got, kept⟩ := delivers out
      rw [get_eq found, if_pos accepted] at got
      rw [got, kept untyped]
    obtain ⟨first, second, different⟩ := getter.exists_different Double
    exact different (Option.some.inj ((constant first).symm.trans (constant second)))
  · intro tests out
    cases typed : (member param key).bind getter.typed with
    | some read => exact ⟨read, get_typed named typed out, fun impossible => by cases impossible⟩
    | none =>
      refine ⟨out, ?_, fun _ => rfl⟩
      rw [get_eq found, if_neg]
      intro accepted
      have isTyped := tests value found accepted
      rw [typed] at isTyped
      cases isTyped

-- The values that pass the test of a getter only where they have its type and fit its width.
def Fits : Getter -> Value Double -> Prop
  | .int8, .int value => -2 ^ 7 ≤ value.toInt ∧ value.toInt < 2 ^ 7
  | .int16, .int value => -2 ^ 15 ≤ value.toInt ∧ value.toInt < 2 ^ 15
  | .uint8, .int value => 0 ≤ value.toInt ∧ value.toInt < 2 ^ 8
  | .uint8, .uint value => value.toNat < 2 ^ 8
  | .uint16, .int value => 0 ≤ value.toInt ∧ value.toInt < 2 ^ 16
  | .uint16, .uint value => value.toNat < 2 ^ 16
  | .uint32, .int value => 0 ≤ value.toInt
  | .ulongLong, .string text => text ≠ [] ∧ ∃ number, hexNumber text = some number ∧ number < 2 ^ 64
  | .ulongLong, _ => False
  | .charArray, .null | .xparam, .null | .xparamVector, .null | .xparamMap, .null => False
  | .charArray, .array elements =>
    ∀ element ∈ elements, ∃ number, unsignedValue 8 element = some number
  | .xparamVector, .array elements => ∀ element ∈ elements, ∃ inner, element = .object inner
  | .xparamMap, .object members => ∀ member ∈ members, ∃ inner, member.2 = .object inner
  | _, _ => True

omit [Doubles Double] in
theorem objectValue_isSome {value : Value Double} :
    (objectValue value).isSome = true ↔ ∃ inner, value = .object inner := by
  cases value <;> simp [objectValue]

omit [Doubles Double] in
theorem mapM_isSome {Item Read : Type} {read : Item -> Option Read} {items : List Item} :
    (items.mapM read).isSome = true ↔ ∀ item ∈ items, ∃ value, read item = some value := by
  induction items with
  | nil => simp
  | cons item rest ih =>
    rw [List.forall_mem_cons, ← ih]
    cases own : read item <;> cases others : rest.mapM read <;> simp [own, others]

omit [Doubles Double] in
theorem fits_iff (getter : Getter) (value : Value Double) :
    (getter.accepts value = true → (getter.typed value).isSome = true) ↔ getter.Fits value := by
  cases getter with
  | int8 | int16 | str | bool | xparam =>
    cases value <;> simp [accepts, typed, Fits, signedValue, stringValue, booleanValue,
      objectValue, Value.isInt, Value.isString, Value.isBool, Value.isObject]
  | int32 =>
    cases value with
    | int value =>
      have inside := And.intro (Int32.le_toInt value) (Int32.toInt_lt value)
      simpa [accepts, typed, Fits, signedValue, Value.isInt] using inside
    | _ => simp [accepts, Fits, Value.isInt]
  | uint8 | uint16 =>
    cases value <;> simp [accepts, typed, Fits, unsignedValue, Value.isUInt, Value.isInt]
  | uint32 =>
    cases value with
    | int value =>
      have inside : value.toInt < 2 ^ 32 := lt_trans (Int32.toInt_lt value) (by decide)
      simp only [accepts, typed, Fits, unsignedValue, Value.isUInt, Value.isInt, inside, and_true]
      split <;> simp [*]
    | uint value =>
      simpa [accepts, typed, Fits, unsignedValue] using fun _ => value.toNat_lt
    | _ => simp [accepts, Fits, Value.isUInt, Value.isInt]
  | ulongLong =>
    cases value <;> simp [accepts, typed, Fits, hexValue, Option.isSome_iff_exists,
      Option.filter_eq_some_iff]
  | charArray =>
    cases value <;> simp [accepts, typed, Fits, charsValue, Value.isArray, mapM_isSome]
  | xparamVector =>
    cases value <;> simp [accepts, typed, Fits, objectsValue, Value.isArray, objectValue_isSome]
  | xparamMap =>
    cases value <;> simp [accepts, typed, Fits, objectMapValue, Value.isObject, objectValue_isSome]

omit [Doubles Double] in
theorem typed_null (getter : Getter) : getter.typed (.null : Value Double) = none := by
  cases getter <;> rfl

omit [Doubles Double] in
-- A name has no NUL in it, so that a key with one is never there and is found as its front.
theorem testsType_iff {param : Value Double} (named : Named param) (key : Bytes)
    (getter : Getter) :
    (0 ∉ key → (getter.TestsType param key ↔ getter.Fits ((member param key).getD .null))) ∧
      (0 ∈ key → (getter.TestsType param key ↔
        getter.accepts ((member param (cString key)).getD .null) = false)) := by
  obtain ⟨members, held, nulFree⟩ := named
  have found : getValue param key = some ((member param (cString key)).getD .null) := by
    rw [getValue, Value.get, member, held]
    rfl
  have tests : getter.TestsType param key ↔
      (getter.accepts ((member param (cString key)).getD .null) = true →
        ((member param key).bind getter.typed).isSome = true) := by
    refine ⟨fun tests => tests _ found, fun tests value there => ?_⟩
    cases found.symm.trans there
    exact tests
  rw [tests]
  refine ⟨fun plain => ?_, fun nul => ?_⟩
  · rw [cString_eq plain, ← getter.fits_iff]
    cases member param key with
    | some value => rfl
    | none => rw [Option.bind_none, Option.getD_none, getter.typed_null]
  · have missing : member param key = none := by
      rw [member, held, Option.bind_some, List.lookup_eq_none_iff]
      intro entry inside
      have different : key ≠ entry.1 := fun same => nulFree entry inside (same ▸ nul)
      simpa using different
    simp [missing]

end Getter

theorem getters_deliver_or_nothing [Doubles Double] (before param : Value Double) (text : Bytes)
    (obtained : fromJsonStr before text = (true, param)) (key : Bytes) (getter : Getter) :
    (getter.DeliversOrNothing param key ↔ getter.TestsType param key) ∧
      ∀ read, (member param key).bind getter.typed = some read →
        ∀ out, getter.get param key out = some read := by
  have named := fromJsonStr_named obtained
  exact ⟨Getter.deliversOrNothing_iff named key getter,
    fun read typed out => Getter.get_typed named typed out⟩

-- The text {"k":-300}.
def belowText : Bytes := [0x7B, 0x22, 0x6B, 0x22, 0x3A, 0x2D, 0x33, 0x30, 0x30, 0x7D]

def below : Value Int := .object [([0x6B], .int (-300))]

theorem below_read : fromJsonStr (.null : Value Int) belowText = (true, below) := by rfl

theorem getters_deliver_below :
    Getter.DeliversOrNothing .int16 below [0x6B] ∧
      ∀ out, Getter.get .int16 below [0x6B] out = some (-300) := by
  obtain ⟨exactly, typed⟩ := getters_deliver_or_nothing .null below belowText below_read [0x6B] .int16
  have found : (member below [0x6B]).bind Getter.int16.typed = some (-300) := by rfl
  refine ⟨exactly.mpr ?_, typed (-300) found⟩
  have fits : Getter.Fits .int16 ((member below [0x6B]).getD .null) :=
    (by decide : -2 ^ 15 ≤ (-300 : Int32).toInt ∧ (-300 : Int32).toInt < 2 ^ 15)
  exact ((Getter.testsType_iff (fromJsonStr_named below_read) [0x6B] .int16).1 (by decide)).mpr fits

-- A negative number throws, a wide one is cut, and a missing one is a zero.
theorem below_not_left :
    fromJsonStr (.null : Value Int) belowText = (true, below) ∧
      Getter.get .uint32 below [0x6B] 5 = none ∧
      Getter.get .int8 below [0x6B] 5 = some (-44) ∧
      Getter.get .ulongLong below [0x61] 5 = some 0 ∧
      ¬ Getter.DeliversOrNothing .uint32 below [0x6B] ∧
      ¬ Getter.DeliversOrNothing .int8 below [0x6B] ∧
      ¬ Getter.DeliversOrNothing .ulongLong below [0x61] := by
  have throws : Getter.get .uint32 below [0x6B] 5 = none := by rfl
  have cut : Getter.get .int8 below [0x6B] 5 = some (-44) := by rfl
  have zero : Getter.get .ulongLong below [0x61] 5 = some 0 := by rfl
  refine ⟨below_read, throws, cut, zero, ?_, ?_, ?_⟩
  · apply Getter.not_deliversOrNothing 5 (by rfl)
    rw [throws]
    exact (Option.some_ne_none 5).symm
  · apply Getter.not_deliversOrNothing 5 (by rfl)
    rw [cut]
    decide
  · apply Getter.not_deliversOrNothing 5 (by rfl)
    rw [zero]
    decide

end MessageBus.XParam
