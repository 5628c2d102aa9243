import MessageBus.Shared.Bytes

set_option autoImplicit false

-- Python's struct module, for formats that begin with '!': big-endian, standard sizes, no padding.
namespace StructFormat

open Bytes

inductive Code where
  | B
  | H
  | I
  | i
  | s (count : Nat)
  deriving DecidableEq, Repr

inductive Value where
  | int (value : Int)
  | str (bytes : Bytes)
  deriving DecidableEq, Repr

def Code.size : Code -> Nat
  | .B => 1
  | .H => 2
  | .I => 4
  | .i => 4
  | .s count => count

def calcsize (format : List Code) : Nat := (format.map Code.size).sum

-- The string cut or filled up to the field, as pack writes it.
def field (count : Nat) (bytes : Bytes) : Bytes :=
  bytes.take count ++ List.replicate (count - bytes.length) 0

-- `none` is struct.error, here and below.
def packOne : Code -> Value -> Option Bytes
  | .B, .int value => if 0 ≤ value ∧ value < 2 ^ 8 then some [.ofNat value.toNat] else none
  | .H, .int value => if 0 ≤ value ∧ value < 2 ^ 16 then some (htons (.ofNat value.toNat)) else none
  | .I, .int value => if 0 ≤ value ∧ value < 2 ^ 32 then some (htonl (.ofNat value.toNat)) else none
  | .i, .int value =>
    if -2 ^ 31 ≤ value ∧ value < 2 ^ 31 then some (htonl (Int32.ofInt value).toUInt32) else none
  | .s count, .str bytes => some (field count bytes)
  | _, _ => none

def pack : List Code -> List Value -> Option Bytes
  | [], [] => some []
  | code :: format, value :: values => do return (← packOne code value) ++ (← pack format values)
  | _, _ => none

def unpackOne (code : Code) (bytes : Bytes) : Value :=
  match code with
  | .B => .int (bytes.getD 0 0).toNat
  | .H => .int (ntohs bytes).toNat
  | .I => .int (ntohl bytes).toNat
  | .i => .int (ntohl bytes).toInt32.toInt
  | .s _ => .str bytes

def unpack : List Code -> Bytes -> Option (List Value)
  | [], _ => some []
  | code :: format, data =>
    if data.length < code.size then none
    else do return unpackOne code (data.take code.size) :: (← unpack format (data.drop code.size))

def unpackFrom (format : List Code) (data : Bytes) (offset : Nat) : Option (List Value) :=
  unpack format (data.drop offset)

-- A value as it is read back: only strings change.
def Code.read : Code -> Value -> Value
  | .s count, .str bytes => .str (field count bytes)
  | _, value => value

theorem Code.read_int (code : Code) (value : Int) : code.read (.int value) = .int value := by
  cases code <;> rfl

theorem Code.read_s (count : Nat) (bytes : Bytes) :
    Code.read (.s count) (.str bytes) = .str (field count bytes) := rfl

theorem field_length (count : Nat) (bytes : Bytes) : (field count bytes).length = count := by
  simp [field]
  omega

theorem field_whole (bytes : Bytes) : field bytes.length bytes = bytes := by
  simp [field]

theorem packOne_length {code : Code} {value : Value} {bytes : Bytes}
    (packed : packOne code value = some bytes) : bytes.length = code.size := by
  cases code <;> cases value <;>
    simp only [packOne, Option.ite_none_right_eq_some, Option.some.injEq, reduceCtorEq] at packed
  case s count chars =>
    subst packed
    exact field_length count chars
  all_goals
    obtain ⟨_, rfl⟩ := packed
    rfl

theorem packOne_B (value : UInt8) : packOne .B (.int value.toNat) = some [value] := by
  have bound := value.toNat_lt
  rw [packOne, if_pos (by omega), Int.toNat_natCast, UInt8.ofNat_toNat]

theorem packOne_H (value : UInt16) : packOne .H (.int value.toNat) = some (htons value) := by
  have bound := value.toNat_lt
  rw [packOne, if_pos (by omega), Int.toNat_natCast, UInt16.ofNat_toNat]

theorem packOne_I (value : UInt32) : packOne .I (.int value.toNat) = some (htonl value) := by
  have bound := value.toNat_lt
  rw [packOne, if_pos (by omega), Int.toNat_natCast, UInt32.ofNat_toNat]

theorem packOne_i (value : Int32) : packOne .i (.int value.toInt) = some (htonl value.toUInt32) := by
  rw [packOne, if_pos ⟨value.le_toInt, value.toInt_lt⟩, Int32.ofInt_toInt]

theorem unpackOne_packOne {code : Code} {value : Value} {bytes : Bytes}
    (packed : packOne code value = some bytes) : unpackOne code bytes = code.read value := by
  cases code <;> cases value <;>
    simp only [packOne, Option.ite_none_right_eq_some, Option.some.injEq, reduceCtorEq] at packed
  case s count chars =>
    subst packed
    rfl
  case B value =>
    obtain ⟨⟨nonneg, small⟩, rfl⟩ := packed
    simp [unpackOne, Code.read]
    omega
  case H value =>
    obtain ⟨⟨nonneg, small⟩, rfl⟩ := packed
    have loaded := ntohs_htons (.ofNat value.toNat) []
    rw [List.append_nil] at loaded
    simp [unpackOne, Code.read, loaded]
    omega
  case I value =>
    obtain ⟨⟨nonneg, small⟩, rfl⟩ := packed
    have loaded := ntohl_htonl (.ofNat value.toNat) []
    rw [List.append_nil] at loaded
    simp [unpackOne, Code.read, loaded]
    omega
  case i value =>
    obtain ⟨⟨low, high⟩, rfl⟩ := packed
    have loaded := ntohl_htonl (Int32.ofInt value).toUInt32 []
    rw [List.append_nil] at loaded
    simp only [unpackOne, loaded, Int32.toInt32_toUInt32, Code.read,
      Int32.toInt_ofInt_of_le low high]

theorem unpack_pack {format : List Code} {values : List Value} {bytes : Bytes}
    (packed : pack format values = some bytes) (rest : Bytes) :
    unpack format (bytes ++ rest) = some (format.zipWith Code.read values) := by
  induction format generalizing values bytes with
  | nil =>
    cases values with
    | nil => rfl
    | cons value values => cases packed
  | cons code format ih =>
    cases values with
    | nil => cases packed
    | cons value values =>
      simp only [pack, Option.bind_eq_bind, Option.bind_eq_some_iff, Option.pure_def,
        Option.some.injEq] at packed
      obtain ⟨first, written, others, following, rfl⟩ := packed
      have length := packOne_length written
      rw [unpack, if_neg (by simp [length]), List.append_assoc, List.take_left' length,
        List.drop_left' length, unpackOne_packOne written, ih following]
      rfl

theorem pack_length {format : List Code} {values : List Value} {bytes : Bytes}
    (packed : pack format values = some bytes) : bytes.length = calcsize format := by
  induction format generalizing values bytes with
  | nil =>
    cases values with
    | nil =>
      cases packed
      rfl
    | cons value values => cases packed
  | cons code format ih =>
    cases values with
    | nil => cases packed
    | cons value values =>
      simp only [pack, Option.bind_eq_bind, Option.bind_eq_some_iff, Option.pure_def,
        Option.some.injEq] at packed
      obtain ⟨first, written, others, following, rfl⟩ := packed
      rw [List.length_append, packOne_length written, ih following, calcsize, calcsize,
        List.map_cons, List.sum_cons]

theorem unpackFrom_front {format : List Code} {values : List Value} {front : Bytes}
    (packed : pack format values = some front) (rest : Bytes) :
    unpackFrom format (front ++ rest) 0 = some (format.zipWith Code.read values) ∧
      ∀ more, unpackFrom more (front ++ rest) (calcsize format) = unpack more rest := by
  constructor
  next => exact unpack_pack packed rest
  next =>
    intro more
    rw [unpackFrom, List.drop_left' (pack_length packed)]

end StructFormat
