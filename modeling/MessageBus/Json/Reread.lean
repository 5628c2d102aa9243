import MessageBus.Json.Deliveries

set_option autoImplicit false

namespace MessageBus.Json

open XParam

variable {Double : Type}

mutual

-- A value without doubles, the only ones whose texts the machine is asked for.
def Exact : Value Double -> Prop
  | .real _ => False
  | .array elements => ExactElements elements
  | .object members => ExactMembers members
  | .null | .int _ | .uint _ | .string _ | .boolean _ => True

def ExactElements : List (Value Double) -> Prop
  | [] => True
  | value :: rest => Exact value ∧ ExactElements rest

def ExactMembers : List (Bytes × Value Double) -> Prop
  | [] => True
  | (_, value) :: rest => Exact value ∧ ExactMembers rest

end

theorem exactElements_iff {elements : List (Value Double)} :
    ExactElements elements ↔ ∀ value ∈ elements, Exact value := by
  induction elements with
  | nil => simp [ExactElements]
  | cons value rest ih => simp [ExactElements, ih]

theorem exactMembers_iff {members : List (Bytes × Value Double)} :
    ExactMembers members ↔ ∀ member ∈ members, Exact member.2 := by
  induction members with
  | nil => simp [ExactMembers]
  | cons member rest ih =>
    obtain ⟨name, value⟩ := member
    simp only [ExactMembers, ih, List.forall_mem_cons]

variable [Doubles Double]

-- Nothing that is read comes out differently when it is written and read again.
structure Settled (value : Value Double) : Prop where
  plain : Plain value
  again : received value = some value

theorem receivedElements_settled {elements : List (Value Double)}
    (settled : ∀ value ∈ elements, Settled value) : receivedElements elements = some elements := by
  induction elements with
  | nil => rfl
  | cons value rest ih =>
    rw [receivedElements, (settled value List.mem_cons_self).again, Option.bind_some,
      ih fun value inside => settled value (List.mem_cons_of_mem _ inside)]
    rfl

theorem receivedMembers_settled {members : List (Bytes × Value Double)}
    (settled : ∀ member ∈ members, Settled member.2) : receivedMembers members = some members := by
  induction members with
  | nil => rfl
  | cons member rest ih =>
    obtain ⟨name, value⟩ := member
    rw [receivedMembers, (settled _ List.mem_cons_self).again, Option.bind_some,
      ih fun member inside => settled member (List.mem_cons_of_mem _ inside)]
    rfl

theorem settled_array {elements : List (Value Double)}
    (settled : ∀ value ∈ elements, Settled value) : Settled (.array elements) where
  plain := plainElements_iff.mpr fun value inside => (settled value inside).plain
  again := by
    rw [received, receivedElements_settled settled]
    rfl

section Numbers

-- The last digit is read behind a value below the threshold, so the number has one digit more.
theorem decodeDigits_below {threshold value number : UInt32} (fits : threshold ≤ maxUInt / 10)
    (below : value.toNat < threshold.toNat * 10) {text : Bytes}
    (read : decodeDigits threshold value text = .value number) :
    number.toNat < threshold.toNat * 10 := by
  have bound : threshold.toNat ≤ 429496729 := fits
  induction text generalizing value with
  | nil =>
    cases read
    exact below
  | cons c rest ih =>
    rw [decodeDigits] at read
    split_ifs at read with isDigit reached
    have apart := of_decide_eq_true isDigit
    have place : (c - 0x30).toUInt32.toNat ≤ 9 := by
      rw [UInt8.toNat_toUInt32, UInt8.toNat_sub_of_le _ _ apart.1]
      have last : c.toNat ≤ 0x39 := apart.2
      simp only [UInt8.reduceToNat]
      omega
    have before : value.toNat < threshold.toNat := UInt32.not_le.mp reached
    refine ih ?_ read
    rw [UInt32.toNat_add, UInt32.toNat_mul, show (10 : UInt32).toNat = 10 from rfl,
      Nat.mod_eq_of_lt (show value.toNat * 10 < 2 ^ 32 by omega), Nat.mod_eq_of_lt] <;> omega

theorem toInt_toInt32 {value : UInt32} (signed : value.toNat < 2147483648) :
    value.toInt32.toInt = value.toNat := by
  rw [← Int32.toInt_toBitVec, UInt32.toBitVec_toInt32, BitVec.toInt_eq_toNat_cond,
    UInt32.toNat_toBitVec]
  split_ifs <;> omega

theorem settled_negative {value : UInt32} (below : value.toNat < 2147483640) :
    Settled (.int (-value.toInt32) : Value Double) where
  plain := trivial
  again := by
    have above : -2147483640 < -value.toInt32 := by
      have negated := Int32.toInt_neg value.toInt32
      rw [toInt_toInt32 (by omega), Int.bmod_eq_of_le (by omega) (by omega)] at negated
      rw [Int32.lt_iff_toInt_lt, negated, show (-2147483640 : Int32).toInt = -2147483640 from rfl]
      omega
    rw [received, if_pos above]

theorem settled_unsigned {value : UInt32} (below : value.toNat < 4294967290) :
    Settled (unsignedNumber value : Value Double) := by
  rw [unsignedNumber]
  split_ifs with signed
  · have small : value.toNat ≤ 2147483647 := signed
    have above : -2147483640 < value.toInt32 := by
      rw [Int32.lt_iff_toInt_lt, toInt_toInt32 (by omega),
        show (-2147483640 : Int32).toInt = -2147483640 from rfl]
      omega
    exact ⟨trivial, by rw [received, if_pos above]⟩
  · refine ⟨trivial, ?_⟩
    rw [received, if_pos (UInt32.lt_iff_toNat_lt.mpr below), unsignedNumber, if_neg signed]

theorem ofScanned_settled {text : Bytes} {number : UInt32 -> Value Double} {scanned : Scanned}
    {value : Value Double} (settled : ∀ value, scanned = .value value -> Settled (number value))
    (read : ofScanned text number scanned = some value) (exact : Exact value) :
    Settled value := by
  cases scanned with
  | value found => exact Option.some.inj read ▸ settled found rfl
  | large =>
    obtain ⟨double, -, rfl⟩ := Option.map_eq_some_iff.mp read
    exact exact.elim
  | malformed => cases read

theorem decodeNumber_settled {text : Bytes} {value : Value Double}
    (read : decodeNumber text = some value) (exact : Exact value) : Settled value := by
  rw [decodeNumber] at read
  split_ifs at read with isReal negative
  · obtain ⟨double, -, rfl⟩ := Option.map_eq_some_iff.mp read
    exact exact.elim
  · exact ofScanned_settled
      (fun number found => settled_negative (decodeDigits_below (by decide) (by decide) found))
      read exact
  · exact ofScanned_settled
      (fun number found => settled_unsigned (decodeDigits_below (by decide) (by decide) found))
      read exact

end Numbers

section Reader

-- What the reader has of an object so far. A member that holds a double may still be overwritten.
structure Kept (members : List (Bytes × Value Double)) : Prop where
  sorted : OrderedMap.Sorted members
  names : ∀ member ∈ members, 0 ∉ member.1 ∧ member.1.length < 2 ^ 32
  settled : ∀ member ∈ members, Exact member.2 -> Settled member.2

theorem kept_nil : Kept ([] : List (Bytes × Value Double)) where
  sorted := List.Pairwise.nil
  names _ impossible := by cases impossible
  settled _ impossible := by cases impossible

theorem Kept.insert {members : List (Bytes × Value Double)} (kept : Kept members) (name : Bytes)
    {value : Value Double} (settled : Exact value -> Settled value) :
    Kept (OrderedMap.insert (makeMemberName name) value members) where
  sorted := OrderedMap.insert_sorted kept.sorted
  names := by
    intro member inside
    rcases OrderedMap.mem_insert inside with rfl | old
    · exact makeMemberName_plain name
    · exact kept.names member old
  settled := by
    intro member inside
    rcases OrderedMap.mem_insert inside with rfl | old
    · exact settled
    · exact kept.settled member old

theorem Kept.object {members : List (Bytes × Value Double)} (kept : Kept members)
    (exact : Exact (.object members)) : Settled (.object members) where
  plain := by
    refine ⟨kept.sorted, plainMembers_iff.mpr fun member inside => ?_⟩
    exact ⟨kept.names member inside,
      (kept.settled member inside (exactMembers_iff.mp exact member inside)).plain⟩
  again := by
    rw [received, receivedMembers_settled fun member inside =>
      kept.settled member inside (exactMembers_iff.mp exact member inside)]
    rfl

mutual

theorem readValue_settled (fuel : Nat) {input rest : Bytes} {value : Value Double}
    (read : readValue fuel input = some (value, rest)) (exact : Exact value) : Settled value := by
  cases fuel with
  | zero => cases read
  | succ fuel =>
    rw [readValue] at read
    split at read
    next => exact readObject_settled fuel kept_nil read exact
    next =>
      split at read
      · cases read
        exact settled_array (by simp)
      · exact readArray_settled fuel (by simp) read exact
    next =>
      obtain ⟨number, decoded, same⟩ := Option.map_eq_some_iff.mp read
      cases same
      exact decodeNumber_settled decoded exact
    next =>
      obtain ⟨string, -, same⟩ := Option.map_eq_some_iff.mp read
      cases same
      exact ⟨ofString_plain string, rfl⟩
    next =>
      cases read
      exact ⟨trivial, rfl⟩
    next =>
      cases read
      exact ⟨trivial, rfl⟩
    next =>
      cases read
      exact ⟨trivial, rfl⟩
    next => cases read
termination_by fuel

theorem readObject_settled (fuel : Nat) {members : List (Bytes × Value Double)}
    (kept : Kept members) {lastName input rest : Bytes} {value : Value Double}
    (read : readObject fuel members lastName input = some (value, rest)) (exact : Exact value) :
    Settled value := by
  cases fuel with
  | zero => cases read
  | succ fuel =>
    rw [readObject] at read
    dsimp only at read
    split at read
    next =>
      cases read
      exact kept.object exact
    next =>
      split at read
      · cases read
      · obtain ⟨name, -, read⟩ := Option.bind_eq_some_iff.mp read
        split at read
        · cases read
        · obtain ⟨own, ownRead, read⟩ := Option.bind_eq_some_iff.mp read
          have next := kept.insert name (readValue_settled fuel ownRead)
          split at read
          · split at read
            · cases read
              exact next.object exact
            · exact readObject_settled fuel next read exact
          · cases read
termination_by fuel

theorem readArray_settled (fuel : Nat) {elements : List (Value Double)}
    (settled : ∀ value ∈ elements, Exact value -> Settled value) {input rest : Bytes}
    {value : Value Double} (read : readArray fuel elements input = some (value, rest))
    (exact : Exact value) : Settled value := by
  cases fuel with
  | zero => cases read
  | succ fuel =>
    rw [readArray] at read
    obtain ⟨own, ownRead, read⟩ := Option.bind_eq_some_iff.mp read
    have next : ∀ value ∈ elements ++ [own.1], Exact value -> Settled value := by
      intro value inside
      rcases List.mem_append.mp inside with old | last
      · exact settled value old
      · rw [List.mem_singleton.mp last]
        exact readValue_settled fuel ownRead
    dsimp only at read
    split at read
    · cases read
      exact settled_array fun value inside =>
        next value inside (exactElements_iff.mp exact value inside)
    · exact readArray_settled fuel next read exact
termination_by fuel

end

theorem parse_settled {text : Bytes} {value : Value Double} (read : parse text = some value)
    (exact : Exact value) : Settled value := by
  obtain ⟨found, root, rfl⟩ := Option.map_eq_some_iff.mp read
  exact readValue_settled _ root exact

end Reader

end MessageBus.Json

namespace MessageBus.XParam

open Json Content

variable {Double : Type} [Doubles Double]

theorem content_short {param : Value Double} (short : (toJsonStr param).length < 2 ^ 32) :
    (toMsgBusParam param).content = write param := by
  rw [MsgBusParam.content, toMsgBusParam, UInt32.toNat_ofNat_of_lt' short]
  exact List.take_length

theorem content_long {param : Value Double} (long : 2 ^ 32 ≤ (toJsonStr param).length) :
    ∃ count < (toJsonStr param).length - 1,
      (toMsgBusParam param).content = (write param).take count := by
  refine ⟨(toJsonStr param).length % 2 ^ 32, by omega, ?_⟩
  rw [MsgBusParam.content, toMsgBusParam, UInt32.toNat_ofNat']
  rfl

theorem fromMsgBusParam_accepted {before param : Value Double} {message : MsgBusParam}
    (accepted : fromMsgBusParam before message = (true, param)) :
    parse message.content = some param ∧ param.isObject = true := by
  rw [fromMsgBusParam, fromJsonStr] at accepted
  cases parsed : (parse message.content : Option (Value Double)).filter Value.isObject with
  | none =>
    rw [parsed] at accepted
    cases accepted
  | some root =>
    rw [parsed] at accepted
    cases accepted
    exact Option.filter_eq_some_iff.mp parsed

theorem fromMsgBusParam_refused {before : Value Double} {message : MsgBusParam}
    (refused : (parse message.content : Option (Value Double)) = none) :
    fromMsgBusParam before message = (false, before.clear) := by
  rw [fromMsgBusParam, fromJsonStr, refused]
  rfl

-- A text of 4 GiB or more is cut off, and no front of an object is one.
theorem reread_iff {param : Value Double} (settled : Settled param)
    (object : param.isObject = true) (before : Value Double) :
    fromMsgBusParam before (toMsgBusParam param) = (true, param) ↔
      (toJsonStr param).length < 2 ^ 32 := by
  constructor
  · intro accepted
    by_contra long
    have long := Nat.le_of_not_lt long
    cases param with
    | null =>
      have length : (toJsonStr (.null : Value Double)).length = 5 := rfl
      omega
    | object members =>
      cases members with
      | nil =>
        have length : (toJsonStr (.object [] : Value Double)).length = 3 := rfl
        omega
      | cons member more =>
        obtain ⟨count, short, cut⟩ := content_long long
        have length : (toJsonStr (.object (member :: more))).length =
            (writeValue (.object (member :: more))).length + 1 := by
          rw [toJsonStr, write, List.length_append]
          rfl
        have refused : (parse ((write (.object (member :: more))).take count) :
            Option (Value Double)) = none := parse_truncated settled.plain (by omega)
        rw [← cut] at refused
        rw [fromMsgBusParam_refused refused] at accepted
        cases accepted
    | int _ | uint _ | real _ | string _ | boolean _ | array _ => cases object
  · intro short
    rw [fromMsgBusParam, fromJsonStr, content_short short, parse_write settled.plain,
      settled.again, Option.filter_some_pos object]
    rfl

-- What receivers read that hand on each other's parameter, up to the first that refuses it. Each
-- of them held something before.
def handedOn : List (Value Double) -> MsgBusParam -> List (Bool × Value Double)
  | [], _ => []
  | before :: rest, message =>
    let read := fromMsgBusParam before message
    read :: if read.1 then handedOn rest (toMsgBusParam read.2) else []

theorem handedOn_short {param : Value Double} (settled : Settled param)
    (object : param.isObject = true) (short : (toJsonStr param).length < 2 ^ 32)
    (receivers : List (Value Double)) :
    handedOn receivers (toMsgBusParam param) = List.replicate receivers.length (true, param) := by
  induction receivers with
  | nil => rfl
  | cons before rest ih =>
    rw [handedOn, (reread_iff settled object before).mpr short]
    simp only [if_true, ih, List.length_cons, List.replicate_succ]

theorem handed_on_unchanged {before param : Value Double} {message : MsgBusParam}
    (read : fromMsgBusParam before message = (true, param)) (exact : Exact param)
    (receivers : List (Value Double)) :
    handedOn receivers (toMsgBusParam param) =
        List.replicate receivers.length (true, param) ↔
      receivers = [] ∨ (toJsonStr param).length < 2 ^ 32 := by
  obtain ⟨parsed, object⟩ := fromMsgBusParam_accepted read
  have settled := parse_settled parsed exact
  constructor
  · intro same
    cases receivers with
    | nil => exact .inl rfl
    | cons first rest =>
      rw [handedOn, List.length_cons, List.replicate_succ] at same
      exact .inr ((reread_iff settled object first).mp (List.cons.inj same).1)
  · rintro (rfl | short)
    · rfl
    · exact handedOn_short settled object short receivers

-- The text {"s":7, "k":[1:-2],/**/"s" :"\u0041\/"} with its space behind: two members of one
-- name, an array with a colon for its comma, a comment and two escapes.
def notedText : Bytes :=
  [0x7B, 0x22, 0x73, 0x22, 0x3A, 0x37, 0x2C, 0x20, 0x22, 0x6B, 0x22, 0x3A, 0x5B, 0x31, 0x3A, 0x2D,
    0x32, 0x5D, 0x2C, 0x2F, 0x2A, 0x2A, 0x2F, 0x22, 0x73, 0x22, 0x20, 0x3A, 0x22, 0x5C, 0x75,
    0x30, 0x30, 0x34, 0x31, 0x5C, 0x2F, 0x22, 0x7D, 0x20]

def noted : Value Int :=
  .object [([0x6B], .array [.int 1, .int (-2)]), ([0x73], .string [0x41, 0x2F])]

theorem handed_on_unchanged_noted :
    fromMsgBusParam (.null : Value Int) { paramdata := notedText, paramlen := 40 } = (true, noted) ∧
      handedOn [.null, .boolean true] (toMsgBusParam noted) = [(true, noted), (true, noted)] := by
  have read : fromMsgBusParam (.null : Value Int) { paramdata := notedText, paramlen := 40 } =
      (true, noted) := by rfl
  have exact : Exact noted := by simp [noted, Exact, ExactElements, ExactMembers]
  have short : (toJsonStr noted).length < 2 ^ 32 := by decide +kernel
  exact ⟨read, (handed_on_unchanged read exact [.null, .boolean true]).mpr (.inr short)⟩

end MessageBus.XParam
