import MessageBus.Json.Stored
import MessageBus.Json.Truncated

set_option autoImplicit false

namespace MessageBus.XParam

open Json Content

variable {Double : Type}

section Received

variable [Doubles Double]

theorem received_ofElements (elements : List (Value Double)) :
    received (ofElements elements) = (receivedElements elements).map ofElements := by
  cases elements with
  | nil => rfl
  | cons value rest =>
    change (receivedElements (value :: rest)).map Value.array = _
    rw [receivedElements]
    cases received value with
    | none => rfl
    | some read => cases receivedElements rest <;> rfl

theorem received_ofMembers (members : List (Bytes × Value Double)) :
    received (ofMembers members) = (receivedMembers members).map ofMembers := by
  cases members with
  | nil => rfl
  | cons member rest =>
    obtain ⟨name, value⟩ := member
    change (receivedMembers ((name, value) :: rest)).map Value.object = _
    rw [receivedMembers]
    cases received value with
    | none => rfl
    | some read => cases receivedMembers rest <;> rfl

theorem receivedMembers_lookup {members reads : List (Bytes × Value Double)}
    (read : receivedMembers members = some reads) {name : Bytes} {value : Value Double}
    (found : members.lookup name = some value) :
    ∃ got, received value = some got ∧ reads.lookup name = some got := by
  induction members generalizing reads with
  | nil => cases found
  | cons member rest ih =>
    obtain ⟨first, old⟩ := member
    rw [receivedMembers, Option.bind_eq_some_iff] at read
    obtain ⟨got, gotFirst, read⟩ := read
    obtain ⟨others, othersRead, rfl⟩ := Option.map_eq_some_iff.mp read
    by_cases here : name = first
    · subst here
      rw [List.lookup_cons_self, Option.some.injEq] at found
      subst found
      exact ⟨got, gotFirst, List.lookup_cons_self⟩
    · rw [OrderedMap.lookup_cons_ne here] at found
      rw [OrderedMap.lookup_cons_ne here]
      exact ih othersRead found

theorem receivedMembers_names {members reads : List (Bytes × Value Double)}
    (read : receivedMembers members = some reads) :
    reads.map Prod.fst = members.map Prod.fst := by
  induction members generalizing reads with
  | nil =>
    cases read
    rfl
  | cons member rest ih =>
    obtain ⟨first, old⟩ := member
    rw [receivedMembers, Option.bind_eq_some_iff] at read
    obtain ⟨got, gotFirst, read⟩ := read
    obtain ⟨others, othersRead, rfl⟩ := Option.map_eq_some_iff.mp read
    rw [List.map_cons, List.map_cons, ih othersRead]

theorem receivedMembers_some {members : List (Bytes × Value Double)}
    (all : ∀ member ∈ members, ∃ read, received member.2 = some read) :
    ∃ reads, receivedMembers members = some reads := by
  induction members with
  | nil => exact ⟨[], rfl⟩
  | cons member rest ih =>
    obtain ⟨name, value⟩ := member
    obtain ⟨read, first⟩ := all _ List.mem_cons_self
    obtain ⟨reads, others⟩ := ih fun member inside => all member (List.mem_cons_of_mem _ inside)
    exact ⟨(name, read) :: reads, by rw [receivedMembers, first, others]; rfl⟩

theorem members_some {members : List (Bytes × Value Double)} (sorted : OrderedMap.Sorted members)
    (all : ∀ {name : Bytes} {value : Value Double}, members.lookup name = some value ->
      ∃ read, received value = some read) : ∃ reads, receivedMembers members = some reads :=
  receivedMembers_some fun _ inside => all (OrderedMap.lookup_of_mem sorted inside)

theorem char_signed (onechar : UInt8) : onechar.toUInt32 ≤ maxInt := by
  have small : onechar.toUInt32.toNat < 256 := by
    rw [UInt8.toNat_toUInt32]
    exact onechar.toNat_lt
  rw [UInt32.le_iff_toNat_le, maxInt, show (0x7FFFFFFF : UInt32).toNat = 2147483647 from rfl]
  omega

theorem received_char (onechar : UInt8) :
    received (.uint onechar.toUInt32 : Value Double) = some (.int onechar.toUInt32.toInt32) := by
  have signed := char_signed onechar
  have below : onechar.toUInt32 < 4294967290 := UInt32.lt_of_le_of_lt signed (by decide)
  rw [received, if_pos below, unsignedNumber, if_pos signed]

theorem received_chars (chararray : Bytes) :
    receivedElements (chararray.map fun onechar => (.uint onechar.toUInt32 : Value Double)) =
      some (chararray.map fun onechar => .int onechar.toUInt32.toInt32) := by
  induction chararray with
  | nil => rfl
  | cons onechar rest ih =>
    rw [List.map_cons, receivedElements, received_char, ih]
    rfl

mutual

theorem Puts.member_received (x : Puts) {later : List Bytes}
    (laterSized : ∀ key ∈ later, key.length < 2 ^ 32) (sized : x.Every KeySized later)
    (kept : x.Every Kept later) {name : Bytes} (fresh : name ∉ later)
    {value : Value Double} (found : x.members.lookup name = some value) :
    ∃ read, received value = some read := by
  cases x with
  | empty => cases found
  | put before key last =>
    have length := name_sized laterSized sized.1
    rw [Puts.members, makeMemberName_eq key.nulFree length] at found
    by_cases here : name = key.bytes
    · subst here
      rw [OrderedMap.lookup_insert_self, Option.some.injEq] at found
      subst found
      exact last.stored_received (sized.1 fresh) (kept.1 fresh)
    · rw [OrderedMap.lookup_insert_ne here] at found
      exact before.member_received (later_sized laterSized length) sized.2 kept.2
        (List.not_mem_cons_of_ne_of_not_mem here fresh) found

theorem PutValue.stored_received (value : PutValue) {key : Bytes}
    (sized : KeySized key value ∧ value.Every KeySized)
    (kept : Kept key value ∧ value.Every Kept) :
    ∃ read, received (value.stored : Value Double) = some read := by
  cases value with
  | int value => exact ⟨_, if_pos kept.1⟩
  | uint value => exact ⟨_, if_pos kept.1⟩
  | uLongLong value => exact ⟨_, rfl⟩
  | str value => exact ⟨_, rfl⟩
  | bool value => exact ⟨_, rfl⟩
  | charArray value =>
    exact ⟨_, by rw [PutValue.stored, received_ofElements, received_chars]; rfl⟩
  | xparam value =>
    obtain ⟨reads, received⟩ := members_some value.members_plain.1 fun found =>
      value.member_received (by simp) sized.2 kept.2 List.not_mem_nil found
    exact ⟨_, by rw [PutValue.stored, received_ofMembers, received]; rfl⟩
  | xparamVector params =>
    obtain ⟨reads, received⟩ := params.elements_received sized.2 kept.2
    exact ⟨_, by rw [PutValue.stored, received_ofElements, received]; rfl⟩
  | xparamMap params =>
    obtain ⟨reads, received⟩ := members_some params.entries_sorted fun found =>
      params.entry_received (by simp) sized.2 kept.2 List.not_mem_nil found
    exact ⟨_, by rw [PutValue.stored, received_ofMembers, params.putAll_eq sized.2, received]; rfl⟩

theorem PutsVector.elements_received (params : PutsVector) (sized : params.Every KeySized)
    (kept : params.Every Kept) :
    ∃ reads, receivedElements (params.elements : List (Value Double)) = some reads := by
  cases params with
  | nil => exact ⟨[], rfl⟩
  | cons param params =>
    obtain ⟨first, receivedFirst⟩ := members_some param.members_plain.1 fun found =>
      param.member_received (by simp) sized.1 kept.1 List.not_mem_nil found
    obtain ⟨others, receivedOthers⟩ := params.elements_received sized.2 kept.2
    exact ⟨_, by
      rw [PutsVector.elements, receivedElements, received_ofMembers, receivedFirst, receivedOthers]
      rfl⟩

theorem PutsMap.entry_received (params : PutsMap) {later : List Bytes}
    (laterSized : ∀ key ∈ later, key.length < 2 ^ 32) (sized : params.Every KeySized later)
    (kept : params.Every Kept later) {name : Bytes} (fresh : name ∉ later)
    {value : Value Double} (found : params.entries.lookup name = some value) :
    ∃ read, received value = some read := by
  cases params with
  | empty => cases found
  | assign before key param =>
    have length := name_sized laterSized sized.1
    rw [PutsMap.entries] at found
    by_cases here : name = key.bytes
    · subst here
      rw [OrderedMap.lookup_insert_self, Option.some.injEq] at found
      subst found
      obtain ⟨reads, received⟩ := members_some param.members_plain.1 fun found =>
        param.member_received (by simp) (sized.1 fresh).2 (kept.1 fresh).2 List.not_mem_nil found
      exact ⟨_, by rw [received_ofMembers, received]; rfl⟩
    · rw [OrderedMap.lookup_insert_ne here] at found
      exact before.entry_received (later_sized laterSized length) sized.2 kept.2
        (List.not_mem_cons_of_ne_of_not_mem here fresh) found

end

end Received

section Numerals

theorem hexDigit_digit : ∀ value < 16, hexDigit (digit value) = some value := by decide

theorem readHex_text (value : Nat) (rest : Bytes) :
    readHex 0 (digitText 16 value ++ rest) = readHex value rest := by
  induction value using Nat.strongRecOn generalizing rest with
  | ind value ih =>
    by_cases small : value < 16
    · rw [digitText_small small, List.singleton_append, readHex, hexDigit_digit value small]
      simp
    · have digit := hexDigit_digit (value % 16) (Nat.mod_lt _ (by decide))
      rw [digitText_large (by decide) (Nat.le_of_not_lt small), List.append_assoc,
        ih (value / 16) (by omega), List.singleton_append, readHex, digit]
      simp only [Nat.div_add_mod']

theorem hexDigits (value : Nat) : ∀ c ∈ digitText 16 value, (hexDigit c).isSome = true := by
  induction value using Nat.strongRecOn with
  | ind value ih =>
    by_cases small : value < 16
    · rw [digitText_small small]
      intro c inside
      rw [List.mem_singleton.mp inside, hexDigit_digit value small]
      rfl
    · rw [digitText_large (by decide) (Nat.le_of_not_lt small)]
      intro c inside
      rcases List.mem_append.mp inside with earlier | last
      · exact ih (value / 16) (by omega) c earlier
      · rw [List.mem_singleton.mp last, hexDigit_digit _ (Nat.mod_lt _ (by decide))]
        rfl

theorem skipHexMark_digits {text : Bytes} (digits : ∀ c ∈ text, (hexDigit c).isSome = true) :
    skipHexMark text = text := by
  rw [skipHexMark, if_neg]
  rintro ⟨marked, -⟩
  have mark : ∀ letter, hexDigit letter = none -> letter ∉ text.take 2 := by
    intro letter noDigit inside
    have digit := digits letter (List.mem_of_mem_take inside)
    rw [noDigit] at digit
    cases digit
  simp only [List.mem_cons, List.not_mem_nil, or_false] at marked
  rcases marked with lower | upper
  · exact mark 0x78 (by decide) (by simp [lower])
  · exact mark 0x58 (by decide) (by simp [upper])

theorem strtoull16_digits {text : Bytes} (filled : text ≠ [])
    (digits : ∀ c ∈ text, (hexDigit c).isSome = true) (bound : readHex 0 text < 2 ^ 64) :
    strtoull16 text = .ofNat (readHex 0 text) := by
  cases text with
  | nil => exact absurd rfl filled
  | cons c tail =>
    have other : ∀ letter, hexDigit letter = none -> c ≠ letter := by
      rintro letter noDigit rfl
      have digit := digits c List.mem_cons_self
      rw [noDigit] at digit
      cases digit
    have visible :
        (c :: tail).dropWhile (· ∈ [0x20, 0x09, 0x0A, 0x0B, 0x0C, 0x0D]) = c :: tail := by
      refine List.dropWhile_cons_of_neg ?_
      simp only [List.mem_cons, List.not_mem_nil, or_false, decide_eq_true_eq, not_or]
      exact ⟨other _ (by decide), other _ (by decide), other _ (by decide), other _ (by decide),
        other _ (by decide), other _ (by decide)⟩
    have unsigned : (c :: tail).head? ∉ [some minus, some 0x2B] := by
      simp only [List.head?_cons, List.mem_cons, Option.some.injEq, List.not_mem_nil, or_false,
        not_or]
      exact ⟨other _ (by decide), other _ (by decide)⟩
    have positive : (c :: tail).head? ≠ some minus := by
      rw [List.head?_cons, ne_eq, Option.some.injEq]
      exact other _ (by decide)
    rw [strtoull16]
    simp only [visible, if_neg unsigned, skipHexMark_digits digits, if_neg positive]
    rw [if_neg (Nat.not_le.mpr bound)]

theorem strtoull16_text (value : UInt64) : strtoull16 (digitText 16 value.toNat) = value := by
  have read := readHex_text value.toNat []
  rw [List.append_nil, readHex] at read
  have bound : readHex 0 (digitText 16 value.toNat) < 2 ^ 64 := read.symm ▸ value.toNat_lt
  rw [strtoull16_digits (digitText_ne_nil 16 value.toNat) (hexDigits value.toNat) bound, read,
    UInt64.ofNat_toNat]

end Numerals

theorem hexText_stored (value : UInt64) :
    (.ofString (digitText 16 value.toNat) : Value Double) = .string (digitText 16 value.toNat) := by
  refine ofString_eq ?_ ?_
  · intro inside
    have digit := hexDigits value.toNat 0 inside
    cases digit
  · have short : (Nat.toDigits 16 value.toNat).length ≤ 16 :=
      (Nat.length_toDigits_le_iff (by decide) (by decide)).mpr value.toNat_lt
    rw [digitText, List.length_map]
    omega

section Getters

variable {param read : Value Double} {key : Bytes}

theorem getStr_eq {value : Bytes} (got : getValue param key = some (.string value)) (old : Bytes) :
    getStr param key old = some value := by
  rw [getStr, got]
  rfl

theorem getStr_iff {value : Bytes} (nulFree : 0 ∉ value)
    (got : getValue param key = some (.string (cString (duplicateStringValue value)))) :
    (∀ old, getStr param key old = some value) ↔ value.length < 2 ^ 32 := by
  constructor
  · intro yields
    have same := Option.some.inj ((getStr_eq got []).symm.trans (yields []))
    have copied := (List.takeWhile_prefix (l := duplicateStringValue value) (· ≠ 0)).length_le
    rw [← cString, same] at copied
    exact lt_of_le_of_lt copied (duplicate_length value)
  · intro short old
    rw [duplicate_eq short, cString_eq nulFree] at got
    exact getStr_eq got old

theorem getXParam_eq {members : List (Bytes × Value Double)}
    (got : getValue param key = some (ofMembers members)) (old : Value Double) :
    getXParam param key old = some (ofMembers members) := by
  rw [getXParam, got]
  cases members <;> rfl

theorem getXParamVector_eq {elements : List (Value Double)}
    (got : getValue param key = some (ofElements elements)) (old : List (Value Double)) :
    getXParamVector param key old = some elements := by
  rw [getXParamVector, got]
  cases elements <;> rfl

theorem getXParamMap_eq {members : List (Bytes × Value Double)}
    (sorted : OrderedMap.Sorted members) (got : getValue param key = some (ofMembers members))
    (old : List (Bytes × Value Double)) : getXParamMap param key old = some members := by
  have copied := OrderedMap.foldl_insert [] sorted
  have object : (ofMembers members).isObject = true := by
    cases members <;> rfl
  rw [getXParamMap, got, Option.bind_some, if_pos object, members_ofMembers, Option.map_some]
  exact congrArg some copied

variable [Doubles Double]

theorem asUInt_signed {value : UInt32} (signed : value ≤ maxInt) :
    (Value.int value.toInt32 : Value Double).asUInt = some value := by
  have bound : value.toNat ≤ 2147483647 := signed
  have positive : 0 ≤ value.toInt32 := by
    rw [Int32.le_iff_toInt_le, ← Int32.toInt_toBitVec value.toInt32, UInt32.toBitVec_toInt32,
      BitVec.toInt_eq_toNat_cond, UInt32.toNat_toBitVec, if_pos (by omega)]
    exact Int.natCast_nonneg _
  rw [Value.asUInt, if_pos positive, UInt32.toUInt32_toInt32]

theorem asUInt_chars (chararray : Bytes) :
    (chararray.map fun onechar => (.int onechar.toUInt32.toInt32 : Value Double)).mapM
      (fun element => element.asUInt.map UInt32.toUInt8) = some chararray := by
  induction chararray with
  | nil => rfl
  | cons onechar rest ih =>
    rw [List.map_cons, List.mapM_cons, asUInt_signed (char_signed onechar), ih, Option.map_some,
      UInt8.toUInt8_toUInt32]
    rfl

theorem getCharArray_eq {value : Bytes}
    (got : getValue param key =
      some (ofElements (value.map fun onechar => .int onechar.toUInt32.toInt32))) (old : Bytes) :
    getCharArray param key old = some value := by
  have array : ∀ elements : List (Value Double), (ofElements elements).isArray = true := by
    rintro (_ | _) <;> rfl
  rw [getCharArray, got, Option.bind_some, if_pos (array _), elements_ofElements, Option.bind_some,
    asUInt_chars]

theorem getInt_iff {value : Int32} (sent : received (.int value : Value Double) = some read)
    (got : getValue param key = some read) :
    (∀ old, getInt param key old = some value) ↔ -2147483640 < value := by
  simp only [getInt, got, Option.bind_some]
  rw [received] at sent
  by_cases small : -2147483640 < value
  · rw [if_pos small, Option.some.injEq] at sent
    subst sent
    exact ⟨fun _ => small, fun _ _ => rfl⟩
  · rw [if_neg small] at sent
    obtain ⟨double, -, rfl⟩ := Option.map_eq_some_iff.mp sent
    refine ⟨fun yields => ?_, fun yields => absurd yields small⟩
    -- A double is no int to the getter, so that the variable keeps what it held.
    have kept : some (value + 1) = some value := yields (value + 1)
    rw [Option.some.injEq] at kept
    simp at kept

theorem getUInt_iff {value : UInt32} (sent : received (.uint value : Value Double) = some read)
    (got : getValue param key = some read) :
    (∀ old, getUInt param key old = some value) ↔ value < 4294967290 := by
  simp only [getUInt, got, Option.bind_some]
  rw [received] at sent
  by_cases small : value < 4294967290
  · rw [if_pos small, Option.some.injEq, unsignedNumber] at sent
    refine ⟨fun _ => small, fun _ old => ?_⟩
    by_cases signed : value ≤ maxInt
    · rw [if_pos signed] at sent
      subst sent
      have converted : (Value.int value.toInt32 : Value Double).asUInt = some value :=
        asUInt_signed signed
      exact converted
    · rw [if_neg signed] at sent
      subst sent
      rfl
  · rw [if_neg small] at sent
    obtain ⟨double, -, rfl⟩ := Option.map_eq_some_iff.mp sent
    refine ⟨fun yields => ?_, fun yields => absurd yields small⟩
    have kept : some (value + 1) = some value := yields (value + 1)
    rw [Option.some.injEq] at kept
    simp at kept

end Getters

section Delivered

theorem yields_iff {α : Type} {getter : α -> Option α} {value : α}
    (yields : ∀ old, getter old = some value) {holds : α -> Prop} :
    (∃ read, (∀ old, getter old = some read) ∧ holds read) ↔ holds value := by
  constructor
  · rintro ⟨read, reads, held⟩
    have same : some read = some value := (reads value).symm.trans (yields value)
    exact Option.some.inj same ▸ held
  · exact fun held => ⟨value, yields, held⟩

variable [Doubles Double]

theorem received_found {members reads : List (Bytes × Value Double)} (plain : PlainObject members)
    (sent : receivedMembers members = some reads) {key : Bytes} {value : Value Double}
    (found : members.lookup key = some value) :
    ∃ read, received value = some read ∧ getValue (ofMembers reads) key = some read := by
  obtain ⟨read, receivedValue, there⟩ := receivedMembers_lookup sent found
  have named := (plainMembers_iff.mp plain.2 _ (OrderedMap.mem_of_lookup found)).1
  refine ⟨read, receivedValue, ?_⟩
  rw [getValue, Value.get, members_ofMembers, Option.map_some, cString_eq named.1, there]
  rfl

theorem receivedMembers_sorted {members reads : List (Bytes × Value Double)}
    (sorted : OrderedMap.Sorted members) (sent : receivedMembers members = some reads) :
    OrderedMap.Sorted reads := by
  rw [OrderedMap.Sorted, ← List.pairwise_map] at sorted ⊢
  rwa [receivedMembers_names sent]

mutual

theorem Puts.delivered_iff (x : Puts) {later : List Bytes}
    (laterSized : ∀ key ∈ later, key.length < 2 ^ 32) (sized : x.Every KeySized later)
    {param : Value Double}
    (found : ∀ {key : Bytes} {value : Value Double}, key ∉ later ->
      x.members.lookup key = some value ->
        ∃ read, received value = some read ∧ getValue param key = some read) :
    x.Delivered param later ↔ x.Every Kept later := by
  cases x with
  | empty => exact Iff.rfl
  | put before key value =>
    have length := name_sized laterSized sized.1
    have name := makeMemberName_eq key.nulFree length
    rw [Puts.Delivered, Puts.Every]
    refine and_congr (imp_congr_right fun fresh => ?_) ?_
    · have last : (before.put key value).members.lookup key.bytes =
          some (value.stored : Value Double) := by
        rw [Puts.members, name, OrderedMap.lookup_insert_self]
      obtain ⟨read, sent, got⟩ := found fresh last
      exact value.yielded_iff (sized.1 fresh) sent got
    · refine before.delivered_iff (later_sized laterSized length) sized.2 ?_
      intro other stored fresh inBefore
      rw [List.mem_cons, not_or] at fresh
      refine found fresh.2 ?_
      rw [Puts.members, name, OrderedMap.lookup_insert_ne fresh.1, inBefore]

theorem PutValue.yielded_iff (value : PutValue) {key : Bytes}
    (sized : KeySized key value ∧ value.Every KeySized) {param read : Value Double}
    (sent : received value.stored = some read) (got : getValue param key = some read) :
    value.Yielded param key ↔ Kept key value ∧ value.Every Kept := by
  cases value with
  | int value => exact (getInt_iff sent got).trans (and_iff_left trivial).symm
  | uint value => exact (getUInt_iff sent got).trans (and_iff_left trivial).symm
  | uLongLong value =>
    have text : (.ofString (digitText 16 value.toNat) : Value Double) =
        .string (digitText 16 value.toNat) := hexText_stored value
    rw [PutValue.stored, text, received, Option.some.injEq] at sent
    subst sent
    refine iff_of_true (fun old => ?_) ⟨trivial, trivial⟩
    rw [getULongLong, getStr_eq got, Option.map_some, strtoull16_text]
  | str value =>
    rw [PutValue.stored, Value.ofString, received, Option.some.injEq] at sent
    subst sent
    exact (getStr_iff value.nulFree got).trans (and_iff_left trivial).symm
  | bool value =>
    rw [PutValue.stored, received, Option.some.injEq] at sent
    subst sent
    refine iff_of_true (fun old => ?_) ⟨trivial, trivial⟩
    rw [getBool, got]
    rfl
  | charArray value =>
    rw [PutValue.stored, received_ofElements, received_chars, Option.map_some,
      Option.some.injEq] at sent
    subst sent
    exact iff_of_true (getCharArray_eq got) ⟨trivial, trivial⟩
  | xparam value =>
    rw [PutValue.stored, received_ofMembers] at sent
    obtain ⟨reads, sentMembers, rfl⟩ := Option.map_eq_some_iff.mp sent
    rw [PutValue.Yielded, yields_iff (getXParam_eq got),
      value.delivered_iff (by simp) sized.2 fun _ found =>
        received_found value.members_plain sentMembers found]
    exact (and_iff_right trivial).symm
  | xparamVector params =>
    rw [PutValue.stored, received_ofElements] at sent
    obtain ⟨reads, sentElements, rfl⟩ := Option.map_eq_some_iff.mp sent
    rw [PutValue.Yielded, yields_iff (getXParamVector_eq got),
      params.delivered_iff sized.2 sentElements]
    exact (and_iff_right trivial).symm
  | xparamMap params =>
    rw [PutValue.stored, params.putAll_eq sized.2, received_ofMembers] at sent
    obtain ⟨reads, sentMembers, rfl⟩ := Option.map_eq_some_iff.mp sent
    have sorted := receivedMembers_sorted params.entries_sorted sentMembers
    rw [PutValue.Yielded, yields_iff (getXParamMap_eq sorted got),
      params.delivered_iff (by simp) sized.2
        (fun _ found => receivedMembers_lookup sentMembers found)]
    · exact (and_iff_right trivial).symm
    · intro entry inside
      rw [← receivedMembers_names sentMembers]
      exact .inr (List.mem_map_of_mem inside)

theorem PutsVector.delivered_iff (params : PutsVector) (sized : params.Every KeySized)
    {reads : List (Value Double)} (sent : receivedElements params.elements = some reads) :
    params.Delivered reads ↔ params.Every Kept := by
  cases params with
  | nil =>
    cases sent
    exact iff_of_true rfl trivial
  | cons param params =>
    rw [PutsVector.elements, receivedElements, Option.bind_eq_some_iff] at sent
    obtain ⟨first, sentFirst, sent⟩ := sent
    obtain ⟨others, sentOthers, rfl⟩ := Option.map_eq_some_iff.mp sent
    rw [received_ofMembers] at sentFirst
    obtain ⟨members, sentMembers, rfl⟩ := Option.map_eq_some_iff.mp sentFirst
    rw [PutsVector.Delivered, PutsVector.Every, ← params.delivered_iff sized.2 sentOthers,
      ← param.delivered_iff (by simp) sized.1 fun _ found =>
        received_found param.members_plain sentMembers found]
    constructor
    · rintro ⟨first, rest, same, deliveredFirst, deliveredRest⟩
      obtain ⟨rfl, rfl⟩ := List.cons.inj same
      exact ⟨deliveredFirst, deliveredRest⟩
    · rintro ⟨deliveredFirst, deliveredRest⟩
      exact ⟨_, _, rfl, deliveredFirst, deliveredRest⟩

theorem PutsMap.delivered_iff (params : PutsMap) {later : List Bytes}
    (laterSized : ∀ key ∈ later, key.length < 2 ^ 32) (sized : params.Every KeySized later)
    {reads : List (Bytes × Value Double)}
    (found : ∀ {key : Bytes} {value : Value Double}, key ∉ later ->
      params.entries.lookup key = some value ->
        ∃ read, received value = some read ∧ reads.lookup key = some read)
    (names : ∀ entry ∈ reads, entry.1 ∈ later ∨
      entry.1 ∈ (params.entries : List (Bytes × Value Double)).map Prod.fst) :
    params.Delivered reads later ↔ params.Every Kept later := by
  cases params with
  | empty =>
    refine iff_of_true (fun entry inside => ?_) trivial
    exact (names entry inside).resolve_right List.not_mem_nil
  | assign before key param =>
    have length := name_sized laterSized sized.1
    rw [PutsMap.Delivered, PutsMap.Every]
    refine and_congr (imp_congr_right fun fresh => ?_) ?_
    · have last : (before.assign key param).entries.lookup key.bytes =
          some (ofMembers param.members : Value Double) := by
        rw [PutsMap.entries, OrderedMap.lookup_insert_self]
      obtain ⟨read, sent, got⟩ := found fresh last
      rw [received_ofMembers] at sent
      obtain ⟨members, sentMembers, rfl⟩ := Option.map_eq_some_iff.mp sent
      have delivered := param.delivered_iff (by simp) (sized.1 fresh).2 fun _ found =>
        received_found param.members_plain sentMembers found
      rw [← delivered, got]
      constructor
      · rintro ⟨value, same, held⟩
        exact ⟨trivial, Option.some.inj same ▸ held⟩
      · exact fun held => ⟨_, rfl, held.2⟩
    · refine before.delivered_iff (later_sized laterSized length) sized.2 ?_ ?_
      · intro other stored fresh inBefore
        rw [List.mem_cons, not_or] at fresh
        refine found fresh.2 ?_
        rw [PutsMap.entries, OrderedMap.lookup_insert_ne fresh.1, inBefore]
      · intro entry inside
        rcases names entry inside with replaced | assigned
        · exact .inl (List.mem_cons_of_mem _ replaced)
        · obtain ⟨stored, there, name⟩ := List.mem_map.mp assigned
          rw [PutsMap.entries] at there
          rcases OrderedMap.mem_insert there with rfl | old
          · exact .inl (name ▸ List.mem_cons_self)
          · exact .inr (name ▸ List.mem_map_of_mem old)

end

theorem Puts.delivered_lastPut (x : Puts) (param : Value Double) (later : List Bytes) :
    x.Delivered param later ↔
      ∀ key value, key ∉ later -> x.lastPut key = some value -> value.Yielded param key := by
  cases x with
  | empty =>
    refine iff_of_true trivial ?_
    rintro key value _ ⟨⟩
  | put before last value =>
    rw [Puts.Delivered, before.delivered_lastPut param]
    constructor
    · rintro ⟨yields, others⟩ key found fresh put
      rw [Puts.lastPut] at put
      split_ifs at put with here
      · rw [Option.some.injEq] at put
        subst here put
        exact yields fresh
      · exact others key found (List.not_mem_cons_of_ne_of_not_mem (Ne.symm here) fresh) put
    · intro all
      refine ⟨fun fresh => all last.bytes value fresh (if_pos rfl), ?_⟩
      intro key found fresh put
      rw [List.mem_cons, not_or] at fresh
      exact all key found fresh.2 ((if_neg (Ne.symm fresh.1)).trans put)

theorem fromMsgBusParam_eq {members : List (Bytes × Value Double)} (plain : PlainObject members)
    (short : (toJsonStr (ofMembers members)).length < 2 ^ 32) (y : Value Double) :
    fromMsgBusParam y (toMsgBusParam (ofMembers members)) =
      (receivedMembers members).elim (false, y.clear) fun reads => (true, ofMembers reads) := by
  have whole : (toMsgBusParam (ofMembers members)).content = write (ofMembers members) := by
    rw [MsgBusParam.content, toMsgBusParam, UInt32.toNat_ofNat_of_lt' short]
    exact List.take_length
  rw [fromMsgBusParam, fromJsonStr, whole, parse_write (plain_ofMembers plain), received_ofMembers]
  cases receivedMembers members with
  | none => rfl
  | some reads => cases reads <;> rfl

theorem survives_of_short {x : Puts} (sized : x.Every KeySized [])
    (short : Short Double x) :
    Survives Double x ↔ x.Every Kept [] := by
  have built : x.build = some (ofMembers x.members : Value Double) := x.build_eq
  have plain : PlainObject (x.members : List (Bytes × Value Double)) := x.members_plain
  have back := fromMsgBusParam_eq plain (short _ built)
  have delivered : ∀ {reads : List (Bytes × Value Double)},
      receivedMembers x.members = some reads -> (x.Delivered (ofMembers reads) [] ↔ x.Every Kept []) := fun sent =>
    x.delivered_iff (by simp) sized fun _ found => received_found plain sent found
  constructor
  · intro survives
    obtain ⟨param, same, accepted, yields⟩ := survives .null
    obtain rfl := Option.some.inj (built.symm.trans same)
    rw [back] at accepted yields
    cases sent : receivedMembers (x.members : List (Bytes × Value Double)) with
    | none =>
      rw [sent] at accepted
      cases accepted
    | some reads =>
      rw [sent] at yields
      rw [← delivered sent, x.delivered_lastPut]
      exact fun key value _ last => yields key value last
  · intro small y
    obtain ⟨reads, sent⟩ := members_some plain.1 fun found =>
      x.member_received (by simp) sized small List.not_mem_nil found
    refine ⟨_, built, ?_⟩
    rw [back, sent]
    refine ⟨rfl, ?_⟩
    intro key value last
    exact (x.delivered_lastPut _ []).mp ((delivered sent).mpr small) key value List.not_mem_nil last

-- The front of a text of 4 GiB or more, all that its parameter has, is refused.
theorem short_of_survives {x : Puts} (survives : Survives Double x) : Short Double x := by
  have built : x.build = some (ofMembers x.members : Value Double) := x.build_eq
  have plain : PlainObject (x.members : List (Bytes × Value Double)) := x.members_plain
  intro param same
  obtain rfl := Option.some.inj (built.symm.trans same)
  by_contra long
  cases members : (x.members : List (Bytes × Value Double)) with
  | nil =>
    have null : (toJsonStr (ofMembers [] : Value Double)).length = 5 := rfl
    rw [members, null] at long
    omega
  | cons member more =>
    rw [members] at built plain long
    obtain ⟨param, same, accepted, -⟩ := survives .null
    obtain rfl := Option.some.inj (built.symm.trans same)
    have length : (toJsonStr (ofMembers (member :: more))).length =
        (writeValue (.object (member :: more))).length + 1 := by
      rw [toJsonStr, write, List.length_append]
      rfl
    have refused : (parse (toMsgBusParam (ofMembers (member :: more))).content :
        Option (Value Double)) = none := by
      rw [MsgBusParam.content, toMsgBusParam, UInt32.toNat_ofNat']
      exact parse_truncated (plain_ofMembers plain) (by omega)
    rw [fromMsgBusParam, fromJsonStr, refused] at accepted
    cases accepted

theorem survives_iff {x : Puts} (sized : x.Every KeySized []) :
    Survives Double x ↔ x.Every Kept [] ∧ Short Double x := by
  constructor
  · intro survives
    have short := short_of_survives survives
    exact ⟨(survives_of_short sized short).mp survives, short⟩
  · rintro ⟨kept, short⟩
    exact (survives_of_short sized short).mpr kept

end Delivered

-- Doubles that are whole numbers, the only ones that a put's text can be taken for.
def decimal (text : Bytes) : Nat := text.foldl (fun value c => value * 10 + (c.toNat - 0x30)) 0

instance wholeDoubles : Doubles Int where
  scan text := if text.head? = some minus then some (-decimal text.tail) else some (decimal text)
  valueToString value :=
    (if value < 0 then [minus] else []) ++ digitText 10 value.natAbs ++ [0x2E, 0x30]
  asInt value := if -2147483648 ≤ value ∧ value ≤ 2147483647 then some (.ofInt value) else none
  asUInt value :=
    if 0 ≤ value ∧ value ≤ 4294967295 then some (.ofNat value.toNat) else none
  asBool value := value ≠ 0

def letter (c : UInt8) (nonzero : 0 ≠ c) : CText := ⟨[c], by simpa using nonzero⟩

def sample : Puts :=
  .put (.put (.put .empty (letter 0x6B (by decide)) (.int (-12)))
      (letter 0x73 (by decide)) (.str (letter 0x22 (by decide))))
    (letter 0x78 (by decide)) (.xparam (.put .empty (letter 0x6B (by decide)) (.uint 4294967289)))

theorem sample_survives : Survives Int sample := by
  refine (survives_iff ?_).mpr ⟨?_, ?_⟩
  · simp [sample, letter, Puts.Every, PutValue.Every, KeySized]
  · simp [sample, letter, Puts.Every, PutValue.Every, Kept]
  · rintro param ⟨⟩
    decide +kernel

-- The ninth smallest int32 comes back as a double, which get_Int does not look at.
def smallest : Puts := .put .empty (letter 0x6B (by decide)) (.int (-2147483640))

theorem smallest_lost : ¬ Survives Int smallest := by
  intro survives
  have sized : smallest.Every KeySized [] := by
    simp [smallest, letter, Puts.Every, PutValue.Every, KeySized]
  have short : Short Int smallest := by
    rintro param ⟨⟩
    decide +kernel
  have kept := ((survives_of_short sized short).mp survives).1 List.not_mem_nil
  exact absurd kept.1 (by simp [Kept])

end MessageBus.XParam
