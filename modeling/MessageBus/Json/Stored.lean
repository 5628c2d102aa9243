import MessageBus.Json.Puts
import MessageBus.Json.RoundTrip

set_option autoImplicit false

namespace MessageBus.XParam

open Json Content

variable {Double : Type}

def ofElements : List (Value Double) -> Value Double
  | [] => .null
  | elements => .array elements

def ofMembers : List (Bytes × Value Double) -> Value Double
  | [] => .null
  | members => .object members

theorem elements_ofElements (elements : List (Value Double)) :
    (ofElements elements).elements = some elements := by
  cases elements <;> rfl

theorem members_ofMembers (members : List (Bytes × Value Double)) :
    (ofMembers members).members = some members := by
  cases members <;> rfl

theorem append_ofElements (elements : List (Value Double)) (value : Value Double) :
    (ofElements elements).append value = some (ofElements (elements ++ [value])) := by
  rw [Value.append, elements_ofElements, Option.map_some]
  cases elements <;> rfl

theorem put_ofMembers (members : List (Bytes × Value Double)) (key : Bytes) (value : Value Double) :
    (ofMembers members).put key value =
      some (ofMembers (OrderedMap.insert (makeMemberName key) value members)) := by
  rw [Value.put, members_ofMembers, Option.map_some]
  have made := OrderedMap.lookup_insert_self (makeMemberName key) value members
  generalize OrderedMap.insert (makeMemberName key) value members = stored at made ⊢
  cases stored with
  | nil => cases made
  | cons => rfl

theorem append_all (front elements : List (Value Double)) :
    elements.foldlM (fun array one => Value.append array one) (ofElements front) =
      some (ofElements (front ++ elements)) := by
  induction elements generalizing front with
  | nil => rw [List.append_nil, List.foldlM_nil]; rfl
  | cons value rest ih =>
    rw [List.foldlM_cons, append_ofElements]
    refine (ih (front ++ [value])).trans ?_
    rw [List.append_assoc, List.singleton_append]

def putAll (members entries : List (Bytes × Value Double)) : List (Bytes × Value Double) :=
  entries.foldl (fun made entry => OrderedMap.insert (makeMemberName entry.1) entry.2 made) members

theorem put_all (members entries : List (Bytes × Value Double)) :
    entries.foldlM (fun object entry => Value.put object entry.1 entry.2) (ofMembers members) =
      some (ofMembers (putAll members entries)) := by
  induction entries generalizing members with
  | nil => rfl
  | cons entry rest ih =>
    rw [List.foldlM_cons, put_ofMembers]
    exact ih _

mutual

-- The members of m_internal_obj, and what a put stores.
def Puts.members : Puts -> List (Bytes × Value Double)
  | .empty => []
  | .put before key value =>
    OrderedMap.insert (makeMemberName key.bytes) value.stored before.members

def PutValue.stored : PutValue -> Value Double
  | .int value => .int value
  | .uint value => .uint value
  | .uLongLong value => .ofString (digitText 16 value.toNat)
  | .str value => .ofString value.bytes
  | .bool value => .boolean value
  | .charArray value => ofElements (value.map fun onechar => .uint onechar.toUInt32)
  | .xparam value => ofMembers value.members
  | .xparamVector params => ofElements params.elements
  | .xparamMap params => ofMembers (putAll [] params.entries)

def PutsVector.elements : PutsVector -> List (Value Double)
  | .nil => []
  | .cons param params => ofMembers param.members :: params.elements

def PutsMap.entries : PutsMap -> List (Bytes × Value Double)
  | .empty => []
  | .assign before key param => OrderedMap.insert key.bytes (ofMembers param.members) before.entries

end

theorem putCharArray_eq (param : Value Double) (key chararray : Bytes) :
    putCharArray param key chararray =
      param.put key (ofElements (chararray.map fun onechar => .uint onechar.toUInt32)) := by
  have built := append_all [] (chararray.map fun onechar => (.uint onechar.toUInt32 : Value Double))
  rw [List.foldlM_map] at built
  rw [putCharArray]
  refine (congrArg (Option.bind · (param.put key)) built).trans ?_
  rfl

mutual

theorem Puts.build_eq (x : Puts) : x.build = some (ofMembers x.members : Value Double) := by
  cases x with
  | empty => rfl
  | put before key value =>
    rw [Puts.build, before.build_eq, Option.bind_some, value.putInto_eq, put_ofMembers,
      Puts.members]

theorem PutValue.putInto_eq (value : PutValue) (param : Value Double) (key : Bytes) :
    value.putInto param key = param.put key value.stored := by
  cases value with
  | int value => rfl
  | uint value => rfl
  | uLongLong value => rfl
  | str value => rfl
  | bool value => rfl
  | charArray value => exact putCharArray_eq param key value
  | xparam value =>
    rw [PutValue.putInto, value.build_eq]
    rfl
  | xparamVector params =>
    rw [PutValue.putInto, params.build_eq, Option.bind_some, putXParamVector, PutValue.stored]
    refine (congrArg (Option.bind · (param.put key)) (append_all [] params.elements)).trans ?_
    rfl
  | xparamMap params =>
    rw [PutValue.putInto, params.build_eq, Option.bind_some, putXParamMap, PutValue.stored]
    refine (congrArg (Option.bind · (param.put key)) (put_all [] params.entries)).trans ?_
    rfl

theorem PutsVector.build_eq (params : PutsVector) :
    params.build = some (params.elements : List (Value Double)) := by
  cases params with
  | nil => rfl
  | cons param params =>
    rw [PutsVector.build, param.build_eq, params.build_eq]
    rfl

theorem PutsMap.build_eq (params : PutsMap) :
    params.build = some (params.entries : List (Bytes × Value Double)) := by
  cases params with
  | empty => rfl
  | assign before key param =>
    rw [PutsMap.build, before.build_eq, param.build_eq]
    rfl

end

section Plain

theorem plainElements_iff {elements : List (Value Double)} :
    PlainElements elements ↔ ∀ value ∈ elements, Plain value := by
  induction elements with
  | nil => simp [PlainElements]
  | cons value rest ih => simp [PlainElements, ih]

theorem plainMembers_iff {members : List (Bytes × Value Double)} :
    PlainMembers members ↔
      ∀ member ∈ members, (0 ∉ member.1 ∧ member.1.length < 2 ^ 32) ∧ Plain member.2 := by
  induction members with
  | nil => simp [PlainMembers]
  | cons member rest ih =>
    obtain ⟨name, value⟩ := member
    simp only [PlainMembers, ih, List.forall_mem_cons, and_assoc]

theorem makeMemberName_plain (key : Bytes) :
    0 ∉ makeMemberName key ∧ (makeMemberName key).length < 2 ^ 32 :=
  ⟨fun inside => cString_nulFree key (List.mem_of_mem_take inside), duplicate_length _⟩

theorem ofString_plain (value : Bytes) : Plain (.ofString value : Value Double) :=
  ⟨cString_nulFree _, lt_of_le_of_lt (List.takeWhile_prefix _).length_le (duplicate_length _)⟩

theorem plain_ofElements {elements : List (Value Double)}
    (plain : ∀ value ∈ elements, Plain value) : Plain (ofElements elements) := by
  cases elements with
  | nil => trivial
  | cons value rest => exact plainElements_iff.mpr plain

def PlainObject (members : List (Bytes × Value Double)) : Prop :=
  OrderedMap.Sorted members ∧ PlainMembers members

theorem plain_ofMembers {members : List (Bytes × Value Double)} (plain : PlainObject members) :
    Plain (ofMembers members) := by
  cases members with
  | nil => trivial
  | cons member rest => exact plain

theorem plainObject_nil : PlainObject ([] : List (Bytes × Value Double)) :=
  ⟨List.Pairwise.nil, trivial⟩

theorem PlainObject.put {members : List (Bytes × Value Double)} (plain : PlainObject members)
    (key : Bytes) {value : Value Double} (stored : Plain value) :
    PlainObject (OrderedMap.insert (makeMemberName key) value members) := by
  refine ⟨OrderedMap.insert_sorted plain.1, plainMembers_iff.mpr ?_⟩
  intro member inside
  rcases OrderedMap.mem_insert inside with rfl | old
  · exact ⟨makeMemberName_plain key, stored⟩
  · exact plainMembers_iff.mp plain.2 member old

theorem PlainObject.putAll {members : List (Bytes × Value Double)} (plain : PlainObject members)
    {entries : List (Bytes × Value Double)} (values : ∀ entry ∈ entries, Plain entry.2) :
    PlainObject (putAll members entries) := by
  induction entries generalizing members with
  | nil => exact plain
  | cons entry rest ih =>
    exact ih (plain.put entry.1 (values entry List.mem_cons_self))
      fun entry inside => values entry (List.mem_cons_of_mem _ inside)

mutual

theorem Puts.members_plain (x : Puts) : PlainObject (x.members : List (Bytes × Value Double)) := by
  cases x with
  | empty => exact plainObject_nil
  | put before key value =>
    rw [Puts.members]
    exact before.members_plain.put key.bytes value.stored_plain

theorem PutValue.stored_plain (value : PutValue) : Plain (value.stored : Value Double) := by
  cases value with
  | int value => trivial
  | uint value => trivial
  | uLongLong value => exact ofString_plain _
  | str value => exact ofString_plain _
  | bool value => trivial
  | charArray value =>
    refine plain_ofElements ?_
    rintro element inside
    obtain ⟨onechar, _, rfl⟩ := List.mem_map.mp inside
    trivial
  | xparam value => exact plain_ofMembers value.members_plain
  | xparamVector params => exact plain_ofElements params.elements_plain
  | xparamMap params => exact plain_ofMembers (plainObject_nil.putAll params.entries_plain)

theorem PutsVector.elements_plain (params : PutsVector) :
    ∀ value ∈ (params.elements : List (Value Double)), Plain value := by
  cases params with
  | nil => simp [PutsVector.elements]
  | cons param params =>
    rw [PutsVector.elements, List.forall_mem_cons]
    exact ⟨plain_ofMembers param.members_plain, params.elements_plain⟩

theorem PutsMap.entries_plain (params : PutsMap) :
    ∀ entry ∈ (params.entries : List (Bytes × Value Double)), Plain entry.2 := by
  cases params with
  | empty => simp [PutsMap.entries]
  | assign before key param =>
    intro entry inside
    rw [PutsMap.entries] at inside
    rcases OrderedMap.mem_insert inside with rfl | old
    · exact plain_ofMembers param.members_plain
    · exact before.entries_plain entry old

end

end Plain

section Names

theorem name_sized {later : List Bytes} (laterSized : ∀ key ∈ later, key.length < 2 ^ 32)
    {key : Bytes} {rest : Prop} {value : PutValue}
    (sized : key ∉ later -> KeySized key value ∧ rest) : key.length < 2 ^ 32 := by
  by_cases replaced : key ∈ later
  · exact laterSized key replaced
  · exact (sized replaced).1

theorem later_sized {later : List Bytes} (laterSized : ∀ key ∈ later, key.length < 2 ^ 32)
    {key : Bytes} (sized : key.length < 2 ^ 32) :
    ∀ name ∈ key :: later, name.length < 2 ^ 32 := by
  rw [List.forall_mem_cons]
  exact ⟨sized, laterSized⟩

theorem PutsMap.entries_sorted (params : PutsMap) :
    OrderedMap.Sorted (params.entries : List (Bytes × Value Double)) := by
  cases params with
  | empty => exact List.Pairwise.nil
  | assign before key param =>
    rw [PutsMap.entries]
    exact OrderedMap.insert_sorted before.entries_sorted

theorem PutsMap.entries_named (params : PutsMap) {later : List Bytes}
    (laterSized : ∀ key ∈ later, key.length < 2 ^ 32) (sized : params.Every KeySized later) :
    ∀ entry ∈ (params.entries : List (Bytes × Value Double)),
      0 ∉ entry.1 ∧ entry.1.length < 2 ^ 32 := by
  cases params with
  | empty => simp [PutsMap.entries]
  | assign before key param =>
    have length := name_sized laterSized sized.1
    intro entry inside
    rw [PutsMap.entries] at inside
    rcases OrderedMap.mem_insert inside with rfl | old
    · exact ⟨key.nulFree, length⟩
    · exact before.entries_named (later_sized laterSized length) sized.2 entry old

theorem putAll_named {entries : List (Bytes × Value Double)} (sorted : OrderedMap.Sorted entries)
    (named : ∀ entry ∈ entries, 0 ∉ entry.1 ∧ entry.1.length < 2 ^ 32) :
    putAll [] entries = entries := by
  have same : putAll [] entries =
      entries.foldl (fun made entry => OrderedMap.insert entry.1 entry.2 made) [] := by
    refine List.foldl_ext _ _ [] ?_
    intro made entry inside
    rw [makeMemberName_eq (named entry inside).1 (named entry inside).2]
  rw [same]
  exact OrderedMap.foldl_insert [] sorted

theorem PutsMap.putAll_eq (params : PutsMap) (sized : params.Every KeySized []) :
    putAll [] params.entries = (params.entries : List (Bytes × Value Double)) :=
  putAll_named params.entries_sorted (params.entries_named (by simp) sized)

end Names

end MessageBus.XParam
