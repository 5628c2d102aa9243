import MessageBus.Shared.ByteText
import MessageBus.Wire.Content

set_option autoImplicit false

-- The text the Python port makes of a message, and how it reads one.
namespace MessageBus.PyPort.ReceiverMsgUtil

open ByteText

def percent : Bytes := [0x25]
def ampersand : Bytes := [0x26]
def percent25 : Bytes := [0x25, 0x32, 0x35]
def percent26 : Bytes := [0x25, 0x32, 0x36]

-- "msgid", "msgparam" and "msgsender".
def msgidKey : Bytes := [0x6d, 0x73, 0x67, 0x69, 0x64]
def msgparamKey : Bytes := [0x6d, 0x73, 0x67, 0x70, 0x61, 0x72, 0x61, 0x6d]
def msgsenderKey : Bytes := [0x6d, 0x73, 0x67, 0x73, 0x65, 0x6e, 0x64, 0x65, 0x72]

-- msgkey + '='.
def assigned (msgkey : Bytes) : Bytes := msgkey ++ [0x3d]

def encodeMsgKeyValue (origValue : Bytes) : Bytes :=
  replace (replace origValue percent percent25) ampersand percent26

def decodeMsgKeyValue (origValue : Bytes) : Bytes :=
  replace (replace origValue percent26 ampersand) percent25 percent

def getMsgKey (msgcontent msgkey : Bytes) : Bytes :=
  let msgvalue := match find (assigned msgkey) msgcontent with
    | some startpos =>
      -- The end is searched from the key on, so it comes as an offset.
      match find ampersand (msgcontent.drop startpos) with
      | some offset => (msgcontent.take (startpos + offset)).drop (startpos + msgkey.length + 1)
      | none => msgcontent.drop (startpos + msgkey.length + 1)
    | none => []
  decodeMsgKeyValue msgvalue

def getMsgSender (msgcontent : Bytes) : Bytes := getMsgKey msgcontent msgsenderKey

def getMsgId (msgcontent : Bytes) : Bytes := getMsgKey msgcontent msgidKey

def getMsgParam (msgcontent : Bytes) : Bytes := getMsgKey msgcontent msgparamKey

def makeMsgNetData (msgid msgparam msgsender : Bytes) : Bytes :=
  let msgid := encodeMsgKeyValue msgid
  let msgparam := encodeMsgKeyValue msgparam
  let msgsender := encodeMsgKeyValue msgsender
  let netmsgStr :=
    assigned msgidKey ++ msgid ++ ampersand ++ assigned msgparamKey ++ msgparam
  if msgsender.length = 0 then netmsgStr
  else netmsgStr ++ ampersand ++ assigned msgsenderKey ++ msgsender ++ [0]

-- The first assignment to a key, up to the next '&' or the end, spells the value.
def Spelled (content msgkey value : Bytes) : Prop :=
  ∃ front spelling rest, content = front ++ (assigned msgkey ++ (spelling ++ rest)) ∧
    (∀ earlier < front.length, ¬ assigned msgkey <+: content.drop earlier) ∧
    0x26 ∉ spelling ∧ (rest = [] ∨ ∃ tail, rest = 0x26 :: tail) ∧
    decodeMsgKeyValue spelling = value

section Keys

variable {content msgkey value : Bytes}

theorem assigned_nonempty (msgkey : Bytes) : assigned msgkey ≠ [] := by
  simp [assigned]

theorem getMsgKey_missing (missing : find (assigned msgkey) content = none) :
    getMsgKey content msgkey = [] := by
  simp only [getMsgKey, missing]
  rfl

theorem getMsgKey_spelled {front spelling rest : Bytes} (keyClean : 0x26 ∉ msgkey)
    (parts : content = front ++ (assigned msgkey ++ (spelling ++ rest)))
    (found : find (assigned msgkey) content = some front.length) (clean : 0x26 ∉ spelling)
    (ends : rest = [] ∨ ∃ tail, rest = 0x26 :: tail) :
    getMsgKey content msgkey = decodeMsgKeyValue spelling := by
  have assignedClean : 0x26 ∉ assigned msgkey ++ spelling := by simp [assigned, keyClean, clean]
  have keyLength : (front ++ assigned msgkey).length = front.length + msgkey.length + 1 := by
    simp [assigned]
    omega
  have fromKey : content.drop front.length = (assigned msgkey ++ spelling) ++ rest := by
    rw [parts, List.drop_left, List.append_assoc]
  simp only [getMsgKey, found, fromKey]
  rcases ends with rfl | ⟨tail, rfl⟩
  next =>
    rw [List.append_nil, ampersand, find_byte_missing assignedClean, parts, List.append_nil,
      ← List.append_assoc]
    exact congrArg decodeMsgKeyValue (List.drop_left' keyLength)
  next =>
    have before : (front ++ assigned msgkey ++ spelling).length =
        front.length + (assigned msgkey ++ spelling).length := by
      simp only [List.length_append]
      omega
    have upTo : content.take (front.length + (assigned msgkey ++ spelling).length) =
        front ++ assigned msgkey ++ spelling := by
      rw [parts, ← List.append_assoc, ← List.append_assoc, List.take_left' before]
    rw [ampersand, find_byte_append assignedClean]
    simp only [upTo]
    exact congrArg decodeMsgKeyValue (List.drop_left' keyLength)

theorem getMsgKey_eq_iff (keyClean : 0x26 ∉ msgkey) (nonempty : value ≠ []) :
    getMsgKey content msgkey = value ↔ Spelled content msgkey value := by
  constructor
  next =>
    intro read
    cases found : find (assigned msgkey) content with
    | none =>
      rw [getMsgKey_missing found] at read
      exact absurd read.symm nonempty
    | some startpos =>
      obtain ⟨⟨rest, here⟩, first⟩ := (find_some_iff (assigned_nonempty msgkey) _ _).mp found
      have length : (content.take startpos).length = startpos := by
        rw [List.length_take, Nat.min_eq_left]
        by_contra outside
        rw [List.drop_eq_nil_of_le (by omega), List.append_eq_nil_iff] at here
        exact assigned_nonempty msgkey here.1
      have parts : content = content.take startpos ++ (assigned msgkey ++ rest) := by
        rw [here, List.take_append_drop]
      rw [← length] at found first
      by_cases more : 0x26 ∈ rest
      next =>
        obtain ⟨spelling, tail, rfl, clean⟩ := List.eq_append_cons_of_mem more
        refine ⟨_, spelling, _, parts, first, clean, .inr ⟨tail, rfl⟩, ?_⟩
        rw [← read, getMsgKey_spelled keyClean parts found clean (.inr ⟨tail, rfl⟩)]
      next =>
        rw [← List.append_nil rest] at parts
        refine ⟨_, rest, [], parts, first, more, .inl rfl, ?_⟩
        rw [← read, getMsgKey_spelled keyClean parts found more (.inl rfl)]
  next =>
    rintro ⟨front, spelling, rest, parts, first, clean, ends, spelled⟩
    have found : find (assigned msgkey) content = some front.length := by
      rw [find_some_iff (assigned_nonempty msgkey)]
      refine ⟨?_, first⟩
      rw [parts, List.drop_left]
      exact ⟨_, rfl⟩
    rw [getMsgKey_spelled keyClean parts found clean ends, spelled]

end Keys

end MessageBus.PyPort.ReceiverMsgUtil
