import MessageBus.Server.SendMsgReq

set_option autoImplicit false

namespace MessageBus.Messages

open Bytes Readers Server

section CStrings

theorem text_of_mem {front rest : Bytes} (ended : 0 ∈ front) :
    text (front ++ rest) = text front := by
  induction front with
  | nil => cases ended
  | cons byte others ih =>
    by_cases nul : byte = 0
    · simp [text, nul]
    · have later : 0 ∈ others := by
        rcases List.mem_cons.mp ended with same | later
        · exact absurd same.symm nul
        · exact later
      have rest := ih later
      simp only [text, List.cons_append, List.takeWhile_cons, bne_iff_ne, ne_eq, nul,
        not_false_eq_true, if_true] at rest ⊢
      rw [rest]

theorem text_of_not_mem {front : Bytes} (unended : 0 ∉ front) (rest : Bytes) :
    text (front ++ rest) = front ++ text rest := by
  refine List.takeWhile_append_of_pos ?_
  intro byte inside
  simpa using fun nul : byte = 0 => unended (nul ▸ inside)

theorem text_field_iff {field rest : Bytes} {next : UInt8} (first : rest.head? = some next) :
    text (field ++ rest) = text field ↔ 0 ∈ field ∨ next = 0 := by
  obtain ⟨others, rfl⟩ := List.head?_eq_some_iff.mp first
  by_cases ended : 0 ∈ field
  · exact iff_of_true (text_of_mem ended) (.inl ended)
  · have alone := text_of_not_mem ended []
    rw [List.append_nil] at alone
    rw [text_of_not_mem ended, alone, List.append_cancel_left_eq]
    by_cases nul : next = 0 <;> simp [text, nul, ended]

theorem text_unended {chars : Bytes} (unended : 0 ∉ chars) : text chars = chars := by
  have alone := text_of_not_mem unended []
  rwa [List.append_nil, show text [] = [] from rfl, List.append_nil] at alone

theorem text_shorter {chars : Bytes} (ended : 0 ∈ chars) : (text chars).length < chars.length := by
  have start : text chars <+: chars := List.takeWhile_prefix _
  refine Nat.lt_of_le_of_ne start.length_le fun same => ?_
  rw [← start.eq_of_length same] at ended
  simpa using List.mem_takeWhile_imp ended

theorem mem_padded {src : Bytes} {count : Nat} (enough : count ≤ src.length) :
    0 ∈ (padded src count).toList ↔ 0 ∈ src.take count := by
  change 0 ∈ text (src.take count) ++ List.replicate _ 0 ↔ _
  have length : (src.take count).length = count := List.length_take_of_le enough
  by_cases ended : 0 ∈ src.take count
  · have shorter := text_shorter ended
    refine iff_of_true (List.mem_append_right _ (List.mem_replicate.mpr ⟨?_, rfl⟩)) ended
    omega
  · refine iff_of_false ?_ ended
    rw [text_unended ended, length, Nat.sub_self, List.replicate_zero, List.append_nil]
    exact ended

theorem head_padded {src rest : Bytes} {count : Nat} {first : UInt8} (filled : 0 < count)
    (starts : src.head? = some first) : ((padded src count).toList ++ rest).head? = some first := by
  obtain ⟨others, rfl⟩ := List.head?_eq_some_iff.mp starts
  obtain ⟨less, rfl⟩ := Nat.exists_eq_succ_of_ne_zero (Nat.pos_iff_ne_zero.mp filled)
  change (text (first :: others.take less) ++ List.replicate _ 0 ++ rest).head? = _
  by_cases nul : first = 0 <;> simp [text, nul, List.replicate_succ]

theorem string_field_iff {src rest : Bytes} {count : Nat} {next : UInt8}
    (enough : count ≤ src.length) (first : rest.head? = some next) :
    text ((padded src count).toList ++ rest) = text (src.take count) ↔
      0 ∈ src.take count ∨ next = 0 := by
  rw [← text_padded, text_field_iff first, mem_padded enough]

end CStrings

theorem hostBytes_loadHost {p : Bytes} (sized : p.length = hostSize) :
    ∃ host, loadHost p = .ok host ∧ hostBytes host = p := by
  have size : hostSize = 10 := rfl
  have port : (p.drop 4).length = p.length - 4 := List.length_drop
  have state : (p.drop 6).length = p.length - 6 := List.length_drop
  refine ⟨⟨ntohl p, ntohs (p.drop 4), ntohl (p.drop 6)⟩, ?_, ?_⟩
  · rw [loadHost, load32_inside (by omega), load16_inside (by omega), load32_inside (by omega)]
    rfl
  · simp only [hostBytes]
    rw [← ntohl_take p 4 le_rfl, ← ntohs_take (p.drop 4) 2 le_rfl,
      ← ntohl_take (p.drop 6) 4 le_rfl, htonl_ntohl (List.length_take_of_le (by omega)),
      htons_ntohs (List.length_take_of_le (by omega)),
      htonl_ntohl (List.length_take_of_le (by omega)), ← List.take_add, ← List.take_add,
      List.take_of_length_le (by omega)]

-- string(reg_req.service_name), where the host of the request lies behind the name.
def MsgBusRegisterReq.serviceString (req : MsgBusRegisterReq) (behind : Bytes) : Name :=
  text (req.serviceName.toList ++ hostBytes req.serviceHost ++ behind)

def MsgBusUnRegisterReq.serviceString (req : MsgBusUnRegisterReq) (behind : Bytes) : Name :=
  text (req.serviceName.toList ++ hostBytes req.serviceHost ++ behind)

-- The bodies whose name the server makes a string of.
inductive NamedBody where
  | register (body : Bytes) (sized : body.length = maxServiceName + hostSize)
  | unRegister (body : Bytes) (sized : body.length = maxServiceName + hostSize)
  | sendMsg (body : Bytes)
      (formed : sendMsgFixed + (ntohl (body.drop (maxServiceName * 2))).toNat ≤ body.length)

namespace NamedBody

def bytes : NamedBody -> Bytes
  | register body _ | unRegister body _ | sendMsg body _ => body

def field (named : NamedBody) : Bytes := named.bytes.take maxServiceName

-- The byte behind the field: the first of service_host, or of from_name.
def next (named : NamedBody) : UInt8 := named.bytes.getD maxServiceName 0

-- The string is the field up to its NUL, or all of it, whatever object the body is unpacked to and
-- whatever lies in memory behind that object.
def ReadsOwnField (named : NamedBody) : Prop :=
  match named with
  | register body _ => ∀ (fresh : MsgBusRegisterReq) (behind : Bytes), ∃ req,
    fresh.unPackBody body 0 = .ok (0, req) ∧ req.serviceString behind = text named.field
  | unRegister body _ => ∀ (fresh : MsgBusUnRegisterReq) (behind : Bytes), ∃ req,
    fresh.unPackBody body 0 = .ok (0, req) ∧ req.serviceString behind = text named.field
  | sendMsg body _ => ∀ (fresh : MsgBusSendMsgReq) (behind : Bytes), ∃ req,
    fresh.unPackBody body body.length = .ok (0, req) ∧ destString req behind = text named.field

theorem nameAndHost_unpacked {body : Bytes} (sized : body.length = maxServiceName + hostSize) :
    ∃ host, strncpy body maxServiceName = .ok (padded body maxServiceName) ∧
      loadHost (body.drop maxServiceName) = .ok host ∧
      ∀ behind, (hostBytes host ++ behind).head? = some (body.getD maxServiceName 0) := by
  have rest : (body.drop maxServiceName).length = hostSize := by rw [List.length_drop]; omega
  obtain ⟨host, loaded, same⟩ := hostBytes_loadHost rest
  refine ⟨host, strncpy_inside (by omega), loaded, fun behind => ?_⟩
  have size : hostSize = 10 := rfl
  rw [same, List.head?_append, List.head?_drop, List.getElem?_eq_getElem (by omega),
    List.getD_eq_getElem _ _ (by omega)]
  rfl

theorem reads_iff_of_unpacked {Object : Type} {named : NamedBody} (object : Object)
    {unpack : Object -> Except Abort (Int × Object)} {string : Object -> Bytes -> Name}
    (enough : maxServiceName ≤ named.bytes.length)
    (unpacked : ∀ fresh, ∃ req, unpack fresh = .ok (0, req) ∧ ∀ behind, ∃ rest,
      string req behind = text ((padded named.bytes maxServiceName).toList ++ rest) ∧
        rest.head? = some named.next) :
    (∀ fresh behind, ∃ req, unpack fresh = .ok (0, req) ∧ string req behind = text named.field) ↔
      0 ∈ named.field ∨ named.next = 0 := by
  constructor
  · intro own
    obtain ⟨req, ran, strings⟩ := unpacked object
    obtain ⟨rest, same, first⟩ := strings []
    obtain ⟨read, ranToo, whole⟩ := own object []
    obtain rfl := (Prod.mk.inj (Except.ok.inj (ran.symm.trans ranToo))).2
    exact (string_field_iff enough first).mp (same.symm.trans whole)
  · intro ends fresh behind
    obtain ⟨req, ran, strings⟩ := unpacked fresh
    obtain ⟨rest, same, first⟩ := strings behind
    exact ⟨req, ran, same.trans ((string_field_iff enough first).mpr ends)⟩

theorem reads_own_field_iff (named : NamedBody) :
    named.ReadsOwnField ↔ 0 ∈ named.field ∨ named.next = 0 := by
  cases named with
  | register body sized =>
    obtain ⟨host, copied, loaded, first⟩ := nameAndHost_unpacked sized
    refine @reads_iff_of_unpacked _ (.register body sized)
      ⟨newHead 0 BodyType.reqRegister, padded [] _, ClientHost.unset⟩ _ _ (by simp only [bytes]; omega)
      fun fresh => ⟨{ fresh with serviceName := padded body _, serviceHost := host }, ?_, ?_⟩
    · simp only [MsgBusRegisterReq.unPackBody, checkRoom_zero, copied, loaded, ok_bind]
      rfl
    · exact fun behind => ⟨_, congrArg text (List.append_assoc ..), first behind⟩
  | unRegister body sized =>
    obtain ⟨host, copied, loaded, first⟩ := nameAndHost_unpacked sized
    refine @reads_iff_of_unpacked _ (.unRegister body sized)
      ⟨newHead 0 BodyType.reqUnregister, padded [] _, ClientHost.unset⟩ _ _ (by simp only [bytes]; omega)
      fun fresh => ⟨{ fresh with serviceName := padded body _, serviceHost := host }, ?_, ?_⟩
    · simp only [MsgBusUnRegisterReq.unPackBody, checkRoom_zero, copied, loaded, ok_bind]
      rfl
    · exact fun behind => ⟨_, congrArg text (List.append_assoc ..), first behind⟩
  | sendMsg body formed =>
    have fixedSize : sendMsgFixed = maxServiceName * 2 + 4 := rfl
    have named : maxServiceName = 64 := rfl
    refine @reads_iff_of_unpacked _ (.sendMsg body formed)
      (newSendMsgReq (padded [] _) (padded [] _)) _ _ (by simp only [bytes]; omega) fun fresh => ?_
    obtain ⟨result, unpacked, ways⟩ := @unPackBody_sendMsg fresh body (by omega)
    cases ways with
    | short few => omega
    | cut fixed few => omega
    | whole enough =>
      refine ⟨_, unpacked, fun behind => ⟨_, congrArg text (List.append_assoc ..), ?_⟩⟩
      refine head_padded (by omega) ?_
      rw [List.head?_drop, next, bytes, List.getElem?_eq_getElem (by omega),
        List.getD_eq_getElem _ _ (by omega)]

def longName : Bytes := List.replicate maxServiceName 97 ++ [127, 0, 0, 1, 35, 40, 0, 0, 0, 0]

-- The name is registered with the first byte of the address at its end.
theorem long_name_runs_on : ¬ (register longName (by decide)).ReadsOwnField := by
  intro own
  obtain ⟨req, ran, same⟩ := own ⟨newHead 0 BodyType.reqRegister, padded [] _, ClientHost.unset⟩ []
  have runsOn : (MsgBusRegisterReq.unPackBody ⟨newHead 0 BodyType.reqRegister, padded [] _,
      ClientHost.unset⟩ longName 0).toOption.map (fun result => result.2.serviceString []) =
        some (longName.take 65) := by decide
  rw [ran] at runsOn
  have longer := (Option.some.inj runsOn).symm.trans same
  exact absurd (congrArg List.length longer) (by decide)

end NamedBody

end MessageBus.Messages
