import MessageBus.Wire.MessageCodec

set_option autoImplicit false

namespace MessageBus.Messages

open Bytes Readers

structure RequestFrame where
  head : MsgBusPackHead
  body : Bytes
  fits : body.length = head.bodyLen.toNat
  filled : 1 ≤ body.length

-- Every frame that server_onRead cuts off a stream and does not fail on is one.
theorem dispatched_fits (stream : Bytes) :
    ∀ frame ∈ packHeadFormat.frames stream, frame.2.length = frame.1.bodyLen.toNat := by
  induction stream using packHeadFormat.stream_induction with
  | incomplete stream missing =>
    rw [packHeadFormat.frames_none missing]
    exact fun frame member => by cases member
  | frame stream frame total found ih =>
    rw [packHeadFormat.frames_some found, List.forall_mem_cons]
    obtain ⟨head, _, complete, rfl, _⟩ := packHeadFormat_found found
    refine ⟨?_, ih⟩
    have enough : head.bodyLen.toNat ≤ (stream.drop MsgBusPackHead.size).length := by
      rw [List.length_drop]
      omega
    exact List.length_take_of_le enough

def requestFrame (stream : Bytes) (frame : MsgBusPackHead × Bytes)
    (cut : frame ∈ packHeadFormat.frames stream) (asserted : frame.1.bodyLen.toNat ≠ 0) :
    RequestFrame where
  head := frame.1
  body := frame.2
  fits := dispatched_fits stream frame cut
  filled := by
    rw [dispatched_fits stream frame cut]
    exact Nat.one_le_iff_ne_zero.mpr asserted

def requestKind (checkReg : Bool) (head : MsgBusPackHead) : Option Kind :=
  if head.msgType = 0 then
    if head.bodyType ≠ BodyType.reqRegister ∧ head.bodyType ≠ BodyType.reqConfirmAlive ∧
        checkReg = false then none
    else if head.bodyType = BodyType.reqRegister then some .registerReq
    else if head.bodyType = BodyType.reqGetclient then some .getClientReq
    else if head.bodyType = BodyType.reqSendmsg then some .sendMsgReq
    else if head.bodyType = BodyType.reqUnregister then some .unRegisterReq
    else if head.bodyType = BodyType.reqConfirmAlive then some .confirmAliveReq
    else if head.bodyType = BodyType.bodyPbtype then some .packPBType
    else none
  else none

-- The length a handler passes to UnPackBody; the others leave it out.
def passedLen (kind : Kind) (bodyLen : Nat) : Nat :=
  match kind with
  | .sendMsgReq | .packPBType => bodyLen
  | _ => 0

-- A MsgBusSendMsgReq without its content.
def sendMsgFixed : Nat := maxServiceName * 2 + 4

-- How long a body has to be for the message it begins.
def messageLength (kind : Kind) (body : Bytes) : Nat :=
  match kind with
  | .registerReq => bodySize MsgBusRegisterReq.size
  | .unRegisterReq => bodySize MsgBusUnRegisterReq.size
  | .getClientReq => bodySize MsgBusGetClientReq.size
  | .confirmAliveReq => bodySize MsgBusConfirmAliveReq.size
  | .sendMsgReq =>
    if body.length < sendMsgFixed then sendMsgFixed
    else sendMsgFixed + (ntohl (body.drop (maxServiceName * 2))).toNat
  | _ => 0

def ReadsWithin (kind : Kind) (body : Bytes) : Prop :=
  ∀ fresh : kind.Object, ∃ result,
    kind.messageClass.unPackBody fresh body (passedLen kind body.length) = .ok result ∧
      (body.length < messageLength kind body → result.1 = -1)

-- The requests to register, unregister, confirm alive, get a client and send a message; a body of
-- BODY_PBTYPE has a handler of its own kind.
def ServedWithin (checkReg : Bool) (frame : RequestFrame) : Prop :=
  ∀ kind, requestKind checkReg frame.head = some kind → kind ≠ .packPBType →
    ReadsWithin kind frame.body

theorem bind_ok {First Second : Type} {first : Except Abort First}
    {next : First -> Except Abort Second} {result : Second} (ran : first >>= next = .ok result) :
    ∃ between, first = .ok between ∧ next between = .ok result := by
  cases first with
  | error abort => cases ran
  | ok between => exact ⟨between, rfl, ran⟩

theorem strncpy_inside {src : Bytes} {count : Nat} (enough : count ≤ src.length) :
    strncpy src count = .ok (padded src count) :=
  if_pos (.inl enough)

theorem memcpy_inside {src : Bytes} {count : Nat} (enough : count ≤ src.length) :
    memcpy src count = .ok (src.take count) :=
  if_pos enough

theorem memcpy_ok {src bytes : Bytes} {count : Nat} (copied : memcpy src count = .ok bytes) :
    count ≤ src.length := by
  unfold memcpy at copied
  split at copied
  · assumption
  · cases copied

theorem load32_inside {p : Bytes} (enough : 4 ≤ p.length) : load32 p = .ok (ntohl p) := by
  rw [load32, memcpy_inside enough, ok_bind, ntohl_take _ _ (le_refl 4)]
  rfl

theorem load16_inside {p : Bytes} (enough : 2 ≤ p.length) : load16 p = .ok (ntohs p) := by
  rw [load16, memcpy_inside enough, ok_bind, ntohs_take _ _ (le_refl 2)]
  rfl

theorem loadHost_inside {p : Bytes} (enough : hostSize ≤ p.length) :
    ∃ host, loadHost p = .ok host := by
  have size : hostSize = 10 := rfl
  rw [loadHost, load32_inside (by omega), load16_inside (by simp only [List.length_drop]; omega),
    load32_inside (by simp only [List.length_drop]; omega)]
  exact ⟨_, rfl⟩

theorem loadHost_ok {p : Bytes} {host : Server.ClientHost} (loaded : loadHost p = .ok host) :
    hostSize ≤ p.length := by
  obtain ⟨_, _, rest⟩ := bind_ok loaded
  obtain ⟨_, _, rest⟩ := bind_ok rest
  obtain ⟨_, last, _⟩ := bind_ok rest
  obtain ⟨_, copied, _⟩ := bind_ok last
  have enough := memcpy_ok copied
  rw [List.length_drop] at enough
  have size : hostSize = 10 := rfl
  omega

theorem nameAndHost_iff {body : Bytes} :
    (∃ name host, strncpy body maxServiceName = .ok name ∧
      loadHost (body.drop maxServiceName) = .ok host) ↔
      maxServiceName + hostSize ≤ body.length := by
  have size : hostSize = 10 := rfl
  constructor
  · rintro ⟨_, host, _, loaded⟩
    have enough := loadHost_ok loaded
    rw [List.length_drop] at enough
    omega
  · intro enough
    obtain ⟨host, loaded⟩ := @loadHost_inside (body.drop maxServiceName)
      (by rw [List.length_drop]; omega)
    exact ⟨_, host, strncpy_inside (by omega), loaded⟩

theorem within_iff_of_reads {kind : Kind} {body : Bytes} (fresh : kind.Object)
    (reads : ∀ fresh : kind.Object, (∃ result,
      kind.messageClass.unPackBody fresh body (passedLen kind body.length) = .ok result) ↔
        messageLength kind body ≤ body.length) :
    ReadsWithin kind body ↔ messageLength kind body ≤ body.length := by
  constructor
  · intro within
    obtain ⟨result, unpacked, _⟩ := within fresh
    exact (reads fresh).mp ⟨result, unpacked⟩
  · intro enough fresh
    obtain ⟨result, unpacked⟩ := (reads fresh).mpr enough
    exact ⟨result, unpacked, fun short => absurd short (Nat.not_lt.mpr enough)⟩

theorem nameAndHost_within {kind : Kind} {body : Bytes} (fresh : kind.Object)
    (fill : kind.Object -> ServiceName -> Server.ClientHost -> kind.Object)
    (asks : messageLength kind body = maxServiceName + hostSize)
    (unpacks : ∀ fresh : kind.Object,
      kind.messageClass.unPackBody fresh body (passedLen kind body.length) = (do
        let name ← strncpy body maxServiceName
        let host ← loadHost (body.drop maxServiceName)
        return (0, fill fresh name host))) :
    ReadsWithin kind body ↔ messageLength kind body ≤ body.length := by
  refine within_iff_of_reads fresh fun fresh => ?_
  rw [asks, unpacks fresh]
  refine Iff.trans ⟨?_, ?_⟩ nameAndHost_iff
  · rintro ⟨result, unpacked⟩
    obtain ⟨name, copied, rest⟩ := bind_ok unpacked
    obtain ⟨host, loaded, _⟩ := bind_ok rest
    exact ⟨name, host, copied, loaded⟩
  · rintro ⟨name, host, copied, loaded⟩
    refine ⟨(0, fill fresh name host), ?_⟩
    rw [copied, ok_bind, loaded, ok_bind]
    rfl

theorem registerReq_within (body : Bytes) : ReadsWithin .registerReq body ↔
    messageLength .registerReq body ≤ body.length := by
  let fill (req : MsgBusRegisterReq) name host :=
    { req with serviceName := name, serviceHost := host }
  apply @nameAndHost_within .registerReq body
    ⟨MsgBusPackHead.default, padded [] _, Server.ClientHost.unset⟩ fill rfl
  intro fresh
  simp only [Kind.messageClass, MsgBusRegisterReq.messageClass, MsgBusRegisterReq.unPackBody,
    passedLen, checkRoom_zero, ok_bind]
  rfl

theorem unRegisterReq_within (body : Bytes) : ReadsWithin .unRegisterReq body ↔
    messageLength .unRegisterReq body ≤ body.length := by
  let fill (req : MsgBusUnRegisterReq) name host :=
    { req with serviceName := name, serviceHost := host }
  apply @nameAndHost_within .unRegisterReq body
    ⟨MsgBusPackHead.default, padded [] _, Server.ClientHost.unset⟩ fill rfl
  intro fresh
  simp only [Kind.messageClass, MsgBusUnRegisterReq.messageClass, MsgBusUnRegisterReq.unPackBody,
    passedLen, checkRoom_zero, ok_bind]
  rfl

theorem getClientReq_within (body : Bytes) : ReadsWithin .getClientReq body ↔
    messageLength .getClientReq body ≤ body.length := by
  have length : messageLength .getClientReq body = maxServiceName := rfl
  rw [length]
  constructor
  · intro within
    let fresh : MsgBusGetClientReq := ⟨MsgBusPackHead.default, padded [] _⟩
    obtain ⟨result, unpacked, rejects⟩ := within fresh
    obtain ⟨_, _, rest⟩ := bind_ok unpacked
    obtain ⟨name, copied, accepted⟩ := bind_ok rest
    -- A short body with a NUL in it is read to the NUL and accepted.
    by_contra short
    have refused := rejects (by rw [length]; omega)
    rw [← Except.ok.inj accepted] at refused
    cases refused
  · intro enough fresh
    refine ⟨(0, { fresh with destName := padded body _ }), ?_, ?_⟩
    · simp only [Kind.messageClass, MsgBusGetClientReq.messageClass, MsgBusGetClientReq.unPackBody,
        passedLen, checkRoom_zero, strncpy_inside enough, ok_bind]
      rfl
    · intro short
      rw [length] at short
      omega

theorem confirmAliveReq_within {body : Bytes} (filled : 1 ≤ body.length) :
    ReadsWithin .confirmAliveReq body := by
  have length : messageLength .confirmAliveReq body = 1 := rfl
  intro fresh
  refine ⟨(0, { fresh with aliveFlag := (body.take 1).getD 0 0 }), ?_, ?_⟩
  · simp only [Kind.messageClass, MsgBusConfirmAliveReq.messageClass,
      MsgBusConfirmAliveReq.unPackBody, passedLen, checkRoom_zero, load8, memcpy_inside filled,
      ok_bind]
    rfl
  · intro short
    rw [length] at short
    omega

inductive UnPacksSendMsg (req : MsgBusSendMsgReq) (body : Bytes) :
    Int × MsgBusSendMsgReq -> Prop where
  | short (few : body.length < sendMsgFixed) : UnPacksSendMsg req body (-1, req)
  | cut (fixed : sendMsgFixed ≤ body.length)
      (few : body.length < sendMsgFixed + (ntohl (body.drop (maxServiceName * 2))).toNat) :
      UnPacksSendMsg req body (-1, { req with
        destName := padded body maxServiceName
        fromName := padded (body.drop maxServiceName) maxServiceName
        msgLen := ntohl (body.drop (maxServiceName * 2)) })
  | whole (enough : sendMsgFixed + (ntohl (body.drop (maxServiceName * 2))).toNat ≤ body.length) :
      UnPacksSendMsg req body (0, { req with
        destName := padded body maxServiceName
        fromName := padded (body.drop maxServiceName) maxServiceName
        msgLen := ntohl (body.drop (maxServiceName * 2))
        needfree := true
        msgContent :=
          (body.drop sendMsgFixed).take (ntohl (body.drop (maxServiceName * 2))).toNat })

theorem unPackBody_sendMsg (req : MsgBusSendMsgReq) {body : Bytes} (filled : 1 ≤ body.length) :
    ∃ result, req.unPackBody body body.length = .ok result ∧ UnPacksSendMsg req body result := by
  have fixedSize : sendMsgFixed = maxServiceName * 2 + 4 := rfl
  have named : maxServiceName = 64 := rfl
  have given : body.length ≠ 0 := by omega
  unfold MsgBusSendMsgReq.unPackBody
  by_cases short : body.length < sendMsgFixed
  · rw [if_pos ⟨given, short⟩]
    exact ⟨_, rfl, .short short⟩
  · rw [if_neg (fun both => short both.2)]
    have dest := @strncpy_inside body maxServiceName (by omega)
    have from_ := @strncpy_inside (body.drop maxServiceName) maxServiceName
      (by rw [List.length_drop]; omega)
    have length := @load32_inside (body.drop (maxServiceName * 2))
      (by rw [List.length_drop]; omega)
    have behindNames : (body.drop maxServiceName).drop maxServiceName =
        body.drop (maxServiceName * 2) := by rw [List.drop_drop, Nat.mul_two]
    have behindLength : (body.drop (maxServiceName * 2)).drop 4 = body.drop sendMsgFixed := by
      rw [List.drop_drop, fixedSize]
    simp only [dest, from_, length, behindNames, behindLength, ok_bind]
    by_cases cut : body.length < maxServiceName * 2 + 4 +
        (ntohl (body.drop (maxServiceName * 2))).toNat
    · rw [if_pos ⟨given, cut⟩]
      exact ⟨_, rfl, .cut (Nat.not_lt.mp short) cut⟩
    · rw [if_neg (fun both => cut both.2)]
      have content := @memcpy_inside (body.drop sendMsgFixed)
        (ntohl (body.drop (maxServiceName * 2))).toNat (by rw [List.length_drop]; omega)
      rw [content, ok_bind]
      refine ⟨_, rfl, ?_⟩
      rw [MsgBusSendMsgReq.freed]
      exact .whole (by omega)

theorem sendMsgReq_within {body : Bytes} (filled : 1 ≤ body.length) :
    ReadsWithin .sendMsgReq body := by
  intro fresh
  obtain ⟨result, unpacked, ways⟩ := unPackBody_sendMsg fresh filled
  refine ⟨result, unpacked, ?_⟩
  simp only [messageLength]
  cases ways with
  | short few => exact fun _ => rfl
  | cut fixed few => exact fun _ => rfl
  | whole enough =>
    split
    next few => omega
    next => exact fun short => absurd enough (Nat.not_le.mpr short)

theorem requestKind_cases {checkReg : Bool} {head : MsgBusPackHead} {kind : Kind}
    (reached : requestKind checkReg head = some kind) :
    kind = .registerReq ∨ kind = .unRegisterReq ∨ kind = .getClientReq ∨ kind = .sendMsgReq ∨
      kind = .confirmAliveReq ∨ kind = .packPBType := by
  unfold requestKind at reached
  split_ifs at reached <;> cases reached <;> simp

theorem served_within_iff (checkReg : Bool) (frame : RequestFrame) :
    ServedWithin checkReg frame ↔ ∀ kind, requestKind checkReg frame.head = some kind →
      kind = .registerReq ∨ kind = .unRegisterReq ∨ kind = .getClientReq →
        messageLength kind frame.body ≤ frame.body.length := by
  constructor
  · intro served kind reached which
    have within := served kind reached (by rintro rfl; simp at which)
    rcases which with rfl | rfl | rfl
    · exact (registerReq_within frame.body).mp within
    · exact (unRegisterReq_within frame.body).mp within
    · exact (getClientReq_within frame.body).mp within
  · intro long kind reached notPb
    have enough := long kind reached
    rcases requestKind_cases reached with rfl | rfl | rfl | rfl | rfl | rfl
    · exact (registerReq_within frame.body).mpr (enough (.inl rfl))
    · exact (unRegisterReq_within frame.body).mpr (enough (.inr (.inl rfl)))
    · exact (getClientReq_within frame.body).mpr (enough (.inr (.inr rfl)))
    · exact sendMsgReq_within frame.filled
    · exact confirmAliveReq_within frame.filled
    · exact absurd rfl notPb

-- A register request of one byte, which any connection may send.
def shortRegister : RequestFrame where
  head := { newHead 0 BodyType.reqRegister with bodyLen := 1 }
  body := [0]
  fits := rfl
  filled := le_rfl

theorem short_register_read_past :
    requestKind false shortRegister.head = some .registerReq ∧
      MsgBusRegisterReq.unPackBody ⟨MsgBusPackHead.default, padded [] _, Server.ClientHost.unset⟩
        shortRegister.body 0 = .error .pastEnd ∧ ¬ ServedWithin false shortRegister := by
  have reached : requestKind false shortRegister.head = some .registerReq := by decide
  refine ⟨reached, by decide, ?_⟩
  intro served
  have within := served .registerReq reached (by decide)
  have enough := (registerReq_within shortRegister.body).mp within
  exact absurd enough (by decide)

end MessageBus.Messages
