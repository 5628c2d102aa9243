import MessageBus.Wire.PyAgreement

set_option autoImplicit false

namespace MessageBus.Messages

open Bytes Framing Readers StructFormat

def Marked (head : MsgBusPackHead) : Prop := head.magic = 0x66 ∧ head.version = 1

instance (head : MsgBusPackHead) : Decidable (Marked head) :=
  inferInstanceAs (Decidable (_ ∧ _))

def readHead (data : Bytes) : MsgBusPackHead := (MsgBusPackHead.default.unPackHead data 0).2

theorem packHead_readHead {data : Bytes} (enough : MsgBusPackHead.size ≤ data.length) :
    packHead (readHead data) = data.take MsgBusPackHead.size := by
  have size : MsgBusPackHead.size = 16 := rfl
  have version : htons (ntohs (data.drop 1)) = (data.drop 1).take 2 := by
    rw [← ntohs_take _ 2 (le_refl 2)]
    exact htons_ntohs (List.length_take_of_le (by rw [List.length_drop]; omega))
  have word : ∀ offset, offset + 4 ≤ 16 →
      htonl (ntohl (data.drop offset)) = (data.drop offset).take 4 := by
    intro offset inside
    rw [← ntohl_take _ 4 (le_refl 4)]
    exact htonl_ntohl (List.length_take_of_le (by rw [List.length_drop]; omega))
  have byte : ∀ offset, offset < 16 → [data.getD offset 0] = (data.drop offset).take 1 := by
    intro offset inside
    have there : offset < data.length := by omega
    rw [List.take_one_drop_eq_of_lt_length there, List.getD_eq_getElem _ _ there]
    rfl
  simp only [packHead, readHead, MsgBusPackHead.unPackHead]
  rw [if_neg (by simp)]
  simp only [version, word 4 (by decide), word 8 (by decide), word 12 (by decide),
    byte 0 (by decide), byte 3 (by decide), size, List.drop_zero]
  rw [← List.take_add, ← List.take_add, ← List.take_add, ← List.take_add, ← List.take_add]

-- The first bytes of a frame that the Python port takes.
def mark : Bytes := [0x66, 0, 1]

theorem marked_iff {data : Bytes} (enough : MsgBusPackHead.size ≤ data.length) :
    Marked (readHead data) ↔ data.take 3 = mark := by
  have bytes : data.take 3 = (readHead data).magic :: htons (readHead data).version := by
    have front : (data.take MsgBusPackHead.size).take 3 = data.take 3 :=
      List.take_take ▸ rfl
    rw [← front, ← packHead_readHead enough]
    rfl
  have version : (readHead data).version = 1 ↔ htons (readHead data).version = [0, 1] := by
    constructor
    · intro one
      rw [one]
      rfl
    · intro written
      have loaded := ntohs_htons (readHead data).version []
      rw [written] at loaded
      exact loaded.symm
  rw [Marked, bytes, mark, List.cons.injEq, version]

theorem unPackHead_reads {data : Bytes} (enough : MsgBusPackHead.size ≤ data.length) :
    PyPort.MsgBusPackHead.unPackHead data =
      some (decide (Marked (readHead data)), wireHead (readHead data)) := by
  have parts : data = packHead (readHead data) ++ data.drop MsgBusPackHead.size := by
    rw [packHead_readHead enough, List.take_append_drop]
  have unpacked := unpack_pack (packHead_wire (readHead data)) (data.drop MsgBusPackHead.size)
  rw [← parts] at unpacked
  have magic : ((readHead data).magic.toNat : Int) = 0x66 ↔ (readHead data).magic = 0x66 := by
    rw [← UInt8.toNat_inj]
    exact Int.natCast_inj
  have version : ((readHead data).version.toNat : Int) = 1 ↔ (readHead data).version = 1 := by
    rw [← UInt16.toNat_inj]
    exact Int.natCast_inj
  have flag : (!((wireHead (readHead data)).magic != 0x66 ||
      (wireHead (readHead data)).version != 0x0001)) = decide (Marked (readHead data)) := by
    rw [Bool.eq_iff_iff, decide_eq_true_iff]
    simp [wireHead, pyHead, Marked, magic, version]
  simp only [PyPort.MsgBusPackHead.unPackHead, unpackFrom, List.drop_zero, unpacked]
  rw [← flag]
  rfl

theorem ntohl_small_iff {bytes : Bytes} (enough : 4 ≤ bytes.length) :
    (ntohl bytes).toNat < 2 ^ 31 ↔ bytes.getD 0 0 < 0x80 := by
  match bytes, enough with
  | b3 :: b2 :: b1 :: b0 :: rest, _ =>
    have bound3 := b3.toNat_lt
    have bound2 := b2.toNat_lt
    have bound1 := b1.toNat_lt
    have bound0 := b0.toNat_lt
    rw [List.getD_cons_zero, UInt8.lt_iff_toNat_lt]
    simp only [ntohl, UInt32.toNat_ofNat', UInt8.reduceToNat]
    omega

-- A body type that the enumeration of C++ and the signed format of Python read as one number.
theorem readHead_small_iff {data : Bytes} (enough : MsgBusPackHead.size ≤ data.length) :
    (readHead data).bodyType.toNat < 2 ^ 31 ↔ data.getD 8 0 < 0x80 := by
  have size : MsgBusPackHead.size = 16 := rfl
  have there : 4 ≤ (data.drop 8).length := by
    rw [List.length_drop]
    omega
  have first : (data.drop 8).getD 0 0 = data.getD 8 0 := by
    rw [List.getD_eq_getElem?_getD, List.getElem?_drop, List.getD_eq_getElem?_getD]
  rw [← first, ← ntohl_small_iff there]
  rfl

-- The two UnPackHead agree on a head: what Python refuses is an error, and the rest is read alike.
def HeadsAgree (fresh : MsgBusPackHead) (data : Bytes) : Prop :=
  ∃ taken head, PyPort.MsgBusPackHead.unPackHead data = some (taken, head) ∧
    (taken = false → (fresh.unPackHead data 0).1 = -1) ∧
    (taken = true → (fresh.unPackHead data 0).1 ≠ -1 ∧ pyHead (fresh.unPackHead data 0).2 = head)

theorem headsAgree_iff (fresh : MsgBusPackHead) {data : Bytes}
    (enough : MsgBusPackHead.size ≤ data.length) :
    HeadsAgree fresh data ↔ data.take 3 = mark ∧ data.getD 8 0 < 0x80 := by
  have offset : (fresh.unPackHead data 0).1 = 12 := rfl
  have same : (fresh.unPackHead data 0).2 = readHead data := rfl
  rw [← marked_iff enough, ← readHead_small_iff enough, ← wireHead_eq_iff]
  constructor
  · rintro ⟨taken, head, unpacked, refused, read⟩
    rw [unPackHead_reads enough] at unpacked
    obtain ⟨rfl, rfl⟩ := Prod.mk.inj (Option.some.inj unpacked)
    have marked : Marked (readHead data) := by
      by_contra foreign
      have failed := refused (decide_eq_false foreign)
      rw [offset] at failed
      cases failed
    have numbers := (read (decide_eq_true marked)).2
    rw [same] at numbers
    exact ⟨marked, numbers.symm⟩
  · rintro ⟨marked, numbers⟩
    refine ⟨_, _, unPackHead_reads enough, ?_, ?_⟩
    · intro refused
      exact absurd marked (of_decide_eq_false refused)
    · intro _
      rw [offset, same, numbers]
      exact ⟨by decide, rfl⟩

section Streams

variable {Task : Type}

-- However the stream arrives, what is handed on are frames of it, and all of them are marked. A
-- read that fails the assertion ends the process, so what has arrived before counts as well.
def HandsOnMarked (onRead : Bytes -> List Task -> Option (Nat × List Task))
    (taskOf : MsgBusPackHead × Bytes -> Task) (stream : Bytes) : Prop :=
  ∀ (reads : List Bytes) (inbuf : Bytes) (tasks : List Task), reads.flatten <+: stream →
    handleReads onRead reads [] = some (inbuf, tasks) →
      ∃ frames, packHeadFormat.Decomposes reads.flatten frames inbuf ∧
        tasks = frames.map taskOf ∧ ∀ frame ∈ frames, Marked frame.1

-- Behind whole frames that the loop takes lies one that it takes, without the mark.
def Foreign (takes : MsgBusPackHead -> Bool) (stream : Bytes) : Prop :=
  ∃ front rest total frame, stream = front ++ rest ∧ packHeadFormat.tail front = [] ∧
    (∀ earlier ∈ packHeadFormat.frames front, takes earlier.1 = true) ∧
      packHeadFormat.first rest = some (frame, total) ∧ takes frame.1 = true ∧ rest.take 3 ≠ mark

-- What a loop that takes some heads does with one frame.
def handOn (takes : MsgBusPackHead -> Bool) (taskOf : MsgBusPackHead × Bytes -> Task)
    (tasks : List Task) (frame : MsgBusPackHead × Bytes) : Option (List Task) :=
  if takes frame.1 then some (tasks ++ [taskOf frame]) else none

variable {takes : MsgBusPackHead -> Bool} {taskOf : MsgBusPackHead × Bytes -> Task}

theorem foldlM_handOn {frames : List (MsgBusPackHead × Bytes)} {tasks done : List Task} :
    frames.foldlM (handOn takes taskOf) tasks = some done ↔
      (∀ frame ∈ frames, takes frame.1 = true) ∧ done = tasks ++ frames.map taskOf := by
  induction frames generalizing tasks with
  | nil =>
    rw [List.foldlM_nil, List.map_nil, List.append_nil, and_iff_right (by simp), eq_comm]
    exact Option.some_inj
  | cons frame rest ih =>
    rw [List.foldlM_cons, List.forall_mem_cons, List.map_cons, and_assoc]
    cases taken : takes frame.1 with
    | false =>
      have refused : handOn takes taskOf tasks frame = none := if_neg (by rw [taken]; decide)
      rw [refused]
      exact iff_of_false (by simp) (by simp)
    | true =>
      have handed : handOn takes taskOf tasks frame = some (tasks ++ [taskOf frame]) := if_pos taken
      rw [handed, Option.bind_eq_bind, Option.bind_some, ih, List.append_assoc,
        List.singleton_append, and_iff_right rfl]

theorem first_marked_iff {rest : Bytes} {frame : MsgBusPackHead × Bytes} {total : Nat}
    (found : packHeadFormat.first rest = some (frame, total)) :
    Marked frame.1 ↔ rest.take 3 = mark := by
  obtain ⟨head, unpacked, complete, rfl, _⟩ := packHeadFormat_found found
  have same : readHead rest = head := congrArg Prod.snd unpacked
  rw [← marked_iff (Nat.le_of_add_right_le complete), same]

theorem handsOnMarked_iff (stream : Bytes) :
    HandsOnMarked (packHeadFormat.consume (handOn takes taskOf)) taskOf stream ↔
      ¬ Foreign takes stream := by
  constructor
  · rintro marks ⟨front, rest, total, frame, rfl, whole, earlier, found, taken, foreign⟩
    -- The foreign frame has arrived, and nothing behind it.
    have frames : packHeadFormat.frames (front ++ rest.take total) =
        packHeadFormat.frames front ++ [frame] := by
      rw [packHeadFormat.frames_append, whole, List.nil_append, packHeadFormat.frames_take found]
    have arrived := handleReads_consume packHeadFormat (handOn takes taskOf)
      [front ++ rest.take total] []
    rw [List.flatten_singleton, frames, foldlM_handOn.mpr ⟨?taken, rfl⟩, Option.map_some] at arrived
    case taken =>
      rw [List.forall_mem_append, List.forall_mem_singleton]
      exact ⟨earlier, taken⟩
    obtain ⟨handed, parts, _, marked⟩ := marks _ _ _
      (by rw [List.flatten_singleton]
          exact (List.prefix_append_right_inj front).mpr (List.take_prefix total rest)) arrived
    have same := packHeadFormat.frames_of_decomposes parts
    rw [List.flatten_singleton, frames] at same
    have last := marked frame (same ▸ List.mem_append_right _ (List.mem_singleton_self frame))
    exact foreign ((first_marked_iff found).mp last)
  · intro known reads inbuf tasks cut ran
    rw [handleReads_consume, Option.map_eq_some_iff] at ran
    obtain ⟨done, handed, same⟩ := ran
    obtain ⟨rfl, rfl⟩ := Prod.mk.inj same
    obtain ⟨taken, rfl⟩ := foldlM_handOn.mp handed
    refine ⟨_, packHeadFormat.decomposes reads.flatten, List.nil_append _, ?_⟩
    intro frame member
    by_contra unmarked
    obtain ⟨before, after, frames⟩ := List.append_of_mem member
    obtain ⟨front, rest, total, parts, earlier, whole, found⟩ := packHeadFormat.frames_split frames
    obtain ⟨more, rfl⟩ := cut
    have later : packHeadFormat.first (rest ++ more) = some (frame, total) :=
      packHeadFormat.first_append found
    refine known ⟨front, rest ++ more, total, frame, ?_, whole, ?_, later, taken frame member, ?_⟩
    · rw [parts, List.append_assoc]
    · rw [earlier]
      exact fun first there => taken first (frames ▸ List.mem_append_left _ there)
    · exact fun begins => unmarked ((first_marked_iff later).mpr begins)

end Streams

section ReceivePack

variable {State : Type}

def receivePackLoop (rspHandler : Int -> Int -> Bytes -> State -> State) (readBuffer : Bytes)
    (state : State) : Bytes × State :=
  if _small : readBuffer.length < PyPort.MsgBusPackHead.headSize then (readBuffer, state)
  else
    match PyPort.MsgBusPackHead.unPackHead (readBuffer.take PyPort.MsgBusPackHead.headSize) with
    | some (true, head) =>
      if readBuffer.length < PyPort.MsgBusPackHead.headSize + head.bodyLen.toNat then
        (readBuffer, state)
      else
        let bodybuffer := (readBuffer.drop PyPort.MsgBusPackHead.headSize).take head.bodyLen.toNat
        receivePackLoop rspHandler
          (readBuffer.drop (PyPort.MsgBusPackHead.headSize + head.bodyLen.toNat))
          (rspHandler head.bodyType head.msgId bodybuffer state)
    -- "unpack head error."
    | _ => ([], state)
termination_by readBuffer.length
decreasing_by
  have positive : 0 < PyPort.MsgBusPackHead.headSize := by decide
  rw [List.length_drop]
  omega

variable (rspHandler : Int -> Int -> Bytes -> State -> State)

def handleRsp (state : State) (frame : MsgBusPackHead × Bytes) : State :=
  rspHandler (wireHead frame.1).bodyType (wireHead frame.1).msgId frame.2 state

theorem receivePack_hands (readBuffer : Bytes) (state : State) :
    (receivePackLoop rspHandler readBuffer state).2 =
      ((packHeadFormat.frames readBuffer).takeWhile fun frame => decide (Marked frame.1)).foldl
        (handleRsp rspHandler) state := by
  have size : PyPort.MsgBusPackHead.headSize = MsgBusPackHead.size := rfl
  have taken : ∀ data : Bytes, MsgBusPackHead.size ≤ data.length →
      PyPort.MsgBusPackHead.unPackHead (data.take MsgBusPackHead.size) =
        some (decide (Marked (readHead data)), wireHead (readHead data)) := by
    intro data enough
    have same : readHead (data.take MsgBusPackHead.size) = readHead data :=
      congrArg Prod.snd (MsgBusPackHead.unPackHead_take MsgBusPackHead.default data)
    rw [unPackHead_reads (Nat.le_of_eq (List.length_take_of_le enough).symm), same]
  induction readBuffer using packHeadFormat.stream_induction generalizing state with
  | incomplete readBuffer missing =>
    rw [packHeadFormat.frames_none missing, List.takeWhile_nil, List.foldl_nil]
    unfold receivePackLoop
    rcases packHeadFormat_missing missing with noHead | ⟨head, unpacked, noBody⟩
    · rw [dif_pos (size ▸ noHead)]
    · split
      next => rfl
      next enough =>
        have same : readHead readBuffer = head := congrArg Prod.snd unpacked
        rw [size, taken readBuffer (Nat.not_lt.mp enough), same]
        cases decide (Marked head) with
        | false => rfl
        | true => exact congrArg Prod.snd (if_pos noBody)
  | frame readBuffer frame total found ih =>
    obtain ⟨head, unpacked, complete, rfl, rfl⟩ := packHeadFormat_found found
    have same : readHead readBuffer = head := congrArg Prod.snd unpacked
    have enough : MsgBusPackHead.size ≤ readBuffer.length := Nat.le_of_add_right_le complete
    rw [packHeadFormat.frames_some found]
    conv_lhs => unfold receivePackLoop
    rw [dif_neg (Nat.not_lt.mpr (size ▸ enough)), size, taken readBuffer enough, same]
    cases marked : decide (Marked head) with
    | false =>
      rw [List.takeWhile_cons_of_neg (by rw [marked]; decide)]
      rfl
    | true =>
      rw [List.takeWhile_cons_of_pos (by exact marked), List.foldl_cons, ← ih]
      exact congrArg Prod.snd (if_neg (Nat.not_lt.mpr complete))

theorem foreign_iff (stream : Bytes) : Foreign (fun _ => true) stream ↔
    ∃ frame ∈ packHeadFormat.frames stream, ¬ Marked frame.1 := by
  constructor
  · rintro ⟨front, rest, total, frame, rfl, whole, _, found, _, foreign⟩
    refine ⟨frame, ?_, fun marked => foreign ((first_marked_iff found).mp marked)⟩
    rw [packHeadFormat.frames_append, whole, List.nil_append, packHeadFormat.frames_some found]
    exact List.mem_append_right _ List.mem_cons_self
  · rintro ⟨frame, member, unmarked⟩
    obtain ⟨before, after, frames⟩ := List.append_of_mem member
    obtain ⟨front, rest, total, parts, _, whole, found⟩ := packHeadFormat.frames_split frames
    exact ⟨front, rest, total, frame, parts, whole, fun _ _ => rfl, found, rfl,
      fun begins => unmarked ((first_marked_iff found).mpr begins)⟩

def ReceivesAll (stream : Bytes) : Prop :=
  (receivePackLoop (fun bodyType msgId body tasks => tasks ++ [(bodyType, msgId, body)])
    stream []).2 =
      (packHeadFormat.frames stream).map fun frame =>
        ((wireHead frame.1).bodyType, (wireHead frame.1).msgId, frame.2)

theorem receivesAll_iff (stream : Bytes) :
    ReceivesAll stream ↔ ¬ Foreign (fun _ => true) stream := by
  let frames := packHeadFormat.frames stream
  have hands := receivePack_hands
    (fun bodyType msgId body tasks => tasks ++ [(bodyType, msgId, body)]) stream
    ([] : List (Int × Int × Bytes))
  have mapped (list : List (MsgBusPackHead × Bytes)) (tasks : List (Int × Int × Bytes)) :
      list.foldl (handleRsp fun bodyType msgId body tasks => tasks ++ [(bodyType, msgId, body)])
        tasks = tasks ++ list.map fun frame =>
          ((wireHead frame.1).bodyType, (wireHead frame.1).msgId, frame.2) := by
    induction list generalizing tasks with
    | nil => exact (List.append_nil tasks).symm
    | cons frame rest ih =>
      rw [List.foldl_cons, ih, handleRsp, List.map_cons, List.append_assoc]
      rfl
  rw [mapped, List.nil_append] at hands
  rw [ReceivesAll, hands, foreign_iff]
  constructor
  · rintro same ⟨frame, member, unmarked⟩
    have length := congrArg List.length same
    rw [List.length_map, List.length_map] at length
    have whole := (List.takeWhile_prefix _).eq_of_length length
    rw [← whole] at member
    have marked := List.mem_takeWhile_imp member
    exact unmarked (of_decide_eq_true marked)
  · intro marked
    rw [List.takeWhile_eq_self_iff.mpr]
    intro frame member
    by_contra unmarked
    exact marked ⟨frame, member, fun marked => unmarked (decide_eq_true marked)⟩

end ReceivePack

def asserted (head : MsgBusPackHead) : Bool := decide (head.bodyLen.toNat ≠ 0)

theorem serverOnRead_marked_iff (stream : Bytes) :
    HandsOnMarked
      (serverOnRead fun head body (tasks : List (MsgBusPackHead × Bytes)) => tasks ++ [(head, body)])
      id stream ↔ ¬ Foreign asserted stream := by
  have handles : serverHandle (fun head body (tasks : List (MsgBusPackHead × Bytes)) =>
      tasks ++ [(head, body)]) = handOn asserted id := by
    funext tasks frame
    simp only [serverHandle, handOn, asserted, decide_not, Bool.not_eq_true',
      decide_eq_false_iff_not, ite_not]
    rfl
  rw [← handsOnMarked_iff, serverOnRead_correct, handles]

theorem foreign_streams_recognised {State : Type} (fresh : MsgBusPackHead)
    (data : CharArray MsgBusPackHead.size) (stream : Bytes)
    (rspHandler : Int -> Int -> Bytes -> State -> State) (state : State) :
    (HeadsAgree fresh data.toList ↔
      data.toList.take 3 = mark ∧ data.toList.getD 8 0 < 0x80) ∧
    (HandsOnMarked
      (serverOnRead fun head body (tasks : List (MsgBusPackHead × Bytes)) => tasks ++ [(head, body)])
      id stream ↔ ¬ Foreign asserted stream) ∧
    (HandsOnMarked
      (serverRspProcess fun msgId bodyType body (tasks : List (UInt32 × UInt32 × Bytes)) =>
        tasks ++ [(msgId, bodyType, body)])
      (fun frame => (frame.1.msgId, frame.1.bodyType, frame.2)) stream ↔
        ¬ Foreign (fun _ => true) stream) ∧
    (receivePackLoop rspHandler stream state).2 =
      ((packHeadFormat.frames stream).takeWhile fun frame => decide (Marked frame.1)).foldl
        (handleRsp rspHandler) state ∧
    (ReceivesAll stream ↔ ¬ Foreign (fun _ => true) stream) := by
  refine ⟨?_, serverOnRead_marked_iff stream, ?_, receivePack_hands rspHandler stream state,
    receivesAll_iff stream⟩
  · exact headsAgree_iff fresh (Nat.le_of_eq data.toList_length.symm)
  · rw [← handsOnMarked_iff, serverRspProcess_correct]
    rfl

-- A frame of another protocol, which has the form of a register request but for its first byte.
def strangeFrame : Bytes := [0x67, 0, 1, 0, 0, 0, 0, 7, 0, 1, 0, 1, 0, 0, 0, 1] ++ [0x2A]

theorem foreign_frame_handed_on :
    ¬ HeadsAgree MsgBusPackHead.default (strangeFrame.take MsgBusPackHead.size) ∧
      ¬ HandsOnMarked (serverOnRead fun head body (tasks : List (MsgBusPackHead × Bytes)) =>
        tasks ++ [(head, body)]) id strangeFrame := by
  have empty : packHeadFormat.first [] = none := by decide
  constructor
  · rw [headsAgree_iff _ (by decide)]
    decide
  · rw [serverOnRead_marked_iff, not_not]
    refine ⟨[], strangeFrame, 17, _, rfl, packHeadFormat.tail_none empty, ?_, rfl, by decide,
      by decide⟩
    rw [packHeadFormat.frames_none empty]
    exact fun earlier there => by cases there

end MessageBus.Messages
