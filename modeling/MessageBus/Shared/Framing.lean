import MessageBus.Shared.Bytes

set_option autoImplicit false

namespace Framing

-- Frames with a head of fixed length that announces the length of the body.
structure Format (Frame : Type) where
  headLen : Nat
  headLen_pos : 0 < headLen
  bodyLen : Bytes -> Nat
  frame : Bytes -> Bytes -> Frame

namespace Format

variable {Frame State : Type} (format : Format Frame)

-- The frames and the rest that make up a stream, said without an algorithm.
inductive Decomposes : Bytes -> List Frame -> Bytes -> Prop where
  | incomplete {stream : Bytes}
      (short : stream.length < format.headLen ∨
        stream.length < format.headLen + format.bodyLen (stream.take format.headLen)) :
      Decomposes stream [] stream
  | frame {head body rest tail : Bytes} {frames : List Frame}
      (headFits : head.length = format.headLen) (bodyFits : body.length = format.bodyLen head)
      (remaining : Decomposes rest frames tail) :
      Decomposes (head ++ body ++ rest) (format.frame head body :: frames) tail

def first (stream : Bytes) : Option (Frame × Nat) :=
  let head := stream.take format.headLen
  let total := format.headLen + format.bodyLen head
  if stream.length < format.headLen then none
  else if stream.length < total then none
  else some (format.frame head ((stream.drop format.headLen).take (format.bodyLen head)), total)

theorem first_cases (stream : Bytes) :
    (stream.length < format.headLen ∧ format.first stream = none) ∨
    (format.headLen ≤ stream.length ∧
      stream.length < format.headLen + format.bodyLen (stream.take format.headLen) ∧
      format.first stream = none) ∨
    (format.headLen + format.bodyLen (stream.take format.headLen) ≤ stream.length ∧
      format.first stream = some (format.frame (stream.take format.headLen)
        ((stream.drop format.headLen).take (format.bodyLen (stream.take format.headLen))),
        format.headLen + format.bodyLen (stream.take format.headLen))) := by
  simp only [first]
  by_cases noHead : stream.length < format.headLen
  · exact .inl ⟨noHead, if_pos noHead⟩
  · rw [if_neg noHead]
    by_cases noBody : stream.length < format.headLen + format.bodyLen (stream.take format.headLen)
    · exact .inr (.inl ⟨by omega, noBody, if_pos noBody⟩)
    · exact .inr (.inr ⟨by omega, if_neg noBody⟩)

theorem first_missing {stream : Bytes} (missing : format.first stream = none) :
    stream.length < format.headLen ∨
      stream.length < format.headLen + format.bodyLen (stream.take format.headLen) := by
  rcases format.first_cases stream with ⟨noHead, _⟩ | ⟨_, noBody, _⟩ | ⟨_, found⟩
  · exact .inl noHead
  · exact .inr noBody
  · cases missing.symm.trans found

theorem first_found {stream : Bytes} {frame : Frame} {total : Nat}
    (found : format.first stream = some (frame, total)) :
    format.headLen + format.bodyLen (stream.take format.headLen) ≤ stream.length ∧
      frame = format.frame (stream.take format.headLen)
        ((stream.drop format.headLen).take (format.bodyLen (stream.take format.headLen))) ∧
      total = format.headLen + format.bodyLen (stream.take format.headLen) := by
  rcases format.first_cases stream with ⟨_, missing⟩ | ⟨_, _, missing⟩ | ⟨complete, first⟩
  · cases found.symm.trans missing
  · cases found.symm.trans missing
  · cases found.symm.trans first
    exact ⟨complete, rfl, rfl⟩

theorem first_bounds {stream : Bytes} {frame : Frame} {total : Nat}
    (found : format.first stream = some (frame, total)) : 0 < total ∧ total ≤ stream.length := by
  have positive := format.headLen_pos
  obtain ⟨complete, -, rfl⟩ := format.first_found found
  exact ⟨Nat.add_pos_left positive _, complete⟩

theorem first_append {stream more : Bytes} {frame : Frame} {total : Nat}
    (found : format.first stream = some (frame, total)) :
    format.first (stream ++ more) = some (frame, total) := by
  obtain ⟨complete, rfl, rfl⟩ := format.first_found found
  have sameHead : (stream ++ more).take format.headLen = stream.take format.headLen :=
    List.take_append_of_le_length (by omega)
  have sameDrop : (stream ++ more).drop format.headLen = stream.drop format.headLen ++ more :=
    List.drop_append_of_le_length (by omega)
  have longer : (stream ++ more).length = stream.length + more.length := List.length_append
  have sameBody : (stream.drop format.headLen ++ more).take
        (format.bodyLen (stream.take format.headLen)) =
      (stream.drop format.headLen).take (format.bodyLen (stream.take format.headLen)) :=
    List.take_append_of_le_length (by simp only [List.length_drop]; omega)
  simp only [first, sameHead, sameDrop, sameBody]
  rw [if_neg (by omega), if_neg (by omega)]

def frames (stream : Bytes) : List Frame :=
  match _found : format.first stream with
  | none => []
  | some (frame, total) => frame :: frames (stream.drop total)
termination_by stream.length
decreasing_by
  have bounds := format.first_bounds _found
  simp only [List.length_drop]
  omega

def tail (stream : Bytes) : Bytes :=
  match _found : format.first stream with
  | none => stream
  | some (_, total) => tail (stream.drop total)
termination_by stream.length
decreasing_by
  have bounds := format.first_bounds _found
  simp only [List.length_drop]
  omega

theorem frames_none {stream : Bytes} (missing : format.first stream = none) :
    format.frames stream = [] := by
  rw [frames]
  split <;> simp_all

theorem frames_some {stream : Bytes} {frame : Frame} {total : Nat}
    (found : format.first stream = some (frame, total)) :
    format.frames stream = frame :: format.frames (stream.drop total) := by
  rw [frames]
  split <;> simp_all

theorem tail_none {stream : Bytes} (missing : format.first stream = none) :
    format.tail stream = stream := by
  rw [tail]
  split <;> simp_all

theorem tail_some {stream : Bytes} {frame : Frame} {total : Nat}
    (found : format.first stream = some (frame, total)) :
    format.tail stream = format.tail (stream.drop total) := by
  rw [tail]
  split <;> simp_all

theorem stream_induction {motive : Bytes -> Prop}
    (incomplete : ∀ stream, format.first stream = none → motive stream)
    (frame : ∀ stream frame total, format.first stream = some (frame, total) →
      motive (stream.drop total) → motive stream) (stream : Bytes) : motive stream := by
  induction size : stream.length using Nat.strong_induction_on generalizing stream with
  | _ length ih =>
    cases found : format.first stream with
    | none => exact incomplete stream found
    | some result =>
      have bounds := format.first_bounds found
      apply frame stream result.1 result.2 found
      exact ih (stream.drop result.2).length (by simp only [List.length_drop]; omega) _ rfl

theorem first_of_parts {head body : Bytes} (rest : Bytes) (headFits : head.length = format.headLen)
    (bodyFits : body.length = format.bodyLen head) :
    format.first (head ++ body ++ rest) =
      some (format.frame head body, format.headLen + format.bodyLen head) := by
  have sameHead : (head ++ body ++ rest).take format.headLen = head := by
    rw [List.append_assoc, ← headFits, List.take_left]
  have sameDrop : (head ++ body ++ rest).drop format.headLen = body ++ rest := by
    rw [List.append_assoc, ← headFits, List.drop_left]
  have sameBody : (body ++ rest).take (format.bodyLen head) = body := by
    rw [← bodyFits, List.take_left]
  have length : (head ++ body ++ rest).length =
      format.headLen + format.bodyLen head + rest.length := by
    simp only [List.length_append, headFits, bodyFits]
  simp only [first, sameHead, sameDrop, sameBody]
  rw [if_neg (by omega), if_neg (by omega)]

theorem decomposes (stream : Bytes) :
    format.Decomposes stream (format.frames stream) (format.tail stream) := by
  induction stream using format.stream_induction with
  | incomplete stream missing =>
    rw [frames_none format missing, tail_none format missing]
    exact .incomplete (format.first_missing missing)
  | frame stream frame total found ih =>
    rw [frames_some format found, tail_some format found]
    obtain ⟨complete, rfl, rfl⟩ := format.first_found found
    have headFits : (stream.take format.headLen).length = format.headLen := by
      simp only [List.length_take]
      omega
    have bodyFits : ((stream.drop format.headLen).take
        (format.bodyLen (stream.take format.headLen))).length =
          format.bodyLen (stream.take format.headLen) := by
      simp only [List.length_take, List.length_drop]
      omega
    have parts := Decomposes.frame headFits bodyFits ih
    have whole : stream.take format.headLen ++
        (stream.drop format.headLen).take (format.bodyLen (stream.take format.headLen)) ++
        stream.drop (format.headLen + format.bodyLen (stream.take format.headLen)) = stream := by
      rw [← List.drop_drop, List.append_assoc, List.take_append_drop, List.take_append_drop]
    rwa [whole] at parts

theorem frames_of_decomposes {stream tail : Bytes} {frames : List Frame}
    (parts : format.Decomposes stream frames tail) : format.frames stream = frames := by
  induction parts with
  | @incomplete stream short =>
    apply frames_none
    rcases format.first_cases stream with ⟨_, missing⟩ | ⟨_, _, missing⟩ | ⟨complete, _⟩
    · exact missing
    · exact missing
    · omega
  | @frame head body rest tail frames headFits bodyFits remaining ih =>
    have length : (head ++ body).length = format.headLen + format.bodyLen head := by
      rw [List.length_append, headFits, bodyFits]
    rw [frames_some format (format.first_of_parts rest headFits bodyFits), ← length,
      List.drop_left, ih]

-- What arrives later never changes the frames that were complete already.
theorem frames_append (stream more : Bytes) :
    format.frames (stream ++ more) =
      format.frames stream ++ format.frames (format.tail stream ++ more) := by
  induction stream using format.stream_induction with
  | incomplete stream missing =>
    rw [frames_none format missing, tail_none format missing, List.nil_append]
  | frame stream frame total found ih =>
    have bounds := format.first_bounds found
    rw [frames_some format (format.first_append found), frames_some format found,
      tail_some format found, List.drop_append_of_le_length bounds.2, ih, List.cons_append]

theorem tail_append (stream more : Bytes) :
    format.tail (stream ++ more) = format.tail (format.tail stream ++ more) := by
  induction stream using format.stream_induction with
  | incomplete stream missing => rw [tail_none format missing]
  | frame stream frame total found ih =>
    have bounds := format.first_bounds found
    rw [tail_some format (format.first_append found), tail_some format found,
      List.drop_append_of_le_length bounds.2, ih]

theorem first_tail (stream : Bytes) : format.first (format.tail stream) = none := by
  induction stream using format.stream_induction with
  | incomplete stream missing => rwa [tail_none format missing]
  | frame stream frame total found ih => rwa [tail_some format found]

theorem first_take {stream : Bytes} {frame : Frame} {total : Nat}
    (found : format.first stream = some (frame, total)) :
    format.first (stream.take total) = some (frame, total) := by
  have bounds := format.first_bounds found
  have length : (stream.take total).length = total := List.length_take_of_le bounds.2
  rcases format.first_cases stream with ⟨_, missing⟩ | ⟨_, _, missing⟩ | ⟨complete, first⟩
  · cases missing.symm.trans found
  · cases missing.symm.trans found
  · cases found.symm.trans first
    have headFits : (stream.take format.headLen).length = format.headLen :=
      List.length_take_of_le (by omega)
    have bodyFits : ((stream.drop format.headLen).take
        (format.bodyLen (stream.take format.headLen))).length =
          format.bodyLen (stream.take format.headLen) :=
      List.length_take_of_le (by rw [List.length_drop]; omega)
    have parts := format.first_of_parts [] headFits bodyFits
    rwa [List.append_nil, ← List.take_add] at parts

theorem frames_take {stream : Bytes} {frame : Frame} {total : Nat}
    (found : format.first stream = some (frame, total)) :
    format.frames (stream.take total) = [frame] := by
  have empty : format.first [] = none := by
    simp [first, format.headLen_pos]
  have bounds := format.first_bounds found
  rw [frames_some format (format.first_take found),
    List.drop_eq_nil_of_le (List.length_take_le _ _), frames_none format empty]

theorem frames_split {stream : Bytes} {before after : List Frame} {frame : Frame}
    (frames : format.frames stream = before ++ frame :: after) :
    ∃ front rest total, stream = front ++ rest ∧ format.frames front = before ∧
      format.tail front = [] ∧ format.first rest = some (frame, total) := by
  have empty : format.first [] = none := by
    simp [first, format.headLen_pos]
  induction stream using format.stream_induction generalizing before with
  | incomplete stream missing =>
    rw [frames_none format missing] at frames
    cases before <;> cases frames
  | frame stream head total found ih =>
    rw [frames_some format found] at frames
    cases before with
    | nil =>
      obtain ⟨rfl, _⟩ := List.cons.inj frames
      exact ⟨[], stream, total, rfl, frames_none format empty, tail_none format empty, found⟩
    | cons first before =>
      obtain ⟨rfl, later⟩ := List.cons.inj frames
      obtain ⟨front, rest, last, parts, earlier, whole, next⟩ := ih later
      have bounds := format.first_bounds found
      have taken : format.first (stream.take total ++ front) = some (head, total) :=
        format.first_append (format.first_take found)
      have gone : (stream.take total ++ front).drop total = front :=
        List.drop_left' (List.length_take_of_le bounds.2)
      refine ⟨stream.take total ++ front, rest, last, ?_, ?_, ?_, next⟩
      · rw [List.append_assoc, ← parts, List.take_append_drop]
      · rw [frames_some format taken, gone, earlier]
      · rw [tail_some format taken, gone, whole]

theorem tail_suffix (stream : Bytes) :
    stream.drop (stream.length - (format.tail stream).length) = format.tail stream ∧
      (format.tail stream).length ≤ stream.length := by
  induction stream using format.stream_induction with
  | incomplete stream missing => simp [tail_none format missing]
  | frame stream frame total found ih =>
    have bounds := format.first_bounds found
    rw [tail_some format found]
    simp only [List.length_drop, List.drop_drop] at ih
    have count : stream.length - (format.tail (stream.drop total)).length =
        total + (stream.length - total - (format.tail (stream.drop total)).length) := by omega
    exact ⟨by rw [count]; exact ih.1, by omega⟩

-- The reading loop: handle every complete frame and count the bytes of those frames.
def consume (handle : State -> Frame -> Option State) (stream : Bytes) (state : State) :
    Option (Nat × State) :=
  match _found : format.first stream with
  | none => some (0, state)
  | some (frame, total) =>
    (handle state frame).bind fun next =>
      (consume handle (stream.drop total) next).map fun result => (total + result.1, result.2)
termination_by stream.length
decreasing_by
  have bounds := format.first_bounds _found
  simp only [List.length_drop]
  omega

theorem consume_none (handle : State -> Frame -> Option State) {stream : Bytes} (state : State)
    (missing : format.first stream = none) :
    format.consume handle stream state = some (0, state) := by
  rw [consume]
  split <;> simp_all

theorem consume_some (handle : State -> Frame -> Option State) {stream : Bytes} (state : State)
    {frame : Frame} {total : Nat} (found : format.first stream = some (frame, total)) :
    format.consume handle stream state = (handle state frame).bind fun next =>
      (format.consume handle (stream.drop total) next).map
        fun result => (total + result.1, result.2) := by
  rw [consume]
  split <;> simp_all

theorem consume_correct (handle : State -> Frame -> Option State) (stream : Bytes) (state : State) :
    format.consume handle stream state =
      ((format.frames stream).foldlM handle state).map
        fun final => (stream.length - (format.tail stream).length, final) := by
  induction stream using format.stream_induction generalizing state with
  | incomplete stream missing =>
    rw [consume_none format handle state missing, frames_none format missing,
      tail_none format missing]
    simp
  | frame stream frame total found ih =>
    have bounds := format.first_bounds found
    have suffix := (format.tail_suffix (stream.drop total)).2
    simp only [List.length_drop] at suffix
    rw [consume_some format handle state found, frames_some format found, tail_some format found,
      List.foldlM_cons]
    cases handled : handle state frame with
    | none => rfl
    | some next =>
      simp only [Option.bind_some, Option.bind_eq_bind, ih, Option.map_map]
      congr 1
      funext final
      simp only [Function.comp_apply, List.length_drop, Prod.mk.injEq, and_true]
      omega

theorem loop_correct (handle : State -> Frame -> Option State)
    (loop : Bytes -> Nat -> Nat -> State -> Option (Nat × State))
    (stops : ∀ pdata readed state, format.first pdata = none →
      loop pdata pdata.length readed state = some (readed, state))
    (round : ∀ pdata readed state frame total, format.first pdata = some (frame, total) →
      loop pdata pdata.length readed state = (handle state frame).bind fun next =>
        loop (pdata.drop total) (pdata.length - total) (readed + total) next)
    (pdata : Bytes) (readed : Nat) (state : State) :
    loop pdata pdata.length readed state =
      (format.consume handle pdata state).map fun result => (readed + result.1, result.2) := by
  induction pdata using format.stream_induction generalizing readed state with
  | incomplete pdata missing =>
    rw [stops pdata readed state missing, consume_none format handle state missing]
    rfl
  | frame pdata frame total found ih =>
    rw [round pdata readed state frame total found, consume_some format handle state found]
    cases handle state frame with
    | none => rfl
    | some next =>
      have later := ih (readed + total) next
      rw [List.length_drop] at later
      simp only [Option.bind_some, later, Option.map_map]
      congr 1
      funext result
      simp only [Function.comp_apply, Nat.add_assoc]

def receive (handle : State -> Frame -> Option State) (session : Bytes × State) (chunk : Bytes) :
    Option (Bytes × State) :=
  (format.consume handle (session.1 ++ chunk) session.2).map
    fun result => ((session.1 ++ chunk).drop result.1, result.2)

theorem receive_correct (handle : State -> Frame -> Option State) (buffer chunk : Bytes)
    (state : State) :
    format.receive handle (buffer, state) chunk =
      ((format.frames (buffer ++ chunk)).foldlM handle state).map
        fun final => (format.tail (buffer ++ chunk), final) := by
  simp only [receive, consume_correct, Option.map_map]
  congr 1
  funext final
  simp only [Function.comp_apply, (format.tail_suffix (buffer ++ chunk)).1]

theorem receive_all (handle : State -> Frame -> Option State) (chunks : List Bytes)
    (buffer : Bytes) (incomplete : format.first buffer = none) (state : State) :
    chunks.foldlM (format.receive handle) (buffer, state) =
      ((format.frames (buffer ++ chunks.flatten)).foldlM handle state).map
        fun final => (format.tail (buffer ++ chunks.flatten), final) := by
  induction chunks generalizing buffer state with
  | nil =>
    simp [frames_none format incomplete, tail_none format incomplete]
  | cons chunk rest ih =>
    have later := ih (format.tail (buffer ++ chunk)) (format.first_tail _)
    rw [List.foldlM_cons, receive_correct, List.flatten_cons, ← List.append_assoc,
      frames_append format (buffer ++ chunk), tail_append format (buffer ++ chunk),
      List.foldlM_append]
    cases (format.frames (buffer ++ chunk)).foldlM handle state with
    | none => rfl
    | some next => exact later next

end Format

end Framing
