import MessageBus.Shared.Encodings
import MessageBus.Shared.InPlace

set_option autoImplicit false

namespace Framing

-- The reading end of a stream: all that has come, what is kept of it, the frames that were found
-- and not taken yet, and how many were taken.
structure StreamEnd (Item : Type) where
  received : Bytes
  inbuf : Bytes
  frames : List Item
  taken : Nat

namespace StreamEnd

variable {Message Frame Item : Type}

def initial : StreamEnd Item := { received := [], inbuf := [], frames := [], taken := 0 }

-- A read comes when all that the one before it found is taken.
def read (onRead : Bytes × List Item -> Bytes -> Option (Bytes × List Item))
    (reading : StreamEnd Item) (chunk : Bytes) : Option (StreamEnd Item) :=
  match reading.frames with
  | [] => (onRead (reading.inbuf, []) chunk).map fun session =>
      { reading with
        received := reading.received ++ chunk, inbuf := session.1, frames := session.2 }
  | _ :: _ => none

def next (reading : StreamEnd Item) : Option (Item × StreamEnd Item) :=
  match reading.frames with
  | [] => none
  | item :: rest => some (item, { reading with frames := rest, taken := reading.taken + 1 })

theorem read_taken {onRead : Bytes × List Item -> Bytes -> Option (Bytes × List Item)}
    {reading later : StreamEnd Item} {chunk : Bytes}
    (taken : reading.read onRead chunk = some later) : later.taken = reading.taken := by
  unfold StreamEnd.read at taken
  split at taken
  · obtain ⟨_, _, rfl⟩ := Option.map_eq_some_iff.mp taken
    rfl
  · cases taken

theorem next_taken {reading later : StreamEnd Item} {item : Item}
    (taken : reading.next = some (item, later)) : later.taken = reading.taken + 1 := by
  unfold StreamEnd.next at taken
  split at taken <;> cases taken
  rfl

structure Follows (encoding : Encoding Message Frame) (view : Frame -> Item)
    (messages : List Message) (reading : StreamEnd Item) : Prop where
  came : reading.received <+: encoding.stream messages
  kept : reading.inbuf = encoding.format.tail reading.received
  within : reading.taken ≤ (encoding.format.frames reading.received).length
  waiting : reading.frames =
    ((encoding.format.frames reading.received).drop reading.taken).map view

variable {encoding : Encoding Message Frame} {view : Frame -> Item} {messages : List Message}
  {reading later : StreamEnd Item}

theorem follows_initial (messages : List Message) :
    Follows encoding view messages (initial : StreamEnd Item) := by
  have nothing : encoding.format.frames [] = [] :=
    encoding.format.frames_none encoding.first_nil
  refine ⟨List.nil_prefix, ?_, ?_, ?_⟩
  · exact (encoding.format.tail_none encoding.first_nil).symm
  · exact Nat.zero_le _
  · simp [initial, nothing]

theorem Follows.more (follows : Follows encoding view messages reading) (others : List Message) :
    Follows encoding view (messages ++ others) reading := by
  refine { follows with came := follows.came.trans ?_ }
  rw [Encoding.stream, Encoding.stream, List.flatMap_append]
  exact List.prefix_append _ _

theorem collect_frames {handle : List Item -> Frame -> Option (List Item)}
    (handles : ∀ items message, handle items (encoding.frameOf message) =
      some (items ++ [view (encoding.frameOf message)])) (found : List Message)
    (items : List Item) :
    (found.map encoding.frameOf).foldlM handle items =
      some (items ++ (found.map encoding.frameOf).map view) := by
  induction found generalizing items with
  | nil => simp
  | cons message rest ih =>
    rw [List.map_cons, List.foldlM_cons, handles, Option.bind_eq_bind, Option.bind_some, ih]
    simp

theorem Follows.read {handle : List Item -> Frame -> Option (List Item)} {chunk : Bytes}
    (follows : Follows encoding view messages reading)
    (handles : ∀ items message, handle items (encoding.frameOf message) =
      some (items ++ [view (encoding.frameOf message)]))
    (came : reading.received ++ chunk <+: encoding.stream messages)
    (taken : reading.read (encoding.format.receive handle) chunk = some later) :
    Follows encoding view messages later := by
  unfold StreamEnd.read at taken
  split at taken
  next empty =>
    obtain ⟨received, _, all⟩ := encoding.frames_of_prefix came
    have grown := encoding.format.frames_append reading.received chunk
    rw [← follows.kept] at grown
    obtain ⟨_, found, _, _, new⟩ := List.map_eq_append_iff.mp (all.symm.trans grown)
    have count : reading.taken = (encoding.format.frames reading.received).length := by
      have nothing := follows.waiting
      rw [empty, eq_comm, List.map_eq_nil_iff, List.drop_eq_nil_iff] at nothing
      exact Nat.le_antisymm follows.within nothing
    have tail := encoding.format.tail_append reading.received chunk
    rw [← follows.kept] at tail
    rw [Format.receive_correct, ← new, collect_frames handles, Option.map_some, Option.map_some,
      Option.some.injEq] at taken
    subst taken
    refine ⟨came, tail.symm, ?_, ?_⟩
    · rw [grown, List.length_append]
      exact Nat.le_add_right_of_le follows.within
    · rw [grown, count, List.drop_left, ← new]
      rfl
  next => cases taken

theorem Follows.next {item : Item} (follows : Follows encoding view messages reading)
    (taken : reading.next = some (item, later)) :
    ∃ message, messages[reading.taken]? = some message ∧ item = view (encoding.frameOf message) ∧
      Follows encoding view messages later := by
  obtain ⟨received, isPrefix, all⟩ := encoding.frames_of_prefix follows.came
  have waiting := follows.waiting
  unfold StreamEnd.next at taken
  split at taken
  · cases taken
  next front rest found =>
    cases taken
    rw [found, all, eq_comm, List.map_eq_cons_iff] at waiting
    obtain ⟨frame, others, dropped, rfl, rfl⟩ := waiting
    have there : (received.map encoding.frameOf)[reading.taken]? = some frame := by
      rw [← List.head?_drop, dropped]
      rfl
    have within : reading.taken < (received.map encoding.frameOf).length :=
      (List.getElem?_eq_some_iff.mp there).1
    rw [List.getElem?_map, Option.map_eq_some_iff] at there
    obtain ⟨message, inside, rfl⟩ := there
    refine ⟨message, InPlace.found_in_prefix isPrefix inside, rfl, follows.came, follows.kept, ?_,
      ?_⟩
    · rw [all]
      exact within
    · rw [all, ← List.tail_drop, dropped]
      rfl

theorem Follows.taken_le (follows : Follows encoding view messages reading) :
    reading.taken ≤ messages.length := by
  obtain ⟨received, isPrefix, all⟩ := encoding.frames_of_prefix follows.came
  have within := follows.within
  rw [all, List.length_map] at within
  exact within.trans isPrefix.length_le

theorem Follows.all_taken (follows : Follows encoding view messages reading)
    (came : reading.received = encoding.stream messages) (empty : reading.frames = []) :
    reading.taken = messages.length := by
  have waiting := follows.waiting
  have within := follows.within
  rw [came, encoding.frames_stream] at waiting within
  rw [empty, eq_comm, List.map_eq_nil_iff, List.drop_eq_nil_iff] at waiting
  rw [List.length_map] at waiting within
  exact Nat.le_antisymm within waiting

end StreamEnd
end Framing
