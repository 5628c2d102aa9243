import MessageBus.Shared.Framing

set_option autoImplicit false

namespace Framing

structure Encoding (Message Frame : Type) where
  format : Format Frame
  encode : Message -> Bytes
  frameOf : Message -> Frame
  found : ∀ message rest, format.first (encode message ++ rest) =
    some (frameOf message, (encode message).length)

namespace Encoding

variable {Message Frame State : Type} (encoding : Encoding Message Frame)

-- Head and body of the frame, for a format that reads nothing else.
def ofParts (format : Format Frame) (head body : Message -> Bytes)
    (headFits : ∀ message, (head message).length = format.headLen)
    (bodyFits : ∀ message, (body message).length = format.bodyLen (head message)) :
    Encoding Message Frame where
  format := format
  encode := fun message => head message ++ body message
  frameOf := fun message => format.frame (head message) (body message)
  found := by
    intro message rest
    rw [format.first_of_parts rest (headFits message) (bodyFits message), List.length_append,
      headFits, bodyFits]

def stream (messages : List Message) : Bytes := messages.flatMap encoding.encode

theorem first_nil : encoding.format.first [] = none := by
  simp [Format.first, encoding.format.headLen_pos]

theorem frames_stream_append (messages : List Message) (rest : Bytes) :
    encoding.format.frames (encoding.stream messages ++ rest) =
      messages.map encoding.frameOf ++ encoding.format.frames rest := by
  induction messages with
  | nil => rfl
  | cons message others ih =>
    have first := encoding.found message (encoding.stream others ++ rest)
    have parts : encoding.stream (message :: others) ++ rest =
        encoding.encode message ++ (encoding.stream others ++ rest) :=
      List.append_assoc _ _ _
    rw [parts, Format.frames_some _ first, List.drop_left, ih]
    rfl

theorem frames_stream (messages : List Message) :
    encoding.format.frames (encoding.stream messages) = messages.map encoding.frameOf := by
  have whole := encoding.frames_stream_append messages []
  rwa [List.append_nil, Format.frames_none _ encoding.first_nil, List.append_nil] at whole

theorem frames_of_prefix {messages : List Message} {stream : Bytes}
    (front : stream <+: encoding.stream messages) :
    ∃ received, received <+: messages ∧
      encoding.format.frames stream = received.map encoding.frameOf := by
  obtain ⟨rest, whole⟩ := front
  have frames := encoding.frames_stream messages
  rw [← whole, encoding.format.frames_append] at frames
  obtain ⟨received, others, rfl, mapped, _⟩ := List.map_eq_append_iff.mp frames.symm
  exact ⟨received, List.prefix_append received others, mapped.symm⟩

end Encoding
end Framing
