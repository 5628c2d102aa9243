import MessageBus.Shared.Bytes
import MessageBus.Shared.Transition

set_option autoImplicit false

namespace MessageBus.Net

def intMax : Nat := 2 ^ 31 - 1

-- A size stored in an int or cast to one; `none` is a size that does not fit.
def toInt (value : Nat) : Option Nat := if value ≤ intMax then some value else none

-- std::vector<char>::resize.
def resize (innerdata : Bytes) (count : Nat) : Bytes :=
  innerdata.take count ++ List.replicate (count - innerdata.length) 0

-- std::copy(pdata, pdata + datasize, begin() + start), when the target range is there.
def copyInto (innerdata : Bytes) (start : Nat) (pdata : Bytes) : Option Bytes :=
  if start + pdata.length ≤ innerdata.length then
    some (innerdata.take start ++ pdata ++ innerdata.drop (start + pdata.length))
  else none

-- std::copy(begin() + first, begin() + last, begin()), when the source range is there.
def copyToBegin (innerdata : Bytes) (first last : Nat) : Option Bytes :=
  if first ≤ last ∧ last ≤ innerdata.length then
    some ((innerdata.take last).drop first ++ innerdata.drop (last - first))
  else none

-- The two indices are never negative: they are only added to or set to 0. Sums of a size and an
-- index are made in size_t and stay far below its end.
structure FastBuffer where
  readstart : Nat
  writestart : Nat
  innerdata : Bytes
  halfcounter : Nat
  deriving DecidableEq, Repr

namespace FastBuffer

def defaultSize : Nat := 128
def growSize : Nat := defaultSize * 16
def shrinkSize : Nat := 1024 * defaultSize
def downSize : Nat := shrinkSize / 16
def maxSize : Nat := 1024 * 1024 / 4

def initial : FastBuffer :=
  { readstart := 0, writestart := 0, innerdata := List.replicate defaultSize 0, halfcounter := 0 }

def capacity (buffer : FastBuffer) : Nat := buffer.innerdata.length

-- `none` is a failed assertion, here and below, or a copy outside the vector.
def size (buffer : FastBuffer) : Option Nat :=
  if buffer.writestart ≥ buffer.readstart then some (buffer.writestart - buffer.readstart)
  else none

-- The size() bytes at data().
def data (buffer : FastBuffer) : Option Bytes := do
  if buffer.readstart ≤ (← toInt buffer.capacity) then
    return (buffer.innerdata.drop buffer.readstart).take (← buffer.size)
  else none

def ensurewritable (buffer : FastBuffer) (datasize : Nat) : Option FastBuffer :=
  if buffer.capacity < buffer.writestart + datasize then
    if buffer.capacity > maxSize then do
      let innerdata ← copyToBegin buffer.innerdata buffer.readstart buffer.writestart
      let writestart ← toInt (← buffer.size)
      let buffer := { buffer with innerdata, writestart, readstart := 0 }
      if buffer.capacity < datasize + (← buffer.size) then
        return { buffer with innerdata := resize innerdata ((← buffer.size) + datasize) }
      else return buffer
    else do
      let twice ← toInt (buffer.writestart * 2)
      return { buffer with innerdata := resize buffer.innerdata (twice + datasize + growSize) }
  else some buffer

-- There is much free space.
def mostlyFree (buffer : FastBuffer) (datasize : Nat) : Option Bool := do
  let total : Int ← toInt buffer.capacity
  let used : Int ← toInt (← buffer.size)
  let added : Int ← toInt datasize
  return decide (total - used - added > total / 8 * 7)

-- The block of push_back before its assertion.
def autoShrink (buffer : FastBuffer) (datasize : Nat) : Option FastBuffer :=
  if buffer.capacity > shrinkSize then do
    if ← buffer.mostlyFree datasize then
      if buffer.halfcounter > 100 then
        let innerdata ← if buffer.readstart > 0 then
            copyToBegin buffer.innerdata buffer.readstart buffer.writestart
          else some buffer.innerdata
        return {
          readstart := 0
          writestart := ← toInt (← buffer.size)
          innerdata := resize innerdata (buffer.capacity - downSize)
          halfcounter := 0 }
      else return { buffer with halfcounter := buffer.halfcounter + 1 }
    else return { buffer with halfcounter := 0 }
  else some buffer

def pushBack (buffer : FastBuffer) (pdata : Bytes) : Option FastBuffer :=
  if pdata.length = 0 then some buffer
  else do
    let buffer ← buffer.autoShrink pdata.length
    if buffer.writestart ≤ (← toInt buffer.capacity) then
      let buffer ← buffer.ensurewritable pdata.length
      let innerdata ← copyInto buffer.innerdata buffer.writestart pdata
      return { buffer with innerdata, writestart := ← toInt (buffer.writestart + pdata.length) }
    else none

-- What a caller of writablebegin does with the pointer.
def writeAtWritablebegin (buffer : FastBuffer) (written : Bytes) : Option FastBuffer := do
  if buffer.writestart ≤ (← toInt buffer.capacity) then
    return { buffer with innerdata := ← copyInto buffer.innerdata buffer.writestart written }
  else none

def pushBackWithoutdata (buffer : FastBuffer) (datasize : Nat) : Option FastBuffer := do
  if datasize + buffer.writestart ≤ buffer.capacity then
    return { buffer with writestart := ← toInt (buffer.writestart + datasize) }
  else none

def popFront (buffer : FastBuffer) (datasize : Nat) : Option FastBuffer := do
  if datasize ≤ (← buffer.size) then
    let readstart ← toInt (buffer.readstart + datasize)
    if buffer.writestart ≤ readstart then return { buffer with readstart := 0, writestart := 0 }
    else return { buffer with readstart }
  else none

def clear (buffer : FastBuffer) : FastBuffer := { buffer with readstart := 0, writestart := 0 }

inductive Op where
  | pushBack (pdata : Bytes)
  -- ensurewritable, a write at writablebegin and push_back_withoutdata.
  | writeDirect (room : Nat) (written : Bytes)
  | popFront (datasize : Nat)
  | clear
  deriving DecidableEq, Repr

def step (buffer : FastBuffer) : Op -> Option FastBuffer
  | .pushBack pdata => buffer.pushBack pdata
  | .writeDirect room written => do
    let buffer ← buffer.ensurewritable room
    let buffer ← buffer.writeAtWritablebegin written
    buffer.pushBackWithoutdata written.length
  | .popFront datasize => buffer.popFront datasize
  | .clear => some buffer.clear

-- The byte queue a FastBuffer stands for.
def queueStep (queue : Bytes) : Op -> Bytes
  | .pushBack pdata => queue ++ pdata
  | .writeDirect _ written => queue ++ written
  | .popFront datasize => queue.drop datasize
  | .clear => []

def totalLimit : Nat := 2 ^ 30

-- What is buffered, with the room asked for, stays below the limit.
def Allowed (queue : Bytes) : Op -> Prop
  | .pushBack pdata => queue.length + pdata.length < totalLimit
  | .writeDirect room written => written.length ≤ room ∧ queue.length + room < totalLimit
  | .popFront datasize => datasize ≤ queue.length
  | .clear => True

-- ensurewritable leaves the content alone and finds the room.
def Grows (buffer : FastBuffer) (queue : Bytes) (room : Nat) : Prop :=
  ∃ grown, buffer.ensurewritable room = some grown ∧ grown.data = some queue ∧
    grown.writestart + room ≤ grown.capacity

def Shrinks (buffer : FastBuffer) (queue : Bytes) (datasize : Nat) : Prop :=
  ∃ kept, buffer.autoShrink datasize = some kept ∧ kept.data = some queue

structure IsQueue (buffer : FastBuffer) (queue : Bytes) : Prop where
  content : buffer.data = some queue
  sized : buffer.size = some queue.length
  bounds : buffer.readstart ≤ buffer.writestart ∧ buffer.writestart ≤ buffer.capacity
  grows : ∀ room, queue.length + room < totalLimit → buffer.Grows queue room
  shrinks : ∀ datasize, queue.length + datasize < totalLimit → buffer.Shrinks queue datasize

end FastBuffer
end MessageBus.Net
