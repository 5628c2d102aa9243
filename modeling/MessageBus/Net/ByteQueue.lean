import MessageBus.Net.FastBuffer

set_option autoImplicit false

namespace MessageBus.Net

theorem toInt_of_small {value : Nat} (small : value ≤ intMax) : toInt value = some value :=
  if_pos small

theorem resize_length (innerdata : Bytes) (count : Nat) :
    (resize innerdata count).length = count := by
  simp [resize]
  omega

theorem resize_take (innerdata : Bytes) {kept count : Nat} (inside : kept ≤ innerdata.length)
    (room : kept ≤ count) : (resize innerdata count).take kept = innerdata.take kept := by
  rw [resize, List.take_append_of_le_length (by simp; omega), List.take_take, Nat.min_eq_left room]

namespace FastBuffer

-- Growing never asks for more than this.
def capacityLimit : Nat := 2 * maxSize + growSize + totalLimit

def content (buffer : FastBuffer) : Bytes :=
  (buffer.innerdata.take buffer.writestart).drop buffer.readstart

structure Sound (buffer : FastBuffer) : Prop where
  ordered : buffer.readstart ≤ buffer.writestart
  inside : buffer.writestart ≤ buffer.capacity
  small : buffer.capacity < capacityLimit

theorem limits : capacityLimit ≤ intMax ∧ totalLimit ≤ capacityLimit ∧ totalLimit ≤ intMax ∧
    defaultSize < capacityLimit ∧ 0 < totalLimit := by decide

theorem doubled_limit {writestart room capacity : Nat} (inside : writestart ≤ capacity)
    (modest : capacity ≤ maxSize) (fits : room < totalLimit) :
    writestart * 2 + room + growSize < capacityLimit := by
  unfold capacityLimit
  omega

theorem double_small {writestart capacity : Nat} (inside : writestart ≤ capacity)
    (modest : capacity ≤ maxSize) : writestart * 2 ≤ intMax := by
  have bound : 2 * maxSize ≤ intMax := by decide
  omega

variable {buffer : FastBuffer}

theorem content_length (sound : buffer.Sound) :
    buffer.content.length = buffer.writestart - buffer.readstart := by
  have inside : buffer.writestart ≤ buffer.innerdata.length := sound.inside
  rw [content, List.length_drop, List.length_take, Nat.min_eq_left inside]

theorem size_correct (sound : buffer.Sound) : buffer.size = some buffer.content.length := by
  rw [size, if_pos sound.ordered, content_length sound]

theorem data_correct (sound : buffer.Sound) : buffer.data = some buffer.content := by
  have sized := size_correct sound
  have ordered := sound.ordered
  have inside := sound.inside
  have small := sound.small
  have limit := limits
  rw [data, toInt_of_small (by omega)]
  simp only [Option.bind_eq_bind, Option.bind_some, if_pos (Nat.le_trans ordered inside), sized,
    content_length sound]
  rw [content, List.drop_take]
  rfl

def moved (buffer : FastBuffer) : FastBuffer :=
  { buffer with
    innerdata := buffer.content ++ buffer.innerdata.drop buffer.content.length
    writestart := buffer.content.length
    readstart := 0 }

theorem copyToBegin_correct (sound : buffer.Sound) :
    copyToBegin buffer.innerdata buffer.readstart buffer.writestart =
      some buffer.moved.innerdata := by
  rw [copyToBegin, if_pos ⟨sound.ordered, sound.inside⟩, moved, content_length sound]
  rfl

theorem moved_capacity (sound : buffer.Sound) : buffer.moved.capacity = buffer.capacity := by
  have length := content_length sound
  have inside := sound.inside
  simp only [moved, capacity, List.length_append, List.length_drop] at *
  omega

theorem moved_sound (sound : buffer.Sound) : buffer.moved.Sound := by
  have same := moved_capacity sound
  have length := content_length sound
  have inside := sound.inside
  constructor
  case ordered => exact Nat.zero_le _
  case inside =>
    rw [same]
    change buffer.content.length ≤ _
    omega
  case small =>
    rw [same]
    exact sound.small

theorem moved_content (buffer : FastBuffer) : buffer.moved.content = buffer.content := by
  simp [content, moved]

-- Growing and shrinking leave what lies before the write index alone.
def resized (buffer : FastBuffer) (count : Nat) : FastBuffer :=
  { buffer with innerdata := resize buffer.innerdata count }

theorem resized_capacity (buffer : FastBuffer) (count : Nat) :
    (buffer.resized count).capacity = count :=
  resize_length buffer.innerdata count

theorem resized_sound (sound : buffer.Sound) {count : Nat} (room : buffer.writestart ≤ count)
    (limit : count < capacityLimit) : (buffer.resized count).Sound := by
  constructor
  case ordered => exact sound.ordered
  case inside =>
    rw [resized_capacity]
    exact room
  case small =>
    rw [resized_capacity]
    exact limit

theorem resized_content (sound : buffer.Sound) {count : Nat} (room : buffer.writestart ≤ count) :
    (buffer.resized count).content = buffer.content := by
  have kept := resize_take buffer.innerdata sound.inside room
  simp only [content, resized, kept]

theorem ensurewritable_correct (sound : buffer.Sound) {room : Nat}
    (fits : buffer.content.length + room < totalLimit) :
    ∃ grown, buffer.ensurewritable room = some grown ∧ grown.Sound ∧
      grown.content = buffer.content ∧ grown.writestart + room ≤ grown.capacity := by
  obtain ⟨within, total, _⟩ := limits
  unfold ensurewritable
  split
  next short =>
    split
    next large =>
      have count : toInt buffer.content.length = some buffer.content.length :=
        toInt_of_small (by omega)
      have size : buffer.moved.size = some buffer.content.length := by
        rw [size_correct (moved_sound sound), moved_content]
      rw [copyToBegin_correct sound, size_correct sound]
      simp only [Option.bind_eq_bind, Option.bind_some, count]
      change ∃ grown, (do
        if buffer.moved.capacity < room + (← buffer.moved.size) then
          return buffer.moved.resized ((← buffer.moved.size) + room)
        else return buffer.moved) = some grown ∧ _
      rw [size]
      simp only [Option.bind_eq_bind, Option.bind_some]
      have enough : buffer.moved.writestart ≤ buffer.content.length + room :=
        Nat.le_add_right _ _
      split
      next =>
        refine ⟨_, rfl, resized_sound (moved_sound sound) enough (by omega), ?_, ?_⟩
        · rw [resized_content (moved_sound sound) enough, moved_content]
        · rw [resized_capacity]
          exact Nat.le_refl _
      next fitting =>
        refine ⟨_, rfl, moved_sound sound, moved_content buffer, ?_⟩
        change buffer.content.length + room ≤ _
        omega
    next modest =>
      have inside := sound.inside
      have enough : buffer.writestart ≤ buffer.writestart * 2 + room + growSize := by omega
      rw [toInt_of_small (double_small inside (by omega))]
      refine ⟨_, rfl, ?_, resized_content sound enough, ?_⟩
      · exact resized_sound sound enough (doubled_limit inside (by omega) (by omega))
      · change _ ≤ (buffer.resized _).capacity
        rw [resized_capacity]
        change buffer.writestart + room ≤ _
        omega
  next enough => exact ⟨buffer, rfl, sound, rfl, by omega⟩

theorem mostlyFree_correct (sound : buffer.Sound) {datasize : Nat} (fits : datasize < totalLimit) :
    buffer.mostlyFree datasize = some (decide ((buffer.capacity : Int) - buffer.content.length -
      datasize > (buffer.capacity : Int) / 8 * 7)) := by
  have length := content_length sound
  have inside := sound.inside
  have small := sound.small
  obtain ⟨within, total, _⟩ := limits
  rw [mostlyFree, toInt_of_small (by omega), size_correct sound]
  simp only [Option.bind_eq_bind, Option.bind_some]
  rw [toInt_of_small (by omega), toInt_of_small (by omega)]
  rfl

theorem shrink_room {total used added : Nat} (large : total > shrinkSize)
    (free : (total : Int) - used - added > (total : Int) / 8 * 7) :
    used ≤ total - downSize := by
  have unit : downSize * 16 = shrinkSize := by decide
  omega

theorem moved_innerdata (sound : buffer.Sound) (first : buffer.readstart = 0) :
    buffer.moved.innerdata = buffer.innerdata := by
  have length := content_length sound
  rw [first, Nat.sub_zero] at length
  rw [moved, length, content, first, List.drop_zero, List.take_append_drop]

-- The counter of pushes on a mostly free vector has no part in what is buffered.
theorem Sound.counted (sound : buffer.Sound) (counter : Nat) :
    Sound { buffer with halfcounter := counter } :=
  ⟨sound.ordered, sound.inside, sound.small⟩

theorem autoShrink_correct (sound : buffer.Sound) {datasize : Nat} (fits : datasize < totalLimit) :
    ∃ kept, buffer.autoShrink datasize = some kept ∧ kept.Sound ∧
      kept.content = buffer.content := by
  have small := sound.small
  obtain ⟨within, _⟩ := limits
  unfold autoShrink
  split
  next large =>
    rw [mostlyFree_correct sound fits]
    simp only [Option.bind_eq_bind, Option.bind_some, decide_eq_true_eq]
    split
    next free =>
      have enough : buffer.moved.writestart ≤ buffer.capacity - downSize := shrink_room large free
      split
      next =>
        have length := content_length sound
        have inside := sound.inside
        have shrunk := resized_sound (moved_sound sound) enough (by omega)
        have same := (resized_content (moved_sound sound) enough).trans (moved_content buffer)
        rw [size_correct sound]
        simp only [Option.bind_some]
        rw [toInt_of_small (by omega)]
        split
        next =>
          rw [copyToBegin_correct sound]
          exact ⟨_, rfl, shrunk.counted 0, same⟩
        next first =>
          rw [← moved_innerdata sound (by omega)]
          exact ⟨_, rfl, shrunk.counted 0, same⟩
      next => exact ⟨_, rfl, sound.counted _, rfl⟩
    next => exact ⟨_, rfl, sound.counted _, rfl⟩
  next => exact ⟨buffer, rfl, sound, rfl⟩

theorem copyInto_correct (sound : buffer.Sound) {pdata : Bytes}
    (room : buffer.writestart + pdata.length ≤ buffer.capacity) :
    ∃ innerdata, copyInto buffer.innerdata buffer.writestart pdata = some innerdata ∧
      innerdata.length = buffer.capacity ∧
      innerdata.take (buffer.writestart + pdata.length) =
        buffer.innerdata.take buffer.writestart ++ pdata := by
  have inside : buffer.writestart ≤ buffer.innerdata.length := sound.inside
  have there : buffer.writestart + pdata.length ≤ buffer.innerdata.length := room
  have front : (buffer.innerdata.take buffer.writestart ++ pdata).length =
      buffer.writestart + pdata.length := by
    rw [List.length_append, List.length_take, Nat.min_eq_left inside]
  refine ⟨_, if_pos room, ?_, List.take_left' front⟩
  rw [List.length_append, front, List.length_drop, capacity]
  omega

theorem extended_correct (sound : buffer.Sound) {innerdata pdata : Bytes}
    (sameLength : innerdata.length = buffer.capacity)
    (written : innerdata.take (buffer.writestart + pdata.length) =
      buffer.innerdata.take buffer.writestart ++ pdata)
    (room : buffer.writestart + pdata.length ≤ buffer.capacity) :
    Sound { buffer with innerdata, writestart := buffer.writestart + pdata.length } ∧
      content { buffer with innerdata, writestart := buffer.writestart + pdata.length } =
        buffer.content ++ pdata := by
  have ordered := sound.ordered
  have inside : buffer.writestart ≤ buffer.innerdata.length := sound.inside
  constructor
  next =>
    constructor
    case ordered => exact Nat.le_trans ordered (Nat.le_add_right _ _)
    case inside => exact Nat.le_trans room (Nat.le_of_eq sameLength.symm)
    case small => exact Nat.lt_of_le_of_lt (Nat.le_of_eq sameLength) sound.small
  next =>
    simp only [content, written]
    rw [List.drop_append_of_le_length]
    rw [List.length_take, Nat.min_eq_left inside]
    exact ordered

theorem pushBack_correct (sound : buffer.Sound) {pdata : Bytes}
    (fits : buffer.content.length + pdata.length < totalLimit) :
    ∃ pushed, buffer.pushBack pdata = some pushed ∧ pushed.Sound ∧
      pushed.content = buffer.content ++ pdata := by
  obtain ⟨within, total, _⟩ := limits
  unfold pushBack
  split
  next empty =>
    refine ⟨buffer, rfl, sound, ?_⟩
    rw [List.eq_nil_of_length_eq_zero empty, List.append_nil]
  next =>
    obtain ⟨shrunk, done, shrunkSound, shrunkContent⟩ :=
      autoShrink_correct sound (show pdata.length < totalLimit by omega)
    obtain ⟨grown, granted, grownSound, grownContent, room⟩ :=
      ensurewritable_correct shrunkSound
        (show shrunk.content.length + pdata.length < totalLimit by rw [shrunkContent]; exact fits)
    obtain ⟨innerdata, copied, sameLength, written⟩ := copyInto_correct grownSound room
    have shrunkSmall := shrunkSound.small
    have grownSmall := grownSound.small
    simp only [done, Option.bind_eq_bind, Option.bind_some]
    rw [toInt_of_small (by omega)]
    simp only [Option.bind_some, if_pos shrunkSound.inside, granted, copied]
    rw [toInt_of_small (by omega)]
    obtain ⟨following, appended⟩ := extended_correct grownSound sameLength written room
    refine ⟨_, rfl, following, ?_⟩
    rw [appended, grownContent, shrunkContent]

theorem writeDirect_correct (sound : buffer.Sound) {room : Nat} {written : Bytes}
    (inRoom : written.length ≤ room) (fits : buffer.content.length + room < totalLimit) :
    ∃ filled, buffer.step (.writeDirect room written) = some filled ∧ filled.Sound ∧
      filled.content = buffer.content ++ written := by
  obtain ⟨within, _⟩ := limits
  obtain ⟨grown, granted, grownSound, grownContent, free⟩ := ensurewritable_correct sound fits
  have space : grown.writestart + written.length ≤ grown.capacity := by omega
  obtain ⟨innerdata, copied, sameLength, behind⟩ := copyInto_correct grownSound space
  have grownSmall := grownSound.small
  obtain ⟨following, appended⟩ := extended_correct grownSound sameLength behind space
  have counted : written.length + grown.writestart ≤ innerdata.length := by omega
  simp only [step, granted, writeAtWritablebegin, pushBackWithoutdata, Option.bind_eq_bind,
    Option.bind_some]
  rw [toInt_of_small (by omega)]
  simp only [Option.bind_some, if_pos grownSound.inside, copied]
  change ∃ filled, (if written.length + grown.writestart ≤ innerdata.length then _ else _) = _ ∧ _
  have bounded : grown.writestart + written.length ≤ intMax := by omega
  rw [if_pos counted, toInt_of_small bounded]
  refine ⟨_, rfl, following, ?_⟩
  rw [appended, grownContent]

theorem popFront_correct (sound : buffer.Sound) {datasize : Nat}
    (there : datasize ≤ buffer.content.length) :
    ∃ popped, buffer.popFront datasize = some popped ∧ popped.Sound ∧
      popped.content = buffer.content.drop datasize := by
  have length := content_length sound
  have ordered := sound.ordered
  have inside := sound.inside
  have small := sound.small
  obtain ⟨within, _⟩ := limits
  simp only [popFront, size_correct sound, Option.bind_eq_bind, Option.bind_some, if_pos there]
  rw [toInt_of_small (by omega)]
  simp only [Option.bind_some]
  split
  next emptied =>
    have all : buffer.content.length ≤ datasize := by
      rw [length]
      exact Nat.sub_le_iff_le_add'.mpr emptied
    refine ⟨_, rfl, ⟨Nat.le_refl 0, Nat.zero_le _, small⟩, ?_⟩
    rw [List.drop_eq_nil_of_le all]
    rfl
  next left =>
    refine ⟨_, rfl, ⟨Nat.le_of_not_le left, inside, small⟩, ?_⟩
    simp only [content, List.drop_drop]

theorem clear_correct (sound : buffer.Sound) : buffer.clear.Sound ∧ buffer.clear.content = [] :=
  ⟨⟨Nat.le_refl 0, Nat.zero_le _, sound.small⟩, rfl⟩

structure Holds (buffer : FastBuffer) (queue : Bytes) : Prop where
  sound : buffer.Sound
  content : buffer.content = queue
  limited : queue.length < totalLimit

theorem initial_holds : initial.Holds [] := by
  obtain ⟨_, _, _, first, positive⟩ := limits
  constructor
  case sound =>
    refine ⟨Nat.le_refl 0, Nat.zero_le _, ?_⟩
    rw [capacity, initial, List.length_replicate]
    exact first
  case content => rfl
  case limited => exact positive

theorem step_holds (buffer : FastBuffer) (queue : Bytes) (op : Op) (holds : buffer.Holds queue)
    (allowed : Allowed queue op) :
    ∃ following, buffer.step op = some following ∧ following.Holds (queueStep queue op) := by
  obtain ⟨sound, rfl, limited⟩ := holds
  cases op with
  | pushBack pdata =>
    obtain ⟨pushed, done, kept, appended⟩ := pushBack_correct sound allowed
    refine ⟨pushed, done, kept, appended, ?_⟩
    exact (List.length_append ▸ allowed : (buffer.content ++ pdata).length < totalLimit)
  | writeDirect room written =>
    obtain ⟨filled, done, kept, appended⟩ := writeDirect_correct sound allowed.1 allowed.2
    refine ⟨filled, done, kept, appended, ?_⟩
    have length : (buffer.content ++ written).length = buffer.content.length + written.length :=
      List.length_append
    have asked := allowed.1
    have bounded := allowed.2
    change (buffer.content ++ written).length < _
    omega
  | popFront datasize =>
    obtain ⟨popped, done, kept, dropped⟩ := popFront_correct sound allowed
    refine ⟨popped, done, kept, dropped, ?_⟩
    change (buffer.content.drop datasize).length < _
    rw [List.length_drop]
    omega
  | clear =>
    obtain ⟨kept, empty⟩ := clear_correct sound
    obtain ⟨_, _, _, _, positive⟩ := limits
    exact ⟨_, rfl, kept, empty, positive⟩

theorem Holds.isQueue {queue : Bytes} (holds : buffer.Holds queue) : buffer.IsQueue queue := by
  obtain ⟨sound, rfl, _⟩ := holds
  constructor
  case content => exact data_correct sound
  case sized => exact size_correct sound
  case bounds => exact ⟨sound.ordered, sound.inside⟩
  case grows =>
    intro room fits
    obtain ⟨grown, granted, grownSound, same, free⟩ := ensurewritable_correct sound fits
    exact ⟨grown, granted, same ▸ data_correct grownSound, free⟩
  case shrinks =>
    intro datasize fits
    have small : datasize < totalLimit := by omega
    obtain ⟨kept, done, keptSound, same⟩ := autoShrink_correct sound small
    exact ⟨kept, done, same ▸ data_correct keptSound⟩

theorem fast_buffer_is_queue (ops : List Op)
    (allowed : Transition.AllowedRun queueStep Allowed [] ops) :
    ∃ buffer, Transition.run step initial ops = some buffer ∧
      buffer.IsQueue (ops.foldl queueStep []) := by
  obtain ⟨buffer, ran, holds⟩ :=
    Transition.run_refines step_holds initial_holds ops allowed
  exact ⟨buffer, ran, holds.isQueue⟩

theorem fast_buffer_is_queue_for_four : ∃ buffer,
    Transition.run step initial [.pushBack [1, 2, 3], .writeDirect 300 [4, 5], .popFront 4,
      .pushBack [6]] = some buffer ∧ buffer.IsQueue [5, 6] :=
  fast_buffer_is_queue _ (by
    simp [Transition.AllowedRun, Allowed, queueStep, totalLimit])

end FastBuffer
end MessageBus.Net
