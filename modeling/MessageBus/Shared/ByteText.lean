import MessageBus.Shared.Bytes

set_option autoImplicit false

-- Python's str.find and str.replace, on byte strings.
namespace ByteText

def find (pattern : Bytes) : Bytes -> Option Nat
  | [] => if pattern = [] then some 0 else none
  | byte :: rest =>
    if pattern.isPrefixOf (byte :: rest) then some 0 else (find pattern rest).map (· + 1)

-- The bytes of an occurrence already replaced are skipped.
def replaceFrom (old new : Bytes) : Nat -> Bytes -> Bytes
  | _, [] => []
  | skipped + 1, _ :: rest => replaceFrom old new skipped rest
  | 0, byte :: rest =>
    if old.isPrefixOf (byte :: rest) then new ++ replaceFrom old new (old.length - 1) rest
    else byte :: replaceFrom old new 0 rest

-- For an old text that is not empty.
def replace (text old new : Bytes) : Bytes := replaceFrom old new 0 text

theorem find_nil_text {pattern : Bytes} (nonempty : pattern ≠ []) : find pattern [] = none :=
  if_neg nonempty

theorem find_some_iff {pattern : Bytes} (nonempty : pattern ≠ []) (text : Bytes) (index : Nat) :
    find pattern text = some index ↔
      pattern <+: text.drop index ∧ ∀ earlier < index, ¬ pattern <+: text.drop earlier := by
  induction text generalizing index with
  | nil =>
    rw [find_nil_text nonempty]
    simp [nonempty]
  | cons byte rest ih =>
    by_cases here : pattern <+: byte :: rest
    next =>
      rw [find, if_pos (List.isPrefixOf_iff_prefix.mpr here)]
      constructor
      next =>
        rintro ⟨⟩
        exact ⟨here, by omega⟩
      next =>
        rintro ⟨_, first⟩
        cases index with
        | zero => rfl
        | succ index => exact absurd here (first 0 (by omega))
    next =>
      rw [find, if_neg (by rwa [List.isPrefixOf_iff_prefix])]
      cases index with
      | zero => simp [here]
      | succ index =>
        simp only [Option.map_eq_some_iff, Nat.add_right_cancel_iff, exists_eq_right, ih,
          List.drop_succ_cons]
        constructor
        next =>
          rintro ⟨found, first⟩
          refine ⟨found, ?_⟩
          intro earlier before
          cases earlier with
          | zero => exact here
          | succ earlier => exact first earlier (by omega)
        next =>
          rintro ⟨found, first⟩
          exact ⟨found, fun earlier before => first (earlier + 1) (by omega)⟩

theorem find_eq_none_iff {pattern : Bytes} (nonempty : pattern ≠ []) (text : Bytes) :
    find pattern text = none ↔ ∀ index, ¬ pattern <+: text.drop index := by
  induction text with
  | nil => simp [find_nil_text nonempty, nonempty]
  | cons byte rest ih =>
    by_cases here : pattern <+: byte :: rest
    next =>
      rw [find, if_pos (List.isPrefixOf_iff_prefix.mpr here)]
      simp only [reduceCtorEq, false_iff, not_forall, not_not]
      exact ⟨0, here⟩
    next =>
      rw [find, if_neg (by rwa [List.isPrefixOf_iff_prefix]), Option.map_eq_none_iff, ih]
      constructor
      next =>
        intro nowhere index
        cases index with
        | zero => exact here
        | succ index => exact nowhere index
      next => exact fun nowhere index => nowhere (index + 1)

theorem find_byte_missing {byte : UInt8} {text : Bytes} (missing : byte ∉ text) :
    find [byte] text = none := by
  rw [find_eq_none_iff (List.cons_ne_nil _ _)]
  rintro index ⟨rest, found⟩
  have there : byte ∈ text.drop index := by simp [← found]
  exact missing (List.mem_of_mem_drop there)

theorem find_byte_append {byte : UInt8} {front rest : Bytes} (clean : byte ∉ front) :
    find [byte] (front ++ byte :: rest) = some front.length := by
  rw [find_some_iff (List.cons_ne_nil _ _), List.drop_left]
  refine ⟨⟨rest, rfl⟩, ?_⟩
  rintro earlier before ⟨more, found⟩
  rw [List.drop_append_of_le_length (Nat.le_of_lt before)] at found
  have starts : byte ∈ front.drop earlier := by
    cases left : front.drop earlier with
    | nil =>
      rw [List.drop_eq_nil_iff] at left
      omega
    | cons first others =>
      rw [left, List.singleton_append, List.cons_append, List.cons.injEq] at found
      simp [found.1]
  exact clean (List.mem_of_mem_drop starts)

-- A text in which the pattern does not begin, whatever follows.
def Skips (pattern front : Bytes) : Prop :=
  ∀ rest, find pattern (front ++ rest) = (find pattern rest).map (· + front.length)

section Skips

variable {pattern front : Bytes}

theorem find_cons_skip {byte : UInt8} {rest : Bytes} (differs : ¬ pattern <+: byte :: rest) :
    find pattern (byte :: rest) = (find pattern rest).map (· + 1) :=
  if_neg (by rwa [List.isPrefixOf_iff_prefix])

theorem find_here {rest : Bytes} (nonempty : pattern ≠ []) :
    find pattern (pattern ++ rest) = some 0 := by
  rw [find_some_iff nonempty]
  exact ⟨⟨rest, rfl⟩, by omega⟩

theorem skips_nil : Skips pattern [] := by
  intro rest
  simp

theorem Skips.append {behind : Bytes} (first : Skips pattern front) (next : Skips pattern behind) :
    Skips pattern (front ++ behind) := by
  intro rest
  rw [List.append_assoc, first, next, Option.map_map, List.length_append]
  exact congrArg (Option.map · _) (funext fun index => by simp only [Function.comp_apply]; omega)

theorem skips_cons {byte : UInt8} (differs : ∀ rest, ¬ pattern <+: byte :: (front ++ rest))
    (later : Skips pattern front) : Skips pattern (byte :: front) := by
  intro rest
  rw [List.cons_append, find_cons_skip (differs rest), later, Option.map_map]
  rfl

theorem Skips.find_here (skips : Skips pattern front) (nonempty : pattern ≠ []) (rest : Bytes) :
    find pattern (front ++ (pattern ++ rest)) = some front.length := by
  rw [skips, ByteText.find_here nonempty]
  simp

end Skips

-- Replacing a single byte is replacing each of its occurrences.
theorem replace_byte (old : UInt8) (new text : Bytes) :
    replace text [old] new = text.flatMap fun byte => if byte = old then new else [byte] := by
  unfold replace
  induction text with
  | nil => rfl
  | cons byte rest ih =>
    by_cases same : byte = old
    · subst same
      simp [replaceFrom, ih]
    · simp [replaceFrom, ih, same, Ne.symm same]

section Replace

variable {old new : Bytes}

theorem replace_cons_skip {byte : UInt8} {rest : Bytes} (differs : ¬ old <+: byte :: rest) :
    replace (byte :: rest) old new = byte :: replace rest old new := by
  rw [replace, replaceFrom, if_neg (by rwa [List.isPrefixOf_iff_prefix])]
  rfl

theorem replaceFrom_skip (skipped rest : Bytes) :
    replaceFrom old new skipped.length (skipped ++ rest) = replaceFrom old new 0 rest := by
  induction skipped with
  | nil => rfl
  | cons byte others ih => exact ih

theorem replace_here (nonempty : old ≠ []) (rest : Bytes) :
    replace (old ++ rest) old new = new ++ replace rest old new := by
  obtain ⟨first, others, rfl⟩ := List.exists_cons_of_ne_nil nonempty
  have here : (first :: others).isPrefixOf (first :: (others ++ rest)) = true :=
    List.isPrefixOf_iff_prefix.mpr ⟨rest, rfl⟩
  rw [List.cons_append, replace, replaceFrom, if_pos here]
  exact congrArg (new ++ ·) (replaceFrom_skip others rest)

end Replace

end ByteText
