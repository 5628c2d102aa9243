import MessageBus.Wire.PyContent

set_option autoImplicit false

namespace MessageBus.PyPort.ReceiverMsgUtil

open ByteText

def escaped (byte : UInt8) : Bytes :=
  if byte = 0x25 then percent25 else if byte = 0x26 then percent26 else [byte]

theorem encode_eq (value : Bytes) : encodeMsgKeyValue value = value.flatMap escaped := by
  unfold encodeMsgKeyValue percent ampersand
  rw [replace_byte, replace_byte, List.flatMap_assoc]
  refine congrArg (List.flatMap · value) (funext fun byte => ?_)
  unfold escaped
  by_cases isPercent : byte = 0x25
  · rw [if_pos isPercent, if_pos isPercent]
    rfl
  · rw [if_neg isPercent, if_neg isPercent, List.flatMap_singleton]

theorem encode_cons (byte : UInt8) (rest : Bytes) :
    encodeMsgKeyValue (byte :: rest) = escaped byte ++ encodeMsgKeyValue rest := by
  rw [encode_eq, encode_eq, List.flatMap_cons]

theorem encode_append (front rest : Bytes) :
    encodeMsgKeyValue (front ++ rest) = encodeMsgKeyValue front ++ encodeMsgKeyValue rest := by
  rw [encode_eq, encode_eq, encode_eq, List.flatMap_append]

theorem encode_clean (value : Bytes) : 0x26 ∉ encodeMsgKeyValue value := by
  rw [encode_eq, List.mem_flatMap]
  rintro ⟨byte, _, inside⟩
  unfold escaped at inside
  split_ifs at inside with isPercent isAmpersand
  · exact absurd inside (by decide)
  · exact absurd inside (by decide)
  · exact isAmpersand (List.mem_singleton.mp inside).symm

-- What is left of it when the ampersands are back.
def percentEscaped (byte : UInt8) : Bytes := if byte = 0x25 then percent25 else [byte]

theorem decode_ampersands (value : Bytes) :
    replace (encodeMsgKeyValue value) percent26 ampersand = value.flatMap percentEscaped := by
  induction value with
  | nil => rfl
  | cons byte rest ih =>
    rw [encode_cons, List.flatMap_cons, ← ih]
    by_cases isPercent : byte = 0x25
    · subst isPercent
      rfl
    have single : percentEscaped byte = [byte] := if_neg isPercent
    by_cases isAmpersand : byte = 0x26
    · subst isAmpersand
      rw [escaped, if_neg isPercent, if_pos rfl, replace_here (by decide)]
      rfl
    · rw [escaped, if_neg isPercent, if_neg isAmpersand, single, List.singleton_append,
        replace_cons_skip]
      · rfl
      · rintro ⟨_, same⟩
        exact isPercent (List.cons.inj same).1.symm

theorem decode_percents (value : Bytes) :
    replace (value.flatMap percentEscaped) percent25 percent = value := by
  induction value with
  | nil => rfl
  | cons byte rest ih =>
    rw [List.flatMap_cons]
    by_cases isPercent : byte = 0x25
    · rw [percentEscaped, if_pos isPercent, replace_here (by decide), ih, isPercent]
      rfl
    · rw [percentEscaped, if_neg isPercent, List.singleton_append, replace_cons_skip, ih]
      rintro ⟨_, same⟩
      exact isPercent (List.cons.inj same).1.symm

theorem decode_encode (value : Bytes) : decodeMsgKeyValue (encodeMsgKeyValue value) = value := by
  rw [decodeMsgKeyValue, decode_ampersands, decode_percents]

theorem escaping_invertible :
    (∀ value, decodeMsgKeyValue (encodeMsgKeyValue value) = value) ∧
      (∀ value, 0x26 ∉ encodeMsgKeyValue value) ∧ Function.Injective encodeMsgKeyValue := by
  refine ⟨decode_encode, encode_clean, ?_⟩
  intro first second same
  have decoded := congrArg decodeMsgKeyValue same
  rwa [decode_encode, decode_encode] at decoded

section Search

def Plain (pattern : Bytes) : Prop := ∀ byte ∈ pattern, byte ∉ [0x25, 0x26, 0x32, 0x35, 0x36]

instance (pattern : Bytes) : Decidable (Plain pattern) :=
  inferInstanceAs (Decidable (∀ byte ∈ pattern, byte ∉ [0x25, 0x26, 0x32, 0x35, 0x36]))

-- What follows a value in the text: nothing, or an ampersand.
def Ends (rest : Bytes) : Prop := rest = [] ∨ ∃ tail, rest = 0x26 :: tail

variable {pattern rest : Bytes}

theorem not_prefix_of_head {byte : UInt8} (plain : Plain pattern) (nonempty : pattern ≠ [])
    (special : byte ∈ [0x25, 0x26, 0x32, 0x35, 0x36]) (others : Bytes) :
    ¬ pattern <+: byte :: others := by
  obtain ⟨first, more, rfl⟩ := List.exists_cons_of_ne_nil nonempty
  rintro ⟨_, same⟩
  have equal := (List.cons.inj same).1
  exact plain first (List.mem_cons_self) (equal ▸ special)

theorem not_prefix_of_ends (plain : Plain pattern) (nonempty : pattern ≠ []) (ends : Ends rest) :
    ¬ pattern <+: rest := by
  rcases ends with rfl | ⟨tail, rfl⟩
  · rwa [List.prefix_nil]
  · exact not_prefix_of_head plain nonempty (by decide) tail

theorem escaped_of_not_special {byte : UInt8} (ordinary : byte ∉ [0x25, 0x26, 0x32, 0x35, 0x36]) :
    escaped byte = [byte] := by
  unfold escaped
  rw [if_neg (by rintro rfl; exact ordinary (by decide)),
    if_neg (by rintro rfl; exact ordinary (by decide))]

-- A pattern without such bytes begins in an escaped text where it begins in the text.
theorem prefix_encode_iff (plain : Plain pattern) (ends : Ends rest) (value : Bytes) :
    pattern <+: encodeMsgKeyValue value ++ rest ↔ pattern <+: value := by
  induction pattern generalizing value with
  | nil => simp
  | cons first more ih =>
    have ordinary := plain first List.mem_cons_self
    cases value with
    | nil =>
      refine iff_of_false (not_prefix_of_ends plain (List.cons_ne_nil _ _) ends) ?_
      simp
    | cons byte others =>
      by_cases same : first = byte
      · subst same
        rw [encode_cons, escaped_of_not_special ordinary, List.append_assoc, List.singleton_append,
          List.cons_prefix_cons, List.cons_prefix_cons,
          ih (fun byte inside => plain byte (List.mem_cons_of_mem _ inside))]
      · refine iff_of_false ?_ (fun both => same (List.cons_prefix_cons.mp both).1)
        rw [encode_cons]
        unfold escaped
        split_ifs with isPercent isAmpersand
        · exact not_prefix_of_head plain (List.cons_ne_nil _ _) (by decide) _
        · exact not_prefix_of_head plain (List.cons_ne_nil _ _) (by decide) _
        · exact fun both => same (List.cons_prefix_cons.mp both).1

theorem skips_special {escape : Bytes} (plain : Plain pattern) (nonempty : pattern ≠ [])
    (special : ∀ byte ∈ escape, byte ∈ [0x25, 0x26, 0x32, 0x35, 0x36]) : Skips pattern escape := by
  induction escape with
  | nil => exact skips_nil
  | cons byte others ih =>
    refine skips_cons (fun rest => not_prefix_of_head plain nonempty (special _ List.mem_cons_self) _)
      (ih fun later inside => special later (List.mem_cons_of_mem _ inside))

theorem find_encode_cons {byte : UInt8} {others : Bytes} (plain : Plain pattern)
    (nonempty : pattern ≠ []) (ends : Ends rest) (differs : ¬ pattern <+: byte :: others) :
    find pattern (encodeMsgKeyValue (byte :: others) ++ rest) =
      (find pattern (encodeMsgKeyValue others ++ rest)).map (· + (escaped byte).length) := by
  have apart := (prefix_encode_iff plain ends (byte :: others)).not.mpr differs
  rw [encode_cons, List.append_assoc] at apart ⊢
  unfold escaped at apart ⊢
  split_ifs at apart ⊢ with isPercent isAmpersand
  · exact skips_special plain nonempty (by simp [percent25]) _
  · exact skips_special plain nonempty (by simp [percent26]) _
  · exact find_cons_skip apart

theorem find_encode_none (plain : Plain pattern) (nonempty : pattern ≠ []) (ends : Ends rest)
    {value : Bytes} (missing : find pattern value = none) :
    find pattern (encodeMsgKeyValue value ++ rest) =
      (find pattern rest).map (· + (encodeMsgKeyValue value).length) := by
  induction value with
  | nil => exact Option.map_id'.symm
  | cons byte others ih =>
    have nowhere := (find_eq_none_iff nonempty (byte :: others)).mp missing
    have later : find pattern others = none := by
      rw [find_cons_skip (nowhere 0), Option.map_eq_none_iff] at missing
      exact missing
    rw [find_encode_cons plain nonempty ends (nowhere 0), ih later, Option.map_map, encode_cons,
      List.length_append]
    exact congrArg (Option.map · _) (funext fun index => by simp only [Function.comp_apply]; omega)

theorem find_encode_some (plain : Plain pattern) (nonempty : pattern ≠ []) (ends : Ends rest)
    {value : Bytes} {index : Nat} (found : find pattern value = some index) :
    find pattern (encodeMsgKeyValue value ++ rest) =
      some (encodeMsgKeyValue (value.take index)).length := by
  induction value generalizing index with
  | nil =>
    rw [find_nil_text nonempty] at found
    cases found
  | cons byte others ih =>
    by_cases here : pattern <+: byte :: others
    · have start : index = 0 := by
        rw [find, if_pos (List.isPrefixOf_iff_prefix.mpr here), Option.some.injEq] at found
        exact found.symm
      subst start
      rw [find_some_iff nonempty]
      exact ⟨(prefix_encode_iff plain ends (byte :: others)).mpr here, by simp [encode_eq]⟩
    · rw [find_cons_skip here, Option.map_eq_some_iff] at found
      obtain ⟨later, found, rfl⟩ := found
      rw [find_encode_cons plain nonempty ends here, ih found, List.take_succ_cons, encode_cons,
        List.length_append, Option.map_some, Nat.add_comm]

end Search

section Keys

variable {msgkey front value rest : Bytes}

def behindKey (msgkey value : Bytes) : Option Bytes :=
  (find (assigned msgkey) value).map fun index => value.drop (index + (msgkey.length + 1))

theorem getMsgKey_found (keyClean : 0x26 ∉ msgkey) (ends : Ends rest)
    (found : find (assigned msgkey) (front ++ (assigned msgkey ++ (encodeMsgKeyValue value ++ rest))) =
      some front.length) :
    getMsgKey (front ++ (assigned msgkey ++ (encodeMsgKeyValue value ++ rest))) msgkey = value := by
  rw [getMsgKey_spelled keyClean rfl found (encode_clean value) ends, decode_encode]

theorem getMsgKey_assigned (keyClean : 0x26 ∉ msgkey) (skips : Skips (assigned msgkey) front)
    (ends : Ends rest) :
    getMsgKey (front ++ (assigned msgkey ++ (encodeMsgKeyValue value ++ rest))) msgkey = value :=
  getMsgKey_found keyClean ends (skips.find_here (assigned_nonempty msgkey) _)

theorem encode_plain {text : Bytes} (plain : Plain text) : encodeMsgKeyValue text = text := by
  induction text with
  | nil => rfl
  | cons byte others ih =>
    rw [encode_cons, escaped_of_not_special (plain byte List.mem_cons_self),
      ih (fun later inside => plain later (List.mem_cons_of_mem _ inside))]
    rfl

theorem getMsgKey_inside (plain : Plain (assigned msgkey)) (keyClean : 0x26 ∉ msgkey)
    (skips : Skips (assigned msgkey) front) (ends : Ends rest) {text : Bytes}
    (inside : behindKey msgkey value = some text) :
    getMsgKey (front ++ (encodeMsgKeyValue value ++ rest)) msgkey = text := by
  have nonempty := assigned_nonempty msgkey
  simp only [behindKey, Option.map_eq_some_iff] at inside
  obtain ⟨index, found, rfl⟩ := inside
  have position := find_encode_some plain nonempty ends found
  obtain ⟨⟨more, here⟩, _⟩ := (find_some_iff nonempty _ _).mp found
  have behind : value.drop (index + (msgkey.length + 1)) = more := by
    rw [← List.drop_drop, ← here]
    exact List.drop_left' (by simp [assigned])
  have parts : encodeMsgKeyValue value = encodeMsgKeyValue (value.take index) ++
      (assigned msgkey ++ encodeMsgKeyValue more) := by
    conv_lhs => rw [← List.take_append_drop index value, ← here]
    rw [encode_append, encode_append, encode_plain plain]
  have whole : front ++ (encodeMsgKeyValue value ++ rest) =
      (front ++ encodeMsgKeyValue (value.take index)) ++
        (assigned msgkey ++ (encodeMsgKeyValue more ++ rest)) := by
    rw [parts]
    simp only [List.append_assoc]
  rw [behind, whole]
  apply getMsgKey_found keyClean ends
  rw [← whole, skips, position, List.length_append, Option.map_some, Nat.add_comm]

theorem skips_value (plain : Plain (assigned msgkey)) (missing : behindKey msgkey value = none) :
    Skips (assigned msgkey) (encodeMsgKeyValue value ++ ampersand) := by
  intro behind
  have nonempty := assigned_nonempty msgkey
  have notFound : find (assigned msgkey) value = none := Option.map_eq_none_iff.mp missing
  have apart := @not_prefix_of_head _ 0x26 plain nonempty (by decide) behind
  have ends : Ends (ampersand ++ behind) := .inr ⟨behind, rfl⟩
  rw [List.append_assoc, find_encode_none plain nonempty ends notFound]
  change (find (assigned msgkey) (0x26 :: behind)).map _ = _
  rw [find_cons_skip apart, Option.map_map, List.length_append]
  exact congrArg (Option.map · _) (funext fun index => by
    simp only [Function.comp_apply, ampersand, List.length_singleton]
    omega)

end Keys

section Text

variable (msgid msgparam msgsender : Bytes)

-- The end of the text, with the terminator behind a sender.
def senderPart : Bytes :=
  if msgsender = [] then []
  else ampersand ++ (assigned msgsenderKey ++ (encodeMsgKeyValue msgsender ++ [0]))

theorem encode_length_eq_zero : (encodeMsgKeyValue msgsender).length = 0 ↔ msgsender = [] := by
  cases msgsender with
  | nil => exact iff_of_true rfl rfl
  | cons byte rest =>
    refine iff_of_false ?_ (List.cons_ne_nil _ _)
    rw [encode_cons, List.length_append]
    unfold escaped
    split_ifs <;> simp [percent25, percent26]

theorem makeMsgNetData_eq : makeMsgNetData msgid msgparam msgsender =
    assigned msgidKey ++ (encodeMsgKeyValue msgid ++ (ampersand ++ (assigned msgparamKey ++
      (encodeMsgKeyValue msgparam ++ senderPart msgsender)))) := by
  simp only [makeMsgNetData, senderPart, encode_length_eq_zero]
  split_ifs <;> simp only [List.append_assoc, List.append_nil]

theorem senderPart_ends : Ends (senderPart msgsender) := by
  unfold senderPart
  split_ifs
  · exact .inl rfl
  · exact .inr ⟨_, rfl⟩

theorem getMsgId_netData : getMsgId (makeMsgNetData msgid msgparam msgsender) = msgid := by
  rw [makeMsgNetData_eq]
  exact @getMsgKey_assigned msgidKey [] _ _ (by decide) skips_nil (.inr ⟨_, rfl⟩)

theorem msgparam_plain : Plain (assigned msgparamKey) := by
  simp [Plain, assigned, msgparamKey]

theorem msgsender_plain : Plain (assigned msgsenderKey) := by
  simp [Plain, assigned, msgsenderKey]

theorem msgid_skips_msgparam : Skips (assigned msgparamKey) (assigned msgidKey) := by
  repeat refine skips_cons (fun rest => by simp [assigned, msgparamKey]) ?_
  exact skips_nil

theorem msgid_skips_msgsender : Skips (assigned msgsenderKey) (assigned msgidKey) := by
  repeat refine skips_cons (fun rest => by simp [assigned, msgsenderKey]) ?_
  exact skips_nil

theorem msgparam_skips_msgsender : Skips (assigned msgsenderKey) (assigned msgparamKey) := by
  repeat refine skips_cons (fun rest => by simp [assigned, msgsenderKey]) ?_
  exact skips_nil

def paramRead : Bytes := (behindKey msgparamKey msgid).getD msgparam

theorem getMsgParam_netData :
    getMsgParam (makeMsgNetData msgid msgparam msgsender) = paramRead msgid msgparam := by
  rw [makeMsgNetData_eq, paramRead]
  cases inside : behindKey msgparamKey msgid with
  | some text =>
    exact getMsgKey_inside msgparam_plain (by decide) msgid_skips_msgparam (.inr ⟨_, rfl⟩) inside
  | none =>
    have skips := msgid_skips_msgparam.append (skips_value msgparam_plain inside)
    have read := @getMsgKey_assigned msgparamKey _ msgparam _ (by decide) skips
      (senderPart_ends msgsender)
    simp only [List.append_assoc] at read
    exact read

def senderRead : Bytes :=
  (behindKey msgsenderKey msgid).getD ((behindKey msgsenderKey msgparam).getD
    (if msgsender = [] then [] else msgsender ++ [0]))

theorem getMsgSender_netData : getMsgSender (makeMsgNetData msgid msgparam msgsender) =
    senderRead msgid msgparam msgsender := by
  rw [makeMsgNetData_eq, senderRead]
  cases inId : behindKey msgsenderKey msgid with
  | some text =>
    exact getMsgKey_inside msgsender_plain (by decide) msgid_skips_msgsender (.inr ⟨_, rfl⟩) inId
  | none =>
    have untilParam := (msgid_skips_msgsender.append (skips_value msgsender_plain inId)).append
      msgparam_skips_msgsender
    cases inParam : behindKey msgsenderKey msgparam with
    | some text =>
      have read := getMsgKey_inside msgsender_plain (by decide) untilParam
        (senderPart_ends msgsender) inParam
      simp only [List.append_assoc] at read
      exact read
    | none =>
      simp only [senderPart, Option.getD_none]
      split_ifs
      · have nowhere := find_encode_none msgsender_plain (assigned_nonempty _) (.inl rfl)
          (Option.map_eq_none_iff.mp inParam)
        rw [find_nil_text (assigned_nonempty _), Option.map_none] at nowhere
        have missing := untilParam (encodeMsgKeyValue msgparam ++ [])
        rw [nowhere, Option.map_none] at missing
        simp only [List.append_assoc] at missing
        exact getMsgKey_missing missing
      · have skips := untilParam.append (skips_value msgsender_plain inParam)
        have read := @getMsgKey_assigned msgsenderKey _ (msgsender ++ [0]) [] (by decide) skips
          (.inl rfl)
        rw [encode_append] at read
        simp only [List.append_assoc, List.append_nil] at read
        exact read

def Unambiguous : Prop :=
  getMsgId (makeMsgNetData msgid msgparam msgsender) = msgid ∧
    getMsgParam (makeMsgNetData msgid msgparam msgsender) = msgparam ∧
    getMsgSender (makeMsgNetData msgid msgparam msgsender) = msgsender

theorem unambiguous_iff : Unambiguous msgid msgparam msgsender ↔
    (∀ text ∈ behindKey msgparamKey msgid, text = msgparam) ∧
      ((behindKey msgsenderKey msgid).or (behindKey msgsenderKey msgparam)).getD [] =
        msgsender := by
  unfold Unambiguous
  rw [getMsgId_netData, getMsgParam_netData, getMsgSender_netData]
  have param : paramRead msgid msgparam = msgparam ↔
      ∀ text ∈ behindKey msgparamKey msgid, text = msgparam := by
    unfold paramRead
    cases behindKey msgparamKey msgid <;> simp
  have terminated : (if msgsender = [] then [] else msgsender ++ [0]) = msgsender ↔
      [] = msgsender := by
    split_ifs with empty
    · rfl
    · exact iff_of_false (by simp) (Ne.symm empty)
  have sender : senderRead msgid msgparam msgsender = msgsender ↔
      ((behindKey msgsenderKey msgid).or (behindKey msgsenderKey msgparam)).getD [] =
        msgsender := by
    unfold senderRead
    cases behindKey msgsenderKey msgid with
    | some text => rfl
    | none =>
      cases behindKey msgsenderKey msgparam with
      | some text => rfl
      | none => exact terminated
  rw [param, sender]
  exact and_iff_right rfl

-- Any sender at all comes back with the terminator.
theorem sender_read_with_terminator : ¬ Unambiguous [] [] [0x41] := by
  rintro ⟨_, _, sender⟩
  exact absurd sender (by decide)

end Text

end MessageBus.PyPort.ReceiverMsgUtil
