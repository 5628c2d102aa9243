import Mathlib

set_option autoImplicit false

abbrev Bytes := List UInt8

namespace Bytes

inductive Fault where
  | outOfBounds (index : Nat)
  | outOfRange
  deriving DecidableEq, Repr

-- A C string access, checked: the model of `s[index]` where the code must not run past `s`.
def readAt (s : Bytes) (index : Nat) : Except Fault UInt8 :=
  match s[index]? with
  | some byte => .ok byte
  | none => .error (.outOfBounds index)

def readRange (s : Bytes) (start count : Nat) : Except Fault Bytes :=
  if start + count ≤ s.length then .ok ((s.drop start).take count)
  else .error (.outOfBounds s.length)

-- std::string::substr throws past the end and clips the count.
def substr (s : Bytes) (start count : Nat) : Except Fault Bytes :=
  if s.length < start then .error .outOfRange else .ok ((s.drop start).take count)

-- Kept out of definitional unfolding: a bound check modulo 2^32 must not be evaluated on variables.
theorem ok_bind {ε α β : Type} (value : α) (next : α -> Except ε β) :
    (Except.ok value >>= next) = next value := by
  simp only [bind, Except.bind]

theorem readAt_inside (s : Bytes) (index : Nat) (inside : index < s.length) :
    readAt s index = .ok (s.getD index 0) := by
  simp [readAt, inside]

theorem readRange_inside (s : Bytes) (start count : Nat) (inside : start + count ≤ s.length) :
    readRange s start count = .ok ((s.drop start).take count) := by
  simp [readRange, inside]

theorem readRange_outside (s : Bytes) (start count : Nat) (outside : s.length < start + count) :
    readRange s start count = .error (.outOfBounds s.length) := by
  simp [readRange, outside]

theorem substr_inside (s : Bytes) (start count : Nat) (inside : start ≤ s.length) :
    substr s start count = .ok ((s.drop start).take count) := by
  simp [substr, inside]

-- htonl followed by a memcpy, and a load followed by ntohl, whatever the host order is.
def htonl (value : UInt32) : Bytes :=
  [.ofNat (value.toNat / 2 ^ 24), .ofNat (value.toNat / 2 ^ 16),
    .ofNat (value.toNat / 2 ^ 8), .ofNat value.toNat]

def htons (value : UInt16) : Bytes := [.ofNat (value.toNat / 2 ^ 8), .ofNat value.toNat]

-- By cases on the bytes, so that a load from unknown bytes is not computed on.
def ntohl : Bytes -> UInt32
  | b3 :: b2 :: b1 :: b0 :: _ =>
    .ofNat (b3.toNat * 2 ^ 24 + b2.toNat * 2 ^ 16 + b1.toNat * 2 ^ 8 + b0.toNat)
  | _ => 0

def ntohs : Bytes -> UInt16
  | b1 :: b0 :: _ => .ofNat (b1.toNat * 2 ^ 8 + b0.toNat)
  | _ => 0

@[simp] theorem htonl_length (value : UInt32) : (htonl value).length = 4 := rfl

theorem ntohl_htonl (value : UInt32) (rest : Bytes) : ntohl (htonl value ++ rest) = value := by
  have bound := value.toNat_lt
  apply UInt32.toNat.inj
  simp [ntohl, htonl, UInt32.toNat_ofNat]
  omega

theorem htonl_ntohl {word : Bytes} (length : word.length = 4) : htonl (ntohl word) = word := by
  obtain ⟨b3, b2, b1, b0, rfl⟩ := List.length_eq_four.mp length
  have bound3 := b3.toNat_lt
  have bound2 := b2.toNat_lt
  have bound1 := b1.toNat_lt
  have bound0 := b0.toNat_lt
  simp only [htonl, ntohl, UInt32.toNat_ofNat', List.cons.injEq, and_true]
  refine ⟨?_, ?_, ?_, ?_⟩ <;> apply UInt8.toNat.inj <;> rw [UInt8.toNat_ofNat'] <;> omega

@[simp] theorem htons_length (value : UInt16) : (htons value).length = 2 := rfl

theorem ntohs_htons (value : UInt16) (rest : Bytes) : ntohs (htons value ++ rest) = value := by
  have bound := value.toNat_lt
  apply UInt16.toNat.inj
  simp [ntohs, htons, UInt16.toNat_ofNat]
  omega

theorem htons_ntohs {word : Bytes} (length : word.length = 2) : htons (ntohs word) = word := by
  obtain ⟨b1, b0, rfl⟩ := List.length_eq_two.mp length
  have bound1 := b1.toNat_lt
  have bound0 := b0.toNat_lt
  simp only [htons, ntohs, UInt16.toNat_ofNat', List.cons.injEq, and_true]
  refine ⟨?_, ?_⟩ <;> apply UInt8.toNat.inj <;> rw [UInt8.toNat_ofNat'] <;> omega

theorem ntohl_take (p : Bytes) (count : Nat) (enough : 4 ≤ count) :
    ntohl (p.take count) = ntohl p := by
  obtain ⟨more, rfl⟩ := Nat.exists_eq_add_of_le' enough
  rcases p with _ | ⟨_, _ | ⟨_, _ | ⟨_, _ | ⟨_, _⟩⟩⟩⟩ <;> rfl

theorem ntohs_take (p : Bytes) (count : Nat) (enough : 2 ≤ count) :
    ntohs (p.take count) = ntohs p := by
  obtain ⟨more, rfl⟩ := Nat.exists_eq_add_of_le' enough
  rcases p with _ | ⟨_, _ | ⟨_, _⟩⟩ <;> rfl

end Bytes
