import Mathlib.Logic.Function.Basic

set_option autoImplicit false

abbrev DescriptorTable (File : Type) := Nat -> Option File

namespace DescriptorTable

variable {File : Type}

-- socket, accept and open return a descriptor that is not open.
def opened (table : DescriptorTable File) (fd : Nat) (file : File) :
    Option (DescriptorTable File) :=
  if (table fd).isNone then some (Function.update table fd (some file)) else none

def dup2 (table : DescriptorTable File) (oldfd newfd : Nat) : DescriptorTable File :=
  match table oldfd with
  | none => table
  | some file => Function.update table newfd (some file)

def close (table : DescriptorTable File) (fd : Nat) : DescriptorTable File :=
  Function.update table fd none

variable {table after : DescriptorTable File} {fd : Nat} {file : File}

theorem opened_some (taken : table.opened fd file = some after) :
    table fd = none ∧ after = Function.update table fd (some file) := by
  simp only [opened] at taken
  split at taken
  next free => exact ⟨Option.isNone_iff_eq_none.mp free, (Option.some.inj taken).symm⟩
  next => cases taken

theorem replaced {target : Nat} (taken : table.opened fd file = some after)
    (other : target ≠ fd) :
    (after.dup2 fd target).close fd = Function.update table target (some file) := by
  obtain ⟨free, rfl⟩ := opened_some taken
  simp only [dup2, Function.update_self, close]
  funext descriptor
  by_cases same : descriptor = fd
  · rw [same, Function.update_self, Function.update_of_ne (Ne.symm other), free]
  · simp only [Function.update_apply, if_neg same]

end DescriptorTable
