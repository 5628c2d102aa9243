import Mathlib.Data.Bool.Basic

set_option autoImplicit false

namespace MessageBus.Net

inductive SockActiveNotify where
  | noActive
  | newAdded
  | removed
  | updateEvent
  | terminate
  deriving DecidableEq, Repr

def SockActiveNotify.bits : SockActiveNotify -> Nat
  | .noActive => 0
  | .newAdded => 1
  | .removed => 2
  | .updateEvent => 4
  | .terminate => 8

structure NotifyPipe where
  newnotify : Bool
  allactive : Nat
  -- What is written to m_notify_pipe and not read yet.
  unread : Nat
  deriving DecidableEq, Repr

namespace NotifyPipe

def initial : NotifyPipe := { newnotify := false, allactive := 0, unread := 0 }

def notifyNewActive (pipe : NotifyPipe) (active : SockActiveNotify) : NotifyPipe :=
  { newnotify := true
    allactive := pipe.allactive ||| active.bits
    -- Only the first notification is written.
    unread := if pipe.newnotify then pipe.unread else pipe.unread + 1 }

-- GetAndClearNotify under the lock, with needread and what it returns.
def clearNotify (pipe : NotifyPipe) : Bool × Nat × NotifyPipe :=
  (pipe.newnotify, pipe.allactive, { pipe with newnotify := false, allactive := 0 })

-- The read outside the lock, which does not wait for a byte.
def readNotify (pipe : NotifyPipe) (needread : Bool) : NotifyPipe :=
  if needread then { pipe with unread := pipe.unread - 1 } else pipe

def Counted (pipe : NotifyPipe) (needread : Bool) : Prop :=
  pipe.unread = pipe.newnotify.toNat + needread.toNat

theorem counted_initial : initial.Counted false := rfl

variable {pipe : NotifyPipe} {needread : Bool}

theorem Counted.notifyNewActive (counted : pipe.Counted needread) (active : SockActiveNotify) :
    (pipe.notifyNewActive active).Counted needread := by
  unfold Counted at counted ⊢
  cases pending : pipe.newnotify <;> simp [NotifyPipe.notifyNewActive, counted, pending]
  omega

theorem Counted.clearNotify (counted : pipe.Counted false) :
    pipe.clearNotify.2.2.Counted pipe.clearNotify.1 := by
  unfold Counted at counted ⊢
  simpa [NotifyPipe.clearNotify] using counted

theorem Counted.readNotify (counted : pipe.Counted needread) :
    (pipe.readNotify needread).Counted false := by
  unfold Counted at counted ⊢
  cases needread <;> simp [NotifyPipe.readNotify, counted]

end NotifyPipe
end MessageBus.Net
