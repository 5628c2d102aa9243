import MessageBus.Net.NotifyPipe
import MessageBus.Shared.Transition

set_option autoImplicit false

namespace MessageBus.Net

inductive WaiterPoint where
  | outside
  -- Behind the section under the lock, with what that took.
  | reading (needread : Bool) (allactive : Nat)
  deriving DecidableEq, Repr

structure SockWaiterBase where
  pipe : NotifyPipe
  -- Who holds the lock between the write to the pipe and the flags.
  notifying : Option SockActiveNotify
  point : WaiterPoint
  -- What the calls of GetAndClearNotify returned, in their order.
  returned : List Nat
  deriving DecidableEq, Repr

namespace SockWaiterBase

inductive Event where
  -- NotifyNewActive takes the lock and writes, then sets the flags and lets the lock go.
  | writeNotify (active : SockActiveNotify)
  | setNotify (active : SockActiveNotify)
  | clearNotify
  | readNotify (interrupted : Bool)
  deriving DecidableEq, Repr

def initial : SockWaiterBase :=
  { pipe := .initial, notifying := none, point := .outside, returned := [] }

def step (waiter : SockWaiterBase) : Event -> Option SockWaiterBase
  | .writeNotify active =>
    if waiter.notifying = none then
      let unread := if waiter.pipe.newnotify then waiter.pipe.unread else waiter.pipe.unread + 1
      some { waiter with pipe := { waiter.pipe with unread }, notifying := some active }
    else none
  | .setNotify active =>
    if waiter.notifying = some active then
      let allactive := waiter.pipe.allactive ||| active.bits
      some { waiter with
        pipe := { waiter.pipe with allactive, newnotify := true }
        notifying := none }
    else none
  | .clearNotify =>
    if waiter.notifying = none ∧ waiter.point = .outside then
      let (needread, allactive, pipe) := waiter.pipe.clearNotify
      some { waiter with pipe, point := .reading needread allactive }
    else none
  | .readNotify interrupted =>
    match waiter.point with
    | .outside => none
    | .reading needread allactive =>
      -- After EINTR the loop reads again; an empty pipe ends it with EAGAIN.
      if needread && interrupted then some waiter
      else
        some { waiter with
          pipe := waiter.pipe.readNotify needread
          point := .outside
          returned := waiter.returned ++ [allactive] }

def needread (waiter : SockWaiterBase) : Bool :=
  match waiter.point with
  | .outside => false
  | .reading needread _ => needread

def taken (waiter : SockWaiterBase) : List Nat :=
  match waiter.point with
  | .outside => waiter.returned
  | .reading _ allactive => waiter.returned ++ [allactive]

-- A notification is pending from its write to the pipe until it is cleared.
def pending (waiter : SockWaiterBase) : Bool := waiter.pipe.newnotify || waiter.notifying.isSome

variable {waiter following : SockWaiterBase} {event : Event}

theorem write_then_set (active : SockActiveNotify) (free : waiter.notifying = none) :
    Transition.run step waiter [.writeNotify active, .setNotify active] =
      some { waiter with pipe := waiter.pipe.notifyNewActive active } := by
  simp [Transition.run, step, free, NotifyPipe.notifyNewActive]

inductive Move (waiter : SockWaiterBase) : Event -> SockWaiterBase -> Prop where
  | writeNotify (active : SockActiveNotify) (free : waiter.notifying = none) :
      Move waiter (.writeNotify active)
        { waiter with
          pipe := { waiter.pipe with
            unread := if waiter.pipe.newnotify then waiter.pipe.unread else waiter.pipe.unread + 1 }
          notifying := some active }
  | setNotify (active : SockActiveNotify) (holds : waiter.notifying = some active) :
      Move waiter (.setNotify active)
        { waiter with
          pipe := { waiter.pipe with
            allactive := waiter.pipe.allactive ||| active.bits, newnotify := true }
          notifying := none }
  | clearNotify (free : waiter.notifying = none) (outside : waiter.point = .outside) :
      Move waiter .clearNotify
        { waiter with
          pipe := { waiter.pipe with newnotify := false, allactive := 0 }
          point := .reading waiter.pipe.newnotify waiter.pipe.allactive }
  | interrupted : Move waiter (.readNotify true) waiter
  | readNotify (interrupted needread : Bool) (allactive : Nat)
      (reads : waiter.point = .reading needread allactive) :
      Move waiter (.readNotify interrupted)
        { waiter with
          pipe := waiter.pipe.readNotify needread
          point := .outside
          returned := waiter.returned ++ [allactive] }

theorem step_moves (stepped : waiter.step event = some following) : waiter.Move event following := by
  cases event with
  | writeNotify active =>
    simp only [step] at stepped
    split at stepped <;> cases stepped
    next free => exact .writeNotify active free
  | setNotify active =>
    simp only [step] at stepped
    split at stepped <;> cases stepped
    next holds => exact .setNotify active holds
  | clearNotify =>
    simp only [step] at stepped
    split at stepped <;> cases stepped
    next entered => exact .clearNotify entered.1 entered.2
  | readNotify interrupted =>
    simp only [step] at stepped
    split at stepped
    next => cases stepped
    next needread allactive reads =>
      split at stepped <;> cases stepped
      next again =>
        obtain ⟨-, rfl⟩ := Bool.and_eq_true_iff.mp again
        exact .interrupted
      next => exact .readNotify interrupted needread allactive reads

def Counted (waiter : SockWaiterBase) : Prop :=
  waiter.pipe.unread = waiter.pending.toNat + waiter.needread.toNat

theorem counted_initial : initial.Counted := rfl

theorem step_counted (counted : waiter.Counted) (stepped : waiter.step event = some following) :
    following.Counted := by
  unfold Counted pending at counted ⊢
  cases step_moves stepped with
  | writeNotify active free =>
    rw [free] at counted
    cases notified : waiter.pipe.newnotify
    · simp only [notified, Bool.or_false, Option.isSome_none, Bool.toNat_false] at counted
      simp only [needread, Bool.false_eq_true, if_false, Option.isSome_some, Bool.or_true,
        Bool.toNat_true] at counted ⊢
      omega
    · simpa [needread, notified] using counted
  | setNotify active holds => simpa [needread, holds] using counted
  | clearNotify free outside =>
    have cleared : waiter.needread = false := by rw [needread, outside]
    rw [cleared, free] at counted
    simpa [needread, free] using counted
  | interrupted => exact counted
  | readNotify interrupted needread allactive reads =>
    rw [SockWaiterBase.needread, reads] at counted
    cases needread <;> simp [SockWaiterBase.needread, NotifyPipe.readNotify, counted]

theorem step_taken (stepped : waiter.step event = some following) :
    following.taken =
      if event = .clearNotify then waiter.taken ++ [waiter.pipe.allactive] else waiter.taken := by
  cases step_moves stepped with
  | writeNotify | setNotify | interrupted => rfl
  | clearNotify free outside => simp [taken, outside]
  | readNotify interrupted needread allactive reads => simp [taken, reads]

-- All bits of the kind are set.
def Contains (allactive : Nat) (active : SockActiveNotify) : Prop :=
  allactive ||| active.bits = allactive

theorem contains_or (allactive : Nat) (active : SockActiveNotify) :
    Contains (allactive ||| active.bits) active := by
  rw [Contains, Nat.or_assoc, Nat.or_self]

theorem Contains.or {allactive : Nat} {active : SockActiveNotify} (inside : Contains allactive active)
    (other : Nat) : Contains (allactive ||| other) active := by
  unfold Contains at inside
  rw [Contains, Nat.or_right_comm, inside]

theorem step_contains {active : SockActiveNotify} (inside : Contains waiter.pipe.allactive active)
    (stays : event ≠ .clearNotify) (stepped : waiter.step event = some following) :
    Contains following.pipe.allactive active := by
  cases step_moves stepped with
  | writeNotify | interrupted => exact inside
  | setNotify other holds => exact inside.or other.bits
  | clearNotify => exact absurd rfl stays
  | readNotify interrupted needread allactive reads => cases needread <;> exact inside

theorem run_taken (events : List Event) (ran : Transition.run step waiter events = some following) :
    waiter.taken <+: following.taken ∧
      following.taken.length = waiter.taken.length + events.count .clearNotify := by
  induction events generalizing waiter with
  | nil =>
    simp only [Transition.run, Option.some.injEq] at ran
    simp [ran]
  | cons event rest ih =>
    simp only [Transition.run, Option.bind_eq_some_iff] at ran
    obtain ⟨next, stepped, ran⟩ := ran
    have took := step_taken stepped
    obtain ⟨longer, counts⟩ := ih ran
    by_cases clears : event = .clearNotify
    · rw [if_pos clears] at took
      rw [took] at longer counts
      refine ⟨(List.prefix_append _ _).trans longer, ?_⟩
      rw [counts, clears, List.count_cons_self, List.length_append, List.length_singleton]
      omega
    · rw [if_neg clears] at took
      rw [took] at longer counts
      exact ⟨longer, by rw [counts, List.count_cons_of_ne clears]⟩

theorem run_contains {active : SockActiveNotify} (inside : Contains waiter.pipe.allactive active)
    (events : List Event) (uncleared : .clearNotify ∉ events)
    (ran : Transition.run step waiter events = some following) :
    Contains following.pipe.allactive active := by
  have reached : Transition.ReachableWhen step (fun _ event => event ≠ .clearNotify) waiter following :=
    Transition.ReachableWhen.start.ofEvents events
      (fun event member clears => uncleared (clears ▸ member)) ran
  exact reached.invariant (fun state => Contains state.pipe.allactive active) inside
    fun _ _ _ inside stays stepped => step_contains inside stays stepped

theorem run_counted (counted : waiter.Counted) (events : List Event)
    (ran : Transition.run step waiter events = some following) : following.Counted :=
  (Transition.Reachable.run .start events ran).invariant Counted counted
    fun _ _ _ counted _ stepped => step_counted counted stepped

theorem returned_prefix (waiter : SockWaiterBase) : waiter.returned <+: waiter.taken := by
  rw [taken]
  split
  · exact List.prefix_rfl
  · exact List.prefix_append _ _

structure Delivers (events : List Event) (waiter : SockWaiterBase) : Prop where
  contained : ∀ before active between later value,
    events = before ++ .setNotify active :: between ++ .clearNotify :: later →
    .clearNotify ∉ between → waiter.returned[before.count .clearNotify]? = some value →
    Contains value active
  answered : waiter.point = .outside → waiter.returned.length = events.count .clearNotify
  unreadByte : waiter.pipe.newnotify = true → 0 < waiter.pipe.unread
  atMostTwo : waiter.pipe.unread ≤ 2
  empty : waiter.pending = false → waiter.point = .outside → waiter.pipe.unread = 0

theorem taken_contains {before between later : List Event} {active : SockActiveNotify}
    (uncleared : .clearNotify ∉ between)
    (ran : Transition.run step waiter
      (before ++ .setNotify active :: between ++ .clearNotify :: later) = some following) :
    ∃ value, following.taken[waiter.taken.length + before.count .clearNotify]? = some value ∧
      Contains value active := by
  rw [List.append_assoc, Transition.run_append, Option.bind_eq_some_iff] at ran
  obtain ⟨unset, ranBefore, ran⟩ := ran
  rw [List.cons_append, Transition.run, Option.bind_eq_some_iff] at ran
  obtain ⟨notified, set, ran⟩ := ran
  rw [Transition.run_append, Option.bind_eq_some_iff] at ran
  obtain ⟨entered, ranBetween, ran⟩ := ran
  rw [Transition.run, Option.bind_eq_some_iff] at ran
  obtain ⟨cleared, clears, ranLater⟩ := ran
  have inside : Contains notified.pipe.allactive active := by
    cases step_moves set
    exact contains_or _ active
  refine ⟨entered.pipe.allactive, ?_, run_contains inside between uncleared ranBetween⟩
  have place : entered.taken.length = waiter.taken.length + before.count .clearNotify := by
    have kept := step_taken set
    rw [if_neg (by simp)] at kept
    rw [(run_taken between ranBetween).2, kept, (run_taken before ranBefore).2,
      List.count_eq_zero_of_not_mem uncleared]
    rfl
  have took : cleared.taken = entered.taken ++ [entered.pipe.allactive] := by
    rw [step_taken clears, if_pos rfl]
  obtain ⟨others, last⟩ := (run_taken later ranLater).1
  rw [← last, took, ← place, List.append_assoc, List.getElem?_append_right (Nat.le_refl _),
    Nat.sub_self]
  rfl

theorem notifications_delivered (events : List Event) (waiter : SockWaiterBase)
    (ran : Transition.run step initial events = some waiter) : Delivers events waiter := by
  have counted := run_counted counted_initial events ran
  have count := (run_taken events ran).2
  rw [Counted] at counted
  refine { contained := ?_, answered := ?_, unreadByte := ?_, atMostTwo := ?_, empty := ?_ }
  · rintro before active between later value rfl uncleared returned
    obtain ⟨took, found, contains⟩ := taken_contains uncleared ran
    obtain ⟨others, last⟩ := returned_prefix waiter
    obtain ⟨inside, -⟩ := List.getElem?_eq_some_iff.mp returned
    rw [← last, initial, taken, List.length_nil, Nat.zero_add,
      List.getElem?_append_left inside, returned] at found
    exact Option.some.inj found ▸ contains
  · intro outside
    rw [taken, outside] at count
    simpa [taken, initial] using count
  · intro notified
    rw [counted, pending, notified]
    exact Nat.add_pos_left Nat.zero_lt_one _
  · rw [counted]
    exact Nat.add_le_add (Bool.toNat_le _) (Bool.toNat_le _)
  · intro quiet outside
    rw [counted, quiet, needread, outside]
    rfl

-- The second byte is written between the section and the read of the first.
theorem notification_before_read :
    Delivers [.writeNotify .newAdded, .setNotify .newAdded, .clearNotify, .writeNotify .terminate,
        .setNotify .terminate, .readNotify true, .readNotify false]
      { initial with
        pipe := { newnotify := true, allactive := 8, unread := 1 }
        returned := [1] } :=
  notifications_delivered _ _ (by decide)

end SockWaiterBase
end MessageBus.Net
