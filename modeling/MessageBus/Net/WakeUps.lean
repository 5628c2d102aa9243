import MessageBus.Net.NotifyPipe
import MessageBus.Shared.Transition

set_option autoImplicit false

namespace MessageBus.Net

inductive LoopPoint where
  -- Before the test of m_terminal in front of Wait.
  | top
  -- Before epoll_wait.
  | blocking
  -- After epoll_wait with its result, before and after GetAndClearNotify takes the flag.
  | woken (retfds : Int)
  | reading (retfds : Int) (needread : Bool)
  | waited (retfds : Int)
  | running (retfds : Int) (tmptasks : List Nat)
  | exited
  deriving DecidableEq, Repr

structure WakeLoop where
  pipe : NotifyPipe
  pendings : List Nat
  pushed : Nat
  -- The tasks whose QueueTaskToLoop has not made its NotifyNewActive call.
  unnotified : List Nat
  terminal : Bool
  point : LoopPoint
  deriving DecidableEq, Repr

namespace WakeLoop

inductive Event where
  | pushBack
  | notifyPushed (task : Nat)
  | notifyNewActive (active : SockActiveNotify)
  | terminate
  -- The loop thread; isEmpty is what the waiter's Empty returns.
  | testTerminal (isEmpty : Bool)
  | epollWait (retfds : Int)
  | clearNotify
  | readNotify
  | swapPendings
  | runTask
  | finishTasks (isEmpty : Bool)
  deriving DecidableEq, Repr

def initial : WakeLoop :=
  { pipe := .initial, pendings := [], pushed := 0, unnotified := [], terminal := false, point := .top }

def step (loop : WakeLoop) : Event -> Option WakeLoop
  | .pushBack =>
    some { loop with
      pendings := loop.pendings ++ [loop.pushed]
      pushed := loop.pushed + 1
      unnotified := loop.unnotified ++ [loop.pushed] }
  | .notifyPushed task =>
    if task ∈ loop.unnotified then
      some { loop with
        unnotified := loop.unnotified.erase task
        pipe := loop.pipe.notifyNewActive .updateEvent }
    else none
  | .notifyNewActive active => some { loop with pipe := loop.pipe.notifyNewActive active }
  | .terminate => some { loop with terminal := true }
  | .testTerminal isEmpty =>
    match loop.point with
    | .top =>
      some { loop with point := if loop.terminal && isEmpty then .exited else .blocking }
    | _ => none
  | .epollWait retfds =>
    match loop.point with
    | .blocking => some { loop with point := .woken retfds }
    | _ => none
  | .clearNotify =>
    match loop.point with
    | .woken retfds =>
      let (needread, _, pipe) := loop.pipe.clearNotify
      some { loop with pipe, point := .reading retfds needread }
    | _ => none
  | .readNotify =>
    match loop.point with
    | .reading retfds needread =>
      some { loop with pipe := loop.pipe.readNotify needread, point := .waited retfds }
    | _ => none
  | .swapPendings =>
    match loop.point with
    | .waited retfds =>
      if retfds < 0 then some { loop with point := if loop.terminal then .exited else .top }
      else some { loop with pendings := [], point := .running retfds loop.pendings }
    | _ => none
  | .runTask =>
    match loop.point with
    | .running retfds (_ :: tmptasks) => some { loop with point := .running retfds tmptasks }
    | _ => none
  | .finishTasks isEmpty =>
    match loop.point with
    | .running retfds [] =>
      if loop.terminal && isEmpty then some { loop with point := .exited }
      else if retfds = 0 && loop.terminal then some { loop with point := .exited }
      else some { loop with point := .top }
    | _ => none

-- No task waits for the loop thread while that goes to sleep, unless its thread is still to notify
-- the loop.
def NoLostWakeUp (loop : WakeLoop) : Prop :=
  loop.point = .blocking → ∀ task ∈ loop.pendings, 0 < loop.pipe.unread ∨ task ∈ loop.unnotified

-- After an error of epoll_wait no notification is cleared that a pending task relies on.
def clearsForTasks (loop : WakeLoop) : Event -> Bool
  | .clearNotify =>
    match loop.point with
    | .woken retfds =>
      0 ≤ retfds || loop.terminal || loop.pendings.all fun task => loop.unnotified.contains task
    | _ => true
  | _ => true

def needread (loop : WakeLoop) : Bool :=
  match loop.point with
  | .reading _ needread => needread
  | _ => false

-- The thread takes the pending tasks, or ends, before it waits again.
def willTake (loop : WakeLoop) : Bool :=
  match loop.point with
  | .reading retfds _ | .waited retfds => 0 ≤ retfds || loop.terminal
  | .exited => true
  | .top | .blocking | .woken _ | .running _ _ => false

structure Awake (loop : WakeLoop) : Prop where
  counted : loop.pipe.Counted loop.needread
  tasks : ∀ task ∈ loop.pendings,
    task ∈ loop.unnotified ∨ loop.pipe.newnotify = true ∨ loop.willTake = true

theorem awake_initial : initial.Awake :=
  ⟨NotifyPipe.counted_initial, fun _ impossible => by cases impossible⟩

variable {loop following : WakeLoop}

theorem Awake.noLostWakeUp (awake : loop.Awake) : loop.NoLostWakeUp := by
  intro blocks task member
  have counted := awake.counted
  rw [needread, blocks] at counted
  rcases awake.tasks task member with unnotified | notified | takes
  · exact .inr unnotified
  · left
    rw [counted, notified]
    exact Nat.zero_lt_one
  · rw [willTake, blocks] at takes
    cases takes

theorem Awake.notifyNewActive (awake : loop.Awake) (unnotified : List Nat)
    (active : SockActiveNotify) :
    Awake { loop with unnotified, pipe := loop.pipe.notifyNewActive active } :=
  ⟨awake.counted.notifyNewActive active, fun _ _ => .inr (.inl rfl)⟩

theorem Awake.goOn (awake : loop.Awake) {point : LoopPoint}
    (needread : needread { loop with point } = loop.needread)
    (stays : loop.willTake = false) : Awake { loop with point } := by
  refine ⟨needread ▸ awake.counted, fun task member => ?_⟩
  refine (awake.tasks task member).imp_right (Or.imp_right fun takes => ?_)
  rw [stays] at takes
  cases takes

theorem step_awake (awake : loop.Awake) {event : Event} (meets : loop.clearsForTasks event = true)
    (taken : loop.step event = some following) : following.Awake := by
  cases event with
  | pushBack =>
    cases taken
    refine ⟨awake.counted, fun task member => ?_⟩
    rcases List.mem_append.mp member with older | new
    · exact (awake.tasks task older).imp_left (List.mem_append_left _)
    · exact .inl (List.mem_append_right _ new)
  | notifyPushed task =>
    simp only [step] at taken
    split at taken <;> cases taken
    exact awake.notifyNewActive _ .updateEvent
  | notifyNewActive active =>
    cases taken
    exact awake.notifyNewActive _ active
  | terminate =>
    cases taken
    refine ⟨awake.counted, fun task member => (awake.tasks task member).imp_right ?_⟩
    refine Or.imp_right fun takes => ?_
    simp only [willTake] at takes ⊢
    split at takes <;> simp_all
  | testTerminal isEmpty =>
    simp only [step] at taken
    split at taken <;> cases taken
    next top =>
      refine awake.goOn ?_ (by rw [willTake, top])
      rw [needread, needread, top]
      cases loop.terminal && isEmpty <;> rfl
  | epollWait retfds =>
    simp only [step] at taken
    split at taken <;> cases taken
    next blocks =>
      exact awake.goOn (by rw [needread, needread, blocks]) (by rw [willTake, blocks])
  | clearNotify =>
    simp only [step] at taken
    split at taken
    next retfds woken =>
      cases taken
      have counted := awake.counted
      rw [needread, woken] at counted
      refine ⟨counted.clearNotify, fun task member => ?_⟩
      simp only [clearsForTasks, woken, Bool.or_eq_true, List.all_eq_true,
        List.contains_iff_mem] at meets
      rcases meets with takes | unnotified
      · exact .inr (.inr (by simpa [willTake] using takes))
      · exact .inl (unnotified task member)
    next => cases taken
  | readNotify =>
    simp only [step] at taken
    split at taken
    next retfds needread reads =>
      cases taken
      have counted := awake.counted
      rw [WakeLoop.needread, reads] at counted
      refine ⟨counted.readNotify, fun task member => ?_⟩
      have before := awake.tasks task member
      rw [willTake, reads] at before
      refine before.imp_right (Or.imp_left fun notified => ?_)
      cases needread <;> exact notified
    next => cases taken
  | swapPendings =>
    simp only [step] at taken
    split at taken
    next retfds waits =>
      have counted := awake.counted
      rw [needread, waits] at counted
      split at taken
      next failed =>
        cases taken
        refine ⟨?_, fun task member => ?_⟩
        · rw [needread]
          cases loop.terminal <;> exact counted
        · refine (awake.tasks task member).imp_right (Or.imp_right fun takes => ?_)
          rw [willTake, waits] at takes
          have terminal : loop.terminal = true := by
            simpa [not_le.mpr failed] using takes
          simp [willTake, terminal]
      next =>
        cases taken
        exact ⟨counted, fun _ impossible => by cases impossible⟩
    next => cases taken
  | runTask =>
    simp only [step] at taken
    split at taken <;> cases taken
    next runs =>
      exact awake.goOn (by rw [needread, needread, runs]) (by rw [willTake, runs])
  | finishTasks isEmpty =>
    simp only [step] at taken
    split at taken
    next retfds runs =>
      have moved (point : LoopPoint) (same : needread { loop with point } = false) :
          Awake { loop with point } :=
        awake.goOn (by rw [same, needread, runs]) (by rw [willTake, runs])
      split at taken
      · cases taken
        exact moved .exited rfl
      · split at taken <;> cases taken
        · exact moved .exited rfl
        · exact moved .top rfl
    next => cases taken

theorem no_lost_wake_up_when (loop : WakeLoop)
    (reached : Transition.ReachableWhen step (fun loop event => loop.clearsForTasks event = true)
      initial loop) : loop.NoLostWakeUp := by
  have awake : loop.Awake :=
    reached.invariant Awake awake_initial fun _ _ _ awake meets taken => step_awake awake meets taken
  exact awake.noLostWakeUp

-- An error before the task is pushed, and a notification while the byte of it is read.
def notifiedInTime : List Event :=
  [.testTerminal false, .epollWait (-1), .clearNotify, .readNotify, .swapPendings, .pushBack,
    .notifyPushed 0, .testTerminal false, .epollWait 1, .clearNotify, .pushBack, .notifyPushed 1,
    .readNotify, .swapPendings, .runTask, .runTask, .finishTasks false, .testTerminal false]

theorem no_lost_wake_up_notifiedInTime : ∃ loop, Transition.run step initial notifiedInTime = some loop ∧
    loop.point = .blocking ∧ loop.NoLostWakeUp :=
  ⟨_, rfl, rfl, no_lost_wake_up_when _ (.run .start notifiedInTime rfl)⟩

-- The notification of the task is cleared by a wait that fails.
def clearedByError : List Event :=
  [.testTerminal false, .pushBack, .notifyPushed 0, .epollWait (-1), .clearNotify, .readNotify,
    .swapPendings, .testTerminal false]

theorem wake_up_lost_after_error : ¬ ∀ loop : WakeLoop,
    Transition.Reachable step initial loop → loop.NoLostWakeUp := by
  intro always
  have ran : ∃ loop, Transition.run step initial clearedByError = some loop ∧
      loop.point = .blocking ∧ loop.pendings = [0] ∧ loop.pipe.unread = 0 ∧ loop.unnotified = [] :=
    ⟨_, rfl, rfl, rfl, rfl, rfl⟩
  obtain ⟨loop, ran, blocks, pendings, unread, unnotified⟩ := ran
  have awake := always loop (.run .start clearedByError ran) blocks 0 (by simp [pendings])
  simp [unread, unnotified] at awake

end WakeLoop
end MessageBus.Net
