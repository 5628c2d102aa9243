import Mathlib.Algebra.Ring.Int.Defs
import Mathlib.Algebra.Ring.Nat
import Mathlib.Data.List.Induction
import Mathlib.Data.List.Nodup
import MessageBus.Shared.Slots

set_option autoImplicit false

namespace MessageBus.Threads

open Slots

structure MultiTimer (Task : Type) where
  timertask : Option Task
  delaysec : Int32
  elapse : Int32
  inuse : Bool
  repeats : Bool
  timerid : Int32
  deriving DecidableEq, Repr

namespace MultiTimer

variable {Task : Type}

-- timerid is ++timer_counter.
def create (task : Option Task) (delaysec : Int32) (repeats : Bool) (timerid : Int32) :
    MultiTimer Task :=
  { timertask := task, delaysec, elapse := 0, inuse := task.isSome, repeats, timerid }

def addElapse (timer : MultiTimer Task) (elapse : Int32) : MultiTimer Task :=
  if timer.inuse = false then timer
  else if timer.elapse > timer.delaysec then timer
  else { timer with elapse := timer.elapse + elapse }

def isready (timer : MultiTimer Task) : Bool × MultiTimer Task :=
  if timer.inuse = false then (false, timer)
  else if timer.elapse ≥ timer.delaysec then
    if timer.timertask.isSome then (true, timer) else (false, { timer with inuse := false })
  else (false, timer)

def getTimertaskAndReset (timer : MultiTimer Task) : Option Task × MultiTimer Task :=
  (timer.timertask,
    { timer with elapse := 0, inuse := if timer.repeats then timer.inuse else false })

def deletetimer (timer : MultiTimer Task) : MultiTimer Task :=
  { timer with elapse := 0, timertask := none, inuse := false }

-- What timer_proc does with one slot, and what it pushes for it.
def proc (timer : MultiTimer Task) : MultiTimer Task × List (Option Task) :=
  let (ready, readytimer) := (timer.addElapse 1).isready
  if ready then
    let (task, reset) := readytimer.getTimertaskAndReset
    (reset, [task])
  else (readytimer, [])

end MultiTimer

-- THREAD_POOL_MAX_TIMER.
def threadPoolMaxTimer : Nat := 16

structure TimerPool (Task : Type) where
  -- s_threadpool_running and m_terminateall.
  running : Bool
  terminateall : Bool
  timertaskContainer : List (MultiTimer Task)
  timerCounter : Int32
  deriving DecidableEq, Repr

inductive TimerCall (Task : Type) where
  | queueTimerTask (task : Option Task) (delaysec : Int32) (repeatflag : Bool)
  | deletetimerbyid (timerid : Int32)
  -- A timer_proc after its wait.
  | tick
  deriving DecidableEq, Repr

def TimerCall.isTick {Task : Type} : TimerCall Task -> Bool
  | .tick => true
  | .queueTimerTask .. | .deletetimerbyid _ => false

def TimerCall.deletes {Task : Type} (timerid : Int32) : TimerCall Task -> Bool
  | .deletetimerbyid id => id = timerid
  | .queueTimerTask .. | .tick => false

namespace TimerPool

variable {Task : Type}

-- The pool that runs: the vector holds timers without a task, each with an id of its own.
def initial : TimerPool Task :=
  { running := true, terminateall := false
    timertaskContainer := (List.range threadPoolMaxTimer).map fun position =>
      .create none 0 false (.ofNat (position + 1))
    timerCounter := .ofNat threadPoolMaxTimer }

def queueTimerTask (pool : TimerPool Task) (task : Option Task) (delaysec : Int32)
    (repeatflag : Bool) : Int32 × TimerPool Task :=
  if task.isNone then (0, pool)
  else if pool.running = false then (0, pool)
  else
    let i := pool.timertaskContainer.findIdx fun timer => timer.inuse = false
    if i = pool.timertaskContainer.length then (0, pool)
    else
      let timer := MultiTimer.create task delaysec repeatflag (pool.timerCounter + 1)
      (timer.timerid,
        { pool with
          timertaskContainer := pool.timertaskContainer.set i timer
          timerCounter := pool.timerCounter + 1 })

def deletetimerbyid (pool : TimerPool Task) (timerid : Int32) : TimerPool Task :=
  { pool with
    timertaskContainer := pool.timertaskContainer.modify
      (pool.timertaskContainer.findIdx fun timer => timer.timerid = timerid) .deletetimer }

-- The tasks are pushed in the order of the slots.
def timerProc (pool : TimerPool Task) : TimerPool Task × List (Option Task) :=
  if pool.terminateall then (pool, [])
  else
    ({ pool with timertaskContainer := pool.timertaskContainer.map fun timer => timer.proc.1 },
      pool.timertaskContainer.flatMap fun timer => timer.proc.2)

def after (pool : TimerPool Task) : TimerCall Task -> TimerPool Task
  | .queueTimerTask task delaysec repeatflag => (pool.queueTimerTask task delaysec repeatflag).2
  | .deletetimerbyid timerid => pool.deletetimerbyid timerid
  | .tick => pool.timerProc.1

def afterAll (calls : List (TimerCall Task)) : TimerPool Task := calls.foldl after initial

def creates (pool : TimerPool Task) : TimerCall Task -> Bool
  | .queueTimerTask task _ _ =>
    task.isSome && pool.running && pool.timertaskContainer.any fun timer => timer.inuse = false
  | .deletetimerbyid _ | .tick => false

def created (pool : TimerPool Task) : List (TimerCall Task) -> Nat
  | [] => 0
  | call :: calls => (pool.creates call).toNat + created (pool.after call) calls

end TimerPool

structure AskedTimer (Task : Type) where
  before : List (TimerCall Task)
  task : Task
  delaysec : Int32
  repeatflag : Bool
  since : List (TimerCall Task)

namespace AskedTimer

variable {Task : Type} (asked : AskedTimer Task)

def calls : List (TimerCall Task) :=
  asked.before ++ .queueTimerTask (some asked.task) asked.delaysec asked.repeatflag :: asked.since

-- What queue_timer_task returned: 0 where it took no timer.
def timerid : Int32 :=
  ((TimerPool.afterAll asked.before).queueTimerTask (some asked.task) asked.delaysec
    asked.repeatflag).1

def ticks : Nat := asked.since.countP TimerCall.isTick

def deleted : Bool := asked.since.any (TimerCall.deletes asked.timerid)

def period : Nat := (max 1 asked.delaysec.toInt).toNat

def firesAt (n : Nat) : Bool :=
  if asked.repeatflag then 0 < n ∧ asked.period ∣ n else n = asked.period

def pending : Bool :=
  asked.timerid ≠ 0 ∧ asked.deleted = false ∧ (asked.repeatflag ∨ asked.ticks < asked.period)

def onward (call : TimerCall Task) : AskedTimer Task :=
  { asked with since := asked.since ++ [call] }

def next (call : TimerCall Task) : Option (AskedTimer Task) :=
  if (asked.onward call).pending then some (asked.onward call) else none

end AskedTimer

structure OnSchedule {Task : Type} (calls : List (TimerCall Task)) : Prop where
  -- A tick pushes one task for each timer that is due, and no other.
  fires : ∀ earlier later, calls = earlier ++ .tick :: later →
    ∃ fired : List (AskedTimer Task), fired.Nodup ∧
      (∀ asked, asked ∈ fired ↔ asked.calls = earlier ∧ asked.timerid ≠ 0 ∧
        asked.deleted = false ∧ asked.firesAt (asked.ticks + 1) = true) ∧
      (TimerPool.afterAll earlier).timerProc.2 = fired.map fun asked => some asked.task
  -- Two timers never have the same id.
  apart : ∀ one two : AskedTimer Task, one.calls = calls → two.calls = calls →
    one.timerid = two.timerid → one.timerid ≠ 0 → one = two
  refused : ∀ asked : AskedTimer Task, asked.calls = calls →
    let pool := TimerPool.afterAll asked.before
    let result := pool.queueTimerTask (some asked.task) asked.delaysec asked.repeatflag
    (result.1 = 0 ↔ ∀ timer ∈ pool.timertaskContainer, timer.inuse = true) ∧
      (result.1 = 0 → result.2 = pool)

theorem toInt_succ {value : Int32} (below : value.toInt < 2 ^ 31 - 1) :
    (value + 1).toInt = value.toInt + 1 := by
  have one : (1 : Int32).toInt = 1 := rfl
  have least := value.le_toInt
  rw [Int32.toInt_add, one]
  exact Int.bmod_eq_of_le (by omega) (by omega)

namespace AskedTimer

variable {Task : Type} {calls : List (TimerCall Task)} {call : TimerCall Task}
  {asked : AskedTimer Task}

theorem succ_mod_of_dvd {n period : Nat} (divides : period ∣ n + 1) : (n + 1) % period = 0 :=
  Nat.mod_eq_zero_of_dvd divides

theorem succ_mod_of_not_dvd {n period : Nat} (positive : 0 < period) (apart : ¬ period ∣ n + 1) :
    n % period + 1 < period ∧ (n + 1) % period = n % period + 1 := by
  have below := Nat.mod_lt n positive
  have split := Nat.div_add_mod n period
  have less : n % period + 1 < period := by
    refine Nat.lt_of_le_of_ne below fun full => apart ⟨n / period + 1, ?_⟩
    rw [Nat.mul_succ]
    omega
  refine ⟨less, ?_⟩
  rw [← Nat.mod_add_mod, Nat.mod_eq_of_lt less]

theorem period_pos : 0 < asked.period := by
  unfold AskedTimer.period
  omega

theorem firesAt_pending (pending : asked.pending = true) :
    asked.firesAt (asked.ticks + 1) = decide (asked.period ∣ asked.ticks + 1) := by
  have further : asked.repeatflag ∨ asked.ticks < asked.period :=
    (of_decide_eq_true pending).2.2
  unfold AskedTimer.firesAt
  cases again : asked.repeatflag with
  | true => simp
  | false =>
    have early : asked.ticks < asked.period := by simpa [again] using further
    have whole : asked.ticks + 1 = asked.period ↔ asked.period ∣ asked.ticks + 1 :=
      ⟨fun same => same ▸ Nat.dvd_refl _,
        fun divides => Nat.le_antisymm early (Nat.le_of_dvd (Nat.succ_pos _) divides)⟩
    simp [whole]

theorem ticks_onward (call : TimerCall Task) :
    (asked.onward call).ticks = asked.ticks + call.isTick.toNat := by
  cases isTick : call.isTick <;>
    simp [AskedTimer.ticks, AskedTimer.onward, isTick]

theorem deleted_onward (call : TimerCall Task) :
    (asked.onward call).deleted = (asked.deleted || call.deletes asked.timerid) := by
  have same : (asked.onward call).timerid = asked.timerid := rfl
  rw [AskedTimer.deleted, same]
  simp [AskedTimer.deleted, AskedTimer.onward]

theorem pending_onward (pending : asked.pending = true) (call : TimerCall Task) :
    (asked.onward call).pending = true ↔ call.deletes asked.timerid = false ∧
      (asked.repeatflag = true ∨ asked.ticks + call.isTick.toNat < asked.period) := by
  obtain ⟨accepted, kept, _⟩ := of_decide_eq_true pending
  have same : (asked.onward call).timerid = asked.timerid ∧
    (asked.onward call).repeatflag = asked.repeatflag ∧
      (asked.onward call).period = asked.period := ⟨rfl, rfl, rfl⟩
  simp only [AskedTimer.pending, decide_eq_true_eq, ticks_onward, deleted_onward, same, kept]
  simp [accepted]

theorem next_of_pending {call : TimerCall Task} (pending : (asked.onward call).pending = true) :
    asked.next call = some (asked.onward call) := if_pos pending

theorem next_of_not_pending {call : TimerCall Task}
    (ended : ¬ (asked.onward call).pending = true) : asked.next call = none := if_neg ended

theorem calls_onward : (asked.onward call).calls = asked.calls ++ [call] := by
  simp [AskedTimer.calls, onward]

theorem calls_concat : asked.calls = calls ++ [call] ↔
    (∃ earlier : AskedTimer Task, earlier.calls = calls ∧ asked = earlier.onward call) ∨
      asked.before = calls ∧ asked.since = [] ∧
        call = .queueTimerTask (some asked.task) asked.delaysec asked.repeatflag := by
  constructor
  · intro same
    rcases List.eq_nil_or_concat asked.since with none | ⟨earlier, last, since⟩
    · rw [AskedTimer.calls, none] at same
      obtain ⟨before, queued⟩ := List.append_inj' same rfl
      exact .inr ⟨before, none, (List.cons.inj queued).1.symm⟩
    · rw [AskedTimer.calls, since, List.concat_eq_append, ← List.cons_append,
        ← List.append_assoc] at same
      obtain ⟨before, lastCall⟩ := List.append_inj' same rfl
      obtain rfl := (List.cons.inj lastCall).1
      refine .inl ⟨{ asked with since := earlier }, before, ?_⟩
      cases asked
      rw [List.concat_eq_append] at since
      subst since
      rfl
  · rintro (⟨earlier, same, rfl⟩ | ⟨before, none, rfl⟩)
    · rw [calls_onward, same]
    · rw [AskedTimer.calls, before, none]

theorem pending_of_onward (pending : (asked.onward call).pending = true) :
    asked.pending = true := by
  obtain ⟨accepted, kept, further⟩ := of_decide_eq_true pending
  rw [deleted_onward, Bool.or_eq_false_iff] at kept
  rw [ticks_onward] at further
  refine decide_eq_true ⟨accepted, kept.1, further.imp id fun below => ?_⟩
  exact Nat.lt_of_le_of_lt (Nat.le_add_right _ _) below

theorem next_eq_some {later : AskedTimer Task} :
    asked.next call = some later ↔ (asked.onward call).pending = true ∧ later = asked.onward call := by
  unfold next
  split
  next pending => simp [pending, eq_comm]
  next ended => simp [ended]

end AskedTimer

namespace MultiTimer

open AskedTimer

variable {Task : Type} {timer : MultiTimer Task} {asked : AskedTimer Task}

-- A slot after a call: a timer with that id is deleted, and a tick goes through all slots.
def afterCall (timer : MultiTimer Task) : TimerCall Task -> MultiTimer Task
  | .queueTimerTask .. => timer
  | .deletetimerbyid timerid => if timer.timerid = timerid then timer.deletetimer else timer
  | .tick => timer.proc.1

structure Keeps (timer : MultiTimer Task) (asked : AskedTimer Task) : Prop where
  inuse : timer.inuse = true
  task : timer.timertask = some asked.task
  delaysec : timer.delaysec = asked.delaysec
  repeats : timer.repeats = asked.repeatflag
  timerid : timer.timerid = asked.timerid
  elapse : timer.elapse.toInt = (asked.ticks % asked.period : Nat)
  pending : asked.pending = true

def Holds : Option (AskedTimer Task) -> MultiTimer Task -> Prop
  | none, timer => timer.inuse = false
  | some asked, timer => timer.Keeps asked

theorem addElapse_used (keeps : timer.Keeps asked) :
    ∃ elapse, timer.addElapse 1 = { timer with elapse } ∧
      (timer.delaysec ≤ elapse ↔ asked.period ∣ asked.ticks + 1) ∧
      (¬ asked.period ∣ asked.ticks + 1 →
        elapse.toInt = ((asked.ticks + 1) % asked.period : Nat)) := by
  obtain ⟨inuse, task, delaysec, repeats, timerid, counted, pending⟩ := keeps
  have period : asked.period = (max 1 timer.delaysec.toInt).toNat := by
    rw [AskedTimer.period, delaysec]
  have below := Nat.mod_lt asked.ticks (@period_pos _ asked)
  have bound := timer.delaysec.toInt_lt
  by_cases negative : timer.delaysec.toInt < 0
  · -- The delay is over before anything is counted.
    have one : asked.period = 1 := by omega
    have passed : timer.elapse > timer.delaysec := Int32.lt_iff_toInt_lt.mpr (by omega)
    have always : asked.period ∣ asked.ticks + 1 := by
      rw [one]
      exact Nat.one_dvd _
    refine ⟨timer.elapse, ?_, iff_of_true (Int32.le_iff_toInt_le.mpr (by omega)) always,
      fun apart => absurd always apart⟩
    rw [addElapse, if_neg (by simp [inuse]), if_pos passed]
  · have within : ¬ timer.elapse > timer.delaysec := by
      rw [gt_iff_lt, Int32.lt_iff_toInt_lt]
      omega
    have next : (timer.elapse + 1).toInt = (asked.ticks % asked.period : Nat) + 1 := by
      rw [toInt_succ (by omega), counted]
    refine ⟨timer.elapse + 1, by simp [addElapse, inuse, within], ?_, ?_⟩
    · rw [Int32.le_iff_toInt_le, next]
      by_cases divides : asked.period ∣ asked.ticks + 1
      · have zero := succ_mod_of_dvd divides
        refine iff_of_true ?_ divides
        have last : asked.ticks % asked.period + 1 = asked.period := by
          by_contra other
          rw [← Nat.mod_add_mod, Nat.mod_eq_of_lt (by omega)] at zero
          omega
        omega
      · have less := (succ_mod_of_not_dvd period_pos divides).1
        exact iff_of_false (by omega) divides
    · intro apart
      rw [next, (succ_mod_of_not_dvd period_pos apart).2]
      rfl

theorem proc_due (keeps : timer.Keeps asked) (due : asked.period ∣ asked.ticks + 1) :
    timer.proc =
      ({ timer with elapse := 0, inuse := timer.repeats }, [some asked.task]) := by
  obtain ⟨elapse, added, reached, _⟩ := addElapse_used keeps
  have passed := reached.mpr due
  obtain ⟨inuse, task, _, _, _, _, _⟩ := keeps
  cases again : timer.repeats <;>
    simp [proc, added, isready, inuse, passed, task, getTimertaskAndReset, again]

theorem proc_early (keeps : timer.Keeps asked) (early : ¬ asked.period ∣ asked.ticks + 1) :
    ∃ elapse, timer.proc = ({ timer with elapse }, []) ∧
      elapse.toInt = ((asked.ticks + 1) % asked.period : Nat) := by
  obtain ⟨elapse, added, reached, counted⟩ := addElapse_used keeps
  have under := mt reached.mp early
  obtain ⟨inuse, _, _, _, _, _, _⟩ := keeps
  exact ⟨elapse, by simp [proc, added, isready, inuse, under], counted early⟩

theorem proc_unused (unused : timer.inuse = false) : timer.proc = (timer, []) := by
  simp [proc, addElapse, isready, unused]

theorem holds_next {held : Option (AskedTimer Task)} (holds : Holds held timer)
    (call : TimerCall Task) :
    Holds (held.bind fun asked => asked.next call) (timer.afterCall call) := by
  cases held with
  | none =>
    change timer.inuse = false at holds
    change (timer.afterCall call).inuse = false
    cases call with
    | queueTimerTask task delaysec repeatflag => exact holds
    | deletetimerbyid timerid =>
      simp only [afterCall]
      split
      · rfl
      · exact holds
    | tick => rwa [afterCall, proc_unused holds]
  | some asked =>
    have keeps : timer.Keeps asked := holds
    have further := (of_decide_eq_true keeps.pending).2.2
    have onward := pending_onward keeps.pending call
    change Holds (asked.next call) (timer.afterCall call)
    cases call with
    | queueTimerTask task delaysec repeatflag =>
      have pending := onward.mpr ⟨rfl, further⟩
      rw [next_of_pending pending]
      exact { keeps with
        pending
        elapse := by rw [ticks_onward]; exact keeps.elapse }
    | deletetimerbyid timerid =>
      by_cases own : timerid = asked.timerid
      · have ended : ¬ (asked.onward (.deletetimerbyid timerid)).pending = true := by
          intro pending
          have kept := (onward.mp pending).1
          simp [TimerCall.deletes, own] at kept
        rw [next_of_not_pending ended, afterCall, if_pos (keeps.timerid.trans own.symm)]
        rfl
      · have pending := onward.mpr ⟨by simp [TimerCall.deletes, own], further⟩
        rw [next_of_pending pending, afterCall,
          if_neg fun same => own (same.symm.trans keeps.timerid)]
        exact { keeps with
          pending
          elapse := by rw [ticks_onward]; exact keeps.elapse }
    | tick =>
      have period : (asked.onward .tick).period = asked.period := rfl
      have ticks : (asked.onward .tick).ticks = asked.ticks + 1 := ticks_onward _
      rw [afterCall]
      by_cases due : asked.period ∣ asked.ticks + 1
      · rw [proc_due keeps due]
        cases again : asked.repeatflag with
        | true =>
          have pending := onward.mpr ⟨rfl, .inl again⟩
          rw [next_of_pending pending]
          exact { keeps with
            pending
            inuse := keeps.repeats.trans again
            elapse := by rw [ticks, period, succ_mod_of_dvd due]; rfl }
        | false =>
          -- It fired for the only time.
          have ended : ¬ (asked.onward .tick).pending = true := by
            intro pending
            rcases (onward.mp pending).2 with repeated | early
            · cases again.symm.trans repeated
            · exact absurd (Nat.le_of_dvd (Nat.succ_pos _) due) (Nat.not_le.mpr early)
          rw [next_of_not_pending ended]
          exact keeps.repeats.trans again
      · obtain ⟨elapse, ran, counted⟩ := proc_early keeps due
        have pending : (asked.onward .tick).pending = true := by
          refine onward.mpr ⟨rfl, further.imp id fun below => ?_⟩
          refine Nat.lt_of_le_of_ne below fun whole => due ?_
          exact ⟨1, whole.trans (Nat.mul_one _).symm⟩
        rw [next_of_pending pending, ran]
        exact { keeps with pending, elapse := by rw [ticks, period]; exact counted }

end MultiTimer

namespace TimerPool

open MultiTimer

variable {Task : Type} {pool : TimerPool Task} {calls : List (TimerCall Task)}
  {call : TimerCall Task}

theorem afterAll_concat (calls : List (TimerCall Task)) (call : TimerCall Task) :
    afterAll (calls ++ [call]) = (afterAll calls).after call :=
  List.foldl_concat ..

theorem created_append (pool : TimerPool Task) (first second : List (TimerCall Task)) :
    pool.created (first ++ second) =
      pool.created first + (first.foldl after pool).created second := by
  induction first generalizing pool with
  | nil => simp [created]
  | cons call first ih =>
    simp only [List.cons_append, created, ih, List.foldl_cons]
    omega

theorem created_concat (calls : List (TimerCall Task)) (call : TimerCall Task) :
    (initial : TimerPool Task).created (calls ++ [call]) =
      initial.created calls + ((afterAll calls).creates call).toNat :=
  created_append ..

structure Scheduled (calls : List (TimerCall Task)) (pool : TimerPool Task) : Prop where
  running : pool.running = true
  terminateall : pool.terminateall = false
  counter : pool.timerCounter.toInt = 16 + (initial.created calls : Nat)
  ids : (pool.timertaskContainer.map MultiTimer.timerid).Nodup
  numbered : ∀ timer ∈ pool.timertaskContainer, timer.timerid.toInt ≤ pool.timerCounter.toInt
  held : ∃ held : List (Option (AskedTimer Task)),
    List.Forall₂ Holds held pool.timertaskContainer ∧
      ∀ asked : AskedTimer Task, some asked ∈ held ↔ asked.calls = calls ∧ asked.pending = true

theorem scheduled_initial : Scheduled [] (initial : TimerPool Task) := by
  have unused : ∀ timer ∈ (initial : TimerPool Task).timertaskContainer, timer.inuse = false := by
    intro timer member
    obtain ⟨position, _, rfl⟩ := List.mem_map.mp member
    rfl
  have ids : (initial : TimerPool Task).timertaskContainer.map MultiTimer.timerid =
      (List.range threadPoolMaxTimer).map fun position => Int32.ofNat (position + 1) := by
    rw [initial, List.map_map]
    rfl
  constructor
  case running => rfl
  case terminateall => rfl
  case counter => rfl
  case ids =>
    rw [ids]
    decide
  case numbered =>
    intro timer member
    obtain ⟨position, inside, rfl⟩ := List.mem_map.mp member
    have below : position < 16 := List.mem_range.mp inside
    have value : (Int32.ofNat (position + 1)).toInt = (position + 1 : Nat) :=
      Int32.toInt_ofNat_of_lt (by omega)
    change (Int32.ofNat (position + 1)).toInt ≤ 16
    omega
  case held =>
    refine ⟨(initial : TimerPool Task).timertaskContainer.map fun _ => none, ?_,
      fun asked => iff_of_false ?_ ?_⟩
    · rw [List.forall₂_map_left_iff, List.forall₂_same]
      exact unused
    · intro member
      obtain ⟨_, _, impossible⟩ := List.mem_map.mp member
      cases impossible
    · rintro ⟨nothing, _⟩
      exact absurd nothing (List.append_ne_nil_of_right_ne_nil _ (List.cons_ne_nil _ _))

theorem queueTimerTask_cases (running : pool.running = true) (task : Task) (delaysec : Int32)
    (repeatflag : Bool) :
    (pool.creates (.queueTimerTask (some task) delaysec repeatflag) = false ∧
      (∀ timer ∈ pool.timertaskContainer, timer.inuse = true) ∧
      pool.queueTimerTask (some task) delaysec repeatflag = (0, pool)) ∨
    (pool.creates (.queueTimerTask (some task) delaysec repeatflag) = true ∧
      ∃ (index : Nat) (timer : MultiTimer Task),
        pool.timertaskContainer[index]? = some timer ∧ timer.inuse = false ∧
        pool.queueTimerTask (some task) delaysec repeatflag =
          (pool.timerCounter + 1,
            { pool with
              timertaskContainer := pool.timertaskContainer.set index
                (.create (some task) delaysec repeatflag (pool.timerCounter + 1))
              timerCounter := pool.timerCounter + 1 })) := by
  by_cases free : ∃ timer ∈ pool.timertaskContainer, decide (timer.inuse = false) = true
  · right
    have found := List.findIdx_lt_length.mpr free
    obtain ⟨timer, member, unused⟩ := free
    refine ⟨?_, _, _, List.getElem?_eq_getElem found, ?_, ?_⟩
    · simp only [creates, Option.isSome_some, running, Bool.true_and, List.any_eq_true]
      exact ⟨timer, member, unused⟩
    · exact of_decide_eq_true (@List.findIdx_getElem _ _ _ found)
    · rw [queueTimerTask, if_neg (by simp), if_neg (by simp [running])]
      simp only [if_neg (Nat.ne_of_lt found)]
      rfl
  · left
    have all : ∀ timer ∈ pool.timertaskContainer, timer.inuse = true := by
      intro timer member
      by_contra unused
      exact free ⟨timer, member, by simpa using unused⟩
    refine ⟨?_, all, ?_⟩
    · simp only [creates, Option.isSome_some, running, Bool.true_and, List.any_eq_false]
      intro timer member
      simp [all timer member]
    · have none : pool.timertaskContainer.findIdx (fun timer => decide (timer.inuse = false)) =
          pool.timertaskContainer.length :=
        List.findIdx_eq_length.mpr fun timer member => by simp [all timer member]
      rw [queueTimerTask, if_neg (by simp), if_neg (by simp [running])]
      simp only [if_pos none]

theorem after_eq (scheduled : Scheduled calls pool) (makesNone : pool.creates call = false) :
    pool.after call =
      { pool with timertaskContainer := pool.timertaskContainer.map (·.afterCall call) } := by
  cases call with
  | queueTimerTask task delaysec repeatflag =>
    have same : (pool.queueTimerTask task delaysec repeatflag).2 = pool := by
      cases task with
      | none => rfl
      | some task =>
        rcases queueTimerTask_cases scheduled.running task delaysec repeatflag with
          ⟨_, _, refused⟩ | ⟨makes, _⟩
        · rw [refused]
        · cases makesNone.symm.trans makes
    rw [after, same]
    change pool = { pool with timertaskContainer := pool.timertaskContainer.map id }
    rw [List.map_id]
  | deletetimerbyid timerid =>
    simp only [after, deletetimerbyid]
    rw [modify_findIdx MultiTimer.timerid _ _ _ scheduled.ids]
    rfl
  | tick =>
    rw [after, timerProc, if_neg (by simp [scheduled.terminateall])]
    rfl

theorem afterCall_timerid (timer : MultiTimer Task) (call : TimerCall Task) :
    (timer.afterCall call).timerid = timer.timerid := by
  cases call with
  | queueTimerTask task delaysec repeatflag => rfl
  | deletetimerbyid timerid =>
    simp only [afterCall]
    split <;> rfl
  | tick =>
    simp only [afterCall, proc, isready, addElapse, getTimertaskAndReset]
    split_ifs <;> rfl

theorem Scheduled.keep (scheduled : Scheduled calls (afterAll calls))
    (makesNone : (afterAll calls).creates call = false) :
    Scheduled (calls ++ [call]) (afterAll (calls ++ [call])) := by
  have count := created_concat calls call
  rw [makesNone] at count
  rw [afterAll_concat, after_eq scheduled makesNone]
  obtain ⟨held, holds, lists⟩ := scheduled.held
  constructor
  case running => exact scheduled.running
  case terminateall => exact scheduled.terminateall
  case counter => rw [count]; exact scheduled.counter
  case ids =>
    simp only [List.map_map, Function.comp_def, afterCall_timerid]
    exact scheduled.ids
  case numbered =>
    intro timer member
    obtain ⟨earlier, there, rfl⟩ := List.mem_map.mp member
    rw [afterCall_timerid]
    exact scheduled.numbered earlier there
  case held =>
    refine ⟨held.map fun asked => asked.bind fun asked => asked.next call, ?_, fun asked => ?_⟩
    · rw [List.forall₂_map_left_iff, List.forall₂_map_right_iff]
      exact holds.imp fun _ _ holds => holds_next holds call
    · simp only [List.mem_map, Option.bind_eq_some_iff]
      constructor
      · rintro ⟨_, member, earlier, rfl, next⟩
        obtain ⟨pending, rfl⟩ := AskedTimer.next_eq_some.mp next
        exact ⟨AskedTimer.calls_onward.trans (congrArg (· ++ [call]) ((lists _).mp member).1), pending⟩
      · rintro ⟨same, pending⟩
        rcases AskedTimer.calls_concat.mp same with ⟨earlier, before, rfl⟩ | ⟨before, _, rfl⟩
        · exact ⟨some earlier, (lists earlier).mpr ⟨before, AskedTimer.pending_of_onward pending⟩,
            earlier, rfl, AskedTimer.next_of_pending pending⟩
        · -- A call that makes no timer gets no id.
          have refused : asked.timerid = 0 := by
            rcases queueTimerTask_cases scheduled.running asked.task asked.delaysec
              asked.repeatflag with ⟨_, _, refused⟩ | ⟨makes, _⟩
            · rw [AskedTimer.timerid, before, refused]
            · cases makesNone.symm.trans makes
          exact absurd refused (of_decide_eq_true pending).1

theorem Scheduled.accept (scheduled : Scheduled calls (afterAll calls))
    (makes : (afterAll calls).creates call = true)
    (few : (initial : TimerPool Task).created (calls ++ [call]) < 2 ^ 31 - 16) :
    Scheduled (calls ++ [call]) (afterAll (calls ++ [call])) := by
  have count := created_concat calls call
  rw [makes, Bool.toNat_true] at count
  obtain ⟨task, delaysec, repeatflag, rfl⟩ : ∃ task delaysec repeatflag,
      call = .queueTimerTask (some task) delaysec repeatflag := by
    cases call with
    | queueTimerTask task delaysec repeatflag =>
      cases task with
      | none => cases makes
      | some task => exact ⟨task, delaysec, repeatflag, rfl⟩
    | deletetimerbyid timerid => cases makes
    | tick => cases makes
  obtain ⟨index, slot, there, unused, queued⟩ :
      ∃ (index : Nat) (timer : MultiTimer Task), _ ∧ timer.inuse = false ∧ _ := by
    rcases queueTimerTask_cases scheduled.running task delaysec repeatflag with
      ⟨refused, _⟩ | ⟨_, taken⟩
    · cases makes.symm.trans refused
    · exact taken
  let new : AskedTimer Task := { before := calls, task, delaysec, repeatflag, since := [] }
  have own : new.timerid = (afterAll calls).timerCounter + 1 := congrArg Prod.fst queued
  have reached := scheduled.counter
  have counter := @toInt_succ (afterAll calls).timerCounter (by omega)
  have pending : new.pending = true := by
    refine decide_eq_true ⟨fun zero => ?_, rfl, .inr AskedTimer.period_pos⟩
    have none : _ = (0 : Int) := congrArg Int32.toInt (own.symm.trans zero)
    omega
  rw [afterAll_concat, after, queued]
  obtain ⟨held, holds, lists⟩ := scheduled.held
  obtain ⟨there', found, empty⟩ := forall₂_getElem? holds there
  obtain rfl : there' = none := by
    cases there' with
    | none => rfl
    | some asked =>
      have keeps : slot.Keeps asked := empty
      cases unused.symm.trans keeps.inuse
  constructor
  case running => exact scheduled.running
  case terminateall => exact scheduled.terminateall
  case counter => rw [count, counter, scheduled.counter]; omega
  case ids =>
    rw [List.map_set]
    refine scheduled.ids.set fun member => ?_
    obtain ⟨older, olderThere, same⟩ := List.mem_map.mp member
    have below := scheduled.numbered older olderThere
    have value : older.timerid.toInt = (afterAll calls).timerCounter.toInt + 1 :=
      (congrArg Int32.toInt same).trans counter
    omega
  case numbered =>
    intro timer member
    rw [counter]
    rcases List.mem_or_eq_of_mem_set member with older | rfl
    · have below := scheduled.numbered timer older
      omega
    · exact Int.le_of_eq counter
  case held =>
    let later := held.map fun asked =>
      asked.bind fun asked => asked.next (.queueTimerTask (some task) delaysec repeatflag)
    have free : later[index]? = some none := by simp only [later, List.getElem?_map, found]; rfl
    refine ⟨later.set index (some new), forall₂_set ?_ ?_ index, fun asked => ?_⟩
    · rw [List.forall₂_map_left_iff]
      exact holds.imp fun _ _ holds => holds_next holds _
    · exact {
        inuse := rfl, task := rfl, delaysec := rfl, repeats := rfl, timerid := own.symm
        elapse := by simp [create, new, AskedTimer.ticks]
        pending }
    · rw [mem_set_empty free, AskedTimer.calls_concat]
      simp only [later, List.mem_map, Option.bind_eq_some_iff]
      constructor
      · rintro (rfl | ⟨_, member, earlier, rfl, next⟩)
        · exact ⟨.inr ⟨rfl, rfl, rfl⟩, pending⟩
        · obtain ⟨still, rfl⟩ := AskedTimer.next_eq_some.mp next
          exact ⟨.inl ⟨earlier, ((lists _).mp member).1, rfl⟩, still⟩
      · rintro ⟨⟨earlier, before, rfl⟩ | ⟨before, since, same⟩, still⟩
        · exact .inr ⟨some earlier, (lists earlier).mpr ⟨before, AskedTimer.pending_of_onward still⟩,
            earlier, rfl, AskedTimer.next_of_pending still⟩
        · left
          cases same
          cases asked
          subst before since
          rfl

theorem scheduled_run (calls : List (TimerCall Task))
    (few : (initial : TimerPool Task).created calls < 2 ^ 31 - 16) :
    Scheduled calls (afterAll calls) := by
  induction calls using List.reverseRecOn with
  | nil => exact scheduled_initial
  | append_singleton calls call ih =>
    have count := created_concat calls call
    have scheduled := ih (by omega)
    cases makes : (afterAll calls).creates call with
    | false => exact scheduled.keep makes
    | true => exact scheduled.accept makes few

section Schedule

theorem mem_fired {held : List (Option (AskedTimer Task))}
    (lists : ∀ asked : AskedTimer Task,
      some asked ∈ held ↔ asked.calls = calls ∧ asked.pending = true) (asked : AskedTimer Task) :
    asked ∈ held.flatMap (fun asked => asked.toList.filter
      fun asked => asked.firesAt (asked.ticks + 1)) ↔
      asked.calls = calls ∧ asked.timerid ≠ 0 ∧ asked.deleted = false ∧
        asked.firesAt (asked.ticks + 1) = true := by
  simp only [List.mem_flatMap, List.mem_filter, Option.mem_toList]
  constructor
  · rintro ⟨_, member, rfl, due⟩
    obtain ⟨same, pending⟩ := (lists asked).mp member
    obtain ⟨accepted, kept, _⟩ := of_decide_eq_true pending
    exact ⟨same, accepted, kept, due⟩
  · rintro ⟨same, accepted, kept, due⟩
    have pending : asked.pending = true := by
      refine decide_eq_true ⟨accepted, kept, ?_⟩
      cases again : asked.repeatflag with
      | true => exact .inl rfl
      | false =>
        rw [AskedTimer.firesAt, again] at due
        have last : asked.ticks + 1 = asked.period := of_decide_eq_true due
        exact .inr (by omega)
    exact ⟨some asked, (lists asked).mpr ⟨same, pending⟩, rfl, due⟩

theorem proc_pushes {held : Option (AskedTimer Task)} {timer : MultiTimer Task}
    (holds : Holds held timer) :
    timer.proc.2 = (held.toList.filter fun asked => asked.firesAt (asked.ticks + 1)).map
      fun asked => some asked.task := by
  cases held with
  | none => exact congrArg Prod.snd (proc_unused holds)
  | some asked =>
    have keeps : timer.Keeps asked := holds
    have fires := AskedTimer.firesAt_pending keeps.pending
    by_cases due : asked.period ∣ asked.ticks + 1
    · rw [proc_due keeps due]
      simp [fires, due]
    · obtain ⟨elapse, ran, _⟩ := proc_early keeps due
      rw [ran]
      simp [fires, due]

theorem fired_ids {held : Option (AskedTimer Task)} {timer : MultiTimer Task}
    (holds : Holds held timer) :
    ((held.toList.filter fun asked => asked.firesAt (asked.ticks + 1)).map
      AskedTimer.timerid).Sublist [timer.timerid] := by
  cases held with
  | none => exact List.nil_sublist _
  | some asked =>
    have keeps : timer.Keeps asked := holds
    rw [keeps.timerid]
    exact List.filter_sublist.map AskedTimer.timerid

end Schedule

theorem scheduled_part {first second : List (TimerCall Task)}
    (few : (initial : TimerPool Task).created (first ++ second) < 2 ^ 31 - 16) :
    Scheduled first (afterAll first) := by
  have count := created_append initial first second
  exact scheduled_run first (by omega)

theorem created_asked (asked : AskedTimer Task)
    (makes : (afterAll asked.before).creates
      (.queueTimerTask (some asked.task) asked.delaysec asked.repeatflag) = true) :
    (initial : TimerPool Task).created asked.before + 1 ≤ initial.created asked.calls := by
  rw [AskedTimer.calls, created_append, created, ← afterAll, makes, Bool.toNat_true]
  omega

theorem timerid_accepted {asked : AskedTimer Task}
    (few : (initial : TimerPool Task).created asked.calls < 2 ^ 31 - 16)
    (accepted : asked.timerid ≠ 0) :
    asked.timerid.toInt = 17 + (initial.created asked.before : Nat) ∧
      (afterAll asked.before).creates
        (.queueTimerTask (some asked.task) asked.delaysec asked.repeatflag) = true := by
  have scheduled := scheduled_part few
  rcases queueTimerTask_cases scheduled.running asked.task asked.delaysec asked.repeatflag with
    ⟨_, _, refused⟩ | ⟨makes, _, _, _, _, taken⟩
  · exact absurd (congrArg Prod.fst refused) accepted
  · refine ⟨?_, makes⟩
    have total := created_asked asked makes
    have own : asked.timerid = (afterAll asked.before).timerCounter + 1 := congrArg Prod.fst taken
    have reached := scheduled.counter
    rw [own, toInt_succ (by omega), reached]
    omega

theorem eq_of_before {one two : AskedTimer Task} (same : one.calls = two.calls)
    (before : one.before = two.before) : one = two := by
  obtain ⟨_, _, _, _, _⟩ := one
  obtain ⟨_, _, _, _, _⟩ := two
  obtain rfl := before
  cases List.append_cancel_left same
  rfl

theorem created_earlier {one two : AskedTimer Task} (same : one.calls = two.calls)
    (earlier : one.before.length < two.before.length)
    (makes : (afterAll one.before).creates
      (.queueTimerTask (some one.task) one.delaysec one.repeatflag) = true) :
    (initial : TimerPool Task).created one.before < initial.created two.before := by
  have first : one.before ++ [.queueTimerTask (some one.task) one.delaysec one.repeatflag] <+:
      one.calls := ⟨one.since, by rw [List.append_assoc]; rfl⟩
  have second : two.before <+: one.calls := ⟨_, same.symm⟩
  obtain ⟨rest, whole⟩ := List.prefix_of_prefix_length_le first second (by
    rw [List.length_append]
    exact earlier)
  rw [← whole, created_append, created_concat, makes, Bool.toNat_true]
  omega

end TimerPool

theorem timers_on_schedule {Task : Type} (calls : List (TimerCall Task))
    (few : (TimerPool.initial : TimerPool Task).created calls < 2 ^ 31 - 16) : OnSchedule calls := by
  constructor
  case fires =>
    rintro earlier later rfl
    have scheduled := TimerPool.scheduled_part few
    obtain ⟨held, holds, lists⟩ := scheduled.held
    refine ⟨_, ?_, TimerPool.mem_fired lists, ?_⟩
    · have ids := Slots.flatMap_sublist holds fun _ _ holds => TimerPool.fired_ids holds
      rw [← List.map_flatMap] at ids
      exact (scheduled.ids.sublist ids).of_map
    · rw [TimerPool.timerProc, if_neg (by simp [scheduled.terminateall]), List.map_flatMap]
      exact Slots.flatMap_related holds fun _ _ holds => TimerPool.proc_pushes holds
  case apart =>
    rintro one two rfl together sameId accepted
    have few' : (TimerPool.initial : TimerPool Task).created two.calls < 2 ^ 31 - 16 :=
      together ▸ few
    obtain ⟨ofOne, madeOne⟩ := TimerPool.timerid_accepted few accepted
    obtain ⟨ofTwo, madeTwo⟩ := TimerPool.timerid_accepted few' (sameId ▸ accepted)
    rw [sameId] at ofOne
    rcases Nat.lt_trichotomy one.before.length two.before.length with less | equal | more
    · have further := TimerPool.created_earlier together.symm less madeOne
      omega
    · exact TimerPool.eq_of_before together.symm (List.append_inj together.symm equal).1
    · have further := TimerPool.created_earlier together more madeTwo
      omega
  case refused =>
    rintro asked rfl
    have scheduled := TimerPool.scheduled_part few
    rcases TimerPool.queueTimerTask_cases scheduled.running asked.task asked.delaysec
      asked.repeatflag with ⟨_, all, refused⟩ | ⟨makes, index, slot, there, unused, taken⟩
    · exact ⟨iff_of_true (congrArg Prod.fst refused) all, fun _ => congrArg Prod.snd refused⟩
    · have accepted : asked.timerid ≠ 0 := by
        have total := TimerPool.created_asked asked makes
        have reached := scheduled.counter
        have own : asked.timerid = (TimerPool.afterAll asked.before).timerCounter + 1 :=
          congrArg Prod.fst taken
        intro zero
        have value : _ = (0 : Int) := congrArg Int32.toInt (own.symm.trans zero)
        rw [toInt_succ (by omega)] at value
        omega
      refine ⟨iff_of_false accepted fun all => ?_, fun zero => absurd zero accepted⟩
      cases unused.symm.trans (all slot (List.mem_of_getElem? there))

-- A timer that is deleted, and two that fire again and again.
theorem timers_on_schedule_three : OnSchedule
    [.queueTimerTask (some 1) 2 true, .queueTimerTask (some 2) 3 false,
      .queueTimerTask (some 3) (-4) true, .tick, .tick, .deletetimerbyid 18, .tick] :=
  timers_on_schedule _ (by decide)

end MessageBus.Threads
