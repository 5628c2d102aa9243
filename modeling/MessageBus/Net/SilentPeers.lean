import MessageBus.Net.ReadySocks

set_option autoImplicit false

namespace MessageBus.Net

-- What was last heard of the peer or sent to it is counted in, or is still to be.
structure SockTimer.Timed (clock : Int) (timer : SockTimer) : Prop where
  past : timer.active ≤ clock
  needed : timer.isTimeoutNeed = true → 0 < timer.timeoutRenew ∧
    (timer.needRenewTimeout = true ∨ timer.active + timer.timeoutRenew ≤ timer.timeoutMs)

def SockTimer.isDue (timer : SockTimer) (now : Int) : Bool :=
  timer.isTimeoutNeed && !timer.needRenewTimeout && decide (timer.timeoutMs < now)

namespace SockTimer

variable {clock now : Int} {timer : SockTimer}

theorem created_timed (started : 0 ≤ clock) (needRenewTimeout : Bool) (timeoutRenew : Int) :
    Timed clock (created needRenewTimeout timeoutRenew) :=
  ⟨started, fun needed => (Bool.false_ne_true needed).elim⟩

theorem Timed.later (timed : Timed clock timer) (later : clock ≤ now) : Timed now timer :=
  { timed with past := timed.past.trans later }

theorem Timed.setTimeout (timed : Timed now timer) (toMs : Int) :
    Timed now (timer.setTimeout toMs now) := by
  unfold SockTimer.setTimeout
  split
  next => exact ⟨timed.past, fun needed => (Bool.false_ne_true needed).elim⟩
  next positive => exact ⟨le_rfl, fun _ => ⟨Int.not_le.mp positive, .inr le_rfl⟩⟩

theorem Timed.sent (timed : Timed clock timer) (now : Int) : Timed now (timer.sent now) :=
  ⟨le_rfl, fun needed => ⟨(timed.needed needed).1, .inl rfl⟩⟩

-- A last send is not counted in.
theorem Timed.doSend {sock : WaitSock} (timed : Timed now sock.timer) (emptied onSend : Bool) :
    Timed now (sock.doSend emptied onSend now).timer := by
  unfold WaitSock.doSend
  dsimp only
  split
  next => exact timed
  next => exact timed.sent now

theorem Timed.reported (timed : Timed clock timer) (now : Int) :
    Timed now (timer.reported now) := by
  unfold SockTimer.reported renewTimeout
  split
  next needed => exact ⟨le_rfl, fun _ => ⟨(timed.needed needed).1, .inr le_rfl⟩⟩
  next idle => exact ⟨le_rfl, fun needed => absurd needed idle⟩

theorem Timed.renewTimeout (timed : Timed clock timer) :
    Timed clock (timer.renewTimeout clock) := by
  unfold SockTimer.renewTimeout
  split
  next needed =>
    have counted := Int.add_le_add_right timed.past timer.timeoutRenew
    exact ⟨timed.past, fun _ => ⟨(timed.needed needed).1, .inr counted⟩⟩
  next => exact timed

theorem updateTimeout_called (timed : Timed clock timer) (onTimeout : Bool) :
    (timer.updateTimeout clock onTimeout).2 = (onTimeout && timer.isDue clock) := by
  cases needed : timer.isTimeoutNeed with
  | false => simp [updateTimeout, isDue, needed]
  | true =>
    have positive := (timed.needed needed).1
    cases renews : timer.needRenewTimeout with
    | true =>
      have early : ¬ clock > clock + timer.timeoutRenew := by omega
      simp [updateTimeout, isDue, SockTimer.renewTimeout, needed, renews, early]
    | false =>
      by_cases passed : timer.timeoutMs < clock
      · cases onTimeout <;> simp [updateTimeout, isDue, needed, renews, passed]
      · simp [updateTimeout, isDue, needed, renews, passed]

theorem Timed.updateTimeout (timed : Timed clock timer) (onTimeout : Bool) :
    Timed clock (timer.updateTimeout clock onTimeout).1 := by
  have counted : Timed clock
      (if timer.needRenewTimeout = true then timer.renewTimeout clock else timer) := by
    split
    next => exact timed.renewTimeout
    next => exact timed
  unfold SockTimer.updateTimeout
  split
  next =>
    dsimp only
    revert counted
    generalize (if timer.needRenewTimeout = true then timer.renewTimeout clock else timer) = counter
    intro counted
    split
    next =>
      split
      next => exact counted.renewTimeout
      next =>
        exact ⟨counted.renewTimeout.past, fun needed => (Bool.false_ne_true needed).elim⟩
    next => exact counted
  next => exact timed

theorem Timed.silent (timed : Timed clock timer) (due : timer.isDue clock = true) :
    0 < timer.timeoutRenew ∧ timer.active + timer.timeoutRenew < clock := by
  simp only [isDue, Bool.and_eq_true, Bool.not_eq_true', decide_eq_true_eq] at due
  obtain ⟨⟨needed, counted⟩, passed⟩ := due
  obtain ⟨positive, within⟩ := timed.needed needed
  have limit := within.resolve_left (by simp [counted])
  exact ⟨positive, Int.lt_of_le_of_lt limit passed⟩

end SockTimer

-- The peer was silent, and nothing was sent to it but for a last send, for longer than the timeout.
def TimeoutCall.Silent (call : TimeoutCall) : Prop :=
  0 < call.timeoutRenew ∧ call.active + call.timeoutRenew < call.now

namespace SockWaiter

variable {Fds Report : Type} {update : Fds -> Nat -> SockEvent -> Option Fds}
  {watching : Watching update} {stale : Nat -> Prop} {waiter following : SockWaiter Fds}
  {index : Nat} {sock : WaitSock} {closes : Nat -> Bool}

structure Timely (waiter : SockWaiter Fds) : Prop where
  started : 0 ≤ waiter.clock
  timers : ∀ sock ∈ waiter.socks, sock.timer.Timed waiter.clock
  silent : ∀ call ∈ waiter.timeouts, call.Silent

theorem Timely.at? {now : Int} (timely : Timely waiter) (taken : waiter.at? now = some following) :
    Timely following ∧ following = { waiter with clock := now } := by
  have same := at?_some taken
  subst same
  unfold SockWaiter.at? at taken
  split at taken
  next later =>
    have timers : ∀ sock ∈ waiter.socks, sock.timer.Timed now := fun sock member =>
      (timely.timers sock member).later later
    exact ⟨⟨timely.started.trans later, timers, timely.silent⟩, rfl⟩
  next => cases taken

theorem Timely.setSock (timely : Timely waiter) {changed : WaitSock}
    (timed : changed.timer.Timed waiter.clock) : Timely (waiter.setSock index changed) := by
  refine { timely with timers := fun sock member => ?_ }
  rcases List.mem_or_eq_of_mem_set member with older | rfl
  · exact timely.timers sock older
  · exact timed

structure Untimed (waiter following : SockWaiter Fds) : Prop where
  clock : following.clock = waiter.clock
  timeouts : following.timeouts = waiter.timeouts
  timers : ∀ sock ∈ following.socks, ∃ before ∈ waiter.socks, sock.timer = before.timer ∨
    sock.timer = { before.timer with isTimeoutNeed := false }

theorem Untimed.timely (untimed : Untimed waiter following) (timely : Timely waiter) :
    Timely following := by
  refine ⟨untimed.clock ▸ timely.started, fun sock member => ?_, ?_⟩
  · obtain ⟨before, older, same | off⟩ := untimed.timers sock member
    · rw [same, untimed.clock]
      exact timely.timers before older
    · rw [off, untimed.clock]
      exact ⟨(timely.timers before older).past, fun needed => (Bool.false_ne_true needed).elim⟩
  · rw [untimed.timeouts]
    exact timely.silent

theorem Untimed.trans {later : SockWaiter Fds} (first : Untimed waiter following)
    (second : Untimed following later) : Untimed waiter later := by
  refine ⟨second.clock.trans first.clock, second.timeouts.trans first.timeouts, ?_⟩
  intro sock member
  obtain ⟨between, inside, change⟩ := second.timers sock member
  obtain ⟨before, older, earlier⟩ := first.timers between inside
  refine ⟨before, older, ?_⟩
  rcases change with same | off <;> rcases earlier with before | before <;>
    simp [*]

theorem setSock_untimed {changed : WaitSock} (there : waiter.socks[index]? = some sock)
    (timer : changed.timer = sock.timer ∨
      changed.timer = { sock.timer with isTimeoutNeed := false }) :
    Untimed waiter (waiter.setSock index changed) := by
  refine ⟨rfl, rfl, fun now member => ?_⟩
  rcases List.mem_or_eq_of_mem_set member with older | rfl
  · exact ⟨now, older, .inl rfl⟩
  · exact ⟨sock, List.mem_of_getElem? there, timer⟩

theorem untimed_refl : Untimed waiter waiter :=
  ⟨rfl, rfl, fun sock member => ⟨sock, member, .inl rfl⟩⟩

theorem removeTcpSock_untimed (there : waiter.socks[index]? = some sock)
    (taken : removeTcpSock update waiter index sock = some following) :
    Untimed waiter following ∧
      following.socks = waiter.socks.set index { sock with caredev := .noEvent } := by
  obtain ⟨removed, updates, rfl⟩ := Option.map_eq_some_iff.mp taken
  obtain ⟨fds, rfl⟩ := updateTcpSockEvent_frame updates
  have same : Untimed waiter (waiter.setSock index { sock with caredev := .noEvent }) :=
    setSock_untimed there (.inl rfl)
  exact ⟨⟨same.clock, same.timeouts, same.timers⟩, rfl⟩

theorem closeInLoop_untimed (taken : closeInLoop update waiter index = some following) :
    Untimed waiter following := by
  simp only [closeInLoop, Option.bind_eq_some_iff] at taken
  obtain ⟨sock, there, taken⟩ := taken
  split at taken
  next => exact Option.some.inj taken ▸ untimed_refl
  next =>
    split at taken
    next =>
      obtain ⟨removed, updates, rfl⟩ := Option.map_eq_some_iff.mp taken
      obtain ⟨untimed, socks⟩ := removeTcpSock_untimed there updates
      have thereNow : removed.socks[index]? = some { sock with caredev := .noEvent } := by
        rw [socks, List.getElem?_set_self (List.getElem?_eq_some_iff.mp there).1]
      exact untimed.trans (setSock_untimed thereNow (.inr rfl))
    next => exact Option.some.inj taken ▸ setSock_untimed there (.inr rfl)

theorem updateTcpSockInLoop_untimed
    (taken : updateTcpSockInLoop update waiter index = some following) :
    Untimed waiter following := by
  simp only [updateTcpSockInLoop, Option.bind_eq_some_iff] at taken
  obtain ⟨sock, there, next, updates, taken⟩ := taken
  obtain ⟨fds, rfl⟩ := updateTcpSockEvent_frame updates
  have same : Untimed waiter { waiter with fds } :=
    ⟨rfl, rfl, fun sock member => ⟨sock, member, .inl rfl⟩⟩
  split at taken
  next =>
    rw [insert_frame taken]
    exact ⟨rfl, rfl, same.timers⟩
  next =>
    have thereNow : ({ waiter with fds } : SockWaiter Fds).socks[index]? = some sock := there
    exact same.trans (removeTcpSock_untimed thereNow taken).1

theorem careFor_untimed {caredev : SockEvent} {inLoopThread : Bool} {added : WaitSock}
    (there : waiter.socks[index]? = some sock)
    (taken : careFor update waiter index added caredev inLoopThread = some following)
    (timer : added.timer = sock.timer) : Untimed waiter following := by
  have cared : Untimed waiter (waiter.setSock index { added with caredev }) :=
    setSock_untimed there (.inl timer)
  cases inLoopThread with
  | true => exact cared.trans (updateTcpSockInLoop_untimed taken)
  | false => exact Option.some.inj taken ▸ ⟨cared.clock, cared.timeouts, cared.timers⟩

theorem changeCared_untimed {skips : SockEvent -> Bool} {change : SockEvent -> SockEvent}
    {inLoopThread : Bool}
    (taken : changeCared update skips change waiter index inLoopThread = some following) :
    Untimed waiter following := by
  obtain ⟨sock, there, taken⟩ := Option.bind_eq_some_iff.mp taken
  split at taken
  next => exact Option.some.inj taken ▸ untimed_refl
  next =>
    split at taken
    next => exact careFor_untimed there taken rfl
    next => cases taken

theorem disAllowSend_untimed {outbufEmpty inLoopThread : Bool}
    (taken : disAllowSend update waiter index outbufEmpty inLoopThread = some following) :
    Untimed waiter following := by
  obtain ⟨sock, there, taken⟩ := Option.bind_eq_some_iff.mp taken
  have disallowed : Untimed waiter (waiter.setSock index { sock with allowMoreSend := false }) :=
    setSock_untimed there (.inl rfl)
  dsimp only at taken
  split at taken
  next => exact Option.some.inj taken ▸ disallowed
  next =>
    split at taken
    next => exact disallowed.trans (changeCared_untimed taken)
    next => exact Option.some.inj taken ▸ ⟨disallowed.clock, disallowed.timeouts, disallowed.timers⟩

theorem report_timely (timely : Timely waiter) (there : waiter.socks[index]? = some sock)
    (sockev : SockEvent) : Timely (waiter.report index sock sockev) ∧
      (waiter.report index sock sockev).clock = waiter.clock ∧
        (waiter.report index sock sockev).timeouts = waiter.timeouts := by
  have timed := timely.timers sock (List.mem_of_getElem? there)
  unfold report
  split
  next =>
    have reported : Timely (waiter.setSock index
        { sock with sockev, timer := sock.timer.reported waiter.clock }) :=
      timely.setSock (timed.reported waiter.clock)
    exact ⟨{ reported with }, rfl, rfl⟩
  next => exact ⟨timely.setSock timed, rfl, rfl⟩

structure Visited (waiter following : SockWaiter Fds) (index : Nat) (due : Bool) : Prop where
  timely : Timely following
  clock : following.clock = waiter.clock
  others : ∀ other, other ≠ index → following.socks[other]? = waiter.socks[other]?
  calls : following.timeouts.map TimeoutCall.sock =
    waiter.timeouts.map TimeoutCall.sock ++ if due then [index] else []

theorem updateTimeout_visited (timely : Timely waiter) (there : waiter.socks[index]? = some sock)
    (taken : updateTimeout update closes waiter index = some following) :
    Visited waiter following index (sock.onTimeout && sock.timer.isDue waiter.clock) := by
  have timed := timely.timers sock (List.mem_of_getElem? there)
  obtain ⟨changed, socks, _⟩ := (updateTimeout_ownSock there taken).own
  have others (other : Nat) (different : other ≠ index) :
      following.socks[other]? = waiter.socks[other]? := by
    rw [socks, List.getElem?_set_ne different.symm]
  have updated : Timely (waiter.setSock index
      { sock with timer := (sock.timer.updateTimeout waiter.clock sock.onTimeout).1 }) :=
    timely.setSock (timed.updateTimeout sock.onTimeout)
  simp only [updateTimeout, there, Option.bind_some] at taken
  rw [SockTimer.updateTimeout_called timed] at taken
  split at taken
  next due =>
    have silent := timed.silent (Bool.and_eq_true_iff.mp due).2
    have logged : Timely { waiter.setSock index
        { sock with timer := (sock.timer.updateTimeout waiter.clock sock.onTimeout).1 } with
        timeouts := waiter.timeouts ++ [{
          sock := index, now := waiter.clock, active := sock.timer.active
          timeoutRenew := sock.timer.timeoutRenew }] } := by
      refine { updated with silent := fun call member => ?_ }
      rcases List.mem_append.mp member with older | newer
      · exact timely.silent call older
      · rw [List.mem_singleton.mp newer]
        exact silent
    rw [due]
    split at taken
    next =>
      have untimed := closeInLoop_untimed taken
      refine ⟨untimed.timely logged, untimed.clock, others, ?_⟩
      rw [untimed.timeouts]
      exact List.map_append
    next =>
      obtain rfl := Option.some.inj taken
      exact ⟨logged, rfl, others, List.map_append⟩
  next calm =>
    obtain rfl := Option.some.inj taken
    rw [Bool.eq_false_iff.mpr calm]
    exact ⟨updated, rfl, others, (List.append_nil _).symm⟩

variable {visit : SockWaiter Fds -> Int × Nat -> Option (SockWaiter Fds)} {due : WaitSock -> Bool}

-- The socks whose onTimeout is called by a loop over m_waiting_tcpsocks, which goes by the keys.
def dueSocks (due : WaitSock -> Bool) (waiter : SockWaiter Fds) : List Nat :=
  (waiter.waitingTcpsocks.toList.map Prod.snd).filter fun index => (waiter.socks[index]?).any due

theorem calls_in_turn {after : SockWaiter Fds} (registered : Registered watching stale waiter)
    (timely : Timely waiter)
    (visits : ∀ (state next : SockWaiter Fds) (entry : Int × Nat) (sock : WaitSock),
      Timely state → state.clock = waiter.clock → state.socks[entry.2]? = some sock →
        visit state entry = some next → Visited state next entry.2 (due sock))
    (ran : waiter.waitingTcpsocks.toList.foldlM visit waiter = some after) :
    Timely after ∧ after.timeouts.map TimeoutCall.sock =
      waiter.timeouts.map TimeoutCall.sock ++ dueSocks due waiter := by
  have apart := registered.entries_apart
  obtain ⟨_, timelyAfter, _, _, calls⟩ := foldlM_ran
    (fun before rest (state : SockWaiter Fds) =>
      before ++ rest = waiter.waitingTcpsocks.toList ∧ Timely state ∧
        state.clock = waiter.clock ∧
        (∀ entry ∈ rest, state.socks[entry.2]? = waiter.socks[entry.2]?) ∧
        state.timeouts.map TimeoutCall.sock = waiter.timeouts.map TimeoutCall.sock ++
          (before.map Prod.snd).filter fun index => (waiter.socks[index]?).any due)
    (by
      intro before entry rest state next holds taken
      obtain ⟨whole, timelyState, clock, same, calls⟩ := holds
      have member : entry ∈ waiter.waitingTcpsocks.toList := by simp [← whole]
      obtain ⟨sock, there, _⟩ := registered.waits entry.1 entry.2
        (Std.ExtTreeMap.mem_toList_iff_getElem?_eq_some.mp member)
      have thereNow := (same entry (List.mem_cons_self ..)).trans there
      have visited := visits state next entry sock timelyState clock thereNow taken
      refine ⟨by rw [List.append_assoc]; exact whole, visited.timely, visited.clock.trans clock,
        fun other inside => ?_, ?_⟩
      · rw [← whole, List.map_append, List.map_cons, List.nodup_append] at apart
        have once := (List.nodup_cons.mp apart.2.1).1
        refine (visited.others other.2 fun equal => once ?_).trans
          (same other (List.mem_cons_of_mem _ inside))
        exact List.mem_map.mpr ⟨other, inside, equal⟩
      · rw [visited.calls, calls, List.append_assoc, List.map_append, List.filter_append]
        cases isDue : due sock <;> simp [there, isDue])
    [] waiter.waitingTcpsocks.toList
    ⟨rfl, timely, rfl, fun _ _ => rfl, (List.append_nil _).symm⟩ ran
  exact ⟨timelyAfter, calls⟩

structure Punctual (kind : WaiterKind Fds Report) (watching : Watching kind.updateTcpSockEvent)
    (due : Option Report -> Int -> Fds -> WaitSock -> Bool) : Prop where
  calls : ∀ {stale : Nat -> Prop} {waiter following : SockWaiter Fds} {report : Option Report}
    {closes : Nat -> Bool}, Registered watching stale waiter → Timely waiter →
      kind.handle waiter report closes = some following →
        Timely following ∧ following.timeouts.map TimeoutCall.sock =
          waiter.timeouts.map TimeoutCall.sock ++
            dueSocks (due report waiter.clock waiter.fds) waiter

end SockWaiter

namespace EpollWaiter

open SockWaiter

-- A sock may be due and ready; after an error of epoll_wait none is due.
def due (report : Option Report) (now : Int) (_ : Epfd) (sock : WaitSock) : Bool :=
  report.isSome && (sock.onTimeout && sock.timer.isDue now)

theorem punctual : Punctual kind watching due where
  calls := by
    intro stale waiter following report closes registered timely handled
    cases report with
    | none =>
      obtain rfl := Option.some.inj handled
      refine ⟨timely, ?_⟩
      have never : due none waiter.clock waiter.fds = fun _ => false := funext fun _ => rfl
      simp [dueSocks, never]
    | some events =>
      obtain ⟨timed, timing, handling⟩ := Option.bind_eq_some_iff.mp handled
      have called : Timely timed ∧ timed.timeouts.map TimeoutCall.sock =
          waiter.timeouts.map TimeoutCall.sock ++
            dueSocks (due (some events) waiter.clock waiter.fds) waiter :=
        calls_in_turn registered timely
          (fun state next entry sock timelyState clock there taken => by
            have visited := updateTimeout_visited timelyState there taken
            rw [clock] at visited
            exact visited) timing
      refine foldlM_keeps
        (fun state => Timely state ∧ state.timeouts.map TimeoutCall.sock =
          waiter.timeouts.map TimeoutCall.sock ++
            dueSocks (due (some events) waiter.clock waiter.fds) waiter)
        (fun state entry next kept taken => ?_) called handling
      obtain ⟨index, sock, _, there, _, rfl⟩ := handleReady_some taken
      obtain ⟨timelyNext, _, timeouts⟩ := report_timely kept.1 there (eventOf entry.2)
      exact ⟨timelyNext, by rw [timeouts]; exact kept.2⟩

end EpollWaiter

namespace SelectWaiter

open SockWaiter

-- A sock that is ready is not due.
def due (report : Option FdSets) (now : Int) (fds : Fds) (sock : WaitSock) : Bool :=
  !(eventOf (report.getD fds.sets) sock.fd).hasAny && (sock.onTimeout && sock.timer.isDue now)

theorem punctual : Punctual kind watching due where
  calls := by
    intro stale waiter following report closes registered timely handled
    refine calls_in_turn registered timely
      (fun state next entry sock timelyState clock there taken => ?_) handled
    rw [handleSock, there, Option.bind_some] at taken
    have reported := report_timely timelyState there
      (eventOf (report.getD waiter.fds.sets) sock.fd)
    obtain ⟨changed, socks, _⟩ := report_socks state entry.2 sock
      (eventOf (report.getD waiter.fds.sets) sock.fd)
    have others (other : Nat) (different : other ≠ entry.2) :
        (state.report entry.2 sock (eventOf (report.getD waiter.fds.sets) sock.fd)).socks[other]? =
          state.socks[other]? := by
      rw [socks, List.getElem?_set_ne different.symm]
    split at taken
    next => cases taken
    next =>
      dsimp only at taken
      rw [due]
      split at taken
      next any =>
        obtain rfl := Option.some.inj taken
        rw [any]
        refine ⟨reported.1, reported.2.1, others, ?_⟩
        rw [reported.2.2]
        exact (List.append_nil _).symm
      next quiet =>
        have sameReport : state.report entry.2 sock
            (eventOf (report.getD waiter.fds.sets) sock.fd) = state.setSock entry.2
              { sock with sockev := eventOf (report.getD waiter.fds.sets) sock.fd } := by
          rw [SockWaiter.report, if_neg quiet]
        rw [sameReport] at taken reported others
        have thereNow := List.getElem?_set_self (List.getElem?_eq_some_iff.mp there).1
          (a := { sock with sockev := eventOf (report.getD waiter.fds.sets) sock.fd })
        have visited := updateTimeout_visited reported.1 thereNow taken
        rw [reported.2.1, clock] at visited
        refine ⟨visited.timely, visited.clock.trans reported.2.1, fun other different =>
          (visited.others other different).trans (others other different), ?_⟩
        rw [visited.calls, reported.2.2, Bool.eq_false_iff.mpr quiet]
        rfl

end SelectWaiter

namespace SockWaiter

variable {Fds Report : Type} {kind : WaiterKind Fds Report}
  {watching : Watching kind.updateTcpSockEvent} {stale : Nat -> Prop}
  {waiter following : SockWaiter Fds} {due : Option Report -> Int -> Fds -> WaitSock -> Bool}

theorem initial_timely : Timely (initial kind) := by
  constructor <;> simp [initial]

theorem dueSocks_cleared (registered : Registered watching stale waiter)
    (due : WaitSock -> Bool) :
    dueSocks due (if waiter.removed then waiter.clearClosedTcpSock else waiter) =
      dueSocks (fun sock => !sock.isClosed && due sock) waiter := by
  cases removed : waiter.removed with
  | true =>
    rw [if_pos rfl, dueSocks, dueSocks, clearClosedTcpSock, Std.ExtTreeMap.toList_filter,
      List.filter_map, List.filter_map, List.filter_filter]
    congr 1
    refine List.filter_congr fun entry _ => ?_
    dsimp only [Function.comp_apply]
    cases waiter.socks[entry.2]? <;> simp [Bool.and_comm]
  | false =>
    rw [if_neg Bool.false_ne_true]
    refine List.filter_congr fun index member => ?_
    obtain ⟨entry, inside, rfl⟩ := List.mem_map.mp member
    have waiting := Std.ExtTreeMap.mem_toList_iff_getElem?_eq_some.mp inside
    obtain ⟨sock, there, _⟩ := registered.waits entry.1 entry.2 waiting
    have isOpen := registered.flagged removed entry.1 entry.2 sock waiting there
    simp [there, isOpen]

theorem cleared_waiting (waiter : SockWaiter Fds) : ∃ waitingTcpsocks,
    (if waiter.removed then waiter.clearClosedTcpSock else waiter) =
      { waiter with waitingTcpsocks } := by
  split <;> exact ⟨_, rfl⟩

theorem wait_calls (punctual : Punctual kind watching due)
    (registered : Registered watching stale waiter) (timely : Timely waiter)
    {report : Option Report} {now : Int} {closes : Nat -> Bool}
    (taken : step kind waiter (.wait report now closes) = some following) :
    Timely following ∧ following.timeouts.map TimeoutCall.sock =
      waiter.timeouts.map TimeoutCall.sock ++
        dueSocks (fun sock => !sock.isClosed && due report now waiter.fds sock) waiter := by
  simp only [step] at taken
  split at taken
  next =>
    obtain ⟨timed, clock, handled⟩ := Option.bind_eq_some_iff.mp taken
    obtain ⟨timelyTimed, rfl⟩ := timely.at? clock
    have clocked : Registered watching stale { waiter with clock := now } := { registered with }
    obtain ⟨calmStale, calm⟩ := (wait_calm clocked).registered
    have same := dueSocks_cleared clocked (due report now waiter.fds)
    obtain ⟨waitingTcpsocks, cleared⟩ :=
      cleared_waiting ({ waiter with clock := now } : SockWaiter Fds)
    rw [cleared] at calm same
    dsimp only at handled
    rw [cleared] at handled
    have handedTimely : Timely
        { waiter with clock := now, waitingTcpsocks, removed := false, allready := ∅ } :=
      ⟨timelyTimed.started, timelyTimed.timers, timelyTimed.silent⟩
    obtain ⟨timelyFollowing, calls⟩ := punctual.calls calm handedTimely handled
    refine ⟨timelyFollowing, calls.trans ?_⟩
    exact congrArg (waiter.timeouts.map TimeoutCall.sock ++ ·) same
  next => cases taken

theorem step_timely (punctual : Punctual kind watching due) {event : Event Report}
    (registered : Registered watching stale waiter) (timely : Timely waiter)
    (taken : step kind waiter event = some following) : Timely following := by
  cases event with
  | newTcpSock fd onTimeout needRenewTimeout timeoutRenew =>
    simp only [step] at taken
    split at taken <;> cases taken
    refine { timely with timers := fun sock member => ?_ }
    rcases List.mem_append.mp member with older | newer
    · exact timely.timers sock older
    · rw [List.mem_singleton.mp newer]
      exact SockTimer.created_timed timely.started _ _
  | setTimeout index toMs now =>
    obtain ⟨timed, clock, taken⟩ := Option.bind_eq_some_iff.mp taken
    obtain ⟨timely, rfl⟩ := timely.at? clock
    obtain ⟨sock, there, rfl⟩ := Option.map_eq_some_iff.mp taken
    exact timely.setSock ((timely.timers sock (List.mem_of_getElem? there)).setTimeout toMs)
  | sent index emptied onSend now =>
    obtain ⟨timed, clock, taken⟩ := Option.bind_eq_some_iff.mp taken
    obtain ⟨timely, rfl⟩ := timely.at? clock
    obtain ⟨sock, found, rfl⟩ := Option.map_eq_some_iff.mp taken
    have there := (Option.filter_eq_some_iff.mp found).1
    exact timely.setSock ((timely.timers sock (List.mem_of_getElem? there)).doSend emptied onSend)
  | shutDownWrite index =>
    obtain ⟨sock, there, rfl⟩ := Option.map_eq_some_iff.mp taken
    split
    next => exact timely
    next => exact timely.setSock (timely.timers sock (List.mem_of_getElem? there))
  | disAllowSend index outbufEmpty inLoopThread =>
    exact (disAllowSend_untimed taken).timely timely
  | addTcpSock index inLoopThread =>
    obtain ⟨sock, found, taken⟩ := Option.bind_eq_some_iff.mp taken
    have there := (Option.filter_eq_some_iff.mp found).1
    exact (careFor_untimed there taken rfl).timely timely
  | addAndUpdateEvent index er inLoopThread | removeAndUpdateEvent index er inLoopThread =>
    simp only [step, addAndUpdateEvent, removeAndUpdateEvent] at taken
    exact (changeCared_untimed taken).timely timely
  | close index inLoopThread =>
    obtain ⟨sock, there, taken⟩ := Option.bind_eq_some_iff.mp taken
    split at taken
    next => exact Option.some.inj taken ▸ ⟨timely.started, timely.timers, timely.silent⟩
    next => exact (closeInLoop_untimed taken).timely timely
  | runTask =>
    simp only [step] at taken
    have taking (pendings : List LoopTask) : Timely { waiter with pendings } :=
      ⟨timely.started, timely.timers, timely.silent⟩
    split at taken
    next => cases taken
    next => exact (updateTcpSockInLoop_untimed taken).timely (taking _)
    next => exact (changeCared_untimed taken).timely (taking _)
    next => exact (closeInLoop_untimed taken).timely (taking _)
  | wait report now closes => exact (wait_calls punctual registered timely taken).1

structure TimesOut (kind : WaiterKind Fds Report)
    (due : Option Report -> Int -> Fds -> WaitSock -> Bool) (waiter : SockWaiter Fds) : Prop where
  silent : ∀ call ∈ waiter.timeouts, call.Silent
  calls : ∀ (report : Option Report) (now : Int) (closes : Nat -> Bool) (after : SockWaiter Fds),
    step kind waiter (.wait report now closes) = some after →
      after.timeouts.map TimeoutCall.sock = waiter.timeouts.map TimeoutCall.sock ++
        dueSocks (fun sock => !sock.isClosed && due report now waiter.fds sock) waiter

theorem reachable_timesOut (lawful : Lawful kind watching) (punctual : Punctual kind watching due)
    (reached : Transition.Reachable (step kind) (initial kind) waiter) :
    TimesOut kind due waiter := by
  obtain ⟨registered, timely⟩ := reached.invariant
    (fun waiter => Registered watching waiter.pendingUpdate waiter ∧ Timely waiter)
    ⟨initial_registered lawful, initial_timely⟩
    fun _ _ _ holds _ taken =>
      ⟨step_registered lawful holds.1 taken, step_timely punctual holds.1 holds.2 taken⟩
  exact ⟨timely.silent, fun _ _ _ _ taken => (wait_calls punctual registered timely taken).2⟩

end SockWaiter

theorem silent_peers_time_out :
    (∀ epoll : SockWaiter EpollWaiter.Epfd,
      Transition.Reachable (SockWaiter.step EpollWaiter.kind)
          (SockWaiter.initial EpollWaiter.kind) epoll →
        SockWaiter.TimesOut EpollWaiter.kind EpollWaiter.due epoll) ∧
      ∀ select : SockWaiter SelectWaiter.Fds,
        Transition.Reachable (SockWaiter.step SelectWaiter.kind)
            (SockWaiter.initial SelectWaiter.kind) select →
          SockWaiter.TimesOut SelectWaiter.kind SelectWaiter.due select :=
  ⟨fun _ => SockWaiter.reachable_timesOut EpollWaiter.lawful EpollWaiter.punctual,
    fun _ => SockWaiter.reachable_timesOut SelectWaiter.lawful SelectWaiter.punctual⟩

-- The peer is heard in time once, and then no more.
def heardOnce : List (SockWaiter.Event EpollWaiter.Report) :=
  [.newTcpSock 5 true true 0, .setTimeout 0 10 100, .addTcpSock 0 false, .runTask,
    .wait (some [(5, ⟨true, false, false, false, false⟩)]) 109 fun _ => false,
    .wait (some []) 119 fun _ => true, .wait (some []) 120 fun _ => true]

theorem silent_peers_time_out_heardOnce : ∃ epoll : SockWaiter EpollWaiter.Epfd,
    Transition.run (SockWaiter.step EpollWaiter.kind) (SockWaiter.initial EpollWaiter.kind)
        heardOnce = some epoll ∧
      epoll.timeouts = [{ sock := 0, now := 120, active := 109, timeoutRenew := 10 }] ∧
        SockWaiter.TimesOut EpollWaiter.kind EpollWaiter.due epoll :=
  ⟨_, rfl, rfl, silent_peers_time_out.1 _ (.run .start heardOnce rfl)⟩

end MessageBus.Net
