import MessageBus.Net.SockWaiters

set_option autoImplicit false

namespace MessageBus.Net

-- What the two kinds of waiter have in common: updateTcpSockEvent makes the kernel watch a
-- descriptor for the events that are cared for, and touches no other descriptor.
structure Watching {Fds : Type} (update : Fds -> Nat -> SockEvent -> Option Fds) where
  watches : Fds -> Nat -> SockEvent -> Prop
  fits : Nat -> Prop
  fitting : ∀ {fds : Fds} {fd : Nat} {soEv : SockEvent} {after : Fds},
    update fds fd soEv = some after → fits fd
  total : ∀ {fd : Nat}, fits fd → ∀ (fds : Fds) (soEv : SockEvent),
    ∃ after, update fds fd soEv = some after
  own : ∀ {fds : Fds} {fd : Nat} {soEv : SockEvent} {after : Fds},
    update fds fd soEv = some after → watches after fd soEv
  others : ∀ {fds : Fds} {fd other : Nat} {soEv otherEv : SockEvent} {after : Fds},
    update fds fd soEv = some after → other ≠ fd → watches fds other otherEv →
      watches after other otherEv

namespace SockWaiter

variable {Fds Report : Type} {update : Fds -> Nat -> SockEvent -> Option Fds}

structure Waits (fits : Nat -> Prop) (key : Int) (sock : WaitSock) : Prop where
  key : key = sock.fd
  added : sock.isClosed = true ∨ sock.evloop = true
  fits : fits sock.fd

-- The kernel watches each sock for what it cares for, besides those whose update is under way, and
-- watches nothing that is not an open sock of m_waiting_tcpsocks.
structure Registered (watching : Watching update) (stale : Nat -> Prop)
    (waiter : SockWaiter Fds) : Prop where
  apart : (waiter.socks.map WaitSock.fd).Nodup
  waits : ∀ (key : Int) (index : Nat), waiter.waitingTcpsocks[key]? = some index →
    ∃ sock, waiter.socks[index]? = some sock ∧ Waits watching.fits key sock
  flagged : waiter.removed = false → ∀ (key : Int) (index : Nat) (sock : WaitSock),
    waiter.waitingTcpsocks[key]? = some index → waiter.socks[index]? = some sock →
      sock.isClosed = false
  shut : ∀ sock ∈ waiter.socks, sock.isClosed = true → sock.evloop = false
  idle : ∀ sock ∈ waiter.socks, sock.isClosed = true ∨ sock.evloop = false →
    sock.caredev = .noEvent
  watched : ∀ fd, watching.watches waiter.fds fd .noEvent ∨ ∃ (index : Nat) (sock : WaitSock),
    waiter.waitingTcpsocks[(fd : Int)]? = some index ∧ waiter.socks[index]? = some sock ∧
      sock.fd = fd ∧ sock.isClosed = false ∧ sock.evloop = true
  cared : ∀ (index : Nat) (sock : WaitSock), waiter.socks[index]? = some sock → ¬ stale index →
    sock.isClosed = false → watching.watches waiter.fds sock.fd sock.caredev

variable {watching : Watching update} {stale : Nat -> Prop} {waiter following : SockWaiter Fds}
  {index : Nat} {sock : WaitSock}

structure Frame (waiter following : SockWaiter Fds) : Prop where
  waitingTcpsocks : following.waitingTcpsocks = waiter.waitingTcpsocks
  pendings : following.pendings = waiter.pendings
  allready : following.allready = waiter.allready
  clock : following.clock = waiter.clock

theorem updateTcpSockEvent_frame (taken : updateTcpSockEvent update waiter sock = some following) :
    ∃ fds, following = { waiter with fds } := by
  rw [updateTcpSockEvent] at taken
  split at taken
  next => cases taken
  next =>
    obtain ⟨fds, _, rfl⟩ := Option.map_eq_some_iff.mp taken
    exact ⟨fds, rfl⟩

theorem insert_frame {sock : WaitSock} {fds : Fds}
    (taken : (if (waiter.waitingTcpsocks[sock.getFD]?).all fun waiting =>
        (waiter.socks[waiting]?).any fun other => other.getFD == sock.getFD then
      some { waiter with fds, waitingTcpsocks := waiter.waitingTcpsocks.insert sock.getFD index }
      else none) = some following) : following =
        { waiter with fds, waitingTcpsocks := waiter.waitingTcpsocks.insert sock.getFD index } := by
  split at taken
  next => exact (Option.some.inj taken).symm
  next => cases taken

theorem removeTcpSock_frame (taken : removeTcpSock update waiter index sock = some following) :
    Frame waiter following := by
  obtain ⟨removed, updates, rfl⟩ := Option.map_eq_some_iff.mp taken
  obtain ⟨fds, rfl⟩ := updateTcpSockEvent_frame updates
  exact ⟨rfl, rfl, rfl, rfl⟩

theorem closeInLoop_frame (taken : closeInLoop update waiter index = some following) :
    Frame waiter following := by
  simp only [closeInLoop, Option.bind_eq_some_iff] at taken
  obtain ⟨sock, _, taken⟩ := taken
  split at taken
  next => exact Option.some.inj taken ▸ ⟨rfl, rfl, rfl, rfl⟩
  next =>
    split at taken
    next =>
      obtain ⟨removed, updates, rfl⟩ := Option.map_eq_some_iff.mp taken
      obtain ⟨waiting, pendings, allready, clock⟩ := removeTcpSock_frame updates
      exact ⟨waiting, pendings, allready, clock⟩
    next => exact Option.some.inj taken ▸ ⟨rfl, rfl, rfl, rfl⟩

theorem updateTcpSockInLoop_pendings
    (taken : updateTcpSockInLoop update waiter index = some following) :
    following.pendings = waiter.pendings := by
  simp only [updateTcpSockInLoop, Option.bind_eq_some_iff] at taken
  obtain ⟨sock, _, next, updates, taken⟩ := taken
  obtain ⟨fds, rfl⟩ := updateTcpSockEvent_frame updates
  split at taken
  next => rw [insert_frame taken]
  next => exact (removeTcpSock_frame taken).pendings

theorem Registered.setSock {changed : WaitSock} (registered : Registered watching stale waiter)
    (there : waiter.socks[index]? = some sock) (sameFd : changed.fd = sock.fd)
    (sameClosed : changed.isClosed = sock.isClosed) (sameLoop : changed.evloop = sock.evloop)
    (sameCared : changed.caredev = sock.caredev) :
    Registered watching stale (waiter.setSock index changed) := by
  have found {other : Nat} {now : WaitSock}
      (thereNow : (waiter.socks.set index changed)[other]? = some now) :
      ∃ before, waiter.socks[other]? = some before ∧ now.fd = before.fd ∧
        now.isClosed = before.isClosed ∧ now.evloop = before.evloop ∧
          now.caredev = before.caredev := by
    rcases Transition.found_in_set thereNow with ⟨rfl, rfl⟩ | ⟨_, older⟩
    · exact ⟨sock, there, sameFd, sameClosed, sameLoop, sameCared⟩
    · exact ⟨now, older, rfl, rfl, rfl, rfl⟩
  have kept {other : Nat} {before : WaitSock} (thereBefore : waiter.socks[other]? = some before) :
      ∃ now, (waiter.socks.set index changed)[other]? = some now ∧ now.fd = before.fd ∧
        now.isClosed = before.isClosed ∧ now.evloop = before.evloop := by
    by_cases same : index = other
    · subst same
      cases there.symm.trans thereBefore
      exact ⟨changed, List.getElem?_set_self (List.getElem?_eq_some_iff.mp there).1, sameFd,
        sameClosed, sameLoop⟩
    · exact ⟨before, (List.getElem?_set_ne same).trans thereBefore, rfl, rfl, rfl⟩
  constructor
  case apart =>
    rw [SockWaiter.setSock, Transition.map_set_same there sameFd]
    exact registered.apart
  case waits =>
    intro key other waiting
    obtain ⟨before, thereBefore, waits⟩ := registered.waits key other waiting
    obtain ⟨now, thereNow, fd, closed, loop⟩ := kept thereBefore
    exact ⟨now, thereNow, fd ▸ waits.key, by rw [closed, loop]; exact waits.added, fd ▸ waits.fits⟩
  case flagged =>
    intro calm key other now waiting thereNow
    obtain ⟨before, thereBefore, _, closed, _⟩ := found thereNow
    exact closed.trans (registered.flagged calm key other before waiting thereBefore)
  case shut =>
    intro now member closedNow
    obtain ⟨other, thereNow⟩ := List.getElem?_of_mem member
    obtain ⟨before, thereBefore, _, closed, loop, _⟩ := found thereNow
    exact loop.trans (registered.shut before (List.mem_of_getElem? thereBefore)
      (closed.symm.trans closedNow))
  case idle =>
    intro now member idle
    obtain ⟨other, thereNow⟩ := List.getElem?_of_mem member
    obtain ⟨before, thereBefore, _, closed, loop, cared⟩ := found thereNow
    rw [closed, loop] at idle
    exact cared.trans (registered.idle before (List.mem_of_getElem? thereBefore) idle)
  case watched =>
    intro fd
    rcases registered.watched fd with unwatched | ⟨other, before, waiting, thereBefore, own⟩
    · exact .inl unwatched
    · obtain ⟨now, thereNow, sameFd, closed, loop⟩ := kept thereBefore
      exact .inr ⟨other, now, waiting, thereNow, sameFd.trans own.1, closed.trans own.2.1,
        loop.trans own.2.2⟩
  case cared =>
    intro other now thereNow fresh isOpen
    obtain ⟨before, thereBefore, fd, closed, _, cared⟩ := found thereNow
    rw [fd, cared]
    exact registered.cared other before thereBefore fresh (closed ▸ isOpen)

theorem Registered.weaken {more : Nat -> Prop} (registered : Registered watching stale waiter)
    (grows : ∀ index, stale index → more index) : Registered watching more waiter :=
  { registered with cared := fun index sock there fresh =>
      registered.cared index sock there fun old => fresh (grows index old) }

-- updateTcpSockEvent for an open sock in the event loop that waits or is about to.
theorem Registered.attach {fds : Fds} (registered : Registered watching stale waiter)
    (there : waiter.socks[index]? = some sock) (isOpen : sock.isClosed = false)
    (added : sock.evloop = true) (updated : update waiter.fds sock.fd sock.caredev = some fds) :
    Registered watching (fun other => stale other ∧ other ≠ index)
      { waiter with fds, waitingTcpsocks := waiter.waitingTcpsocks.insert sock.getFD index } := by
  have key : sock.getFD = (sock.fd : Int) := by simp [WaitSock.getFD, isOpen]
  rw [key]
  constructor
  case apart => exact registered.apart
  case shut => exact registered.shut
  case idle => exact registered.idle
  case waits =>
    intro found other waiting
    rcases Tables.of_insert waiting with ⟨rfl, rfl⟩ | ⟨_, older⟩
    · exact ⟨sock, there, rfl, .inr added, watching.fitting updated⟩
    · exact registered.waits found other older
  case flagged =>
    intro calm found other now waiting thereNow
    rcases Tables.of_insert waiting with ⟨rfl, rfl⟩ | ⟨_, older⟩
    · cases there.symm.trans thereNow
      exact isOpen
    · exact registered.flagged calm found other now older thereNow
  case watched =>
    intro fd
    by_cases same : fd = sock.fd
    · subst same
      exact .inr ⟨index, sock, by simp, there, rfl, isOpen, added⟩
    · rcases registered.watched fd with unwatched | ⟨other, now, waiting, thereNow, own⟩
      · exact .inl (watching.others updated same unwatched)
      · refine .inr ⟨other, now, ?_, thereNow, own⟩
        rw [Std.ExtTreeMap.getElem?_insert, if_neg]
        · exact waiting
        · simpa using fun equal => same equal.symm
  case cared =>
    intro other now thereNow fresh openNow
    by_cases same : other = index
    · subst same
      cases there.symm.trans thereNow
      exact watching.own updated
    · have before := registered.cared other now thereNow (fun old => fresh ⟨old, same⟩) openNow
      refine watching.others updated ?_ before
      exact fun sameFd => same (Transition.index_of_value registered.apart thereNow there sameFd)

theorem Registered.detach {fds : Fds} {changed : WaitSock}
    (registered : Registered watching stale waiter) (there : waiter.socks[index]? = some sock)
    (sameFd : changed.fd = sock.fd) (quiet : changed.caredev = .noEvent)
    (stays : changed.isClosed = false →
      changed.isClosed = sock.isClosed ∧ changed.evloop = sock.evloop)
    (ends : changed.isClosed = true → changed.evloop = false)
    (updated : update waiter.fds sock.fd .noEvent = some fds) :
    Registered watching (fun other => stale other ∧ other ≠ index)
      { waiter.setSock index changed with fds, removed := true } := by
  constructor
  case apart =>
    rw [SockWaiter.setSock, Transition.map_set_same there sameFd]
    exact registered.apart
  case flagged => exact fun calm => (Bool.false_ne_true calm.symm).elim
  case waits =>
    intro key other waiting
    obtain ⟨before, thereBefore, waits⟩ := registered.waits key other waiting
    by_cases same : index = other
    · subst same
      cases there.symm.trans thereBefore
      refine ⟨changed, List.getElem?_set_self (List.getElem?_eq_some_iff.mp there).1, ?_, ?_, ?_⟩
      · exact sameFd ▸ waits.key
      · cases shut : changed.isClosed with
        | true => exact .inl rfl
        | false =>
          obtain ⟨closed, loop⟩ := stays shut
          have added := waits.added
          rw [← closed, ← loop, shut] at added
          exact added
      · exact sameFd ▸ waits.fits
    · exact ⟨before, (List.getElem?_set_ne same).trans thereBefore, waits⟩
  case shut =>
    intro now member closed
    rcases List.mem_or_eq_of_mem_set member with older | rfl
    · exact registered.shut now older closed
    · exact ends closed
  case idle =>
    intro now member idle
    rcases List.mem_or_eq_of_mem_set member with older | rfl
    · exact registered.idle now older idle
    · exact quiet
  case watched =>
    intro fd
    by_cases same : fd = sock.fd
    · subst same
      exact .inl (watching.own updated)
    · rcases registered.watched fd with unwatched | ⟨other, now, waiting, thereNow, own⟩
      · exact .inl (watching.others updated same unwatched)
      · refine .inr ⟨other, now, waiting, ?_, own⟩
        rw [SockWaiter.setSock, List.getElem?_set_ne, thereNow]
        rintro rfl
        cases there.symm.trans thereNow
        exact same own.1.symm
  case cared =>
    intro other now thereNow fresh openNow
    rcases Transition.found_in_set thereNow with ⟨rfl, rfl⟩ | ⟨different, older⟩
    · rw [sameFd, quiet]
      exact watching.own updated
    · have before := registered.cared other now older (fun old => fresh ⟨old, different⟩) openNow
      refine watching.others updated ?_ before
      exact fun sameFd =>
        different (Transition.index_of_value registered.apart older there sameFd)

theorem Registered.flag (registered : Registered watching stale waiter) :
    Registered watching stale { waiter with removed := true } :=
  { registered with flagged := fun calm => (Bool.false_ne_true calm.symm).elim }

theorem Registered.closeOutside {changed : WaitSock}
    (registered : Registered watching stale waiter) (there : waiter.socks[index]? = some sock)
    (outside : sock.evloop = false) (sameFd : changed.fd = sock.fd)
    (closed : changed.isClosed = true) (ends : changed.evloop = false)
    (quiet : changed.caredev = .noEvent) :
    Registered watching stale (waiter.setSock index changed) := by
  constructor
  case apart =>
    rw [SockWaiter.setSock, Transition.map_set_same there sameFd]
    exact registered.apart
  case waits =>
    intro key other waiting
    obtain ⟨before, thereBefore, waits⟩ := registered.waits key other waiting
    by_cases same : index = other
    · subst same
      cases there.symm.trans thereBefore
      refine ⟨changed, List.getElem?_set_self (List.getElem?_eq_some_iff.mp there).1, ?_,
        .inl closed, ?_⟩
      · exact sameFd ▸ waits.key
      · exact sameFd ▸ waits.fits
    · exact ⟨before, (List.getElem?_set_ne same).trans thereBefore, waits⟩
  case flagged =>
    intro calm key other now waiting thereNow
    rcases Transition.found_in_set thereNow with ⟨rfl, rfl⟩ | ⟨_, older⟩
    · obtain ⟨before, thereBefore, waits⟩ := registered.waits key other waiting
      cases there.symm.trans thereBefore
      have isOpen := registered.flagged calm key other sock waiting there
      rcases waits.added with shut | added
      · rw [isOpen] at shut
        cases shut
      · rw [outside] at added
        cases added
    · exact registered.flagged calm key other now waiting older
  case shut =>
    intro now member closed
    rcases List.mem_or_eq_of_mem_set member with older | rfl
    · exact registered.shut now older closed
    · exact ends
  case idle =>
    intro now member idle
    rcases List.mem_or_eq_of_mem_set member with older | rfl
    · exact registered.idle now older idle
    · exact quiet
  case watched =>
    intro fd
    rcases registered.watched fd with unwatched | ⟨other, now, waiting, thereNow, own⟩
    · exact .inl unwatched
    · refine .inr ⟨other, now, waiting, ?_, own⟩
      rw [SockWaiter.setSock, List.getElem?_set_ne, thereNow]
      rintro rfl
      cases there.symm.trans thereNow
      rw [outside] at own
      cases own.2.2
  case cared =>
    intro other now thereNow fresh openNow
    rcases Transition.found_in_set thereNow with ⟨_, rfl⟩ | ⟨_, older⟩
    · rw [closed] at openNow
      cases openNow
    · exact registered.cared other now older fresh openNow

theorem hasAny_false {soEv : SockEvent} (none : soEv.hasAny = false) : soEv = .noEvent := by
  simpa [SockEvent.hasAny] using none

theorem updateTcpSockInLoop_registered (registered : Registered watching stale waiter)
    (taken : updateTcpSockInLoop update waiter index = some following) :
    Registered watching (fun other => stale other ∧ other ≠ index) following := by
  simp only [updateTcpSockInLoop, Option.bind_eq_some_iff] at taken
  obtain ⟨sock, there, next, updates, taken⟩ := taken
  have quietly (calm : sock.caredev = .noEvent) : sock.caredev.hasAny = false := by rw [calm]; rfl
  cases isClosed : sock.isClosed with
  | true =>
    rw [updateTcpSockEvent, if_pos isClosed] at updates
    cases updates
  | false =>
    have notClosed : ¬ sock.isClosed = true := Bool.eq_false_iff.mp isClosed
    rw [updateTcpSockEvent, if_neg notClosed] at updates
    obtain ⟨fds, watched, rfl⟩ := Option.map_eq_some_iff.mp updates
    split at taken
    next waits =>
      have added : sock.evloop = true := by
        by_contra outside
        have quiet := registered.idle sock (List.mem_of_getElem? there)
          (.inr (Bool.eq_false_iff.mpr outside))
        exact Bool.false_ne_true ((quietly quiet).symm.trans waits)
      rw [insert_frame taken]
      exact registered.attach there isClosed added watched
    next calm =>
      have quiet := hasAny_false (Bool.eq_false_iff.mpr calm)
      rw [removeTcpSock, updateTcpSockEvent, if_neg notClosed] at taken
      obtain ⟨dropped, removes, rfl⟩ := Option.map_eq_some_iff.mp taken
      obtain ⟨after, again, rfl⟩ := Option.map_eq_some_iff.mp removes
      rw [quiet] at watched
      have inside := (List.getElem?_eq_some_iff.mp there).1
      have once : Registered watching (fun other => stale other ∧ other ≠ index)
          { waiter.setSock index { sock with caredev := .noEvent } with fds, removed := true } :=
        registered.detach there rfl rfl (fun _ => ⟨rfl, rfl⟩) (fun shut => absurd shut notClosed)
          watched
      have twice := once.detach (List.getElem?_set_self inside) rfl rfl (fun _ => ⟨rfl, rfl⟩)
        (fun shut => absurd shut notClosed) again
      simp only [SockWaiter.setSock, List.set_set] at twice
      exact twice.weaken fun _ old => old.1

theorem closeInLoop_registered (registered : Registered watching stale waiter)
    (taken : closeInLoop update waiter index = some following) :
    Registered watching stale following := by
  simp only [closeInLoop, Option.bind_eq_some_iff] at taken
  obtain ⟨sock, there, taken⟩ := taken
  split at taken
  next => exact Option.some.inj taken ▸ registered
  next notClosed =>
    have inside := (List.getElem?_eq_some_iff.mp there).1
    split at taken
    next added =>
      rw [removeTcpSock, updateTcpSockEvent, if_neg notClosed, Option.map_map] at taken
      obtain ⟨removed, updates, rfl⟩ := Option.map_eq_some_iff.mp taken
      obtain ⟨fds, updated, rfl⟩ := Option.map_eq_some_iff.mp updates
      have closed : Registered watching (fun other => stale other ∧ other ≠ index)
          { waiter.setSock index { sock with
              isClosed := true, evloop := false, onTimeout := false, caredev := .noEvent
              mWriteable := false, allowMoreSend := false
              timer := { sock.timer with isTimeoutNeed := false } } with fds, removed := true } :=
        registered.detach there rfl rfl (fun opens => (Bool.false_ne_true opens.symm).elim)
          (fun _ => rfl) updated
      simp only [Function.comp_apply, SockWaiter.setSock, List.set_set]
      exact closed.weaken fun _ old => old.1
    next outside =>
      have added : sock.evloop = false := Bool.eq_false_iff.mpr outside
      have quiet := registered.idle sock (List.mem_of_getElem? there) (.inr added)
      exact Option.some.inj taken ▸ registered.closeOutside there added rfl rfl rfl quiet

theorem updateTimeout_registered {closes : Nat -> Bool}
    (registered : Registered watching stale waiter)
    (taken : updateTimeout update closes waiter index = some following) :
    Registered watching stale following := by
  simp only [updateTimeout, Option.bind_eq_some_iff] at taken
  obtain ⟨sock, there, taken⟩ := taken
  have timed (timer : SockTimer) :
      Registered watching stale (waiter.setSock index { sock with timer }) :=
    registered.setSock there rfl rfl rfl rfl
  have logged (timer : SockTimer) (timeouts : List TimeoutCall) : Registered watching stale
      { waiter.setSock index { sock with timer } with timeouts } := { timed timer with }
  split at taken
  next =>
    split at taken
    next => exact closeInLoop_registered (logged _ _) taken
    next => exact Option.some.inj taken ▸ logged _ _
  next => exact Option.some.inj taken ▸ timed _

theorem report_registered (registered : Registered watching stale waiter)
    (there : waiter.socks[index]? = some sock) (sockev : SockEvent) :
    Registered watching stale (waiter.report index sock sockev) := by
  unfold report
  split
  next =>
    have same : Registered watching stale (waiter.setSock index
        { sock with sockev, timer := sock.timer.reported waiter.clock }) :=
      registered.setSock there rfl rfl rfl rfl
    exact { same with }
  next => exact registered.setSock there rfl rfl rfl rfl

theorem clearClosedTcpSock_registered (registered : Registered watching stale waiter) :
    Registered watching stale { waiter.clearClosedTcpSock with removed := false } ∧
      ∀ (key : Int) (index : Nat), waiter.clearClosedTcpSock.waitingTcpsocks[key]? = some index →
        ∃ sock, waiter.socks[index]? = some sock ∧ sock.isClosed = false := by
  have still {key : Int} {index : Nat}
      (left : waiter.clearClosedTcpSock.waitingTcpsocks[key]? = some index) :
      waiter.waitingTcpsocks[key]? = some index ∧
        ∃ sock, waiter.socks[index]? = some sock ∧ sock.isClosed = false := by
    rw [clearClosedTcpSock, Std.ExtTreeMap.getElem?_filter', Option.filter_eq_some_iff] at left
    simpa [Option.any_eq_true] using left
  refine ⟨{ registered with waits := ?_, flagged := ?_, watched := ?_ }, fun _ _ left =>
    (still left).2⟩
  · exact fun key index left => registered.waits key index (still left).1
  · intro _ key index sock left there
    obtain ⟨found, foundThere, isOpen⟩ := (still left).2
    cases there.symm.trans foundThere
    exact isOpen
  · intro fd
    rcases registered.watched fd with unwatched | ⟨index, sock, waiting, there, own⟩
    · exact .inl unwatched
    · refine .inr ⟨index, sock, ?_, there, own⟩
      change (waiter.clearClosedTcpSock.waitingTcpsocks)[(fd : Int)]? = some index
      rw [clearClosedTcpSock, Std.ExtTreeMap.getElem?_filter', waiting]
      simp [there, own.2.1]

-- The calls of UpdateTcpSock that are under way.
def pendingUpdate (waiter : SockWaiter Fds) (index : Nat) : Prop :=
  .updateTcpSock index ∈ waiter.pendings

-- An open sock comes to care for other events, which the kernel is still to be told.
theorem Registered.caring (registered : Registered watching stale waiter)
    (there : waiter.socks[index]? = some sock) (isOpen : sock.isClosed = false)
    (caredev : SockEvent) :
    Registered watching (fun other => stale other ∨ other = index)
      (waiter.setSock index { sock with evloop := true, caredev }) := by
  have inside := (List.getElem?_eq_some_iff.mp there).1
  have kept {other : Nat} {before : WaitSock} (thereBefore : waiter.socks[other]? = some before) :
      ∃ now, (waiter.setSock index { sock with evloop := true, caredev }).socks[other]? = some now ∧
        now.fd = before.fd ∧ now.isClosed = before.isClosed ∧
          (before.evloop = true → now.evloop = true) := by
    by_cases same : index = other
    · subst same
      cases there.symm.trans thereBefore
      exact ⟨_, List.getElem?_set_self inside, rfl, rfl, fun _ => rfl⟩
    · exact ⟨before, (List.getElem?_set_ne same).trans thereBefore, rfl, rfl, id⟩
  constructor
  case apart =>
    have fds : (waiter.socks.set index { sock with evloop := true, caredev }).map WaitSock.fd =
        waiter.socks.map WaitSock.fd := Transition.map_set_same there rfl
    rw [SockWaiter.setSock, fds]
    exact registered.apart
  case waits =>
    intro key other waiting
    obtain ⟨before, thereBefore, waits⟩ := registered.waits key other waiting
    obtain ⟨now, thereNow, fd, closed, loop⟩ := kept thereBefore
    exact ⟨now, thereNow, fd ▸ waits.key, closed ▸ waits.added.imp_right loop, fd ▸ waits.fits⟩
  case flagged =>
    intro calm key other now waiting thereNow
    rcases Transition.found_in_set thereNow with ⟨rfl, rfl⟩ | ⟨_, older⟩
    · exact isOpen
    · exact registered.flagged calm key other now waiting older
  case shut =>
    intro now member closed
    rcases List.mem_or_eq_of_mem_set member with older | rfl
    · exact registered.shut now older closed
    · exact (Bool.false_ne_true (isOpen.symm.trans closed)).elim
  case idle =>
    intro now member idle
    rcases List.mem_or_eq_of_mem_set member with older | rfl
    · exact registered.idle now older idle
    · simp [isOpen] at idle
  case watched =>
    intro fd
    rcases registered.watched fd with unwatched | ⟨other, before, waiting, thereBefore, own⟩
    · exact .inl unwatched
    · obtain ⟨now, thereNow, sameFd, closed, loop⟩ := kept thereBefore
      exact .inr ⟨other, now, waiting, thereNow, sameFd.trans own.1, closed.trans own.2.1,
        loop own.2.2⟩
  case cared =>
    intro other now thereNow fresh openNow
    rcases Transition.found_in_set thereNow with ⟨same, _⟩ | ⟨_, older⟩
    · exact (fresh (.inr same)).elim
    · exact registered.cared other now older (fun old => fresh (.inl old)) openNow

theorem careFor_registered {caredev : SockEvent} {inLoopThread : Bool} {added : WaitSock}
    (registered : Registered watching waiter.pendingUpdate waiter)
    (there : waiter.socks[index]? = some sock) (isOpen : sock.isClosed = false)
    (same : added = { sock with evloop := true })
    (taken : careFor update waiter index added caredev inLoopThread = some following) :
    Registered watching following.pendingUpdate following := by
  subst same
  have caring := registered.caring there isOpen caredev
  cases inLoopThread with
  | true =>
    have pendings := updateTcpSockInLoop_pendings taken
    have updated := updateTcpSockInLoop_registered caring taken
    refine updated.weaken fun other old => ?_
    rw [pendingUpdate, pendings]
    exact old.1.resolve_right old.2
  | false =>
    obtain rfl := Option.some.inj taken
    have queued : Registered watching
        (fun other => .updateTcpSock other ∈ waiter.pendings ++ [.updateTcpSock index])
        (waiter.setSock index { sock with evloop := true, caredev }) := by
      refine caring.weaken fun other old => ?_
      rw [List.mem_append, List.mem_singleton, LoopTask.updateTcpSock.injEq]
      exact old
    exact { queued with }

theorem changeCared_registered {skips : SockEvent -> Bool} {change : SockEvent -> SockEvent}
    {inLoopThread : Bool} (registered : Registered watching waiter.pendingUpdate waiter)
    (taken : changeCared update skips change waiter index inLoopThread = some following) :
    Registered watching following.pendingUpdate following := by
  simp only [changeCared, Option.bind_eq_some_iff] at taken
  obtain ⟨sock, there, taken⟩ := taken
  split at taken
  next => exact Option.some.inj taken ▸ registered
  next goes =>
    have added : sock.evloop = true := by
      by_contra outside
      simp [Bool.eq_false_iff.mpr outside] at goes
    have isOpen : sock.isClosed = false := by
      by_contra shut
      have ended := registered.shut sock (List.mem_of_getElem? there) (by simpa using shut)
      exact Bool.false_ne_true (ended.symm.trans added)
    split at taken
    next => exact careFor_registered registered there isOpen (by rw [← added]) taken
    next => cases taken

theorem Registered.take {task : LoopTask} {rest : List LoopTask}
    (registered : Registered watching waiter.pendingUpdate waiter)
    (pendings : waiter.pendings = task :: rest) (other : ∀ index, task ≠ .updateTcpSock index) :
    Registered watching (pendingUpdate { waiter with pendings := rest })
      { waiter with pendings := rest } := by
  have fewer : Registered watching (pendingUpdate { waiter with pendings := rest }) waiter := by
    refine registered.weaken fun index old => ?_
    rw [pendingUpdate, pendings] at old
    exact (List.mem_cons.mp old).resolve_left fun same => other index same.symm
  exact { fewer with }

theorem Registered.queue (registered : Registered watching waiter.pendingUpdate waiter)
    (task : LoopTask) : Registered watching
      (pendingUpdate { waiter with pendings := waiter.pendings ++ [task] })
      { waiter with pendings := waiter.pendings ++ [task] } := by
  have more : Registered watching
      (pendingUpdate { waiter with pendings := waiter.pendings ++ [task] }) waiter :=
    registered.weaken fun other old => List.mem_append_left _ old
  exact { more with }

theorem disAllowSend_registered {outbufEmpty inLoopThread : Bool}
    (registered : Registered watching waiter.pendingUpdate waiter)
    (taken : disAllowSend update waiter index outbufEmpty inLoopThread = some following) :
    Registered watching following.pendingUpdate following := by
  simp only [disAllowSend, Option.bind_eq_some_iff] at taken
  obtain ⟨sock, there, taken⟩ := taken
  have disallowed : Registered watching
      (pendingUpdate (waiter.setSock index { sock with allowMoreSend := false }))
      (waiter.setSock index { sock with allowMoreSend := false }) :=
    registered.setSock there rfl rfl rfl rfl
  split at taken
  next => exact Option.some.inj taken ▸ disallowed
  next =>
    split at taken
    next => exact changeCared_registered disallowed taken
    next => exact Option.some.inj taken ▸ disallowed.queue _

variable {kind : WaiterKind Fds Report} {watching : Watching kind.updateTcpSockEvent}
  {waiter following : SockWaiter Fds}

structure Lawful (kind : WaiterKind Fds Report) (watching : Watching kind.updateTcpSockEvent) :
    Prop where
  initial : ∀ fd, watching.watches kind.initial fd .noEvent
  handles : ∀ {stale : Nat -> Prop} {waiter following : SockWaiter Fds} {report : Option Report}
    {closes : Nat -> Bool}, Registered watching stale waiter →
      kind.handle waiter report closes = some following →
        Registered watching stale following ∧ following.pendings = waiter.pendings

theorem at?_some {now : Int} (taken : waiter.at? now = some following) :
    following = { waiter with clock := now } := by
  unfold at? at taken
  split at taken <;> cases taken
  rfl

theorem initial_registered (lawful : Lawful kind watching) :
    Registered watching (initial kind).pendingUpdate (initial kind) := by
  constructor
  case watched => exact fun fd => .inl (lawful.initial fd)
  all_goals simp [initial]

theorem Registered.newTcpSock {fd : Nat} (registered : Registered watching stale waiter)
    (free : ∀ sock ∈ waiter.socks, sock.fd ≠ fd) (onTimeout : Bool) (timer : SockTimer) :
    Registered watching stale
      { waiter with socks := waiter.socks ++ [.connected fd onTimeout timer] } := by
  have kept {index : Nat} {sock : WaitSock} (there : waiter.socks[index]? = some sock) :
      (waiter.socks ++ [.connected fd onTimeout timer])[index]? = some sock :=
    (List.getElem?_append_left (List.getElem?_eq_some_iff.mp there).1).trans there
  constructor
  case apart =>
    rw [List.map_append]
    refine List.Nodup.append registered.apart (List.nodup_singleton _) ?_
    intro other older newer
    obtain rfl := List.mem_singleton.mp newer
    obtain ⟨sock, member, same⟩ := List.mem_map.mp older
    exact free sock member same
  case waits =>
    intro key index waiting
    obtain ⟨sock, there, waits⟩ := registered.waits key index waiting
    exact ⟨sock, kept there, waits⟩
  case flagged =>
    intro calm key index sock waiting there
    obtain ⟨before, thereBefore, _⟩ := registered.waits key index waiting
    obtain rfl := Option.some.inj ((kept thereBefore).symm.trans there)
    exact registered.flagged calm key index before waiting thereBefore
  case shut =>
    intro sock member closed
    rcases List.mem_append.mp member with older | newer
    · exact registered.shut sock older closed
    · rw [List.mem_singleton.mp newer]
      rfl
  case idle =>
    intro sock member idle
    rcases List.mem_append.mp member with older | newer
    · exact registered.idle sock older idle
    · rw [List.mem_singleton.mp newer]
      rfl
  case watched =>
    intro other
    rcases registered.watched other with unwatched | ⟨index, sock, waiting, there, own⟩
    · exact .inl unwatched
    · exact .inr ⟨index, sock, waiting, kept there, own⟩
  case cared =>
    intro index sock there fresh isOpen
    rcases Transition.found_in_concat there with older | ⟨_, rfl⟩
    · exact registered.cared index sock older fresh isOpen
    · -- Nothing was ever registered for a new descriptor.
      rcases registered.watched fd with unwatched | ⟨other, found, _, otherThere, same, _⟩
      · exact unwatched
      · exact (free found (List.mem_of_getElem? otherThere) same).elim

theorem step_registered (lawful : Lawful kind watching) {event : Event Report}
    (registered : Registered watching waiter.pendingUpdate waiter)
    (taken : step kind waiter event = some following) :
    Registered watching following.pendingUpdate following := by
  cases event with
  | newTcpSock fd onTimeout needRenewTimeout timeoutRenew =>
    simp only [step] at taken
    split at taken <;> cases taken
    next free => exact registered.newTcpSock (by simpa using free) onTimeout _
  | setTimeout index toMs now =>
    simp only [step, Option.bind_eq_some_iff] at taken
    obtain ⟨timed, clock, taken⟩ := taken
    obtain rfl := at?_some clock
    obtain ⟨sock, there, rfl⟩ := Option.map_eq_some_iff.mp taken
    have clocked : Registered watching waiter.pendingUpdate { waiter with clock := now } :=
      { registered with }
    exact clocked.setSock there rfl rfl rfl rfl
  | sent index emptied onSend now =>
    simp only [step, Option.bind_eq_some_iff] at taken
    obtain ⟨timed, clock, taken⟩ := taken
    obtain rfl := at?_some clock
    obtain ⟨sock, found, rfl⟩ := Option.map_eq_some_iff.mp taken
    have there := (Option.filter_eq_some_iff.mp found).1
    have clocked : Registered watching waiter.pendingUpdate { waiter with clock := now } :=
      { registered with }
    unfold WaitSock.doSend
    dsimp only
    split <;> exact clocked.setSock there rfl rfl rfl rfl
  | shutDownWrite index =>
    obtain ⟨sock, there, rfl⟩ := Option.map_eq_some_iff.mp taken
    split
    next => exact registered
    next => exact registered.setSock there rfl rfl rfl rfl
  | addTcpSock index inLoopThread =>
    simp only [step, Option.bind_eq_some_iff] at taken
    obtain ⟨sock, found, taken⟩ := taken
    obtain ⟨there, isOpen⟩ := Option.filter_eq_some_iff.mp found
    exact careFor_registered registered there (by simpa using isOpen) rfl taken
  | addAndUpdateEvent index er inLoopThread | removeAndUpdateEvent index er inLoopThread =>
    simp only [step, addAndUpdateEvent, removeAndUpdateEvent] at taken
    exact changeCared_registered registered taken
  | disAllowSend index outbufEmpty inLoopThread => exact disAllowSend_registered registered taken
  | close index inLoopThread =>
    simp only [step, Option.bind_eq_some_iff] at taken
    obtain ⟨sock, there, taken⟩ := taken
    split at taken
    next => exact Option.some.inj taken ▸ registered.queue _
    next =>
      have closed := closeInLoop_registered registered taken
      exact closed.weaken fun other old => by
        rwa [pendingUpdate, (closeInLoop_frame taken).pendings]
  | runTask =>
    simp only [step] at taken
    split at taken
    next => cases taken
    next index rest pendings =>
      have taking : Registered watching waiter.pendingUpdate { waiter with pendings := rest } :=
        { registered with }
      have updated := updateTcpSockInLoop_registered taking taken
      refine updated.weaken fun other old => ?_
      have member : LoopTask.updateTcpSock other ∈ LoopTask.updateTcpSock index :: rest :=
        pendings ▸ old.1
      rw [pendingUpdate, updateTcpSockInLoop_pendings taken]
      refine (List.mem_cons.mp member).resolve_left fun same => old.2 ?_
      exact LoopTask.updateTcpSock.inj same
    next index er rest pendings =>
      have taking := registered.take pendings fun _ same => by cases same
      exact changeCared_registered taking taken
    next index rest pendings =>
      have taking := registered.take pendings fun _ same => by cases same
      have closed := closeInLoop_registered taking taken
      refine closed.weaken fun other old => ?_
      rwa [pendingUpdate, (closeInLoop_frame taken).pendings]
  | wait report now closes =>
    simp only [step] at taken
    split at taken
    next =>
      simp only [Option.bind_eq_some_iff] at taken
      obtain ⟨timed, clock, taken⟩ := taken
      obtain rfl := at?_some clock
      have timed : Registered watching waiter.pendingUpdate { waiter with clock := now } :=
        { registered with }
      split at taken
      next =>
        have cleared := (clearClosedTcpSock_registered timed).1
        have handed : Registered watching waiter.pendingUpdate
            { ({ waiter with clock := now } : SockWaiter Fds).clearClosedTcpSock with
              removed := false, allready := ∅ } := { cleared with }
        obtain ⟨handled, pendings⟩ := lawful.handles handed taken
        exact handled.weaken fun other old => by rwa [pendingUpdate, pendings]
      next calm =>
        have same : Registered watching waiter.pendingUpdate
            { waiter with clock := now, removed := false, allready := ∅ } :=
          { timed with flagged := fun _ => timed.flagged (Bool.eq_false_iff.mpr calm) }
        obtain ⟨handled, pendings⟩ := lawful.handles same taken
        exact handled.weaken fun other old => by rwa [pendingUpdate, pendings]
    next => cases taken

end SockWaiter
end MessageBus.Net
