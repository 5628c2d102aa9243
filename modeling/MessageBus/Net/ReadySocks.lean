import MessageBus.Net.Readiness

set_option autoImplicit false

namespace MessageBus.Net

section Folds

variable {State Item : Type} {step : State -> Item -> Option State}

-- The invariant is about the items that were gone through and those still to come.
theorem foldlM_goes (step : State -> Item -> Option State)
    (holds : List Item -> List Item -> State -> Prop)
    (goes : ∀ (before : List Item) (item : Item) (rest : List Item) (state : State),
      holds before (item :: rest) state →
        ∃ next, step state item = some next ∧ holds (before ++ [item]) rest next)
    (before items : List Item) (start : State) (initial : holds before items start) :
    ∃ final, items.foldlM step start = some final ∧ holds (before ++ items) [] final := by
  induction items generalizing before start with
  | nil => exact ⟨start, rfl, by rwa [List.append_nil]⟩
  | cons item rest ih =>
    obtain ⟨next, taken, later⟩ := goes before item rest start initial
    obtain ⟨final, ran, last⟩ := ih (before ++ [item]) next later
    refine ⟨final, ?_, by rwa [List.append_cons]⟩
    rw [List.foldlM_cons, taken]
    exact ran

theorem foldlM_ran (holds : List Item -> List Item -> State -> Prop)
    (goes : ∀ (before : List Item) (item : Item) (rest : List Item) (state next : State),
      holds before (item :: rest) state → step state item = some next →
        holds (before ++ [item]) rest next)
    (before items : List Item) {start final : State} (initial : holds before items start)
    (ran : items.foldlM step start = some final) : holds (before ++ items) [] final := by
  induction items generalizing before start with
  | nil => exact Option.some.inj ran ▸ by rwa [List.append_nil]
  | cons item rest ih =>
    rw [List.foldlM_cons] at ran
    obtain ⟨next, taken, ran⟩ := Option.bind_eq_some_iff.mp ran
    rw [List.append_cons]
    exact ih (before ++ [item]) (goes before item rest start next initial taken) ran

theorem foldlM_keeps (holds : State -> Prop) {items : List Item}
    (keeps : ∀ state item next, holds state → step state item = some next → holds next)
    {start final : State} (initial : holds start) (ran : items.foldlM step start = some final) :
    holds final :=
  foldlM_ran (fun _ _ => holds) (fun _ item _ state next => keeps state item next) [] items
    initial ran

end Folds

namespace SockWaiter

variable {Fds Report : Type} {update : Fds -> Nat -> SockEvent -> Option Fds}
  {watching : Watching update} {stale : Nat -> Prop} {waiter following : SockWaiter Fds}
  {index : Nat} {sock : WaitSock} {closes : Nat -> Bool}

-- What the functions that handle the events of one sock leave of it and of the others.
structure OwnSock (waiter following : SockWaiter Fds) (index : Nat) (sock : WaitSock) : Prop where
  frame : Frame waiter following
  own : ∃ changed, following.socks = waiter.socks.set index changed ∧ changed.fd = sock.fd ∧
    changed.sockev = sock.sockev ∧ (changed.isClosed = false → sock.isClosed = false)

theorem closeInLoop_ownSock (there : waiter.socks[index]? = some sock)
    (taken : closeInLoop update waiter index = some following) :
    OwnSock waiter following index sock := by
  have frame := closeInLoop_frame taken
  simp only [closeInLoop, there, Option.bind_some] at taken
  refine ⟨frame, ?_⟩
  split at taken
  next =>
    obtain rfl := Option.some.inj taken
    refine ⟨sock, ?_, rfl, rfl, id⟩
    obtain ⟨inside, same⟩ := List.getElem?_eq_some_iff.mp there
    rw [← same, List.set_getElem_self]
  next =>
    split at taken
    next =>
      obtain ⟨removed, updates, rfl⟩ := Option.map_eq_some_iff.mp taken
      obtain ⟨dropped, update, rfl⟩ := Option.map_eq_some_iff.mp updates
      obtain ⟨fds, rfl⟩ := updateTcpSockEvent_frame update
      exact ⟨_, List.set_set _, rfl, rfl, fun opens => (Bool.false_ne_true opens.symm).elim⟩
    next =>
      obtain rfl := Option.some.inj taken
      exact ⟨_, rfl, rfl, rfl, fun opens => (Bool.false_ne_true opens.symm).elim⟩

theorem updateTimeout_ownSock (there : waiter.socks[index]? = some sock)
    (taken : updateTimeout update closes waiter index = some following) :
    OwnSock waiter following index sock := by
  have inside := (List.getElem?_eq_some_iff.mp there).1
  simp only [updateTimeout, there, Option.bind_some] at taken
  split at taken
  next =>
    split at taken
    next =>
      have own := closeInLoop_ownSock (List.getElem?_set_self inside) taken
      obtain ⟨changed, socks, fd, sockev⟩ := own.own
      refine ⟨⟨own.frame.waitingTcpsocks, own.frame.pendings, own.frame.allready,
        own.frame.clock⟩, changed, ?_, fd, sockev⟩
      rw [socks]
      exact List.set_set _
    next =>
      obtain rfl := Option.some.inj taken
      exact ⟨⟨rfl, rfl, rfl, rfl⟩, _, rfl, rfl, rfl, id⟩
  next =>
    obtain rfl := Option.some.inj taken
    exact ⟨⟨rfl, rfl, rfl, rfl⟩, _, rfl, rfl, rfl, id⟩

theorem updateTimeout_found (taken : updateTimeout update closes waiter index = some following) :
    ∃ sock, waiter.socks[index]? = some sock := by
  obtain ⟨sock, there, _⟩ := Option.bind_eq_some_iff.mp taken
  exact ⟨sock, there⟩

theorem removeTcpSock_total (watching : Watching update) (isOpen : sock.isClosed = false)
    (fits : watching.fits sock.fd) (waiter : SockWaiter Fds) (index : Nat) :
    ∃ after, removeTcpSock update waiter index sock = some after := by
  obtain ⟨fds, updated⟩ := watching.total fits waiter.fds .noEvent
  rw [removeTcpSock, updateTcpSockEvent, if_neg (by simp [isOpen])]
  change ∃ after, Option.map _ (Option.map _ (update waiter.fds sock.fd .noEvent)) = some after
  rw [updated]
  exact ⟨_, rfl⟩

theorem closeInLoop_total (watching : Watching update) (there : waiter.socks[index]? = some sock)
    (fits : watching.fits sock.fd) : ∃ after, closeInLoop update waiter index = some after := by
  simp only [closeInLoop, there, Option.bind_some]
  split
  next => exact ⟨_, rfl⟩
  next notClosed =>
    split
    next =>
      obtain ⟨removed, updates⟩ :=
        removeTcpSock_total watching (Bool.eq_false_iff.mpr notClosed) fits waiter index
      rw [updates]
      exact ⟨_, rfl⟩
    next => exact ⟨_, rfl⟩

theorem updateTimeout_total (watching : Watching update) (there : waiter.socks[index]? = some sock)
    (fits : watching.fits sock.fd) (closes : Nat -> Bool) :
    ∃ after, updateTimeout update closes waiter index = some after := by
  have inside := (List.getElem?_eq_some_iff.mp there).1
  simp only [updateTimeout, there, Option.bind_some]
  split
  next =>
    split
    next => exact closeInLoop_total watching (List.getElem?_set_self inside) fits
    next => exact ⟨_, rfl⟩
  next => exact ⟨_, rfl⟩

-- Each open sock is handed on exactly where there is an event for its descriptor, and with all of
-- that.
def Served (eventOf : Nat -> SockEvent) (after : SockWaiter Fds) : Prop :=
  ∀ (index : Nat) (sock : WaitSock), after.socks[index]? = some sock → sock.isClosed = false →
    (after.allready[(sock.fd : Int)]? = some index ↔ (eventOf sock.fd).hasAny = true) ∧
      ((eventOf sock.fd).hasAny = true → sock.sockev = eventOf sock.fd)

theorem served_empty (empty : waiter.allready = ∅) : Served (fun _ => .noEvent) waiter := by
  intro index sock _ _
  simp [empty, SockEvent.hasAny]

theorem Served.report {eventOf : Nat -> SockEvent} (served : Served eventOf waiter)
    (apart : (waiter.socks.map WaitSock.fd).Nodup) (there : waiter.socks[index]? = some sock)
    (fresh : (eventOf sock.fd).hasAny = false) (sockev : SockEvent) :
    Served (Function.update eventOf sock.fd sockev) (waiter.report index sock sockev) := by
  intro other now thereNow isOpen
  by_cases same : index = other
  · subst same
    have inside := (List.getElem?_eq_some_iff.mp there).1
    have before := served index sock there
    cases any : sockev.hasAny with
    | true =>
      rw [SockWaiter.report, if_pos any] at thereNow ⊢
      cases thereNow.symm.trans (List.getElem?_set_self inside)
      have shown : sock.getFD = (sock.fd : Int) := if_neg (Bool.eq_false_iff.mp isOpen)
      simp [shown, any]
    | false =>
      rw [SockWaiter.report, if_neg (Bool.eq_false_iff.mp any)] at thereNow ⊢
      cases thereNow.symm.trans (List.getElem?_set_self inside)
      have missing := (before isOpen).1
      rw [fresh] at missing
      simpa [SockWaiter.setSock, any] using missing
  · have older : waiter.socks[other]? = some now := by
      rw [SockWaiter.report] at thereNow
      split at thereNow <;> exact (List.getElem?_set_ne same).symm.trans thereNow
    have different : now.fd ≠ sock.fd := fun sameFd =>
      same (Transition.index_of_value apart there older sameFd.symm)
    have kept : (waiter.report index sock sockev).allready[(now.fd : Int)]? =
        waiter.allready[(now.fd : Int)]? := by
      rw [SockWaiter.report]
      split
      next =>
        rw [Std.ExtTreeMap.getElem?_insert, if_neg]
        simp only [WaitSock.getFD, Std.LawfulEqCmp.compare_eq_iff_eq]
        split <;> omega
      next => rfl
    rw [Function.update_of_ne different, kept]
    exact served other now older isOpen

theorem Served.ownSock {eventOf : Nat -> SockEvent} (served : Served eventOf waiter)
    (there : waiter.socks[index]? = some sock) (own : OwnSock waiter following index sock) :
    Served eventOf following := by
  intro other now thereNow isOpen
  obtain ⟨changed, socks, fd, sockev, opens⟩ := own.own
  rw [own.frame.allready]
  rw [socks] at thereNow
  rcases Transition.found_in_set thereNow with ⟨rfl, rfl⟩ | ⟨_, older⟩
  · rw [fd, sockev]
    exact served other sock there (opens isOpen)
  · exact served other now older isOpen

theorem report_frame (waiter : SockWaiter Fds) (index : Nat) (sock : WaitSock)
    (sockev : SockEvent) :
    (waiter.report index sock sockev).waitingTcpsocks = waiter.waitingTcpsocks ∧
      (waiter.report index sock sockev).pendings = waiter.pendings := by
  unfold report
  split <;> exact ⟨rfl, rfl⟩

theorem report_socks (waiter : SockWaiter Fds) (index : Nat) (sock : WaitSock)
    (sockev : SockEvent) : ∃ changed,
      (waiter.report index sock sockev).socks = waiter.socks.set index changed ∧
        changed.fd = sock.fd := by
  unfold report
  split <;> exact ⟨_, rfl, rfl⟩

theorem Registered.entries_apart (registered : Registered watching stale waiter) :
    (waiter.waitingTcpsocks.toList.map Prod.snd).Nodup := by
  have keys := Std.ExtTreeMap.nodup_keys (t := waiter.waitingTcpsocks)
  rw [← Std.ExtTreeMap.map_fst_toList_eq_keys] at keys
  refine List.Nodup.map_on (fun first memberFirst second memberSecond same => ?_) keys.of_map
  have key {entry : Int × Nat} (member : entry ∈ waiter.waitingTcpsocks.toList) :=
    registered.waits entry.1 entry.2 (Std.ExtTreeMap.mem_toList_iff_getElem?_eq_some.mp member)
  obtain ⟨sock, there, own⟩ := key memberFirst
  obtain ⟨other, otherThere, otherOwn⟩ := key memberSecond
  rw [← same, there] at otherThere
  obtain rfl := Option.some.inj otherThere
  exact Prod.ext (own.key.trans otherOwn.key.symm) same

structure Calm (watching : Watching update) (waiter : SockWaiter Fds) : Prop where
  registered : ∃ stale, Registered watching stale waiter
  allOpen : ∀ (key : Int) (index : Nat), waiter.waitingTcpsocks[key]? = some index →
    ∃ sock, waiter.socks[index]? = some sock ∧ sock.isClosed = false
  empty : waiter.allready = ∅

-- Wait hands on what the kernel reports, where it finds an event in all of that.
structure Serves (kind : WaiterKind Fds Report) (watching : Watching kind.updateTcpSockEvent)
    (eventOf : Report -> Nat -> SockEvent) (noticed : Report -> Bool) : Prop
    extends Lawful kind watching where
  serves : ∀ (waiter : SockWaiter Fds) (report : Report) (closes : Nat -> Bool),
    Calm watching waiter → kind.mayReport waiter.fds report = true → noticed report = true →
      ∃ after, kind.handle waiter (some report) closes = some after ∧
        Served (eventOf report) after
  notices : ∀ (waiter after : SockWaiter Fds) (report : Report) (closes : Nat -> Bool),
    kind.handle waiter (some report) closes = some after → noticed report = true

end SockWaiter

namespace EpollWaiter

open SockWaiter

theorem watches_cases {epfd : Epfd} {fd other : Nat} {soEv : SockEvent} {after : Epfd}
    (updated : updateTcpSockEvent epfd fd soEv = some after) :
    after[other]? = if other = fd then (if soEv.hasAny then some (maskOf soEv) else none)
      else epfd[other]? := by
  obtain rfl := Option.some.inj updated
  by_cases same : other = fd
  · subst same
    split <;> simp [*]
  · have apart : ¬ fd = other := fun equal => same equal.symm
    rw [if_neg same]
    split <;> simp [Std.ExtTreeMap.getElem?_insert, Std.ExtTreeMap.getElem?_erase, apart]

def watching : Watching updateTcpSockEvent where
  watches epfd fd soEv := epfd[fd]? = if soEv.hasAny then some (maskOf soEv) else none
  fits _ := True
  fitting _ := trivial
  total _ _ _ := ⟨_, rfl⟩
  own updated := by rw [watches_cases updated, if_pos rfl]
  others updated different kept := by rw [watches_cases updated, if_neg different, kept]

theorem handleReady_some {waiter next : SockWaiter Epfd} {entry : Nat × EpollMask}
    (taken : handleReady waiter entry = some next) : ∃ index sock,
      waiter.waitingTcpsocks[(entry.1 : Int)]? = some index ∧
        waiter.socks[index]? = some sock ∧ (eventOf entry.2).hasAny = true ∧
          waiter.report index sock (eventOf entry.2) = next := by
  obtain ⟨index, waiting, taken⟩ := Option.bind_eq_some_iff.mp taken
  obtain ⟨sock, there, taken⟩ := Option.bind_eq_some_iff.mp taken
  split at taken
  next any => exact ⟨index, sock, waiting, there, any, Option.some.inj taken⟩
  next => cases taken

theorem handleReady_keeps {stale : Nat -> Prop} {waiter next : SockWaiter Epfd}
    {entry : Nat × EpollMask} (registered : Registered watching stale waiter)
    (taken : handleReady waiter entry = some next) :
    Registered watching stale next ∧ next.waitingTcpsocks = waiter.waitingTcpsocks ∧
      next.pendings = waiter.pendings := by
  obtain ⟨index, sock, _, there, _, rfl⟩ := handleReady_some taken
  exact ⟨report_registered registered there _, report_frame waiter index sock _⟩

theorem lawful : Lawful kind watching where
  initial fd := by simp [watching, kind, SockEvent.hasAny]
  handles := by
    intro stale waiter following report closes registered handled
    cases report with
    | none => exact Option.some.inj handled ▸ ⟨registered, rfl⟩
    | some events =>
      obtain ⟨timed, timing, handling⟩ := Option.bind_eq_some_iff.mp handled
      have kept := foldlM_keeps
        (fun state => Registered watching stale state ∧ state.pendings = waiter.pendings)
        (fun state entry next kept taken => by
          obtain ⟨sock, there⟩ := updateTimeout_found taken
          exact ⟨updateTimeout_registered kept.1 taken,
            (updateTimeout_ownSock there taken).frame.pendings.trans kept.2⟩)
        ⟨registered, rfl⟩ timing
      refine foldlM_keeps
        (fun state => Registered watching stale state ∧ state.pendings = waiter.pendings)
        (fun state entry next kept taken => ?_) kept handling
      obtain ⟨later, _, pendings⟩ := handleReady_keeps kept.1 taken
      exact ⟨later, pendings.trans kept.2⟩

-- The events for a descriptor in the answer of epoll_wait.
def eventFor (report : Report) (fd : Nat) : SockEvent :=
  ((report.lookup fd).map eventOf).getD .noEvent

theorem eventFor_append {report : Report} {fd : Nat} {events : EpollMask}
    (fresh : fd ∉ report.map Prod.fst) : eventFor (report ++ [(fd, events)]) =
      Function.update (eventFor report) fd (eventOf events) := by
  funext other
  rw [eventFor, List.lookup_append]
  by_cases same : other = fd
  · subst same
    have missing : report.lookup other = none := List.lookup_eq_none_iff.mpr fun entry member => by
      simpa using fun equal : other = entry.1 => fresh (equal ▸ List.mem_map_of_mem member)
    simp [missing]
  · have missing : [(fd, events)].lookup other = none := by simp [same]
    rw [missing, Option.or_none, Function.update_of_ne same]
    rfl

theorem eventFor_missing {report : Report} {fd : Nat} (fresh : fd ∉ report.map Prod.fst) :
    eventFor report fd = .noEvent := by
  have missing : report.lookup fd = none := List.lookup_eq_none_iff.mpr fun entry member => by
    simpa using fun equal : fd = entry.1 => fresh (equal ▸ List.mem_map_of_mem member)
  rw [eventFor, missing]
  rfl

theorem handleReady_serves {stale : Nat -> Prop} {waiter : SockWaiter Epfd}
    {before : Report} {fd : Nat} {events : EpollMask}
    (registered : Registered watching stale waiter) (served : Served (eventFor before) waiter)
    (fresh : fd ∉ before.map Prod.fst) (waits : (fd : Int) ∈ waiter.waitingTcpsocks)
    (any : (eventOf events).hasAny = true) :
    ∃ next, handleReady waiter (fd, events) = some next ∧
      Registered watching stale next ∧ next.waitingTcpsocks = waiter.waitingTcpsocks ∧
        Served (eventFor (before ++ [(fd, events)])) next := by
  have waiting := Std.ExtTreeMap.getElem?_eq_some_getElem waits
  obtain ⟨sock, there, own⟩ := registered.waits _ _ waiting
  obtain rfl : fd = sock.fd := Int.ofNat_inj.mp own.key
  refine ⟨_, ?_, report_registered registered there (eventOf events),
    (report_frame waiter _ sock _).1, ?_⟩
  · rw [handleReady, waiting, Option.bind_some, there, Option.bind_some, if_pos any]
  · rw [eventFor_append fresh]
    refine served.report registered.apart there ?_ (eventOf events)
    rw [eventFor_missing fresh]
    rfl

-- The assertion that a reported sock is ready; a hang-up alone is no event.
def noticed (report : Report) : Bool := report.all fun entry => (eventOf entry.2).hasAny

theorem serves : Serves kind watching eventFor noticed where
  toLawful := lawful
  notices := by
    intro waiter after report closes handled
    obtain ⟨timed, _, handling⟩ := Option.bind_eq_some_iff.mp handled
    have seen := foldlM_ran (fun before _ _ => ∀ entry ∈ before, (eventOf entry.2).hasAny = true)
      (by
        intro before entry rest state next seen taken other member
        obtain ⟨_, _, _, _, any, _⟩ := handleReady_some taken
        rcases List.mem_append.mp member with older | newer
        · exact seen other older
        · rw [List.mem_singleton.mp newer]
          exact any)
      [] report (fun entry member => absurd member List.not_mem_nil) handling
    exact List.all_eq_true.mpr seen
  serves := by
    intro waiter report closes calm legit events
    obtain ⟨stale, registered⟩ := calm.registered
    simp only [kind, mayReport, Bool.and_eq_true, decide_eq_true_eq, List.all_eq_true] at legit
    obtain ⟨⟨_, nodup⟩, asked⟩ := legit
    -- First the timeouts of all that waits,
    obtain ⟨timed, timing, _, timedRegistered, timedWaiting, timedEmpty⟩ := foldlM_goes
      (fun waiter (entry : Int × Nat) =>
        SockWaiter.updateTimeout updateTcpSockEvent closes waiter entry.2)
      (fun _ rest state => (∀ entry ∈ rest, waiter.waitingTcpsocks[entry.1]? = some entry.2) ∧
        Registered watching stale state ∧ state.waitingTcpsocks = waiter.waitingTcpsocks ∧
          state.allready = ∅)
      (by
        intro _ entry rest state holds
        obtain ⟨waiting, kept, same, empty⟩ := holds
        have entryWaits := waiting entry (List.mem_cons_self ..)
        obtain ⟨sock, there, own⟩ := kept.waits entry.1 entry.2 (same ▸ entryWaits)
        obtain ⟨next, taken⟩ := updateTimeout_total watching there own.fits closes
        have frame := (updateTimeout_ownSock there taken).frame
        exact ⟨next, taken, fun other member => waiting other (List.mem_cons_of_mem _ member),
          updateTimeout_registered kept taken, frame.waitingTcpsocks.trans same,
          frame.allready.trans empty⟩)
      [] waiter.waitingTcpsocks.toList waiter
      ⟨fun _ member => Std.ExtTreeMap.mem_toList_iff_getElem?_eq_some.mp member, registered, rfl,
        calm.empty⟩
    -- and then what the kernel reports.
    obtain ⟨after, handling, _, _, _, served⟩ := foldlM_goes handleReady
      (fun before rest state => before ++ rest = report ∧ Registered watching stale state ∧
        state.waitingTcpsocks = waiter.waitingTcpsocks ∧ Served (eventFor before) state)
      (by
        intro before entry rest state holds
        obtain ⟨whole, kept, same, served⟩ := holds
        have member : entry ∈ report := by simp [← whole]
        have fresh : entry.1 ∉ before.map Prod.fst := by
          rw [← whole, List.map_append, List.nodup_append] at nodup
          exact fun older => nodup.2.2 _ older _ (by simp) rfl
        have waits : (entry.1 : Int) ∈ state.waitingTcpsocks := by
          rcases registered.watched entry.1 with unwatched | ⟨index, _, waiting, _⟩
          · have unasked : waiter.fds[entry.1]? = none := unwatched
            have asking := asked entry member
            simp [unasked] at asking
          · rw [same, ← Std.ExtTreeMap.isSome_getElem?_iff_mem, waiting]
            rfl
        obtain ⟨next, taken, keptNext, sameNext, servedNext⟩ :=
          handleReady_serves kept served fresh waits (List.all_eq_true.mp events entry member)
        refine ⟨next, taken, ?_, keptNext, sameNext.trans same, servedNext⟩
        rw [List.append_assoc]
        exact whole)
      [] report timed ⟨rfl, timedRegistered, timedWaiting, served_empty timedEmpty⟩
    refine ⟨after, ?_, served⟩
    exact Option.bind_eq_some_iff.mpr ⟨timed, timing, handling⟩

end EpollWaiter

namespace SelectWaiter

open SockWaiter

theorem mem_assign {fdSet : Finset Nat} {fd other : Nat} {cared : Bool} :
    other ∈ assign fdSet fd cared ↔ if other = fd then cared = true else other ∈ fdSet := by
  by_cases same : other = fd <;> cases cared <;> simp [assign, same]

theorem watches_cases {fds after : Fds} {fd : Nat} {soEv : SockEvent}
    (updated : updateTcpSockEvent fds fd soEv = some after) :
    fd < fdSetsize ∧ fds.maxfd ≤ after.maxfd ∧ fd ≤ after.maxfd ∧
      after.sets.readfds = assign fds.sets.readfds fd soEv.hasRead ∧
        after.sets.writefds = assign fds.sets.writefds fd soEv.hasWrite ∧
          after.sets.exceptfds = assign fds.sets.exceptfds fd soEv.hasException := by
  rw [updateTcpSockEvent] at updated
  split at updated
  next fits =>
    obtain rfl := Option.some.inj updated
    exact ⟨fits, Nat.le_max_left _ _, Nat.le_max_right _ _, rfl, rfl, rfl⟩
  next => cases updated

-- select looks at the descriptors up to m_maxfd only.
def watching : Watching updateTcpSockEvent where
  watches fds fd soEv :=
    (fd ∈ fds.sets.readfds ↔ soEv.hasRead = true) ∧
      (fd ∈ fds.sets.writefds ↔ soEv.hasWrite = true) ∧
        (fd ∈ fds.sets.exceptfds ↔ soEv.hasException = true) ∧
          (soEv.hasAny = true → fd ≤ fds.maxfd)
  fits fd := fd < fdSetsize
  fitting updated := (watches_cases updated).1
  total fits _ _ := ⟨_, if_pos fits⟩
  own updated := by
    obtain ⟨_, _, covered, reads, writes, excepts⟩ := watches_cases updated
    simp [reads, writes, excepts, mem_assign, covered]
  others updated different kept := by
    obtain ⟨_, grows, _, reads, writes, excepts⟩ := watches_cases updated
    obtain ⟨keptReads, keptWrites, keptExcepts, covered⟩ := kept
    rw [reads, writes, excepts, mem_assign, mem_assign, mem_assign, if_neg different,
      if_neg different, if_neg different]
    exact ⟨keptReads, keptWrites, keptExcepts, fun any => (covered any).trans grows⟩

theorem handleSock_keeps {stale : Nat -> Prop} {waiter next : SockWaiter Fds} {report : FdSets}
    {closes : Nat -> Bool} {index : Nat} (registered : Registered watching stale waiter)
    (taken : handleSock report closes waiter index = some next) :
    Registered watching stale next ∧ next.pendings = waiter.pendings := by
  obtain ⟨sock, there, taken⟩ := Option.bind_eq_some_iff.mp taken
  have reported := report_registered registered there (eventOf report sock.fd)
  have pendings := (report_frame waiter index sock (eventOf report sock.fd)).2
  split at taken
  next => cases taken
  next =>
    dsimp only at taken
    split at taken
    next => exact Option.some.inj taken ▸ ⟨reported, pendings⟩
    next =>
      obtain ⟨now, thereNow⟩ := updateTimeout_found taken
      exact ⟨updateTimeout_registered reported taken,
        (updateTimeout_ownSock thereNow taken).frame.pendings.trans pendings⟩

theorem lawful : Lawful kind watching where
  initial fd := by simp [watching, kind, SockEvent.noEvent, SockEvent.hasAny]
  handles := by
    intro stale waiter following report closes registered handled
    refine foldlM_keeps
      (fun state => Registered watching stale state ∧ state.pendings = waiter.pendings)
      (fun state entry next kept taken => ?_) ⟨registered, rfl⟩ handled
    obtain ⟨later, pendings⟩ := handleSock_keeps kept.1 taken
    exact ⟨later, pendings.trans kept.2⟩

theorem handleSock_serves {stale : Nat -> Prop} {waiter : SockWaiter Fds} {report : FdSets}
    {closes : Nat -> Bool} {index : Nat} {sock : WaitSock} {before : Nat -> SockEvent}
    (registered : Registered watching stale waiter) (served : Served before waiter)
    (there : waiter.socks[index]? = some sock) (isOpen : sock.isClosed = false)
    (fits : watching.fits sock.fd) (fresh : (before sock.fd).hasAny = false) :
    ∃ next, handleSock report closes waiter index = some next ∧
      Registered watching stale next ∧ next.waitingTcpsocks = waiter.waitingTcpsocks ∧
        (∀ other, other ≠ index → next.socks[other]? = waiter.socks[other]?) ∧
          Served (Function.update before sock.fd (eventOf report sock.fd)) next := by
  have reported := report_registered registered there (eventOf report sock.fd)
  have frame := report_frame waiter index sock (eventOf report sock.fd)
  have reportedServed := served.report registered.apart there fresh (eventOf report sock.fd)
  obtain ⟨changed, socks, sameFd⟩ := report_socks waiter index sock (eventOf report sock.fd)
  have others (other : Nat) (different : other ≠ index) :
      (waiter.report index sock (eventOf report sock.fd)).socks[other]? =
        waiter.socks[other]? := by
    rw [socks, List.getElem?_set_ne different.symm]
  rw [handleSock, there, Option.bind_some, if_neg (by simp [isOpen])]
  by_cases any : (eventOf report sock.fd).hasAny = true
  · exact ⟨_, if_pos any, reported, frame.1, others, reportedServed⟩
  · have thereNow : (waiter.report index sock (eventOf report sock.fd)).socks[index]? =
        some changed := by
      rw [socks, List.getElem?_set_self (List.getElem?_eq_some_iff.mp there).1]
    obtain ⟨next, taken⟩ := updateTimeout_total watching thereNow (sameFd ▸ fits) closes
    have own := updateTimeout_ownSock thereNow taken
    obtain ⟨last, lastSocks, _⟩ := own.own
    refine ⟨next, (if_neg any).trans taken, updateTimeout_registered reported taken,
      own.frame.waitingTcpsocks.trans frame.1, fun other different => ?_,
      reportedServed.ownSock thereNow own⟩
    rw [lastSocks, List.getElem?_set_ne different.symm]
    exact others other different

def eventSeen (report : FdSets) (before : List (Int × Nat)) (fd : Nat) : SockEvent :=
  if (fd : Int) ∈ before.map Prod.fst then eventOf report fd else .noEvent

theorem eventSeen_append (report : FdSets) (before : List (Int × Nat)) (fd index : Nat) :
    eventSeen report (before ++ [((fd : Int), index)]) =
      Function.update (eventSeen report before) fd (eventOf report fd) := by
  funext other
  by_cases same : other = fd
  · subst same
    simp [eventSeen]
  · rw [Function.update_of_ne same]
    exact if_congr (by simp [same]) rfl rfl

theorem eventSeen_all {stale : Nat -> Prop} {waiter : SockWaiter Fds} {report : FdSets}
    (registered : Registered watching stale waiter)
    (legit : mayReport waiter.fds report = true) :
    eventSeen report waiter.waitingTcpsocks.toList = eventOf report := by
  funext fd
  rw [eventSeen]
  split
  next => rfl
  next missing =>
    rcases registered.watched fd with unwatched | ⟨index, _, waiting, _⟩
    · simp only [mayReport, Bool.and_eq_true, decide_eq_true_eq] at legit
      obtain ⟨⟨reads, writes⟩, excepts⟩ := legit
      have unread : fd ∉ report.readfds := fun member =>
        Bool.false_ne_true (unwatched.1.mp (reads member))
      have unwritten : fd ∉ report.writefds := fun member =>
        Bool.false_ne_true (unwatched.2.1.mp (writes member))
      have unexcepted : fd ∉ report.exceptfds := fun member =>
        Bool.false_ne_true (unwatched.2.2.1.mp (excepts member))
      simp [eventOf, SockEvent.noEvent, unread, unwritten, unexcepted]
    · refine (missing (List.mem_map.mpr ⟨((fd : Int), index), ?_, rfl⟩)).elim
      exact Std.ExtTreeMap.mem_toList_iff_getElem?_eq_some.mpr waiting

theorem serves : Serves kind watching eventOf fun _ => true where
  toLawful := lawful
  notices _ _ _ _ _ := rfl
  serves := by
    intro waiter report closes calm legit _
    obtain ⟨stale, registered⟩ := calm.registered
    have nodup := Std.ExtTreeMap.nodup_keys (t := waiter.waitingTcpsocks)
    rw [← Std.ExtTreeMap.map_fst_toList_eq_keys] at nodup
    obtain ⟨after, handled, _, _, _, served⟩ := foldlM_goes
      (fun state (entry : Int × Nat) => handleSock report closes state entry.2)
      (fun before rest state => before ++ rest = waiter.waitingTcpsocks.toList ∧
        (∀ entry ∈ rest, ∃ sock, state.socks[entry.2]? = some sock ∧ sock.isClosed = false ∧
          entry.1 = sock.fd ∧ watching.fits sock.fd) ∧
          Registered watching stale state ∧ Served (eventSeen report before) state)
      (by
        intro before entry rest state holds
        obtain ⟨whole, waiting, kept, served⟩ := holds
        rw [← whole, List.map_append, List.map_cons] at nodup
        obtain ⟨sock, there, isOpen, key, fits⟩ := waiting entry (List.mem_cons_self ..)
        have fresh : (eventSeen report before sock.fd).hasAny = false := by
          rw [eventSeen, if_neg]
          · rfl
          · rw [← key]
            exact fun older =>
              (List.nodup_append.mp nodup).2.2 _ older _ (List.mem_cons_self ..) rfl
        obtain ⟨next, taken, keptNext, _, others, servedNext⟩ :=
          handleSock_serves kept served there isOpen fits fresh
        refine ⟨next, taken, by rw [List.append_assoc]; exact whole, fun other member => ?_,
          keptNext, ?_⟩
        · obtain ⟨otherSock, otherThere, rest⟩ :=
            waiting other (List.mem_cons_of_mem _ member)
          refine ⟨otherSock, (others other.2 fun same => ?_).trans otherThere, rest⟩
          have apart := registered.entries_apart
          rw [← whole, List.map_append, List.map_cons, List.nodup_append] at apart
          have once := (List.nodup_cons.mp apart.2.1).1
          exact once (List.mem_map.mpr ⟨other, member, same⟩)
        · have pair : entry = ((sock.fd : Int), entry.2) := Prod.ext key rfl
          rw [pair, eventSeen_append]
          exact servedNext)
      [] waiter.waitingTcpsocks.toList waiter
      ⟨rfl, fun entry member => by
        have waiting := Std.ExtTreeMap.mem_toList_iff_getElem?_eq_some.mp member
        obtain ⟨sock, there, isOpen⟩ := calm.allOpen entry.1 entry.2 waiting
        obtain ⟨found, foundThere, own⟩ := registered.waits entry.1 entry.2 waiting
        obtain rfl := Option.some.inj (there.symm.trans foundThere)
        exact ⟨sock, there, isOpen, own.key, own.fits⟩, registered, served_empty calm.empty⟩
    rw [List.nil_append, eventSeen_all registered legit] at served
    exact ⟨after, handled, served⟩

end SelectWaiter

namespace SockWaiter

variable {Fds Report : Type} {kind : WaiterKind Fds Report}
  {watching : Watching kind.updateTcpSockEvent} {eventOf : Report -> Nat -> SockEvent}
  {noticed : Report -> Bool} {waiter : SockWaiter Fds} {stale : Nat -> Prop}

theorem wait_calm (registered : Registered watching stale waiter) :
    Calm watching
      { (if waiter.removed then waiter.clearClosedTcpSock else waiter) with
        removed := false, allready := ∅ } := by
  cases removed : waiter.removed with
  | true =>
    obtain ⟨cleared, allOpen⟩ := clearClosedTcpSock_registered registered
    exact ⟨⟨stale, { cleared with }⟩, allOpen, rfl⟩
  | false =>
    refine ⟨⟨stale, { registered with flagged := fun _ => registered.flagged removed }⟩, ?_, rfl⟩
    intro key index waiting
    obtain ⟨sock, there, _⟩ := registered.waits key index waiting
    exact ⟨sock, there, registered.flagged removed key index sock waiting there⟩

theorem Registered.closed (registered : Registered watching stale waiter) {sock : WaitSock}
    (member : sock ∈ waiter.socks) (shut : sock.isClosed = true) :
    watching.watches waiter.fds sock.fd .noEvent := by
  obtain ⟨index, there⟩ := List.getElem?_of_mem member
  rcases registered.watched sock.fd with unwatched | ⟨other, found, _, otherThere, same, isOpen, _⟩
  · exact unwatched
  · obtain rfl := Transition.index_of_value registered.apart otherThere there same
    obtain rfl := Option.some.inj (there.symm.trans otherThere)
    exact (Bool.false_ne_true (isOpen.symm.trans shut)).elim

end SockWaiter

end MessageBus.Net
