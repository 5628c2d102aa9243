import MessageBus.Shared.Accounts
import MessageBus.Shared.Descriptors
import MessageBus.Shared.Transition

set_option autoImplicit false

namespace MessageBus.Net

inductive OpenFile where
  | connection
  -- What Close puts in the place of a connection.
  | devNull
  -- Whatever else the process has open.
  | elsewhere
  deriving DecidableEq, Repr

def OpenFile.ofTcpSock : OpenFile -> Bool
  | connection | devNull => true
  | elsewhere => false

structure SockFd where
  -- m_fd, where -1 is none.
  fd : Option Nat
  isclosing : Bool
  -- m_evloop is set.
  evloop : Bool
  destroyed : Bool
  deriving DecidableEq, Repr

namespace SockFd

def unconnected : SockFd := { fd := none, isclosing := true, evloop := false, destroyed := false }

def accepted (fd : Nat) : SockFd :=
  { fd := some fd, isclosing := false, evloop := false, destroyed := false }

def isClosed (sock : SockFd) : Bool := if sock.fd = none then true else sock.isclosing

-- Close goes on in the loop thread only.
def hops (sock : SockFd) (inLoopThread : Bool) : Bool := sock.evloop && !inLoopThread

def openFd (sock : SockFd) : Option Nat := if sock.isClosed then none else sock.fd

end SockFd

-- How Connect goes on once socket has returned a descriptor.
inductive ConnectResult where
  | connectFailed
  | selectFailed
  | soError
  | connected
  deriving DecidableEq, Repr

structure SockProcess where
  descriptors : DescriptorTable OpenFile
  socks : List SockFd
  -- The calls of Close that wait in the m_pendings of the event loops.
  pendings : List (Nat × Bool)

namespace SockProcess

-- nullfd is what open("/dev/null") returns in a Close that comes so far, none for -1.
inductive Event where
  | newTcpSock
  | accept (fd : Nat)
  | connect (sock : Nat) (fd : Option Nat) (result : ConnectResult) (inLoopThread : Bool)
      (nullfd : Option Nat)
  | addTcpSock (sock : Nat)
  | close (sock : Nat) (needremove inLoopThread : Bool) (nullfd : Option Nat)
  | runPending (index : Nat) (nullfd : Option Nat)
  | destroy (sock : Nat) (inLoopThread : Bool) (nullfd : Option Nat)
  | openElsewhere (fd : Nat)
  | closeElsewhere (fd : Nat)
  deriving DecidableEq, Repr

def initial : SockProcess := { descriptors := fun _ => none, socks := [], pendings := [] }

def sock? (process : SockProcess) (index : Nat) : Option SockFd :=
  (process.socks[index]?).filter fun sock => !sock.destroyed

def setSock (process : SockProcess) (index : Nat) (sock : SockFd) : SockProcess :=
  { process with socks := process.socks.set index sock }

-- open, dup2 and close at the end of Close; ::close(m_fd) is commented out there.
def dropFd (process : SockProcess) (fd : Nat) : Option Nat -> Option SockProcess
  | none => some process
  | some nullfd => (process.descriptors.opened nullfd .devNull).map fun opened =>
    { process with descriptors := (opened.dup2 nullfd fd).close nullfd }

def closeSock (process : SockProcess) (index : Nat) (sock : SockFd)
    (needremove inLoopThread : Bool) (nullfd : Option Nat) : Option SockProcess :=
  match sock.fd with
  | none => some process
  | some fd =>
    if sock.isclosing then some process
    else if sock.hops inLoopThread then
      some { process with pendings := process.pendings ++ [(index, needremove)] }
    else
      (process.dropFd fd nullfd).map fun dropped => dropped.setSock index
        { sock with fd := none, isclosing := true, evloop := sock.evloop && !needremove }

def connectSock (process : SockProcess) (index : Nat) (sock : SockFd) (fd : Option Nat)
    (result : ConnectResult) (inLoopThread : Bool) (nullfd : Option Nat) : Option SockProcess :=
  if sock.fd ≠ none then none
  else
    match fd with
    | none => some process
    | some fd => (process.descriptors.opened fd .connection).bind fun descriptors =>
      let sock := { sock with fd := some fd }
      let created := { process with descriptors }.setSock index sock
      match result with
      | .connectFailed => some created
      | .selectFailed | .soError => created.closeSock index sock true inLoopThread nullfd
      | .connected => some (created.setSock index { sock with isclosing := false })

def step (process : SockProcess) : Event -> Option SockProcess
  | .newTcpSock => some { process with socks := process.socks ++ [.unconnected] }
  | .accept fd =>
    (process.descriptors.opened fd .connection).map fun descriptors =>
      { process with descriptors, socks := process.socks ++ [.accepted fd] }
  | .connect index fd result inLoopThread nullfd =>
    (process.sock? index).bind fun sock =>
      process.connectSock index sock fd result inLoopThread nullfd
  | .addTcpSock index =>
    (process.sock? index).map fun sock => process.setSock index { sock with evloop := true }
  | .close index needremove inLoopThread nullfd =>
    (process.sock? index).bind fun sock =>
      process.closeSock index sock needremove inLoopThread nullfd
  | .runPending index nullfd =>
    (process.pendings[index]?).bind fun task => (process.sock? task.1).bind fun sock =>
      { process with pendings := process.pendings.eraseIdx index }.closeSock task.1 sock task.2 true
        nullfd
  -- A task that waits holds its sock, and where Close(false) would hop shared_from_this throws.
  | .destroy index inLoopThread nullfd =>
    (process.sock? index).bind fun sock =>
      if process.pendings.any (fun task => task.1 == index) then none
      else if !sock.isClosed && sock.hops inLoopThread then none
      else
        (process.closeSock index sock false inLoopThread nullfd).map fun closed =>
          { closed with
            socks := closed.socks.modify index fun sock => { sock with destroyed := true } }
  | .openElsewhere fd =>
    (process.descriptors.opened fd .elsewhere).map fun descriptors => { process with descriptors }
  | .closeElsewhere fd =>
    if process.descriptors fd = some .elsewhere then
      some { process with descriptors := process.descriptors.close fd }
    else none

def inUse (process : SockProcess) (fd : Nat) : Bool :=
  (process.descriptors fd).any OpenFile.ofTcpSock

-- The descriptors in use for TcpSocks are those of the socks that are not closed, and no two of
-- these share one.
structure GivenBack (process : SockProcess) : Prop where
  exact : ∀ fd, process.inUse fd = true ↔
    ∃ sock ∈ process.socks, sock.isClosed = false ∧ sock.fd = some fd
  apart : ∀ (i j : Nat) (sock other : SockFd) (fd : Nat), process.socks[i]? = some sock →
    process.socks[j]? = some other → sock.isClosed = false → other.isClosed = false →
      sock.fd = some fd → other.fd = some fd → i = j

-- Close and the destructor meet closed socks only (or leave the work to the loop thread), and
-- Connect fails before it has a descriptor or not at all.
def givesBack (process : SockProcess) : Event -> Bool
  | .connect _ fd result _ _ => fd.isNone || result == .connected
  | .close index _ inLoopThread _ =>
    (process.sock? index).all fun sock => sock.isClosed || sock.hops inLoopThread
  | .runPending index _ =>
    (process.pendings[index]?).all fun task => (process.sock? task.1).all SockFd.isClosed
  | .destroy index _ _ => (process.sock? index).all SockFd.isClosed
  | .newTcpSock | .accept _ | .addTcpSock _ | .openElsewhere _ | .closeElsewhere _ => true

variable {process following : SockProcess}

def account (process : SockProcess) : Account Nat Nat :=
  { used := { fd | process.inUse fd = true }
    holds := fun index => (process.socks[index]?).bind SockFd.openFd }

theorem openFd_eq_some {sock : SockFd} {fd : Nat} :
    sock.openFd = some fd ↔ sock.isClosed = false ∧ sock.fd = some fd := by
  cases closed : sock.isClosed <;> simp [SockFd.openFd, closed]

theorem holds_eq_some {index fd : Nat} : process.account.holds index = some fd ↔
    ∃ sock, process.socks[index]? = some sock ∧ sock.isClosed = false ∧ sock.fd = some fd := by
  simp only [account, Option.bind_eq_some_iff, openFd_eq_some]

theorem givenBack_iff : process.GivenBack ↔ process.account.Balanced := by
  constructor
  · rintro ⟨exact, apart⟩
    refine ⟨fun fd => (exact fd).trans ?_, ?_⟩
    · simp only [holds_eq_some, List.mem_iff_getElem?]
      constructor
      · rintro ⟨sock, ⟨index, there⟩, opened⟩
        exact ⟨index, sock, there, opened⟩
      · rintro ⟨index, sock, there, opened⟩
        exact ⟨sock, ⟨index, there⟩, opened⟩
    · intro i j fd held elsewhere
      obtain ⟨sock, there, opened, own⟩ := holds_eq_some.mp held
      obtain ⟨other, otherThere, otherOpened, otherOwn⟩ := holds_eq_some.mp elsewhere
      exact apart i j sock other fd there otherThere opened otherOpened own otherOwn
  · rintro ⟨used_iff, apart⟩
    refine ⟨fun fd => (used_iff fd).trans ?_, ?_⟩
    · simp only [holds_eq_some, List.mem_iff_getElem?]
      constructor
      · rintro ⟨index, sock, there, opened⟩
        exact ⟨sock, ⟨index, there⟩, opened⟩
      · rintro ⟨sock, ⟨index, there⟩, opened⟩
        exact ⟨index, sock, there, opened⟩
    · intro i j sock other fd there otherThere opened otherOpened own otherOwn
      exact apart i j fd (holds_eq_some.mpr ⟨sock, there, opened, own⟩)
        (holds_eq_some.mpr ⟨other, otherThere, otherOpened, otherOwn⟩)

structure Held (process : SockProcess) : Prop where
  sound : process.account.Sound
  unconnected : ∀ sock ∈ process.socks, sock.fd = none → sock.isclosing = true

theorem sock?_there {index : Nat} {sock : SockFd} (found : process.sock? index = some sock) :
    process.socks[index]? = some sock :=
  (Option.filter_eq_some_iff.mp found).1

theorem holds_set {index : Nat} {sock : SockFd} (inside : index < process.socks.length) :
    (process.setSock index sock).account.holds =
      Function.update process.account.holds index sock.openFd := by
  funext other
  simp only [account, setSock, List.getElem?_set, Function.update_apply]
  by_cases same : index = other
  · rw [if_pos same, if_pos inside, if_pos same.symm, Option.bind_some]
  · rw [if_neg same, if_neg (Ne.symm same)]

theorem holds_concat (sock : SockFd) (descriptors : DescriptorTable OpenFile) :
    (account { process with descriptors, socks := process.socks ++ [sock] }).holds =
      Function.update process.account.holds process.socks.length sock.openFd := by
  funext other
  simp only [account, Function.update_apply]
  split
  next same => rw [same, List.getElem?_concat_length, Option.bind_some]
  next different =>
    rw [List.getElem?_append]
    split
    · rfl
    next outside =>
      rw [List.getElem?_eq_none (by simp; omega), List.getElem?_eq_none (by omega)]

theorem used_opened {fd : Nat} {file : OpenFile} {descriptors : DescriptorTable OpenFile}
    (taken : process.descriptors.opened fd file = some descriptors) :
    fd ∉ process.account.used ∧ { other | (descriptors other).any OpenFile.ofTcpSock = true } =
      if file.ofTcpSock then insert fd process.account.used else process.account.used := by
  obtain ⟨free, rfl⟩ := DescriptorTable.opened_some taken
  have unused : fd ∉ process.account.used := by simp [account, inUse, free]
  refine ⟨unused, ?_⟩
  ext other
  by_cases same : other = fd
  · cases file <;> simp [same, OpenFile.ofTcpSock, unused]
  · cases file <;> simp [same, OpenFile.ofTcpSock, account, inUse]

theorem dropFd_frame {fd : Nat} {nullfd : Option Nat} {dropped : SockProcess}
    (used : fd ∈ process.account.used) (taken : process.dropFd fd nullfd = some dropped) :
    dropped.account = process.account ∧ dropped.socks = process.socks := by
  cases nullfd with
  | none =>
    cases taken
    exact ⟨rfl, rfl⟩
  | some nullfd =>
    obtain ⟨opened, opens, rfl⟩ := Option.map_eq_some_iff.mp taken
    have other : fd ≠ nullfd := by
      rintro rfl
      exact (used_opened opens).1 used
    refine ⟨?_, rfl⟩
    simp only [account, inUse, DescriptorTable.replaced opens other, Account.mk.injEq, and_true]
    ext descriptor
    by_cases same : descriptor = fd
    · have known : (process.descriptors fd).any OpenFile.ofTcpSock = true := used
      simpa [same, OpenFile.ofTcpSock] using known
    · simp [same]

theorem closeSock_closed {index : Nat} {sock : SockFd} {needremove inLoopThread : Bool}
    {nullfd : Option Nat} (closed : sock.isClosed = true) :
    process.closeSock index sock needremove inLoopThread nullfd = some process := by
  cases descriptor : sock.fd with
  | none => simp [closeSock, descriptor]
  | some fd =>
    simp only [SockFd.isClosed, descriptor, reduceCtorEq, if_false] at closed
    simp [closeSock, descriptor, closed]

theorem closeSock_moves (held : process.Held) {index : Nat} {sock : SockFd}
    (there : process.socks[index]? = some sock) {needremove inLoopThread : Bool}
    {nullfd : Option Nat}
    (taken : process.closeSock index sock needremove inLoopThread nullfd = some following) :
    process.account.Move following.account (sock.isClosed || sock.hops inLoopThread) ∧
      ∀ sock ∈ following.socks, sock.fd = none → sock.isclosing = true := by
  cases closed : sock.isClosed with
  | true =>
    rw [closeSock_closed closed] at taken
    cases taken
    exact ⟨.stay rfl fun _ => rfl, held.unconnected⟩
  | false =>
    cases descriptor : sock.fd with
    | none => simp [SockFd.isClosed, descriptor] at closed
    | some fd =>
      have opened := closed
      simp only [SockFd.isClosed, descriptor, reduceCtorEq, if_false] at opened
      simp only [closeSock, descriptor, opened, Bool.false_eq_true, if_false] at taken
      cases hops : sock.hops inLoopThread with
      | true =>
        rw [hops, if_pos rfl] at taken
        cases taken
        exact ⟨.stay rfl fun _ => rfl, held.unconnected⟩
      | false =>
        simp only [hops, Bool.false_eq_true, if_false] at taken
        obtain ⟨dropped, drops, rfl⟩ := Option.map_eq_some_iff.mp taken
        have holds := holds_eq_some.mpr ⟨sock, there, closed, descriptor⟩
        obtain ⟨same, socks⟩ := dropFd_frame (held.sound.used index fd holds) drops
        have inside := (List.getElem?_eq_some_iff.mp there).1
        have used : dropped.account.used = process.account.used := congrArg Account.used same
        refine ⟨.abandon index fd holds used ?_, ?_⟩
        · rw [holds_set (socks ▸ inside), same]
          simp [SockFd.openFd]
        · intro other member
          rcases List.mem_or_eq_of_mem_set member with older | rfl
          · exact held.unconnected other (socks ▸ older)
          · exact fun _ => rfl

theorem connectSock_moves (held : process.Held) {index : Nat} {sock : SockFd}
    (there : process.socks[index]? = some sock) {fd : Option Nat} {result : ConnectResult}
    {inLoopThread : Bool} {nullfd : Option Nat}
    (taken : process.connectSock index sock fd result inLoopThread nullfd = some following) :
    process.account.Move following.account (fd.isNone || result == .connected) ∧
      ∀ sock ∈ following.socks, sock.fd = none → sock.isclosing = true := by
  simp only [connectSock] at taken
  split at taken
  · cases taken
  next unconnected =>
    have noFd : sock.fd = none := not_not.mp unconnected
    have closing := held.unconnected sock (List.mem_of_getElem? there) noFd
    have inside := (List.getElem?_eq_some_iff.mp there).1
    have empty : process.account.holds index = none := by simp [account, there, SockFd.openFd, noFd]
    have kept {later : SockFd} (connected : later.fd ≠ none) :
        ∀ other ∈ process.socks.set index later, other.fd = none → other.isclosing = true := by
      intro other member idle
      rcases List.mem_or_eq_of_mem_set member with older | rfl
      · exact held.unconnected other older idle
      · exact absurd idle connected
    cases fd with
    | none =>
      cases taken
      exact ⟨.stay rfl fun _ => rfl, held.unconnected⟩
    | some fd =>
      simp only [Option.bind_eq_some_iff] at taken
      obtain ⟨descriptors, opens, taken⟩ := taken
      obtain ⟨free, used⟩ := used_opened opens
      -- m_isclosing is still set, so that Close leaves the descriptor as it is.
      have stranded : process.account.Move (account (setSock { process with descriptors } index
          { sock with fd := some fd })) false := by
        refine .strand fd free used fun owner => ?_
        rw [@holds_set { process with descriptors } index _ inside, Function.update_apply]
        split
        next same => rw [same, empty, SockFd.openFd, SockFd.isClosed, closing]; rfl
        next => rfl
      cases result with
      | connectFailed =>
        cases taken
        exact ⟨stranded, kept (by simp)⟩
      | selectFailed | soError =>
        rw [closeSock_closed (by simp [SockFd.isClosed, closing])] at taken
        cases taken
        exact ⟨stranded, kept (by simp)⟩
      | connected =>
        cases taken
        simp only [setSock, List.set_set]
        refine ⟨.acquire index fd free used empty ?_, kept (by simp)⟩
        exact @holds_set { process with descriptors } index _ inside

-- The flag that says the destructor has run is only for those who look for the object.
theorem destroyed_account (index : Nat) :
    account { process with
      socks := process.socks.modify index fun sock => { sock with destroyed := true } } =
      process.account := by
  simp only [account, inUse, Account.mk.injEq, true_and]
  funext owner
  rw [List.getElem?_modify]
  cases process.socks[owner]? with
  | none => rfl
  | some sock =>
    simp only [Option.bind_some]
    split <;> rfl

theorem destroyed_unconnected (index : Nat)
    (unconnected : ∀ sock ∈ process.socks, sock.fd = none → sock.isclosing = true) :
    ∀ sock ∈ process.socks.modify index fun sock => { sock with destroyed := true },
      sock.fd = none → sock.isclosing = true := by
  intro sock member idle
  obtain ⟨owner, there⟩ := List.mem_iff_getElem?.mp member
  simp only [List.getElem?_modify] at there
  obtain ⟨older, olderThere, rfl⟩ := Option.map_eq_some_iff.mp there
  have still := unconnected older (List.mem_of_getElem? olderThere)
  split at idle
  next isDestroyed =>
    rw [if_pos isDestroyed]
    exact still idle
  next stays =>
    rw [if_neg stays]
    exact still idle

theorem step_moves (held : process.Held) {event : Event}
    (taken : process.step event = some following) :
    process.account.Move following.account (process.givesBack event) ∧
      ∀ sock ∈ following.socks, sock.fd = none → sock.isclosing = true := by
  have kept {other : SockProcess} {proper : Bool}
      (moves : process.account.Move other.account proper) (socks : other.socks = process.socks) :
      process.account.Move other.account proper ∧
        ∀ sock ∈ other.socks, sock.fd = none → sock.isclosing = true :=
    ⟨moves, socks ▸ held.unconnected⟩
  cases event with
  | newTcpSock =>
    cases taken
    refine ⟨.stay rfl fun owner => ?_, ?_⟩
    · rw [holds_concat .unconnected process.descriptors, Function.update_apply]
      split
      next same => simp [same, account, SockFd.openFd, SockFd.isClosed, SockFd.unconnected]
      next => rfl
    · exact List.forall_mem_append.mpr ⟨held.unconnected, by simp [SockFd.unconnected]⟩
  | accept fd =>
    obtain ⟨descriptors, opens, rfl⟩ := Option.map_eq_some_iff.mp taken
    obtain ⟨free, used⟩ := used_opened opens
    refine ⟨.acquire process.socks.length fd free used (by simp [account]) ?_, ?_⟩
    · exact holds_concat (.accepted fd) descriptors
    · exact List.forall_mem_append.mpr ⟨held.unconnected, by simp [SockFd.accepted]⟩
  | connect index fd result inLoopThread nullfd =>
    obtain ⟨sock, found, taken⟩ := Option.bind_eq_some_iff.mp taken
    exact connectSock_moves held (sock?_there found) taken
  | addTcpSock index =>
    obtain ⟨sock, found, rfl⟩ := Option.map_eq_some_iff.mp taken
    have there := sock?_there found
    have inside := (List.getElem?_eq_some_iff.mp there).1
    refine ⟨.stay rfl fun owner => ?_, ?_⟩
    · rw [holds_set inside, Function.update_apply]
      split
      next same => simp [same, account, there, SockFd.openFd, SockFd.isClosed]
      next => rfl
    · intro other member idle
      rcases List.mem_or_eq_of_mem_set member with older | rfl
      · exact held.unconnected other older idle
      · exact held.unconnected sock (List.mem_of_getElem? there) idle
  | close index needremove inLoopThread nullfd =>
    obtain ⟨sock, found, taken⟩ := Option.bind_eq_some_iff.mp taken
    simp only [givesBack, found, Option.all_some]
    exact closeSock_moves held (sock?_there found) taken
  | runPending index nullfd =>
    obtain ⟨task, waits, taken⟩ := Option.bind_eq_some_iff.mp taken
    obtain ⟨sock, found, taken⟩ := Option.bind_eq_some_iff.mp taken
    have dequeued : Held { process with pendings := process.pendings.eraseIdx index } :=
      ⟨held.sound, held.unconnected⟩
    have kind : process.givesBack (.runPending index nullfd) =
        (sock.isClosed || sock.hops true) := by
      simp [givesBack, waits, found, SockFd.hops]
    rw [kind]
    exact closeSock_moves dequeued (sock?_there found) taken
  | destroy index inLoopThread nullfd =>
    obtain ⟨sock, found, taken⟩ := Option.bind_eq_some_iff.mp taken
    split at taken
    · cases taken
    split at taken
    · cases taken
    next stays =>
      obtain ⟨closed, closes, rfl⟩ := Option.map_eq_some_iff.mp taken
      obtain ⟨moves, unconnected⟩ := closeSock_moves held (sock?_there found) closes
      have kind : process.givesBack (.destroy index inLoopThread nullfd) =
          (sock.isClosed || sock.hops inLoopThread) := by
        simp only [givesBack, found, Option.all_some]
        cases isClosed : sock.isClosed <;> simp_all
      rw [kind, destroyed_account]
      exact ⟨moves, destroyed_unconnected index unconnected⟩
  | openElsewhere fd =>
    obtain ⟨descriptors, opens, rfl⟩ := Option.map_eq_some_iff.mp taken
    exact kept (.stay (used_opened opens).2 fun _ => rfl) rfl
  | closeElsewhere fd =>
    simp only [step] at taken
    split at taken <;> cases taken
    next elsewhere =>
      refine kept (.stay ?_ fun _ => rfl) rfl
      ext other
      by_cases same : other = fd
      · simp [account, inUse, DescriptorTable.close, same, elsewhere, OpenFile.ofTcpSock]
      · simp [account, inUse, DescriptorTable.close, same]

theorem held_initial : initial.Held := by
  refine ⟨⟨?_, ?_⟩, by simp [initial]⟩
  · intro index fd held
    simp [initial, account] at held
  · intro index other fd held
    simp [initial, account] at held

theorem givenBack_initial : initial.GivenBack := by
  constructor <;> simp [initial, inUse]

theorem step_held (held : process.Held) {event : Event}
    (taken : process.step event = some following) : following.Held :=
  ⟨(step_moves held taken).1.sound held.sound, (step_moves held taken).2⟩

theorem step_lasting (held : process.Held) (left : ¬ process.GivenBack) {event : Event}
    (taken : process.step event = some following) : ¬ following.GivenBack := by
  have later := step_held held taken
  rw [givenBack_iff, held.sound.balanced_iff] at left
  rw [givenBack_iff, later.sound.balanced_iff]
  push Not at left ⊢
  obtain ⟨fd, lost⟩ := left
  exact ⟨fd, (step_moves held taken).1.lasting lost⟩

theorem step_givesBack (held : process.Held) (exact : process.GivenBack) {event : Event}
    (meets : process.givesBack event = true) (taken : process.step event = some following) :
    following.GivenBack := by
  have moves := (step_moves held taken).1
  rw [meets] at moves
  exact givenBack_iff.mpr (moves.balanced (givenBack_iff.mp exact))

theorem step_leaks (held : process.Held) {event : Event}
    (misses : ¬ process.givesBack event = true) (taken : process.step event = some following) :
    ¬ following.GivenBack := by
  have moves := (step_moves held taken).1
  rw [Bool.eq_false_iff.mpr misses] at moves
  obtain ⟨fd, lost⟩ := moves.loses held.sound
  rw [givenBack_iff, (step_held held taken).sound.balanced_iff]
  exact fun none => none fd lost

theorem descriptors_given_back_iff (events : List Event) (process : SockProcess)
    (ran : Transition.run step initial events = some process) :
    process.GivenBack ↔ Transition.run (Transition.checkedStep step fun before event =>
      before.givesBack event = true) initial events = some process :=
  Transition.holds_iff_checked (fun _ _ _ held taken => step_held held taken)
    (fun _ _ _ held exact meets taken => step_givesBack held exact meets taken)
    (fun _ _ _ held misses taken => step_leaks held misses taken)
    (fun _ _ _ held left taken => step_lasting held left taken)
    held_initial givenBack_initial events ran

-- A client that cannot make a socket at first, and a connection that a server accepts.
def twoConnections : List Event :=
  [.openElsewhere 0, .newTcpSock, .connect 0 none .connected false none,
    .connect 0 (some 1) .connected false none, .accept 2, .addTcpSock 1,
    .close 1 true false none, .closeElsewhere 0, .accept 0]

theorem descriptors_given_back_twoConnections : ∃ process,
    Transition.run step initial twoConnections = some process ∧ process.GivenBack :=
  ⟨_, rfl, (descriptors_given_back_iff twoConnections _ rfl).mpr rfl⟩

-- A connection that is accepted and closed, and a connect that is refused.
def closedAndRefused : List Event :=
  [.accept 3, .addTcpSock 0, .close 0 true true (some 4), .newTcpSock,
    .connect 1 (some 4) .selectFailed false none, .destroy 1 false none]

theorem closed_sock_keeps_descriptor : ∃ process,
    Transition.run step initial closedAndRefused = some process ∧
      process.socks.all SockFd.isClosed = true ∧
      process.descriptors 3 = some .devNull ∧ process.descriptors 4 = some .connection ∧
      ¬ process.GivenBack := by
  refine ⟨_, rfl, by decide, by decide, by decide, ?_⟩
  intro exact
  obtain ⟨sock, member, opened, _⟩ := (exact.exact 3).mp (by decide)
  revert sock
  decide

end SockProcess
end MessageBus.Net
