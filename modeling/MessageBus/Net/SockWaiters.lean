import MessageBus.Net.TcpSock
import MessageBus.Shared.Tables

set_option autoImplicit false

-- SockWaiterBase with its two kinds, EpollWaiter and SelectWaiter.
namespace MessageBus.Net

structure SockTimer where
  isTimeoutNeed : Bool
  timeoutMs : Int
  timeoutRenew : Int
  needRenewTimeout : Bool
  -- When something was last reported or sent, but for a last send, or the timeout was set.
  active : Int
  deriving DecidableEq, Repr

namespace SockTimer

-- The constructors leave need_renew_timeout_ and m_timeout_renew as they are.
def created (needRenewTimeout : Bool) (timeoutRenew : Int) : SockTimer :=
  { isTimeoutNeed := false, timeoutMs := -1, timeoutRenew, needRenewTimeout, active := 0 }

def renewTimeout (timer : SockTimer) (now : Int) : SockTimer :=
  if timer.isTimeoutNeed then
    { timer with timeoutMs := now + timer.timeoutRenew, needRenewTimeout := false }
  else timer

def setTimeout (timer : SockTimer) (toMs now : Int) : SockTimer :=
  if toMs ≤ 0 then { timer with isTimeoutNeed := false }
  else
    { timer with isTimeoutNeed := true, timeoutMs := now + toMs, timeoutRenew := toMs,
                 active := now }

-- A report of the waiter, and a write after which DoSend goes on.
def reported (timer : SockTimer) (now : Int) : SockTimer :=
  { timer.renewTimeout now with active := now }

def sent (timer : SockTimer) (now : Int) : SockTimer :=
  { timer with needRenewTimeout := true, active := now }

-- UpdateTimeout as far as its call of onTimeout, and whether it comes to that.
def updateTimeout (timer : SockTimer) (now : Int) (onTimeout : Bool) : SockTimer × Bool :=
  if timer.isTimeoutNeed then
    let timer := if timer.needRenewTimeout then timer.renewTimeout now else timer
    if now > timer.timeoutMs then
      let timer := timer.renewTimeout now
      if onTimeout then (timer, true) else ({ timer with isTimeoutNeed := false }, false)
    else (timer, false)
  else (timer, false)

end SockTimer

-- A connected TcpSock as the waiter of its event loop sees it.
structure WaitSock where
  -- The descriptor, which stays taken after Close has set m_fd to -1.
  fd : Nat
  isClosed : Bool
  evloop : Bool
  caredev : SockEvent
  sockev : SockEvent
  onTimeout : Bool
  mWriteable : Bool
  allowMoreSend : Bool
  timer : SockTimer
  deriving DecidableEq, Repr

namespace WaitSock

def connected (fd : Nat) (onTimeout : Bool) (timer : SockTimer) : WaitSock :=
  { fd, isClosed := false, evloop := false, caredev := .noEvent, sockev := .noEvent, onTimeout,
    mWriteable := true, allowMoreSend := true, timer }

def getFD (sock : WaitSock) : Int := if sock.isClosed then -1 else sock.fd

-- A write of DoSend that takes something, and onSend where m_outbuf is empty after it.
def doSend (sock : WaitSock) (emptied onSend : Bool) (now : Int) : WaitSock :=
  let allowMoreSend := sock.allowMoreSend && (!emptied || onSend)
  if emptied && !allowMoreSend then
    -- DoSend returns after ShutDownWrite and renews no timeout.
    { sock with allowMoreSend, mWriteable := false }
  else { sock with allowMoreSend, timer := sock.timer.sent now }

end WaitSock

inductive LoopTask where
  | updateTcpSock (sock : Nat)
  | addAndUpdateEvent (sock : Nat) (er : EventResult)
  | close (sock : Nat)
  deriving DecidableEq, Repr

structure TimeoutCall where
  sock : Nat
  now : Int
  active : Int
  timeoutRenew : Int
  deriving DecidableEq, Repr

structure SockWaiter (Fds : Type) where
  -- What the kind of waiter keeps for the kernel.
  fds : Fds
  socks : List WaitSock
  waitingTcpsocks : Std.ExtTreeMap Int Nat
  -- REMOVED in m_allactive.
  removed : Bool
  pendings : List LoopTask
  -- The socks that the last Wait found ready.
  allready : Std.ExtTreeMap Int Nat
  -- The calls of onTimeout, and the last time that was read from the clock.
  timeouts : List TimeoutCall
  clock : Int

-- What EpollWaiter and SelectWaiter do each in their own way.
structure WaiterKind (Fds Report : Type) where
  initial : Fds
  updateTcpSockEvent : Fds -> Nat -> SockEvent -> Option Fds
  -- The answers that the kernel may give.
  mayReport : Fds -> Report -> Bool
  -- What Wait does with an answer, after the closed socks are cleared; none stands for -1.
  handle : SockWaiter Fds -> Option Report -> (Nat -> Bool) -> Option (SockWaiter Fds)

namespace SockWaiter

variable {Fds Report : Type} (update : Fds -> Nat -> SockEvent -> Option Fds)

def setSock (waiter : SockWaiter Fds) (index : Nat) (sock : WaitSock) : SockWaiter Fds :=
  { waiter with socks := waiter.socks.set index sock }

-- Each function gives none where an assertion fails, as here for the -1 of a closed sock.
def updateTcpSockEvent (waiter : SockWaiter Fds) (sock : WaitSock) : Option (SockWaiter Fds) :=
  if sock.isClosed then none
  else (update waiter.fds sock.fd sock.caredev).map fun fds => { waiter with fds }

def removeTcpSock (waiter : SockWaiter Fds) (index : Nat) (sock : WaitSock) :
    Option (SockWaiter Fds) :=
  let sock := { sock with caredev := .noEvent }
  (updateTcpSockEvent update (waiter.setSock index sock) sock).map fun waiter =>
    { waiter with removed := true }

def updateTcpSockInLoop (waiter : SockWaiter Fds) (index : Nat) : Option (SockWaiter Fds) :=
  (waiter.socks[index]?).bind fun sock =>
    (updateTcpSockEvent update waiter sock).bind fun waiter =>
      if sock.caredev.hasAny then
        -- The sock that waits with this descriptor has it still.
        if (waiter.waitingTcpsocks[sock.getFD]?).all fun waiting =>
            (waiter.socks[waiting]?).any fun other => other.getFD == sock.getFD then
          some { waiter with waitingTcpsocks := waiter.waitingTcpsocks.insert sock.getFD index }
        else none
      else removeTcpSock update waiter index sock

def updateTcpSock (waiter : SockWaiter Fds) (index : Nat) (inLoopThread : Bool) :
    Option (SockWaiter Fds) :=
  if inLoopThread then updateTcpSockInLoop update waiter index
  else some { waiter with pendings := waiter.pendings ++ [.updateTcpSock index] }

-- Close in the loop thread; the descriptor itself is kept open on /dev/null.
def closeInLoop (waiter : SockWaiter Fds) (index : Nat) : Option (SockWaiter Fds) :=
  (waiter.socks[index]?).bind fun sock =>
    if sock.isClosed then some waiter
    else
      let closed := { sock with
        isClosed := true, evloop := false, onTimeout := false, caredev := .noEvent
        mWriteable := false, allowMoreSend := false
        timer := { sock.timer with isTimeoutNeed := false } }
      if sock.evloop then
        (removeTcpSock update waiter index sock).map fun waiter => waiter.setSock index closed
      else some (waiter.setSock index { closed with caredev := sock.caredev })

def clearClosedTcpSock (waiter : SockWaiter Fds) : SockWaiter Fds :=
  { waiter with waitingTcpsocks := waiter.waitingTcpsocks.filter fun _ index =>
      (waiter.socks[index]?).any fun sock => !sock.isClosed }

-- UpdateTimeout of a sock; onTimeout closes it or does not.
def updateTimeout (closes : Nat -> Bool) (waiter : SockWaiter Fds) (index : Nat) :
    Option (SockWaiter Fds) :=
  (waiter.socks[index]?).bind fun sock =>
    let (timer, called) := sock.timer.updateTimeout waiter.clock sock.onTimeout
    let updated := waiter.setSock index { sock with timer }
    if called then
      let called := { updated with
        timeouts := updated.timeouts ++ [{
          sock := index, now := waiter.clock, active := sock.timer.active
          timeoutRenew := sock.timer.timeoutRenew }] }
      if closes index then closeInLoop update called index else some called
    else some updated

-- The sock gets the events; one with any is ready.
def report (waiter : SockWaiter Fds) (index : Nat) (sock : WaitSock) (sockev : SockEvent) :
    SockWaiter Fds :=
  if sockev.hasAny then
    { waiter.setSock index { sock with sockev, timer := sock.timer.reported waiter.clock } with
      allready := waiter.allready.insert sock.getFD index }
  else waiter.setSock index { sock with sockev }

inductive Event (Report : Type) where
  | newTcpSock (fd : Nat) (onTimeout needRenewTimeout : Bool) (timeoutRenew : Int)
  | setTimeout (sock : Nat) (toMs now : Int)
  | addTcpSock (sock : Nat) (inLoopThread : Bool)
  | addAndUpdateEvent (sock : Nat) (er : EventResult) (inLoopThread : Bool)
  | removeAndUpdateEvent (sock : Nat) (er : EventResult) (inLoopThread : Bool)
  | disAllowSend (sock : Nat) (outbufEmpty inLoopThread : Bool)
  | shutDownWrite (sock : Nat)
  | sent (sock : Nat) (emptied onSend : Bool) (now : Int)
  | close (sock : Nat) (inLoopThread : Bool)
  | runTask
  | wait (report : Option Report) (now : Int) (closes : Nat -> Bool)

-- The call that changes the cared events, of a sock that is in the event loop.
def careFor (waiter : SockWaiter Fds) (index : Nat) (sock : WaitSock) (caredev : SockEvent)
    (inLoopThread : Bool) : Option (SockWaiter Fds) :=
  updateTcpSock update (waiter.setSock index { sock with caredev }) index inLoopThread

-- EventLoop::UpdateTcpSock, which both come to, asserts that the thread is that of the loop.
def changeCared (skips : SockEvent -> Bool) (change : SockEvent -> SockEvent)
    (waiter : SockWaiter Fds) (index : Nat) (inLoopThread : Bool) : Option (SockWaiter Fds) :=
  (waiter.socks[index]?).bind fun sock =>
    if !sock.evloop || skips sock.caredev then some waiter
    else if inLoopThread then careFor update waiter index sock (change sock.caredev) inLoopThread
    else none

def addAndUpdateEvent (waiter : SockWaiter Fds) (index : Nat) (er : EventResult)
    (inLoopThread : Bool) : Option (SockWaiter Fds) :=
  changeCared update (fun caredev => caredev.hasEvent er) (fun caredev => caredev.addEvent er)
    waiter index inLoopThread

def removeAndUpdateEvent (waiter : SockWaiter Fds) (index : Nat) (er : EventResult)
    (inLoopThread : Bool) : Option (SockWaiter Fds) :=
  changeCared update (fun caredev => !caredev.hasEvent er)
    (fun caredev => caredev.removeEvent er) waiter index inLoopThread

-- ShutDownWrite is for the write thread, which may come to it at any later time.
def disAllowSend (waiter : SockWaiter Fds) (index : Nat) (outbufEmpty inLoopThread : Bool) :
    Option (SockWaiter Fds) :=
  (waiter.socks[index]?).bind fun sock =>
    let disallowed := waiter.setSock index { sock with allowMoreSend := false }
    if !sock.evloop || outbufEmpty then some disallowed
    else if inLoopThread then addAndUpdateEvent update disallowed index .write inLoopThread
    else
      some { disallowed with
        pendings := disallowed.pendings ++ [.addAndUpdateEvent index .write] }

variable (kind : WaiterKind Fds Report)

def initial : SockWaiter Fds :=
  { fds := kind.initial, socks := [], waitingTcpsocks := ∅, removed := false, pendings := [],
    allready := ∅, timeouts := [], clock := 0 }

def at? (waiter : SockWaiter Fds) (now : Int) : Option (SockWaiter Fds) :=
  if waiter.clock ≤ now then some { waiter with clock := now } else none

def step (waiter : SockWaiter Fds) : Event Report -> Option (SockWaiter Fds)
  -- accept and socket return no descriptor that is in use.
  | .newTcpSock fd onTimeout needRenewTimeout timeoutRenew =>
    if waiter.socks.all fun sock => sock.fd != fd then
      let timer := .created needRenewTimeout timeoutRenew
      some { waiter with socks := waiter.socks ++ [.connected fd onTimeout timer] }
    else none
  | .setTimeout index toMs now =>
    (waiter.at? now).bind fun waiter =>
      (waiter.socks[index]?).map fun sock =>
        waiter.setSock index { sock with timer := sock.timer.setTimeout toMs now }
  -- Only connections that are open are added.
  | .addTcpSock index inLoopThread =>
    ((waiter.socks[index]?).filter fun sock => !sock.isClosed).bind fun sock =>
      let caredev := (sock.caredev.addEvent .read).addEvent .exception
      careFor kind.updateTcpSockEvent waiter index { sock with evloop := true } caredev inLoopThread
  | .addAndUpdateEvent index er inLoopThread =>
    addAndUpdateEvent kind.updateTcpSockEvent waiter index er inLoopThread
  | .removeAndUpdateEvent index er inLoopThread =>
    removeAndUpdateEvent kind.updateTcpSockEvent waiter index er inLoopThread
  | .disAllowSend index outbufEmpty inLoopThread =>
    disAllowSend kind.updateTcpSockEvent waiter index outbufEmpty inLoopThread
  | .shutDownWrite index =>
    (waiter.socks[index]?).map fun sock =>
      if sock.isClosed then waiter else waiter.setSock index { sock with mWriteable := false }
  -- SendDataInLoop and HandleEvent come to DoSend with a sock that is open and writeable.
  | .sent index emptied onSend now =>
    (waiter.at? now).bind fun waiter =>
      ((waiter.socks[index]?).filter fun sock => !sock.isClosed && sock.mWriteable).map
        fun sock => waiter.setSock index (sock.doSend emptied onSend now)
  | .close index inLoopThread =>
    (waiter.socks[index]?).bind fun sock =>
      if sock.evloop && !inLoopThread then
        some { waiter with pendings := waiter.pendings ++ [.close index] }
      else closeInLoop kind.updateTcpSockEvent waiter index
  | .runTask =>
    match waiter.pendings with
    | [] => none
    | .updateTcpSock index :: rest =>
      updateTcpSockInLoop kind.updateTcpSockEvent { waiter with pendings := rest } index
    | .addAndUpdateEvent index er :: rest =>
      addAndUpdateEvent kind.updateTcpSockEvent { waiter with pendings := rest } index er true
    | .close index :: rest =>
      closeInLoop kind.updateTcpSockEvent { waiter with pendings := rest } index
  | .wait report now closes =>
    if report.all (kind.mayReport waiter.fds) then
      (waiter.at? now).bind fun waiter =>
        let cleared := if waiter.removed then waiter.clearClosedTcpSock else waiter
        kind.handle { cleared with removed := false, allready := ∅ } report closes
    else none

end SockWaiter

-- The bits that EpollWaiter uses; EPOLLET is always set.
structure EpollMask where
  epollin : Bool
  epollpri : Bool
  epollout : Bool
  epollerr : Bool
  epollhup : Bool
  deriving DecidableEq, Repr

namespace EpollWaiter

-- What the epoll descriptor watches, besides the notify pipe.
abbrev Epfd := Std.ExtTreeMap Nat EpollMask

abbrev Report := List (Nat × EpollMask)

def epollQueueLen : Nat := 32

def maskOf (soEv : SockEvent) : EpollMask :=
  { epollin := soEv.hasRead, epollpri := soEv.hasRead, epollout := soEv.hasWrite
    epollerr := soEv.hasRead || soEv.hasException, epollhup := false }

def updateTcpSockEvent (epfd : Epfd) (fd : Nat) (soEv : SockEvent) : Option Epfd :=
  let deleted := epfd.erase fd
  some (if soEv.hasAny then deleted.insert fd (maskOf soEv) else deleted)

-- The events asked for, and errors and hang-ups in any case.
def mayReturn (asked returned : EpollMask) : Bool :=
  (returned.epollin || returned.epollpri || returned.epollout || returned.epollerr ||
      returned.epollhup) &&
    (!returned.epollin || asked.epollin) && (!returned.epollpri || asked.epollpri) &&
      (!returned.epollout || asked.epollout)

def mayReport (epfd : Epfd) (report : Report) : Bool :=
  report.length ≤ epollQueueLen && (report.map Prod.fst).Nodup &&
    report.all fun entry => (epfd[entry.1]?).any fun asked => mayReturn asked entry.2

def eventOf (events : EpollMask) : SockEvent :=
  { hasRead := events.epollin || events.epollpri, hasWrite := events.epollout
    hasException := events.epollerr }

-- One turn of the loop over the events, which asserts that there is a sock and that it is ready.
def handleReady (waiter : SockWaiter Epfd) (entry : Nat × EpollMask) : Option (SockWaiter Epfd) :=
  (waiter.waitingTcpsocks[(entry.1 : Int)]?).bind fun index =>
    (waiter.socks[index]?).bind fun sock =>
      if (eventOf entry.2).hasAny then some (waiter.report index sock (eventOf entry.2)) else none

def handle (waiter : SockWaiter Epfd) (report : Option Report) (closes : Nat -> Bool) :
    Option (SockWaiter Epfd) :=
  match report with
  | none => some waiter
  | some events =>
    (waiter.waitingTcpsocks.toList.foldlM (fun waiter entry =>
      SockWaiter.updateTimeout updateTcpSockEvent closes waiter entry.2) waiter).bind fun waiter =>
        events.foldlM handleReady waiter

def kind : WaiterKind Epfd Report := { initial := ∅, updateTcpSockEvent, mayReport, handle }

end EpollWaiter

namespace SelectWaiter

structure FdSets where
  readfds : Finset Nat
  writefds : Finset Nat
  exceptfds : Finset Nat
  deriving DecidableEq

structure Fds where
  sets : FdSets
  maxfd : Nat
  deriving DecidableEq

-- FD_CLR and, where the event is cared for, FD_SET.
def assign (fdSet : Finset Nat) (fd : Nat) (cared : Bool) : Finset Nat :=
  if cared then insert fd (fdSet.erase fd) else fdSet.erase fd

def fdSetsize : Nat := 1024

-- The macros have no bit for a greater descriptor.
def updateTcpSockEvent (fds : Fds) (fd : Nat) (soEv : SockEvent) : Option Fds :=
  if fd < fdSetsize then
    some {
      sets := {
        readfds := assign fds.sets.readfds fd soEv.hasRead
        writefds := assign fds.sets.writefds fd soEv.hasWrite
        exceptfds := assign fds.sets.exceptfds fd soEv.hasException }
      maxfd := max fds.maxfd fd }
  else none

-- select leaves of the sets what is ready.
def mayReport (fds : Fds) (report : FdSets) : Bool :=
  report.readfds ⊆ fds.sets.readfds && report.writefds ⊆ fds.sets.writefds &&
    report.exceptfds ⊆ fds.sets.exceptfds

def eventOf (report : FdSets) (fd : Nat) : SockEvent :=
  { hasRead := fd ∈ report.readfds, hasWrite := fd ∈ report.writefds
    hasException := fd ∈ report.exceptfds }

-- One turn of the loop over m_waiting_tcpsocks; there is no bit for the -1 of a closed sock.
def handleSock (report : FdSets) (closes : Nat -> Bool) (waiter : SockWaiter Fds) (index : Nat) :
    Option (SockWaiter Fds) :=
  (waiter.socks[index]?).bind fun sock =>
    if sock.isClosed then none
    else
      let sockev := eventOf report sock.fd
      let reported := waiter.report index sock sockev
      if sockev.hasAny then some reported
      else SockWaiter.updateTimeout updateTcpSockEvent closes reported index

-- A select that is interrupted leaves the sets as they were.
def handle (waiter : SockWaiter Fds) (report : Option FdSets) (closes : Nat -> Bool) :
    Option (SockWaiter Fds) :=
  waiter.waitingTcpsocks.toList.foldlM (fun waiter' entry =>
    handleSock (report.getD waiter.fds.sets) closes waiter' entry.2) waiter

def kind : WaiterKind Fds FdSets :=
  { initial := { sets := { readfds := ∅, writefds := ∅, exceptfds := ∅ }, maxfd := 0 },
    updateTcpSockEvent, mayReport, handle }

end SelectWaiter
end MessageBus.Net
