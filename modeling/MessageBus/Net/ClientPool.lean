import MessageBus.Shared.Bytes
import MessageBus.Shared.Transition

set_option autoImplicit false

namespace MessageBus.Net

-- host_ip and host_port.
abbrev DestHost := Bytes × UInt16

structure ClientSock where
  fd : Int
  isclosing : Bool
  desthost : DestHost
  -- AddTcpSockToLoop gave it to the event loop, which may handle its events from then on.
  inLoop : Bool
  -- Its close or error callback has run.
  called : Bool
  deriving DecidableEq, Repr

namespace ClientSock

def connected (fd : Int) (desthost : DestHost) : ClientSock :=
  { fd, isclosing := false, desthost, inLoop := false, called := false }

def isClosed (sock : ClientSock) : Bool := sock.fd == -1 || sock.isclosing

def getDestHost (sock : ClientSock) : Option DestHost :=
  if sock.desthost.1 = [] then none else some sock.desthost

-- TcpSock::Close forgets the address, but not the port, of the other side.
def close (sock : ClientSock) : ClientSock :=
  { sock with fd := -1, isclosing := true, desthost := ([], sock.desthost.2) }

def isSameTcpSock (left right : ClientSock) : Bool :=
  if left.isClosed || right.isClosed then false else left.fd == right.fd

end ClientSock

structure CreateCall where
  host : DestHost
  realneedNum : Int
  deriving DecidableEq, Repr

inductive CreatePhase where
  | idle (returned : Option Bool)
  | connecting (call : CreateCall)
  | adding (call : CreateCall) (newtcp : Nat)
  | posting (call : CreateCall) (newtcp : Nat)
  | storing (call : CreateCall) (newtcp : Nat)
  deriving DecidableEq, Repr

def CreatePhase.newtcp : CreatePhase -> Option (CreateCall × Nat)
  | .idle _ | .connecting _ => none
  | .adding call newtcp | .posting call newtcp | .storing call newtcp => some (call, newtcp)

structure TcpClientPool where
  -- Every connection that was ever made, open or closed.
  socks : List ClientSock
  tcpclientPool : DestHost -> Option (List Nat)
  selectCounter : DestHost -> Option Int32
  callers : Nat -> CreatePhase

namespace TcpClientPool

inductive Event where
  | createTcpSock (thread : Nat) (host : DestHost) (num : Int)
  | finish (thread : Nat)
  | connect (thread : Nat) (connected : Option Int)
  | addTcpSockToLoop (thread : Nat) (added : Bool)
  | postcb (thread : Nat) (posted : Bool)
  | store (thread : Nat)
  | callback (sock : Nat)
  | close (sock : Nat)
  | getTcpSockByDestHost (host : DestHost)
  deriving DecidableEq, Repr

def initial : TcpClientPool :=
  { socks := [], tcpclientPool := fun _ => none, selectCounter := fun _ => none,
    callers := fun _ => .idle none }

def setCaller (pool : TcpClientPool) (thread : Nat) (phase : CreatePhase) : TcpClientPool :=
  { pool with callers := Function.update pool.callers thread phase }

-- The int counter becomes a size_t before the remainder is taken.
def getTcpSockByDestHost (pool : TcpClientPool) (host : DestHost) : Option Nat × TcpClientPool :=
  match pool.tcpclientPool host with
  | none | some [] => (none, pool)
  | some (first :: others) =>
    let allConn := first :: others
    let counter := (pool.selectCounter host).getD 0
    (allConn[(counter.toInt % 2 ^ 64).toNat % allConn.length]?,
      { pool with
        selectCounter := Function.update pool.selectCounter host (some (counter + 1)) })

def removeTcpSock (pool : TcpClientPool) (spTcp : ClientSock) : TcpClientPool :=
  match spTcp.getDestHost with
  | none => pool
  | some host =>
    match pool.tcpclientPool host with
    | none => pool
    | some conns =>
      let kept := conns.filter fun conn =>
        !(pool.socks[conn]?).any fun right => spTcp.isSameTcpSock right
      { pool with tcpclientPool := Function.update pool.tcpclientPool host (some kept) }

-- The second locked section of CreateTcpSock.
def storeNew (pool : TcpClientPool) (host : DestHost) (newtcp : Nat) : TcpClientPool :=
  match pool.tcpclientPool host with
  | some conns =>
    { pool with
      tcpclientPool := Function.update pool.tcpclientPool host (some (conns ++ [newtcp])) }
  | none =>
    { pool with
      tcpclientPool := Function.update pool.tcpclientPool host (some [newtcp])
      selectCounter := Function.update pool.selectCounter host (some 0) }

def step (pool : TcpClientPool) : Event -> Option TcpClientPool
  | .createTcpSock thread host num =>
    match pool.callers thread with
    | .idle _ =>
      let realneedNum :=
        match pool.tcpclientPool host with
        | some allConn => num - allConn.length
        | none => num
      some (pool.setCaller thread (.connecting { host, realneedNum }))
    | _ => none
  | .finish thread =>
    match pool.callers thread with
    | .connecting call =>
      if call.realneedNum - 1 < 0 then some (pool.setCaller thread (.idle (some true))) else none
    | _ => none
  | .connect thread connected =>
    match pool.callers thread, connected with
    | .connecting call, some fd =>
      if 0 ≤ call.realneedNum - 1 ∧ 0 ≤ fd ∧ ∀ sock ∈ pool.socks, sock.fd ≠ fd then
        let call := { call with realneedNum := call.realneedNum - 1 }
        let entered := pool.setCaller thread (.adding call pool.socks.length)
        some { entered with socks := pool.socks ++ [.connected fd call.host] }
      else none
    | .connecting call, none =>
      if 0 ≤ call.realneedNum - 1 then some (pool.setCaller thread (.idle (some false))) else none
    | _, _ => none
  | .addTcpSockToLoop thread added =>
    match pool.callers thread with
    | .adding call newtcp =>
      if added then
        (pool.socks[newtcp]?).map fun sock =>
          let entered := pool.setCaller thread (.posting call newtcp)
          { entered with socks := pool.socks.set newtcp { sock with inLoop := true } }
      else some (pool.setCaller thread (.idle (some false)))
    | _ => none
  | .postcb thread posted =>
    match pool.callers thread with
    | .posting call newtcp =>
      some (pool.setCaller thread (if posted then .storing call newtcp else .idle (some false)))
    | _ => none
  | .store thread =>
    match pool.callers thread with
    | .storing call newtcp =>
      some ((pool.storeNew call.host newtcp).setCaller thread (.connecting call))
    | _ => none
  -- HandleEvent, or DoSend after a failed write, runs onClose or onError on an open connection.
  | .callback ref =>
    (pool.socks[ref]?).bind fun sock =>
      if sock.inLoop && !sock.isClosed then
        let removed := pool.removeTcpSock sock
        some { removed with socks := pool.socks.set ref { sock with called := true } }
      else none
  | .close ref =>
    (pool.socks[ref]?).bind fun sock =>
      if sock.called && !sock.isClosed then
        some { pool with socks := pool.socks.set ref sock.close }
      else none
  | .getTcpSockByDestHost host => some (pool.getTcpSockByDestHost host).2

def NeverDead (pool : TcpClientPool) : Prop :=
  ∀ host ref sock, (pool.getTcpSockByDestHost host).1 = some ref → pool.socks[ref]? = some sock →
    ¬ (sock.called = true ∧ sock.isClosed = true)

-- CreateTcpSock puts a connection into the pool before the callback of the connection runs, and
-- under an address that GetDestHost gives back.
def storesLive (pool : TcpClientPool) : Event -> Bool
  | .store thread =>
    match pool.callers thread with
    | .storing call newtcp =>
      !call.host.1.isEmpty && (pool.socks[newtcp]?).any fun sock => !sock.called
    | _ => true
  | _ => true

structure Live (pool : TcpClientPool) : Prop where
  closed : ∀ (ref : Nat) (sock : ClientSock), pool.socks[ref]? = some sock →
    sock.isClosed = true → sock.called = true
  held : ∀ thread call newtcp, (pool.callers thread).newtcp = some (call, newtcp) →
    ∃ sock : ClientSock, pool.socks[newtcp]? = some sock ∧
      (sock.called = false → sock.desthost = call.host)
  pooled : ∀ host conns ref, pool.tcpclientPool host = some conns → ref ∈ conns →
    host.1 ≠ [] ∧ ∃ sock : ClientSock, pool.socks[ref]? = some sock ∧ sock.called = false ∧
      sock.desthost = host

theorem live_initial : initial.Live := by
  constructor <;> simp [initial, CreatePhase.newtcp]

theorem get_from_pool {pool : TcpClientPool} {host : DestHost} {ref : Nat}
    (got : (pool.getTcpSockByDestHost host).1 = some ref) :
    ∃ conns, pool.tcpclientPool host = some conns ∧ ref ∈ conns := by
  unfold getTcpSockByDestHost at got
  split at got
  · cases got
  · cases got
  next first others found => exact ⟨first :: others, found, List.mem_of_getElem? got⟩

theorem get_frame (pool : TcpClientPool) (host : DestHost) :
    (pool.getTcpSockByDestHost host).2.socks = pool.socks ∧
      (pool.getTcpSockByDestHost host).2.tcpclientPool = pool.tcpclientPool ∧
      (pool.getTcpSockByDestHost host).2.callers = pool.callers := by
  unfold getTcpSockByDestHost
  split <;> exact ⟨rfl, rfl, rfl⟩

theorem Live.neverDead {pool : TcpClientPool} (live : pool.Live) : pool.NeverDead := by
  intro host ref sock got there dead
  obtain ⟨conns, found, member⟩ := get_from_pool got
  obtain ⟨_, pooled, pooledThere, uncalled, _⟩ := live.pooled host conns ref found member
  rw [there] at pooledThere
  cases pooledThere
  rw [uncalled] at dead
  exact Bool.false_ne_true dead.1

theorem setCaller_held {pool : TcpClientPool} {thread : Nat} {phase : CreatePhase}
    {standing : CreateCall → Nat → Prop}
    (held : ∀ other call newtcp, (pool.callers other).newtcp = some (call, newtcp) →
      standing call newtcp)
    (kept : ∀ call newtcp, phase.newtcp = some (call, newtcp) → standing call newtcp)
    (other : Nat) (call : CreateCall) (newtcp : Nat)
    (holds : ((pool.setCaller thread phase).callers other).newtcp = some (call, newtcp)) :
    standing call newtcp := by
  by_cases same : other = thread
  · subst same
    simp only [setCaller, Function.update_self] at holds
    exact kept call newtcp holds
  · simp only [setCaller, Function.update_of_ne same] at holds
    exact held other call newtcp holds

theorem storeNew_frame (pool : TcpClientPool) (host : DestHost) (newtcp : Nat) :
    (pool.storeNew host newtcp).socks = pool.socks ∧
      (pool.storeNew host newtcp).callers = pool.callers := by
  unfold storeNew
  split <;> exact ⟨rfl, rfl⟩

theorem storeNew_member {pool : TcpClientPool} {host other : DestHost} {newtcp ref : Nat}
    {conns : List Nat} (found : (pool.storeNew host newtcp).tcpclientPool other = some conns)
    (member : ref ∈ conns) :
    (other = host ∧ ref = newtcp) ∨
      ∃ before, pool.tcpclientPool other = some before ∧ ref ∈ before := by
  unfold storeNew at found
  by_cases same : other = host
  · subst same
    split at found
    next before known =>
      simp only [Function.update_self, Option.some.injEq] at found
      rw [← found, List.mem_append, List.mem_singleton] at member
      exact member.elim (fun older => .inr ⟨before, known, older⟩) fun newer => .inl ⟨rfl, newer⟩
    next =>
      simp only [Function.update_self, Option.some.injEq] at found
      rw [← found, List.mem_singleton] at member
      exact .inl ⟨rfl, member⟩
  · split at found <;> simp only [Function.update_of_ne same] at found <;>
      exact .inr ⟨conns, found, member⟩

theorem removeTcpSock_frame (pool : TcpClientPool) (spTcp : ClientSock) :
    (pool.removeTcpSock spTcp).socks = pool.socks ∧
      (pool.removeTcpSock spTcp).callers = pool.callers := by
  unfold removeTcpSock
  split
  · exact ⟨rfl, rfl⟩
  · split <;> exact ⟨rfl, rfl⟩

theorem removeTcpSock_member {pool : TcpClientPool} {spTcp : ClientSock} {host : DestHost}
    {conns : List Nat} {ref : Nat}
    (found : (pool.removeTcpSock spTcp).tcpclientPool host = some conns) (member : ref ∈ conns) :
    ∃ before, pool.tcpclientPool host = some before ∧ ref ∈ before ∧
      (spTcp.getDestHost = some host → ∀ right : ClientSock, pool.socks[ref]? = some right →
        spTcp.isSameTcpSock right = false) := by
  unfold removeTcpSock at found
  split at found
  next unknown => exact ⟨conns, found, member, fun known => by rw [unknown] at known; cases known⟩
  next destHost known =>
    split at found
    next missing =>
      refine ⟨conns, found, member, ?_⟩
      intro same
      rw [known, Option.some.injEq] at same
      rw [← same, missing] at found
      cases found
    next before there =>
      by_cases same : host = destHost
      · subst same
        simp only [Function.update_self, Option.some.injEq] at found
        rw [← found, List.mem_filter] at member
        refine ⟨before, there, member.1, ?_⟩
        intro _ right rightThere
        simpa [rightThere] using member.2
      · simp only [Function.update_of_ne same] at found
        refine ⟨conns, found, member, ?_⟩
        intro isHost
        rw [known, Option.some.injEq] at isHost
        exact absurd isHost.symm same

theorem isSameTcpSock_self {sock : ClientSock} (isOpen : sock.isClosed = false) :
    sock.isSameTcpSock sock = true := by
  simp [ClientSock.isSameTcpSock, isOpen]

section Steps

variable {pool : TcpClientPool} (live : pool.Live)

include live

theorem Live.setCaller {thread : Nat} {phase : CreatePhase}
    (kept : ∀ call newtcp, phase.newtcp = some (call, newtcp) →
      ∃ sock : ClientSock, pool.socks[newtcp]? = some sock ∧
        (sock.called = false → sock.desthost = call.host)) :
    (pool.setCaller thread phase).Live := by
  refine { closed := live.closed, pooled := live.pooled, held := ?_ }
  exact setCaller_held live.held kept

theorem Live.connect {fd : Int} (host : DestHost) (valid : 0 ≤ fd) :
    Live { pool with socks := pool.socks ++ [.connected fd host] } := by
  have kept {ref : Nat} {sock : ClientSock} (there : pool.socks[ref]? = some sock) :
      (pool.socks ++ [ClientSock.connected fd host])[ref]? = some sock :=
    (List.getElem?_append_left (List.getElem?_eq_some_iff.mp there).1).trans there
  constructor
  · intro ref sock there isClosed
    rcases Transition.found_in_concat there with older | ⟨rfl, rfl⟩
    · exact live.closed ref sock older isClosed
    · have closed : fd = -1 := by simpa [ClientSock.isClosed, ClientSock.connected] using isClosed
      omega
  · intro thread call newtcp holds
    obtain ⟨sock, there, ownHost⟩ := live.held thread call newtcp holds
    exact ⟨sock, kept there, ownHost⟩
  · intro other conns ref found member
    obtain ⟨named, sock, there, rest⟩ := live.pooled other conns ref found member
    exact ⟨named, sock, kept there, rest⟩

theorem Live.setSock {ref : Nat} {sock changed : ClientSock} (there : pool.socks[ref]? = some sock)
    (sameCalled : changed.called = sock.called)
    (closed : changed.isClosed = true → changed.called = true)
    (sameHost : changed.called = false → changed.desthost = sock.desthost) :
    Live { pool with socks := pool.socks.set ref changed } := by
  have inside : ref < pool.socks.length := (List.getElem?_eq_some_iff.mp there).1
  have replaced {other : Nat} {before : ClientSock} (found : pool.socks[other]? = some before) :
      ∃ after : ClientSock, (pool.socks.set ref changed)[other]? = some after ∧
        after.called = before.called ∧ (after.called = false → after.desthost = before.desthost) := by
    by_cases same : ref = other
    · subst same
      rw [there] at found
      cases found
      exact ⟨changed, List.getElem?_set_self inside, sameCalled, sameHost⟩
    · exact ⟨before, (List.getElem?_set_ne same).trans found, rfl, fun _ => rfl⟩
  constructor
  · intro other found foundThere isClosed
    rcases Transition.found_in_set foundThere with ⟨rfl, rfl⟩ | ⟨_, before⟩
    · exact closed isClosed
    · exact live.closed other found before isClosed
  · intro thread call newtcp holds
    obtain ⟨before, found, ownHost⟩ := live.held thread call newtcp holds
    obtain ⟨after, afterThere, sameCall, keptHost⟩ := replaced found
    refine ⟨after, afterThere, ?_⟩
    intro uncalled
    exact (keptHost uncalled).trans (ownHost (sameCall ▸ uncalled))
  · intro host conns other found member
    obtain ⟨named, before, foundThere, uncalled, ownHost⟩ := live.pooled host conns other found member
    obtain ⟨after, afterThere, sameCall, keptHost⟩ := replaced foundThere
    have stillUncalled : after.called = false := sameCall.trans uncalled
    exact ⟨named, after, afterThere, stillUncalled, (keptHost stillUncalled).trans ownHost⟩

theorem Live.storeNew {host : DestHost} {newtcp : Nat} {sock : ClientSock}
    (there : pool.socks[newtcp]? = some sock) (uncalled : sock.called = false)
    (ownHost : sock.desthost = host) (named : host.1 ≠ []) : (pool.storeNew host newtcp).Live := by
  obtain ⟨sameSocks, sameCallers⟩ := storeNew_frame pool host newtcp
  refine ⟨sameSocks ▸ live.closed, sameSocks ▸ sameCallers ▸ live.held, ?_⟩
  intro other conns ref found member
  rw [sameSocks]
  rcases storeNew_member found member with ⟨rfl, rfl⟩ | ⟨before, known, older⟩
  · exact ⟨named, sock, there, uncalled, ownHost⟩
  · exact live.pooled other before ref known older

theorem Live.callback {ref : Nat} {sock : ClientSock} (there : pool.socks[ref]? = some sock)
    (isOpen : sock.isClosed = false) :
    Live { pool.removeTcpSock sock with
      socks := pool.socks.set ref { sock with called := true } } := by
  obtain ⟨_, sameCallers⟩ := removeTcpSock_frame pool sock
  have inside : ref < pool.socks.length := (List.getElem?_eq_some_iff.mp there).1
  constructor
  · intro other found foundThere isClosed
    rcases Transition.found_in_set foundThere with ⟨rfl, rfl⟩ | ⟨_, before⟩
    · rfl
    · exact live.closed other found before isClosed
  · intro thread call newtcp holds
    obtain ⟨before, found, ownHost⟩ := live.held thread call newtcp (sameCallers ▸ holds)
    by_cases same : ref = newtcp
    · subst same
      exact ⟨_, List.getElem?_set_self inside, fun uncalled => by cases uncalled⟩
    · exact ⟨before, (List.getElem?_set_ne same).trans found, ownHost⟩
  · intro host conns other found member
    obtain ⟨before, known, older, removed⟩ := removeTcpSock_member found member
    obtain ⟨named, pooled, pooledThere, uncalled, ownHost⟩ :=
      live.pooled host before other known older
    have different : ref ≠ other := by
      rintro rfl
      rw [there] at pooledThere
      cases pooledThere
      have isHost : sock.getDestHost = some host := by
        rw [← ownHost] at named ⊢
        exact if_neg named
      have kept := removed isHost sock there
      rw [isSameTcpSock_self isOpen] at kept
      cases kept
    exact ⟨named, pooled, (List.getElem?_set_ne different).trans pooledThere, uncalled, ownHost⟩

end Steps

theorem step_live {pool following : TcpClientPool} {event : Event} (live : pool.Live)
    (meets : pool.storesLive event = true) (taken : pool.step event = some following) :
    following.Live := by
  cases event with
  | createTcpSock thread host num =>
    simp only [step] at taken
    split at taken <;> cases taken
    exact live.setCaller fun _ _ holds => by cases holds
  | finish thread =>
    simp only [step] at taken
    split at taken
    next =>
      split at taken <;> cases taken
      exact live.setCaller fun _ _ holds => by cases holds
    next => cases taken
  | connect thread connected =>
    simp only [step] at taken
    split at taken
    next call fd _ =>
      split at taken <;> cases taken
      next fresh =>
        have entered := live.connect call.host fresh.2.1
        refine entered.setCaller ?_
        intro other newtcp holds
        cases holds
        exact ⟨_, List.getElem?_concat_length, fun _ => rfl⟩
    next =>
      split at taken <;> cases taken
      exact live.setCaller fun _ _ holds => by cases holds
    next => cases taken
  | addTcpSockToLoop thread added =>
    simp only [step] at taken
    split at taken
    next call newtcp phase =>
      split at taken
      next =>
        rw [Option.map_eq_some_iff] at taken
        obtain ⟨sock, there, rfl⟩ := taken
        have entered : (pool.setCaller thread (.posting call newtcp)).Live := by
          refine live.setCaller ?_
          intro other ref holds
          cases holds
          exact live.held thread call newtcp (by rw [phase]; rfl)
        exact entered.setSock there rfl (live.closed newtcp sock there) fun _ => rfl
      next =>
        cases taken
        exact live.setCaller fun _ _ holds => by cases holds
    next => cases taken
  | postcb thread posted =>
    simp only [step] at taken
    split at taken
    next call newtcp phase =>
      cases taken
      refine live.setCaller ?_
      intro other ref holds
      split at holds <;> cases holds
      exact live.held thread call newtcp (by rw [phase]; rfl)
    next => cases taken
  | store thread =>
    simp only [step] at taken
    simp only [storesLive] at meets
    split at taken
    next call newtcp phase =>
      cases taken
      simp only [phase, Bool.and_eq_true, Bool.not_eq_true', List.isEmpty_eq_false_iff,
        Option.any_eq_true] at meets
      obtain ⟨named, sock, there, uncalled⟩ := meets
      obtain ⟨held, heldThere, ownHost⟩ := live.held thread call newtcp (by rw [phase]; rfl)
      rw [there] at heldThere
      cases heldThere
      have stored := live.storeNew there uncalled (ownHost uncalled) named
      exact stored.setCaller fun _ _ holds => by cases holds
    next => cases taken
  | callback ref =>
    simp only [step, Option.bind_eq_some_iff] at taken
    obtain ⟨sock, there, taken⟩ := taken
    split at taken <;> cases taken
    next handles =>
      rw [Bool.and_eq_true, Bool.not_eq_true'] at handles
      exact live.callback there handles.2
  | close ref =>
    simp only [step, Option.bind_eq_some_iff] at taken
    obtain ⟨sock, there, taken⟩ := taken
    split at taken <;> cases taken
    next handles =>
      rw [Bool.and_eq_true] at handles
      refine live.setSock there rfl (fun _ => handles.1) ?_
      intro uncalled
      exact Bool.noConfusion (handles.1.symm.trans uncalled)
  | getTcpSockByDestHost host =>
    cases taken
    obtain ⟨sameSocks, samePool, sameCallers⟩ := get_frame pool host
    exact ⟨sameSocks ▸ live.closed, sameSocks ▸ sameCallers ▸ live.held,
      sameSocks ▸ samePool ▸ live.pooled⟩

theorem get_never_dead (pool : TcpClientPool)
    (reached : Transition.ReachableWhen step (fun state event => state.storesLive event = true)
      initial pool) : pool.NeverDead :=
  (reached.invariant Live live_initial fun _ _ _ live meets taken =>
    step_live live meets taken).neverDead

def someHost : DestHost := ([0x31, 0x30, 0x2e, 0x31], 9100)

def twoConnections : List Event :=
  [.createTcpSock 0 someHost 2, .connect 0 (some 7), .addTcpSockToLoop 0 true, .postcb 0 true,
    .store 0, .connect 0 (some 8), .addTcpSockToLoop 0 true, .postcb 0 true, .store 0, .finish 0,
    .getTcpSockByDestHost someHost, .callback 0, .close 0]

-- The first connection is closed after it was handed out; the second one is left.
theorem get_never_dead_two : ∃ pool : TcpClientPool, pool.socks.length = 2 ∧
    (pool.getTcpSockByDestHost someHost).1 = some 1 ∧ pool.NeverDead := by
  obtain ⟨pool, ran, two, got⟩ : ∃ pool,
      Transition.run (Transition.checkedStep step fun state event => state.storesLive event = true)
        initial twoConnections = some pool ∧
      pool.socks.length = 2 ∧ (pool.getTcpSockByDestHost someHost).1 = some 1 :=
    ⟨_, rfl, by decide, by decide⟩
  exact ⟨pool, two, got, get_never_dead pool (Transition.ReachableWhen.start.run _ ran)⟩

-- The other side closes the connection between AddTcpSockToLoop and the push into the pool.
def closedBeforeStored : List Event :=
  [.createTcpSock 0 someHost 1, .connect 0 (some 7), .addTcpSockToLoop 0 true, .callback 0,
    .close 0, .postcb 0 true, .store 0, .finish 0]

theorem dead_connection_handed_out :
    ¬ ∀ pool, Transition.Reachable step initial pool → pool.NeverDead := by
  intro neverDead
  obtain ⟨pool, sock, ran, got, there, dead⟩ : ∃ pool sock,
      Transition.run step initial closedBeforeStored = some pool ∧
      (pool.getTcpSockByDestHost someHost).1 = some 0 ∧ pool.socks[0]? = some sock ∧
        (sock.called = true ∧ sock.isClosed = true) := ⟨_, _, rfl, by decide, rfl, by decide⟩
  exact neverDead pool (Transition.Reachable.run .start _ ran) someHost 0 sock got there dead

end TcpClientPool

end MessageBus.Net
