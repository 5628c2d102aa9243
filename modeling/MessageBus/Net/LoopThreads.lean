import MessageBus.Net.TcpSock

set_option autoImplicit false

namespace MessageBus.Net

inductive ThreadId where
  | loop
  | write
  | other (id : Nat)
  deriving DecidableEq, Repr

inductive EndReport where
  | onClose
  | onError
  deriving DecidableEq, Repr

structure LoopSock where
  outbuf : Bytes
  isclosing : Bool
  mWriteable : Bool
  allowMoreSend : Bool
  -- m_evloop is set.
  evloop : Bool
  -- m_sockcb is not cleared.
  sockcb : Bool
  sockev : SockEvent
  caredev : SockEvent
  -- The calls of onClose and onError.
  reports : List EndReport
  deriving DecidableEq, Repr

namespace LoopSock

def connected : LoopSock :=
  { outbuf := [], isclosing := false, mWriteable := true, allowMoreSend := true, evloop := true
    sockcb := true, sockev := .noEvent
    caredev := { hasRead := true, hasWrite := false, hasException := true }, reports := [] }

-- IsClosed() || !Writeable().
def refuses (sock : LoopSock) : Bool :=
  sock.isclosing || !(sock.mWriteable && sock.allowMoreSend)

def told (sock : LoopSock) (report : EndReport) : LoopSock :=
  if sock.sockcb then { sock with reports := sock.reports ++ [report] } else sock

end LoopSock

inductive AssertedCall where
  | updateTcpSock
  | removeTcpSock
  | sendDataInLoop
  deriving DecidableEq, Repr

def AssertedCall.thread : AssertedCall -> ThreadId
  | updateTcpSock => .loop
  | removeTcpSock => .loop
  | sendDataInLoop => .write

inductive Point where
  -- SendData before its tests, and before it looks at the thread.
  | sendData (data : Bytes)
  | sendDataHop (data : Bytes)
  | sendDataInLoop (data : Bytes)
  | pushBack (data : Bytes)
  -- A round of the loop in DoSend; the output is empty; the handler of onSend; after it.
  | doSend (origin : SendOrigin)
  | onSend (origin : SendOrigin)
  | afterSend (origin : SendOrigin)
  -- SendDataInLoop after DoSend returned true.
  | sent
  | addAndUpdateEvent (er : EventResult)
  | removeAndUpdateEvent (er : EventResult)
  | disAllowSend
  | disAllowTest
  | shutDownWrite
  -- Close(needremove), and whether a handler was told of the end before it.
  | close (needremove told : Bool)
  | removeTcpSock
  | clearSockcb
  | handleEvent
  | reading
  | handleWrite
  | handleException
  -- onRead, onClose or onError runs.
  | handler
  deriving DecidableEq, Repr

inductive Outcome where
  | done
  | taken (count : Nat)
  | zero
  | again
  | interrupted
  | failed
  | returned (more : Bool)
  deriving DecidableEq, Repr

structure Effect where
  sock : LoopSock
  next : List Point
  toLoop : List Point
  toWrite : List Point
  asserted : List AssertedCall
  deriving DecidableEq, Repr

namespace Effect

def goOn (sock : LoopSock) (next : List Point) : Effect :=
  { sock, next, toLoop := [], toWrite := [], asserted := [] }

def queueTaskToLoop (sock : LoopSock) (task : Point) : Effect :=
  { sock, next := [], toLoop := [task], toWrite := [], asserted := [] }

def queueTaskToWriteLoop (sock : LoopSock) (task : Point) : Effect :=
  { sock, next := [], toLoop := [], toWrite := [task], asserted := [] }

def asserting (effect : Effect) (call : AssertedCall) : Effect := { effect with asserted := [call] }

-- m_sockcb.onClose or onError if it is set, and then Close().
def endReport (sock : LoopSock) (report : EndReport) : Effect :=
  goOn (sock.told report)
    (if sock.sockcb then [.handler, .close true true] else [.close true false])

end Effect

-- What follows when DoSend returns true.
def SendOrigin.rest : SendOrigin -> List Point
  | sendDataInLoop => [.sent]
  | handleEvent => [.handleException]

open Effect in
-- The functions of TcpSock, in the thread that runs them.
def Point.advance (thread : ThreadId) (sock : LoopSock) : Point -> Outcome -> Option Effect
  | .sendData data, _ =>
    if data = [] || sock.refuses then some (goOn sock []) else some (goOn sock [.sendDataHop data])
  | .sendDataHop data, _ =>
    if !sock.evloop then some (goOn sock [])
    else if thread ≠ .write then some (queueTaskToWriteLoop sock (.sendDataInLoop data))
    else some (goOn sock [.sendDataInLoop data])
  | .sendDataInLoop data, _ =>
    some ((goOn sock (if sock.refuses then [] else [.pushBack data])).asserting .sendDataInLoop)
  | .pushBack data, _ =>
    some (goOn { sock with outbuf := sock.outbuf ++ data } [.doSend .sendDataInLoop])
  | .doSend origin, .taken count =>
    if 0 < count ∧ count ≤ sock.outbuf.length then
      let left := sock.outbuf.drop count
      some (goOn { sock with outbuf := left }
        (if left = [] then [.removeAndUpdateEvent .write, .onSend origin] else [.doSend origin]))
    else none
  | .doSend origin, .zero => some (goOn sock origin.rest)
  | .doSend origin, .again => some (goOn sock origin.rest)
  | .doSend origin, .interrupted => some (goOn sock [.doSend origin])
  | .doSend _, .failed => some (endReport sock .onError)
  | .onSend origin, .returned more =>
    some (goOn sock
      (if more || !sock.sockcb then [.afterSend origin] else [.disAllowSend, .afterSend origin]))
  | .afterSend origin, _ =>
    some (goOn sock (if sock.allowMoreSend then [.doSend origin] else [.shutDownWrite]))
  | .sent, _ =>
    some (goOn sock (if sock.outbuf = [] then [] else [.addAndUpdateEvent .write]))
  | .addAndUpdateEvent er, _ =>
    if !sock.evloop || sock.caredev.hasEvent er then some (goOn sock [])
    else
      some ((goOn { sock with caredev := sock.caredev.addEvent er } []).asserting .updateTcpSock)
  | .removeAndUpdateEvent er, _ =>
    if !sock.evloop || !sock.caredev.hasEvent er then some (goOn sock [])
    else
      some ((goOn { sock with caredev := sock.caredev.removeEvent er } []).asserting .updateTcpSock)
  | .disAllowSend, _ =>
    some (goOn { sock with allowMoreSend := false } (if sock.evloop then [.disAllowTest] else []))
  | .disAllowTest, _ =>
    if sock.outbuf = [] then some (goOn sock [.shutDownWrite])
    else if thread ≠ .loop then some (queueTaskToLoop sock (.addAndUpdateEvent .write))
    else some (goOn sock [.addAndUpdateEvent .write])
  | .shutDownWrite, _ =>
    if sock.isclosing then some (goOn sock [])
    else if sock.evloop && thread ≠ .write then some (queueTaskToWriteLoop sock .shutDownWrite)
    else some (goOn { sock with mWriteable := false, outbuf := [] } [])
  | .close needremove told, _ =>
    if sock.isclosing then some (goOn sock [])
    else if sock.evloop && thread ≠ .loop then
      some (queueTaskToLoop sock (.close needremove told))
    else
      some (goOn { sock with isclosing := true, mWriteable := false, allowMoreSend := false }
        (if sock.evloop && needremove then [.removeTcpSock, .clearSockcb] else [.clearSockcb]))
  | .removeTcpSock, _ =>
    some ((goOn { sock with evloop := false } []).asserting .removeTcpSock)
  | .clearSockcb, _ => some (goOn { sock with sockcb := false } [])
  | .handleEvent, _ =>
    if sock.isclosing then some (goOn sock [])
    else if sock.sockev.hasRead then
      some (goOn sock (if sock.evloop && thread ≠ .loop then [] else [.reading]))
    else some (goOn sock [.handleWrite])
  | .reading, .taken _ =>
    some (goOn sock (if sock.sockcb then [.handler, .reading] else [.reading]))
  | .reading, .zero => some (endReport sock .onClose)
  | .reading, .again => some (goOn sock [.handleWrite])
  | .reading, .interrupted => some (goOn sock [.reading])
  | .reading, .failed => some (endReport sock .onError)
  | .handleWrite, _ =>
    if sock.sockev.hasWrite && sock.mWriteable then
      some (goOn sock (if sock.evloop && thread ≠ .write then [] else [.doSend .handleEvent]))
    else some (goOn sock [.handleException])
  | .handleException, _ =>
    if sock.sockev.hasException then
      if sock.evloop && thread ≠ .loop then some (goOn sock [])
      else some (endReport sock .onError)
    else some (goOn sock [])
  | .handler, .returned _ => some (goOn sock [])
  | _, _ => none

-- What may be called on a sock from outside.
inductive Api where
  | sendData (data : Bytes)
  | disAllowSend
  | close (needremove : Bool)
  deriving DecidableEq, Repr

def Api.point : Api -> Point
  | sendData data => .sendData data
  | disAllowSend => .disAllowSend
  | close needremove => .close needremove false

structure EventLoop where
  socks : Nat -> LoopSock
  -- Where each thread is: what it does next is in front.
  threads : ThreadId -> List (Nat × Point)
  pendings : List (Nat × Point)
  writeTasks : List (Nat × Point)
  readytcps : List Nat
  asserted : List (AssertedCall × ThreadId)

namespace EventLoop

inductive Event where
  | call (thread : ThreadId) (sock : Nat) (api : Api)
  | runPending
  | runWriteTask
  | wait (sock : Nat) (events : SockEvent)
  | dispatch
  | advance (thread : ThreadId) (outcome : Outcome)
  deriving DecidableEq, Repr

def initial : EventLoop :=
  { socks := fun _ => .connected, threads := fun _ => [], pendings := [], writeTasks := []
    readytcps := [], asserted := [] }

-- Code of the user: a handler, what runs in the other threads, and what the loop thread calls
-- between its tasks.
def inUserCode (state : EventLoop) (thread : ThreadId) : Bool :=
  match state.threads thread with
  | [] => thread ≠ .write
  | (_, .handler) :: _ | (_, .onSend _) :: _ => true
  | _ => false

def setStack (state : EventLoop) (thread : ThreadId) (stack : List (Nat × Point)) : EventLoop :=
  { state with threads := Function.update state.threads thread stack }

def setSock (state : EventLoop) (id : Nat) (sock : LoopSock) : EventLoop :=
  { state with socks := Function.update state.socks id sock }

def takeEffect (state : EventLoop) (thread : ThreadId) (id : Nat) (rest : List (Nat × Point))
    (effect : Effect) : EventLoop :=
  { (state.setSock id effect.sock).setStack thread (effect.next.map (id, ·) ++ rest) with
    pendings := state.pendings ++ effect.toLoop.map (id, ·)
    writeTasks := state.writeTasks ++ effect.toWrite.map (id, ·)
    asserted := state.asserted ++ effect.asserted.map (·, thread) }

def step (state : EventLoop) : Event -> Option EventLoop
  | .call thread id api =>
    if state.inUserCode thread then
      some (state.setStack thread ((id, api.point) :: state.threads thread))
    else none
  | .runPending =>
    match state.threads .loop, state.pendings with
    | [], task :: rest => some { state.setStack .loop [task] with pendings := rest }
    | _, _ => none
  | .runWriteTask =>
    match state.threads .write, state.writeTasks with
    | [], task :: rest => some { state.setStack .write [task] with writeTasks := rest }
    | _, _ => none
  | .wait id events =>
    match state.threads .loop with
    | [] =>
      some { state.setSock id { state.socks id with sockev := events } with
        readytcps := if events.hasAny then state.readytcps ++ [id] else state.readytcps }
    | _ => none
  | .dispatch =>
    match state.threads .loop, state.readytcps with
    | [], id :: rest =>
      some { state.setStack .loop [(id, .handleEvent)] with
        readytcps := rest
        writeTasks :=
          if (state.socks id).sockev.hasWrite then state.writeTasks ++ [(id, .handleEvent)]
          else state.writeTasks }
    | _, _ => none
  | .advance thread outcome =>
    match state.threads thread with
    | (id, point) :: rest =>
      (point.advance thread (state.socks id) outcome).map (state.takeEffect thread id rest)
    | [] => none

end EventLoop

-- The loop thread or the write thread.
def ThreadId.serves : ThreadId -> Bool
  | loop | write => true
  | other _ => false

def Point.allowed (thread : ThreadId) (sock : LoopSock) : Point -> Bool
  | .sendDataInLoop _ => thread == .write
  | .removeTcpSock => thread == .loop && sock.isclosing
  | .clearSockcb => thread == .loop
  | .close _ told => !told || thread.serves
  | .sendData _ | .sendDataHop _ | .disAllowSend | .disAllowTest | .shutDownWrite | .handler => true
  | _ => thread.serves

-- What a step leaves to this thread and to the tasks of the two others may come to them.
structure Effect.Placed (thread : ThreadId) (before : LoopSock) (effect : Effect) : Prop where
  next : ∀ point ∈ effect.next, point.allowed thread effect.sock = true
  toLoop : ∀ point ∈ effect.toLoop, point.allowed .loop effect.sock = true
  toWrite : ∀ point ∈ effect.toWrite, point.allowed .write effect.sock = true
  closing : before.isclosing = true → effect.sock.isclosing = true
  leaves : effect.sock.evloop = false → effect.sock.isclosing = true

section Advance

variable {thread : ThreadId} {sock : LoopSock}

theorem allowed_closing {later : LoopSock} {point : Point}
    (closing : sock.isclosing = true → later.isclosing = true)
    (allowed : point.allowed thread sock = true) : point.allowed thread later = true := by
  cases point with
  | removeTcpSock =>
    simp only [Point.allowed, Bool.and_eq_true] at allowed ⊢
    exact ⟨allowed.1, closing allowed.2⟩
  | _ => exact allowed

theorem placed_goOn {later : LoopSock} {next : List Point}
    (closing : sock.isclosing = true → later.isclosing = true)
    (leaves : later.evloop = false → later.isclosing = true)
    (allowed : ∀ point ∈ next, point.allowed thread later = true) :
    (Effect.goOn later next).Placed thread sock :=
  ⟨allowed, List.forall_mem_nil _, List.forall_mem_nil _, closing, leaves⟩

theorem placed_stop {later : LoopSock} (closing : sock.isclosing = true → later.isclosing = true)
    (leaves : later.evloop = false → later.isclosing = true) :
    (Effect.goOn later []).Placed thread sock :=
  placed_goOn closing leaves (by simp)

theorem placed_asserting {effect : Effect} (placed : effect.Placed thread sock)
    (call : AssertedCall) : (effect.asserting call).Placed thread sock :=
  ⟨placed.next, placed.toLoop, placed.toWrite, placed.closing, placed.leaves⟩

theorem placed_toLoop {task : Point} (leaves : sock.evloop = false → sock.isclosing = true)
    (allowed : task.allowed .loop sock = true) :
    Effect.Placed thread sock (Effect.queueTaskToLoop sock task) :=
  ⟨List.forall_mem_nil _, List.forall_mem_singleton.mpr allowed, List.forall_mem_nil _, id, leaves⟩

theorem placed_toWrite {task : Point} (leaves : sock.evloop = false → sock.isclosing = true)
    (allowed : task.allowed .write sock = true) :
    Effect.Placed thread sock (Effect.queueTaskToWriteLoop sock task) :=
  ⟨List.forall_mem_nil _, List.forall_mem_nil _, List.forall_mem_singleton.mpr allowed, id, leaves⟩

theorem endReport_cases (sock : LoopSock) (report : EndReport) :
    (sock.sockcb = true ∧ Effect.endReport sock report =
      Effect.goOn { sock with reports := sock.reports ++ [report] } [.handler, .close true true]) ∨
    (sock.sockcb = false ∧ Effect.endReport sock report = Effect.goOn sock [.close true false]) := by
  unfold Effect.endReport LoopSock.told
  cases set : sock.sockcb with
  | true => exact .inl ⟨rfl, rfl⟩
  | false => exact .inr ⟨rfl, rfl⟩

theorem placed_endReport (leaves : sock.evloop = false → sock.isclosing = true)
    (serves : thread.serves = true) (report : EndReport) :
    (Effect.endReport sock report).Placed thread sock := by
  rcases endReport_cases sock report with ⟨_, ended⟩ | ⟨_, ended⟩ <;> rw [ended]
  · exact placed_goOn id leaves (by simp [Point.allowed, serves])
  · exact placed_goOn id leaves (by simp [Point.allowed])

theorem advance_placed {point : Point} {outcome : Outcome} {effect : Effect}
    (leaves : sock.evloop = false → sock.isclosing = true)
    (allowed : point.allowed thread sock = true)
    (taken : point.advance thread sock outcome = some effect) : effect.Placed thread sock := by
  cases point with
  | sendData data =>
    simp only [Point.advance] at taken
    split at taken <;> cases taken
    · exact placed_stop id leaves
    · exact placed_goOn id leaves (by simp [Point.allowed])
  | sendDataHop data =>
    simp only [Point.advance] at taken
    split at taken
    · cases taken
      exact placed_stop id leaves
    split at taken <;> cases taken
    next => exact placed_toWrite leaves rfl
    next inWrite =>
      obtain rfl := not_not.mp inWrite
      exact placed_goOn id leaves (by simp [Point.allowed])
  | sendDataInLoop data =>
    cases taken
    obtain rfl := eq_of_beq allowed
    apply placed_asserting
    refine placed_goOn id leaves ?_
    split
    · simp
    · simp [Point.allowed, ThreadId.serves]
  | pushBack data =>
    cases taken
    exact placed_goOn id leaves (List.forall_mem_singleton.mpr allowed)
  | doSend origin =>
    have serves : thread.serves = true := allowed
    cases outcome with
    | taken count =>
      simp only [Point.advance] at taken
      split at taken <;> cases taken
      refine placed_goOn id leaves ?_
      split <;> simp [Point.allowed, serves]
    | failed =>
      cases taken
      exact placed_endReport leaves serves _
    | zero | again =>
      cases taken
      refine placed_goOn id leaves ?_
      cases origin <;> simp [SendOrigin.rest, Point.allowed, serves]
    | interrupted =>
      cases taken
      exact placed_goOn id leaves (List.forall_mem_singleton.mpr allowed)
    | done | returned => cases taken
  | onSend origin =>
    have serves : thread.serves = true := allowed
    cases outcome <;> cases taken
    refine placed_goOn id leaves ?_
    split <;> simp [Point.allowed, serves]
  | afterSend origin =>
    have serves : thread.serves = true := allowed
    cases taken
    refine placed_goOn id leaves ?_
    split <;> simp [Point.allowed, serves]
  | sent =>
    have serves : thread.serves = true := allowed
    cases taken
    refine placed_goOn id leaves ?_
    split <;> simp [Point.allowed, serves]
  | addAndUpdateEvent er | removeAndUpdateEvent er =>
    simp only [Point.advance] at taken
    split at taken <;> cases taken
    · exact placed_stop id leaves
    · apply placed_asserting
      exact placed_stop id leaves
  | disAllowSend =>
    cases taken
    refine placed_goOn id leaves ?_
    split <;> simp [Point.allowed]
  | disAllowTest =>
    simp only [Point.advance] at taken
    split at taken
    · cases taken
      exact placed_goOn id leaves (by simp [Point.allowed])
    split at taken <;> cases taken
    next => exact placed_toLoop leaves rfl
    next inLoop =>
      obtain rfl := not_not.mp inLoop
      exact placed_goOn id leaves (by simp [Point.allowed, ThreadId.serves])
  | shutDownWrite =>
    simp only [Point.advance] at taken
    split at taken
    · cases taken
      exact placed_stop id leaves
    split at taken <;> cases taken
    · exact placed_toWrite leaves rfl
    · exact placed_stop id leaves
  | close needremove told =>
    simp only [Point.advance] at taken
    split at taken
    · cases taken
      exact placed_stop id leaves
    next isOpen =>
      split at taken <;> cases taken
      next => exact placed_toLoop leaves (by simp [Point.allowed, ThreadId.serves])
      next here =>
        -- An open sock has its event loop, so that Close got past its test in the loop thread.
        have inLoop : thread = .loop := by
          by_contra elsewhere
          cases evloop : sock.evloop with
          | true => simp [evloop, elsewhere] at here
          | false => exact isOpen (leaves evloop)
        subst inLoop
        refine placed_goOn (fun _ => rfl) (fun _ => rfl) ?_
        split <;> simp [Point.allowed]
  | removeTcpSock =>
    cases taken
    have closing := (Bool.and_eq_true_iff.mp allowed).2
    apply placed_asserting
    exact placed_stop id (fun _ => closing)
  | clearSockcb =>
    cases taken
    exact placed_stop id leaves
  | handleEvent =>
    have serves : thread.serves = true := allowed
    simp only [Point.advance] at taken
    split at taken
    · cases taken
      exact placed_stop id leaves
    split at taken <;> cases taken
    · refine placed_goOn id leaves ?_
      split <;> simp [Point.allowed, serves]
    · exact placed_goOn id leaves (by simp [Point.allowed, serves])
  | reading =>
    have serves : thread.serves = true := allowed
    cases outcome with
    | taken count =>
      cases taken
      refine placed_goOn id leaves ?_
      split <;> simp [Point.allowed, serves]
    | zero | failed =>
      cases taken
      exact placed_endReport leaves serves _
    | again | interrupted =>
      cases taken
      exact placed_goOn id leaves (by simp [Point.allowed, serves])
    | done | returned => cases taken
  | handleWrite =>
    have serves : thread.serves = true := allowed
    simp only [Point.advance] at taken
    split at taken <;> cases taken
    · refine placed_goOn id leaves ?_
      split <;> simp [Point.allowed, serves]
    · exact placed_goOn id leaves (by simp [Point.allowed, serves])
  | handleException =>
    simp only [Point.advance] at taken
    split at taken
    · split at taken <;> cases taken
      · exact placed_stop id leaves
      · exact placed_endReport leaves allowed _
    · cases taken
      exact placed_stop id leaves
  | handler =>
    cases outcome <;> cases taken
    exact placed_stop id leaves

end Advance

namespace EventLoop

structure Placed (state : EventLoop) : Prop where
  here : ∀ thread, ∀ frame ∈ state.threads thread,
    frame.2.allowed thread (state.socks frame.1) = true
  toLoop : ∀ task ∈ state.pendings, task.2.allowed .loop (state.socks task.1) = true
  toWrite : ∀ task ∈ state.writeTasks, task.2.allowed .write (state.socks task.1) = true
  leaves : ∀ id, (state.socks id).evloop = false → (state.socks id).isclosing = true

variable {state following : EventLoop}

theorem step_advances {thread : ThreadId} {outcome : Outcome}
    (taken : state.step (.advance thread outcome) = some following) :
    ∃ id point rest effect, state.threads thread = (id, point) :: rest ∧
      point.advance thread (state.socks id) outcome = some effect ∧
      following = state.takeEffect thread id rest effect := by
  simp only [step] at taken
  split at taken
  next id point rest there =>
    obtain ⟨effect, advanced, rfl⟩ := Option.map_eq_some_iff.mp taken
    exact ⟨id, point, rest, effect, there, advanced, rfl⟩
  next => cases taken

theorem Placed.setStack {thread : ThreadId} {stack : List (Nat × Point)} (placed : state.Placed)
    (allowed : ∀ frame ∈ stack, frame.2.allowed thread (state.socks frame.1) = true) :
    (state.setStack thread stack).Placed := by
  refine ⟨?_, placed.toLoop, placed.toWrite, placed.leaves⟩
  intro runs frame member
  simp only [EventLoop.setStack, Function.update_apply] at member
  split at member
  next same => exact same ▸ allowed frame member
  next => exact placed.here runs frame member

theorem Placed.setSock {id : Nat} {sock : LoopSock} (placed : state.Placed)
    (closing : (state.socks id).isclosing = true → sock.isclosing = true)
    (leaves : sock.evloop = false → sock.isclosing = true) : (state.setSock id sock).Placed := by
  have kept {thread : ThreadId} {frame : Nat × Point}
      (allowed : frame.2.allowed thread (state.socks frame.1) = true) :
      frame.2.allowed thread ((state.setSock id sock).socks frame.1) = true := by
    refine allowed_closing ?_ allowed
    simp only [EventLoop.setSock, Function.update_apply]
    split
    next same => exact same ▸ closing
    next => exact fun isClosing => isClosing
  refine ⟨fun thread frame member => kept (placed.here thread frame member),
    fun task member => kept (placed.toLoop task member),
    fun task member => kept (placed.toWrite task member), ?_⟩
  intro other
  simp only [EventLoop.setSock, Function.update_apply]
  split
  next => exact leaves
  next => exact placed.leaves other

theorem Placed.takeEffect {thread : ThreadId} {id : Nat} {rest : List (Nat × Point)}
    {effect : Effect} (placed : state.Placed) (moves : effect.Placed thread (state.socks id))
    (below : ∀ frame ∈ rest, frame.2.allowed thread (state.socks frame.1) = true) :
    (state.takeEffect thread id rest effect).Placed := by
  have changed := placed.setSock moves.closing moves.leaves
  have own : (state.setSock id effect.sock).socks id = effect.sock := Function.update_self _ _ _
  have tasks {runs : ThreadId} {points : List Point}
      (allowed : ∀ point ∈ points, point.allowed runs effect.sock = true) :
      ∀ task ∈ points.map (id, ·),
        task.2.allowed runs ((state.setSock id effect.sock).socks task.1) = true := by
    intro task member
    obtain ⟨point, there, rfl⟩ := List.mem_map.mp member
    rw [own]
    exact allowed point there
  have stacked := @Placed.setStack _ thread (effect.next.map (id, ·) ++ rest) changed
    (List.forall_mem_append.mpr ⟨tasks moves.next, ?below⟩)
  case below =>
    intro frame member
    refine allowed_closing ?_ (below frame member)
    simp only [EventLoop.setSock, Function.update_apply]
    split
    next same => exact same ▸ moves.closing
    next => exact fun isClosing => isClosing
  exact ⟨stacked.here, List.forall_mem_append.mpr ⟨stacked.toLoop, tasks moves.toLoop⟩,
    List.forall_mem_append.mpr ⟨stacked.toWrite, tasks moves.toWrite⟩, stacked.leaves⟩

theorem step_placed {event : Event} (placed : state.Placed)
    (taken : state.step event = some following) : following.Placed := by
  cases event with
  | call thread id api =>
    simp only [step] at taken
    split at taken <;> cases taken
    refine placed.setStack (List.forall_mem_cons.mpr ⟨?_, placed.here thread⟩)
    cases api <;> rfl
  | runPending =>
    simp only [step] at taken
    split at taken <;> cases taken
    next task rest _ waiting =>
      have tasks := waiting ▸ placed.toLoop
      have started := placed.setStack (List.forall_mem_singleton.mpr (tasks _ List.mem_cons_self))
      exact ⟨started.here, fun other member => tasks other (List.mem_cons_of_mem _ member),
        started.toWrite, started.leaves⟩
  | runWriteTask =>
    simp only [step] at taken
    split at taken <;> cases taken
    next task rest _ waiting =>
      have tasks := waiting ▸ placed.toWrite
      have started := placed.setStack (List.forall_mem_singleton.mpr (tasks _ List.mem_cons_self))
      exact ⟨started.here, started.toLoop,
        fun other member => tasks other (List.mem_cons_of_mem _ member), started.leaves⟩
  | wait id events =>
    simp only [step] at taken
    split at taken <;> cases taken
    have marked := @Placed.setSock _ id { state.socks id with sockev := events } placed
      (fun isClosing => isClosing) (placed.leaves id)
    exact ⟨marked.here, marked.toLoop, marked.toWrite, marked.leaves⟩
  | dispatch =>
    simp only [step] at taken
    split at taken <;> cases taken
    next id rest _ _ =>
      have started := @Placed.setStack state .loop [(id, .handleEvent)] placed
        (List.forall_mem_singleton.mpr rfl)
      refine ⟨started.here, started.toLoop, ?_, started.leaves⟩
      split
      · exact List.forall_mem_append.mpr ⟨started.toWrite, List.forall_mem_singleton.mpr rfl⟩
      · exact started.toWrite
  | advance thread outcome =>
    obtain ⟨id, point, rest, effect, there, advanced, rfl⟩ := step_advances taken
    have frames := there ▸ placed.here thread
    exact placed.takeEffect (advance_placed (placed.leaves id) (frames _ List.mem_cons_self) advanced)
      fun frame member => frames frame (List.mem_cons_of_mem _ member)

theorem placed_initial : initial.Placed :=
  ⟨fun _ => List.forall_mem_nil _, List.forall_mem_nil _, List.forall_mem_nil _,
    fun _ left => by cases left⟩

end EventLoop
end MessageBus.Net
