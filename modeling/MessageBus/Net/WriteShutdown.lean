import MessageBus.Net.TcpSock

set_option autoImplicit false

namespace MessageBus.Net

def SendCalls.of (calls : SendCalls) (caller : Nat) : SendCalls :=
  calls.filter fun call => call.1 == caller

theorem SendCalls.bytes_append (calls more : SendCalls) :
    SendCalls.bytes (calls ++ more) = calls.bytes ++ more.bytes :=
  List.flatMap_append

def WriteTask.bytes : WriteTask -> Bytes
  | .sendDataInLoop data => data
  | .shutDownWrite | .handleEvent => []

def WriterPhase.pushes : WriterPhase -> Bytes
  | .pushing data => data
  | _ => []

def WriterPhase.untested : WriterPhase -> Bytes
  | .checking data => data
  | _ => []

-- The write thread is not between the test of SendDataInLoop, or of HandleEvent, and their end.
def WriterPhase.settled : WriterPhase -> Bool
  | .pushing _ | .writing _ | .emptied _ => false
  | _ => true

namespace SockThreads

def Delivered (state : SockThreads) (calls : SendCalls) : Prop :=
  ∃ sent : SendCalls, state.written = sent.bytes ∧
    ∀ caller, (calls.of caller).Sublist (sent.of caller)

-- Where the write side is shut, what was accepted before DisAllowSend has been written.
def NothingLost (state : SockThreads) : Prop :=
  state.shut = true → ∀ calls, state.acceptedBefore = some calls → state.Delivered calls

-- No accepted call waits for the write thread to test m_allow_more_send.
def noneWaits (state : SockThreads) : Bool :=
  (state.writeTasks.all fun task => task.bytes.isEmpty) && state.writer.untested.isEmpty

-- DisAllowSend clears the flag when no accepted call waits to be tested against it, and finds
-- m_outbuf empty only when SendDataInLoop is not about to push.
def disallowsDrained (state : SockThreads) : Event -> Bool
  | .caller _ .disAllowSend =>
    state.sock.isclosing || state.acceptedBefore.isSome || state.noneWaits
  | .writer (.outbufEmptied onSend) =>
    onSend || state.sock.isclosing || state.acceptedBefore.isSome || state.noneWaits
  | .caller _ (.testOutbuf _) =>
    state.sock.isclosing || !state.sock.outbuf.isEmpty || state.writer.pushes.isEmpty
  | _ => true

-- Before DisAllowSend every accepted byte is on its way.
structure Flowing (state : SockThreads) : Prop where
  notShut : state.shut = false
  allowed : ∀ caller, state.callers caller ≠ .disallowed
  flow : state.sock.isclosing = false →
    state.sock.mWriteable = true ∧ state.sock.allowMoreSend = true ∧
      .shutDownWrite ∉ state.writeTasks ∧
      state.written ++ state.sock.outbuf ++ state.writer.pushes ++ state.writer.untested ++
        state.writeTasks.flatMap WriteTask.bytes = state.accepted.bytes

-- After DisAllowSend the buffer holds what is left; a shutdown waits only for an empty buffer.
structure Draining (state : SockThreads) (calls : SendCalls) : Prop where
  drain : state.sock.isclosing = false → state.sock.allowMoreSend = false ∧
    state.written ++ state.sock.outbuf ++ state.writer.pushes = calls.bytes ∧
    (.shutDownWrite ∈ state.writeTasks → state.sock.outbuf = [] ∧ state.writer.pushes = [])
  drained : state.shut = true → state.written = calls.bytes ∧ state.sock.mWriteable = false ∧
    state.writer.settled = true

structure Accounted (state : SockThreads) : Prop where
  closed : state.sock.isclosing = true → state.sock.mWriteable = false
  emptied : ∀ origin, state.writer = .emptied origin → state.sock.outbuf = []
  before : state.acceptedBefore = none → state.Flowing
  after : ∀ calls, state.acceptedBefore = some calls → state.Draining calls

theorem accounted_initial : initial.Accounted := by
  constructor
  · simp [initial, TcpSock.connected]
  · simp [initial]
  · intro _
    constructor <;> simp [initial, TcpSock.connected, WriterPhase.pushes, WriterPhase.untested,
      SendCalls.bytes]
  · simp [initial]

theorem Accounted.nothingLost {state : SockThreads} (accounted : state.Accounted) :
    state.NothingLost := by
  intro shut calls before
  exact ⟨calls, ((accounted.after calls before).drained shut).1, fun _ => List.Sublist.refl _⟩

variable {state following : SockThreads}

theorem loop_accounted {event : LoopEvent} (accounted : state.Accounted)
    (taken : state.loopStep event = some following) : following.Accounted := by
  have effect := loop_effect accounted.closed taken
  have stillOpen (isOpen : following.sock.isclosing = false) :
      state.sock.isclosing = false ∧ following.sock.mWriteable = state.sock.mWriteable ∧
        following.sock.allowMoreSend = state.sock.allowMoreSend := by
    rcases effect.flags with closing | same
    · rw [closing.1] at isOpen
      cases isOpen
    · exact ⟨same.1 ▸ isOpen, same.2⟩
  have sameBytes : following.writeTasks.flatMap WriteTask.bytes =
      state.writeTasks.flatMap WriteTask.bytes := by
    rcases effect.writeTasks with same | queued
    · rw [same]
    · rw [queued, List.flatMap_append]
      exact List.append_nil _
  have sameShutdowns : .shutDownWrite ∈ following.writeTasks ↔ .shutDownWrite ∈ state.writeTasks := by
    rcases effect.writeTasks with same | queued
    · rw [same]
    · simp [queued]
  constructor
  · intro isClosing
    rcases effect.flags with closing | same
    · exact closing.2
    · exact same.2.1.trans (accounted.closed (same.1 ▸ isClosing))
  · intro origin phase
    rw [effect.outbuf]
    exact accounted.emptied origin (effect.writer ▸ phase)
  · intro none
    have flowing := accounted.before (effect.acceptedBefore ▸ none)
    refine ⟨effect.shut ▸ flowing.notShut, effect.callers ▸ flowing.allowed, ?_⟩
    intro isOpen
    obtain ⟨wasOpen, sameWriteable, sameAllow⟩ := stillOpen isOpen
    rw [sameWriteable, sameAllow, sameShutdowns, effect.written, effect.outbuf, effect.writer,
      sameBytes, effect.accepted]
    exact flowing.flow wasOpen
  · intro calls before
    have draining := accounted.after calls (effect.acceptedBefore ▸ before)
    constructor
    · intro isOpen
      obtain ⟨wasOpen, _, sameAllow⟩ := stillOpen isOpen
      rw [sameAllow, sameShutdowns, effect.written, effect.outbuf, effect.writer]
      exact draining.drain wasOpen
    · intro shut
      obtain ⟨written, closed, settled⟩ := draining.drained (effect.shut ▸ shut)
      rw [effect.written, effect.writer]
      refine ⟨written, ?_, settled⟩
      rcases effect.flags with closing | same
      · exact closing.2
      · exact same.2.1.trans closed

section Callers

variable (accounted : state.Accounted)

include accounted

theorem Accounted.setCaller {thread : Nat} {phase : CallerPhase}
    (allowed : phase = .disallowed → state.acceptedBefore ≠ none) :
    (state.setCaller thread phase).Accounted := by
  refine { accounted with before := ?_, after := ?_ }
  · intro none
    have flowing := accounted.before none
    refine { flowing with allowed := ?_ }
    intro caller
    by_cases same : caller = thread
    · subst same
      simp only [SockThreads.setCaller, Function.update_self]
      exact fun isDisallowed => allowed isDisallowed none
    · simp only [SockThreads.setCaller, Function.update_of_ne same]
      exact flowing.allowed caller
  · intro calls before
    exact { accounted.after calls before with }

theorem Accounted.queueData (thread : Nat) (data : Bytes) :
    Accounted { state.queueTaskToWriteLoop (.sendDataInLoop data) with
      accepted := state.accepted ++ [(thread, data)] } := by
  refine { closed := accounted.closed, emptied := accounted.emptied, before := ?_, after := ?_ }
  · intro none
    have flowing := accounted.before none
    refine { notShut := flowing.notShut, allowed := flowing.allowed, flow := ?_ }
    intro isOpen
    obtain ⟨writeable, allow, noShutdown, bytes⟩ := flowing.flow isOpen
    refine ⟨writeable, allow, ?_, ?_⟩
    · simpa [queueTaskToWriteLoop] using noShutdown
    · simp only [queueTaskToWriteLoop, List.flatMap_append, SendCalls.bytes_append, ← bytes]
      simp [WriteTask.bytes, SendCalls.bytes]
  · intro calls before
    have draining := accounted.after calls before
    refine { drain := ?_, drained := draining.drained }
    intro isOpen
    obtain ⟨disallowed, bytes, shutdowns⟩ := draining.drain isOpen
    refine ⟨disallowed, bytes, ?_⟩
    intro waits
    exact shutdowns (by simpa [queueTaskToWriteLoop] using waits)

theorem Accounted.disAllow (drained : state.sock.isclosing = true ∨
    state.acceptedBefore.isSome = true ∨ state.noneWaits = true) : state.disAllow.Accounted := by
  refine { closed := accounted.closed, emptied := accounted.emptied, before := ?_, after := ?_ }
  · intro none
    cases none
  · intro calls before
    cases already : state.acceptedBefore with
    | some earlier =>
      simp only [SockThreads.disAllow, already, Option.getD_some, Option.some.injEq] at before
      have draining := accounted.after earlier already
      subst before
      exact { drain := fun isOpen => ⟨rfl, (draining.drain isOpen).2⟩, drained := draining.drained }
    | none =>
      simp only [SockThreads.disAllow, already, Option.getD_none, Option.some.injEq] at before
      have flowing := accounted.before already
      subst before
      constructor
      · intro isOpen
        obtain ⟨_, _, noShutdown, bytes⟩ := flowing.flow isOpen
        have waits : state.noneWaits = true := by
          rcases drained with closing | known | waits
          · exact absurd (isOpen.symm.trans closing) Bool.false_ne_true
          · simp [already] at known
          · exact waits
        simp only [noneWaits, Bool.and_eq_true, List.all_eq_true, List.isEmpty_iff] at waits
        rw [waits.2, List.flatMap_eq_nil_iff.mpr waits.1, List.append_nil, List.append_nil] at bytes
        exact ⟨rfl, bytes, fun waiting => absurd waiting noShutdown⟩
      · intro shut
        exact absurd (flowing.notShut.symm.trans shut) Bool.false_ne_true

theorem caller_accounted {thread : Nat} {event : CallerEvent}
    (meets : state.disallowsDrained (.caller thread event) = true)
    (taken : state.callerStep thread event = some following) : following.Accounted := by
  cases event with
  | sendData data =>
    simp only [callerStep] at taken
    split at taken
    next =>
      split at taken
      · cases taken
      split at taken <;> cases taken
      · exact accounted
      · exact accounted.setCaller fun isDisallowed => by cases isDisallowed
    next => cases taken
  | queueData =>
    simp only [callerStep] at taken
    split at taken <;> cases taken
    next data _ =>
      have queued := accounted.queueData thread data
      exact queued.setCaller fun isDisallowed => by cases isDisallowed
  | disAllowSend =>
    simp only [callerStep] at taken
    split at taken <;> cases taken
    simp only [disallowsDrained, Bool.or_eq_true, or_assoc] at meets
    exact (accounted.disAllow meets).setCaller fun _ => Option.some_ne_none _
  | testOutbuf inLoopThread =>
    simp only [callerStep] at taken
    split at taken
    next phase =>
      have returned : (state.setCaller thread .idle).Accounted :=
        accounted.setCaller fun isDisallowed => by cases isDisallowed
      split at taken
      · cases taken
        exact returned
      next isOpen =>
        split at taken
        next empty =>
          cases taken
          refine { returned with before := ?_, after := ?_ }
          · intro none
            exact absurd phase ((accounted.before none).allowed thread)
          · intro calls before
            have draining := accounted.after calls before
            refine { drain := ?_, drained := draining.drained }
            intro _
            obtain ⟨disallowed, bytes, _⟩ := draining.drain (Bool.eq_false_iff.mpr isOpen)
            refine ⟨disallowed, bytes, fun _ => ⟨empty, ?_⟩⟩
            change state.writer.pushes = []
            simpa [disallowsDrained, isOpen, empty] using meets
        next =>
          split at taken <;> cases taken
          · obtain ⟨caredev, same⟩ := addAndUpdateEvent_frame state.sock .write
            rw [same]
            exact { closed := returned.closed, emptied := returned.emptied,
                    before := fun none => { returned.before none with },
                    after := fun calls before => { returned.after calls before with } }
          · exact { returned with
                    before := fun none => { returned.before none with },
                    after := fun calls before => { returned.after calls before with } }
    next => cases taken

end Callers

section Writer

variable (accounted : state.Accounted)

include accounted

theorem Accounted.setWriter {phase : WriterPhase} {caredev : SockEvent}
    {lastWrite : Option WriteResult} (pushes : phase.pushes = state.writer.pushes)
    (untested : phase.untested = state.writer.untested)
    (emptied : ∀ origin, phase = .emptied origin → state.sock.outbuf = [])
    (settled : state.shut = true → phase.settled = true) :
    Accounted { state with
      sock := { state.sock with caredev }, writer := phase, lastWrite := lastWrite } := by
  refine { closed := accounted.closed, emptied := emptied, before := ?_, after := ?_ }
  · intro none
    have flowing := accounted.before none
    refine { notShut := flowing.notShut, allowed := flowing.allowed, flow := ?_ }
    rw [pushes, untested]
    exact flowing.flow
  · intro calls before
    have draining := accounted.after calls before
    constructor
    · rw [pushes]
      exact draining.drain
    · intro shut
      obtain ⟨written, notWriteable, _⟩ := draining.drained shut
      exact ⟨written, notWriteable, settled shut⟩

theorem Accounted.notShut (unsettled : state.writer.settled = false) : state.shut = false := by
  cases shut : state.shut with
  | false => rfl
  | true =>
    cases before : state.acceptedBefore with
    | none => exact absurd ((accounted.before before).notShut.symm.trans shut) Bool.false_ne_true
    | some calls =>
      have settled := ((accounted.after calls before).drained shut).2.2
      exact absurd (unsettled.symm.trans settled) Bool.false_ne_true

theorem Accounted.sent {origin : SendOrigin} (phase : state.writer = .writing origin)
    {lastWrite : Option WriteResult} :
    Accounted { state.sent origin with lastWrite := lastWrite } := by
  obtain ⟨caredev, same⟩ := sent_frame state origin
  rw [same]
  exact accounted.setWriter (by rw [phase]; rfl) (by rw [phase]; rfl)
    (fun _ isEmptied => by cases isEmptied) fun _ => rfl

theorem Accounted.take {task : WriteTask} {rest : List WriteTask} (idle : state.writer = .idle)
    (tasks : state.writeTasks = task :: rest) {phase : WriterPhase}
    (pushes : phase.pushes = []) (untested : phase.untested = task.bytes)
    (settled : phase.settled = true) :
    Accounted { state with writeTasks := rest, writer := phase } := by
  refine { closed := accounted.closed, emptied := ?_, before := ?_, after := ?_ }
  · rintro origin rfl
    cases settled
  · intro none
    have flowing := accounted.before none
    refine { notShut := flowing.notShut, allowed := flowing.allowed, flow := ?_ }
    intro isOpen
    obtain ⟨writeable, allow, noShutdown, bytes⟩ := flowing.flow isOpen
    refine ⟨writeable, allow, ?_, ?_⟩
    · rw [tasks] at noShutdown
      exact fun waits => noShutdown (List.mem_cons_of_mem _ waits)
    · rw [tasks, idle, List.flatMap_cons, ← List.append_assoc] at bytes
      rw [pushes, untested]
      simpa [WriterPhase.pushes, WriterPhase.untested] using bytes
  · intro calls before
    have draining := accounted.after calls before
    constructor
    · intro isOpen
      obtain ⟨disallowed, bytes, shutdowns⟩ := draining.drain isOpen
      rw [idle] at bytes shutdowns
      rw [pushes]
      refine ⟨disallowed, bytes, ?_⟩
      intro waits
      exact shutdowns (tasks ▸ List.mem_cons_of_mem _ waits)
    · intro shut
      obtain ⟨written, notWriteable, _⟩ := draining.drained shut
      exact ⟨written, notWriteable, settled⟩

theorem Accounted.shutDownWrite {phase : WriterPhase} (settled : phase.settled = true)
    (samePushes : phase.pushes = state.writer.pushes)
    (sameUntested : phase.untested = state.writer.untested)
    (empty : state.sock.isclosing = false → state.acceptedBefore ≠ none ∧
      state.sock.outbuf = [] ∧ state.writer.pushes = []) :
    Accounted { state.shutDownWrite with writer := phase } := by
  have notEmptied (origin : SendOrigin) : phase ≠ .emptied origin := by
    rintro rfl
    cases settled
  unfold SockThreads.shutDownWrite
  split
  next =>
    exact accounted.setWriter samePushes sameUntested
      (fun origin isEmptied => absurd isEmptied (notEmptied origin)) fun _ => settled
  next isOpen =>
    obtain ⟨disallowed, noOutbuf, noPushes⟩ := empty (Bool.eq_false_iff.mpr isOpen)
    refine ⟨fun _ => rfl, fun origin isEmptied => rfl, fun none => absurd none disallowed, ?_⟩
    intro calls before
    obtain ⟨notAllowed, bytes, _⟩ :=
      (accounted.after calls before).drain (Bool.eq_false_iff.mpr isOpen)
    rw [noOutbuf, noPushes, List.append_nil, List.append_nil] at bytes
    constructor
    · intro _
      refine ⟨notAllowed, ?_, fun _ => ⟨rfl, samePushes.trans noPushes⟩⟩
      change state.written ++ [] ++ phase.pushes = calls.bytes
      rw [samePushes, noPushes, List.append_nil, List.append_nil]
      exact bytes
    · exact fun _ => ⟨bytes, rfl, settled⟩

theorem Accounted.moveBytes {outbuf written : Bytes} {lastWrite : Option WriteResult}
    {phase : WriterPhase} (notShut : state.shut = false)
    (emptied : ∀ origin, phase = .emptied origin → outbuf = [])
    (moved : written ++ outbuf ++ phase.pushes =
      state.written ++ state.sock.outbuf ++ state.writer.pushes)
    (untested : phase.untested = state.writer.untested)
    (drained : state.sock.outbuf = [] → state.writer.pushes = [] →
      outbuf = [] ∧ phase.pushes = []) :
    Accounted { state with
      sock := { state.sock with outbuf }, written, lastWrite, writer := phase } := by
  refine { closed := accounted.closed, emptied := emptied, before := ?_, after := ?_ }
  · intro none
    have flowing := accounted.before none
    refine { notShut := flowing.notShut, allowed := flowing.allowed, flow := ?_ }
    rw [moved, untested]
    exact flowing.flow
  · intro calls before
    refine { drain := ?_, drained := fun shut => absurd (notShut.symm.trans shut) Bool.false_ne_true }
    rw [moved]
    intro isOpen
    obtain ⟨disallowed, bytes, shutdowns⟩ := (accounted.after calls before).drain isOpen
    refine ⟨disallowed, bytes, ?_⟩
    intro waits
    exact drained (shutdowns waits).1 (shutdowns waits).2

theorem Accounted.pushBack {data : Bytes} (phase : state.writer = .pushing data) :
    Accounted { state with
      sock := { state.sock with outbuf := state.sock.outbuf ++ data }
      writer := .writing .sendDataInLoop } := by
  have notShut := accounted.notShut (by rw [phase]; rfl)
  have pushes : state.writer.pushes = data := by rw [phase]; rfl
  have untested : state.writer.untested = [] := by rw [phase]; rfl
  refine accounted.moveBytes notShut (fun _ isEmptied => by cases isEmptied) ?_ untested.symm ?_
  · rw [pushes]
    simp [WriterPhase.pushes]
  · intro noOutbuf noData
    exact ⟨List.append_eq_nil_iff.mpr ⟨noOutbuf, pushes.symm.trans noData⟩, rfl⟩

theorem Accounted.write {origin : SendOrigin} (phase : state.writer = .writing origin) (count : Nat) :
    Accounted { state with
      sock := { state.sock with outbuf := state.sock.outbuf.drop count }
      written := state.written ++ state.sock.outbuf.take count
      lastWrite := some (.taken count)
      writer := if state.sock.outbuf.drop count = [] then .emptied origin else .writing origin } := by
  have notShut := accounted.notShut (by rw [phase]; rfl)
  have sameBytes : state.written ++ state.sock.outbuf.take count ++ state.sock.outbuf.drop count =
      state.written ++ state.sock.outbuf := by
    rw [List.append_assoc, List.take_append_drop]
  have noPushes : WriterPhase.pushes
      (if state.sock.outbuf.drop count = [] then .emptied origin else .writing origin) = [] := by
    split <;> rfl
  have noUntested : WriterPhase.untested
      (if state.sock.outbuf.drop count = [] then .emptied origin else .writing origin) = [] := by
    split <;> rfl
  refine accounted.moveBytes notShut ?_ ?_ ?_ ?_
  · intro other isEmptied
    split at isEmptied
    next empty => exact empty
    next => cases isEmptied
  · rw [noPushes, sameBytes, phase]
    rfl
  · rw [noUntested, phase]
    rfl
  · intro noOutbuf _
    exact ⟨by rw [noOutbuf, List.drop_nil], noPushes⟩

theorem Accounted.outbufEmptied {onSend : Bool} {origin : SendOrigin} {removed allowed : SockThreads}
    (phase : state.writer = .emptied origin)
    (meets : state.disallowsDrained (.writer (.outbufEmptied onSend)) = true)
    (removes : removed = { state with sock := state.sock.removeAndUpdateEvent .write })
    (calls : allowed = if onSend || state.sock.isclosing then removed else removed.disAllow) :
    Accounted (if allowed.sock.allowMoreSend then { allowed with writer := .writing origin }
      else { allowed.shutDownWrite with writer := .idle }) := by
  have notShut := accounted.notShut (by rw [phase]; rfl)
  obtain ⟨caredev, frame⟩ := removeAndUpdateEvent_frame state.sock .write
  rw [frame] at removes
  have removedAccounted : removed.Accounted := by
    rw [removes]
    exact accounted.setWriter rfl rfl accounted.emptied fun shut =>
      absurd (notShut.symm.trans shut) Bool.false_ne_true
  have stillAccounted : allowed.Accounted := by
    rw [calls]
    split
    next => exact removedAccounted
    next refuses =>
      refine removedAccounted.disAllow (.inr ?_)
      rw [removes]
      change state.acceptedBefore.isSome = true ∨ state.noneWaits = true
      simpa [disallowsDrained, Bool.eq_false_iff.mpr refuses] using meets
  have stillEmptied : allowed.writer = .emptied origin := by
    rw [calls, removes]
    split <;> exact phase
  have stillNotShut := stillAccounted.notShut (by rw [stillEmptied]; rfl)
  split
  next =>
    exact stillAccounted.setWriter (by rw [stillEmptied]; rfl) (by rw [stillEmptied]; rfl)
      (fun _ isEmptied => by cases isEmptied) fun shut =>
        absurd (stillNotShut.symm.trans shut) Bool.false_ne_true
  next notAllowed =>
    refine stillAccounted.shutDownWrite rfl (by rw [stillEmptied]; rfl)
      (by rw [stillEmptied]; rfl) ?_
    intro isOpen
    refine ⟨?_, stillAccounted.emptied origin stillEmptied, by rw [stillEmptied]; rfl⟩
    intro none
    exact notAllowed ((stillAccounted.before none).flow isOpen).2.1

-- SendDataInLoop drops the data only after Close or DisAllowSend.
theorem Accounted.refuses {data : Bytes} (phase : state.writer = .checking data)
    (refuses : state.sock.isclosing = true ∨ state.sock.writeable = false) :
    Accounted { state with writer := .idle } := by
  refine { closed := accounted.closed, emptied := fun _ isEmptied => (by cases isEmptied),
           before := ?_, after := ?_ }
  · intro none
    have flowing := accounted.before none
    refine { notShut := flowing.notShut, allowed := flowing.allowed, flow := ?_ }
    intro isOpen
    obtain ⟨writeable, allow, _⟩ := flowing.flow isOpen
    have isOpen : state.sock.isclosing = false := isOpen
    simp [isOpen, TcpSock.writeable, show state.sock.mWriteable = true from writeable,
      show state.sock.allowMoreSend = true from allow] at refuses
  · intro calls before
    have draining := accounted.after calls before
    refine { drain := ?_, drained := ?_ }
    · have drain := draining.drain
      rw [phase] at drain
      exact drain
    · intro shut
      obtain ⟨written, notWriteable, _⟩ := draining.drained shut
      exact ⟨written, notWriteable, rfl⟩

theorem Accounted.passes {data : Bytes} (phase : state.writer = .checking data)
    (isOpen : state.sock.isclosing = false) (allow : state.sock.allowMoreSend = true) :
    Accounted { state with writer := .pushing data } := by
  refine { closed := accounted.closed, emptied := fun _ isEmptied => (by cases isEmptied),
           before := ?_, after := ?_ }
  · intro none
    have flowing := accounted.before none
    refine { notShut := flowing.notShut, allowed := flowing.allowed, flow := ?_ }
    intro _
    have flow := flowing.flow isOpen
    rw [phase] at flow
    simpa [WriterPhase.pushes, WriterPhase.untested] using flow
  · intro calls before
    have disallowed := ((accounted.after calls before).drain isOpen).1
    exact absurd (disallowed.symm.trans allow) Bool.false_ne_true

theorem Accounted.holdsNothing {was phase : WriterPhase} (before : state.writer = was)
    (wasEmpty : was.pushes = [] ∧ was.untested = []) (pushes : phase.pushes = [])
    (untested : phase.untested = []) (emptied : ∀ origin, phase ≠ .emptied origin)
    (settled : state.shut = true → phase.settled = true) :
    Accounted { state with writer := phase } := by
  refine accounted.setWriter ?_ ?_ (fun origin isEmptied => absurd isEmptied (emptied origin))
    settled
  · rw [before, wasEmpty.1, pushes]
  · rw [before, wasEmpty.2, untested]

theorem writer_accounted {event : WriterEvent}
    (meets : state.disallowsDrained (.writer event) = true)
    (taken : state.writerStep event = some following) : following.Accounted := by
  cases writerStep_moves taken with
  | takeData data rest idle tasks => exact accounted.take idle tasks rfl rfl rfl
  | takeShutDown rest idle tasks =>
    have removed : Accounted { state with writeTasks := rest, writer := .idle } :=
      accounted.take idle tasks rfl rfl rfl
    rw [← idle] at removed
    refine removed.shutDownWrite rfl (by rw [idle]) (by rw [idle]) ?_
    intro isOpen
    have waits : WriteTask.shutDownWrite ∈ state.writeTasks := tasks ▸ List.mem_cons_self
    cases before : state.acceptedBefore with
    | none => exact absurd waits ((accounted.before before).flow isOpen).2.2.1
    | some calls =>
      have empty := ((accounted.after calls before).drain isOpen).2.2 waits
      exact ⟨fun none => Option.some_ne_none calls none, empty.1, by rw [idle]; rfl⟩
  | takeHandleEvent rest idle tasks => exact accounted.take idle tasks rfl rfl rfl
  | refused data phase refuses => exact accounted.refuses phase refuses
  | passed data phase isOpen writeable allow => exact accounted.passes phase isOpen allow
  | pushBack data phase => exact accounted.pushBack phase
  | writeClosed result origin phase isClosing =>
    exact accounted.holdsNothing phase ⟨rfl, rfl⟩ rfl rfl (by simp) fun _ => rfl
  | writeNothing result origin phase empty => exact accounted.sent phase
  | again origin phase => exact accounted.sent phase
  | write count origin phase left => exact accounted.write phase count
  | outbufEmptied onSend origin phase removed allowed removes calls =>
    exact accounted.outbufEmptied phase meets removes calls
  | readFirst phase leaves =>
    exact accounted.holdsNothing phase ⟨rfl, rfl⟩ rfl rfl (by simp) fun _ => rfl
  | noRead phase => exact accounted.holdsNothing phase ⟨rfl, rfl⟩ rfl rfl (by simp) fun _ => rfl
  | handleWrite phase writeable =>
    refine accounted.holdsNothing phase ⟨rfl, rfl⟩ rfl rfl (by simp) ?_
    intro shut
    cases before : state.acceptedBefore with
    | none => exact absurd ((accounted.before before).notShut.symm.trans shut) Bool.false_ne_true
    | some calls =>
      have notWriteable := ((accounted.after calls before).drained shut).2.1
      exact absurd (notWriteable.symm.trans writeable) Bool.false_ne_true
  | noWrite phase leaves =>
    exact accounted.holdsNothing phase ⟨rfl, rfl⟩ rfl rfl (by simp) fun _ => rfl

end Writer

theorem step_accounted {event : Event} (accounted : state.Accounted)
    (meets : state.disallowsDrained event = true) (taken : state.step event = some following) :
    following.Accounted := by
  cases event with
  | caller thread event => exact caller_accounted accounted meets taken
  | writer event => exact writer_accounted accounted meets taken
  | loop event => exact loop_accounted accounted taken

theorem accepted_written_before_shutdown (state : SockThreads)
    (reached : Transition.ReachableWhen step
      (fun state event => state.disallowsDrained event = true) initial state) :
    state.NothingLost :=
  (reached.invariant Accounted accounted_initial fun _ _ _ accounted meets taken =>
    step_accounted accounted meets taken).nothingLost

-- The second byte is written after DisAllowSend, when the socket reports that it is writable.
def drainedRun : List Event :=
  [.caller 0 (.sendData [0x61, 0x62]), .caller 0 .queueData, .writer .take, .writer .testWriteable,
    .writer .pushBack, .writer (.write (.taken 1)), .writer (.write .again),
    .caller 0 .disAllowSend, .caller 0 (.testOutbuf false), .loop .runPending, .loop .clearEvent,
    .loop (.addEvent .write), .loop .report, .loop .dispatch, .writer .take, .writer .testRead,
    .writer .testWrite, .writer (.write (.taken 1)), .writer (.outbufEmptied true)]

theorem accepted_written_before_shutdown_two_writes : ∃ state : SockThreads, state.shut = true ∧
    state.acceptedBefore = some [(0, [0x61, 0x62])] ∧ state.NothingLost := by
  obtain ⟨state, ran, shut, before⟩ : ∃ state,
      Transition.run (Transition.checkedStep step fun state event =>
        state.disallowsDrained event = true) initial drainedRun = some state ∧
      state.shut = true ∧ state.acceptedBefore = some [(0, [0x61, 0x62])] := ⟨_, rfl, rfl, rfl⟩
  exact ⟨state, shut, before,
    accepted_written_before_shutdown state (Transition.ReachableWhen.start.run _ ran)⟩

-- The write thread tests the flag only after DisAllowSend has cleared it, and drops the data.
def droppedRun : List Event :=
  [.caller 0 (.sendData [0x61]), .caller 0 .queueData, .caller 0 .disAllowSend,
    .caller 0 (.testOutbuf false), .writer .take, .writer .testWriteable, .writer .take]

theorem accepted_data_dropped :
    ¬ ∀ state, Transition.Reachable step initial state → state.NothingLost := by
  intro nothingLost
  obtain ⟨state, ran, shut, before, unwritten⟩ : ∃ state,
      Transition.run step initial droppedRun = some state ∧ state.shut = true ∧
        state.acceptedBefore = some [(0, [0x61])] ∧ state.written = [] := ⟨_, rfl, rfl, rfl, rfl⟩
  obtain ⟨sent, written, inOrder⟩ :=
    nothingLost state (Transition.Reachable.run .start _ ran) shut _ before
  have there : (0, [0x61]) ∈ sent.of 0 := (inOrder 0).subset (by decide)
  have empty := List.flatMap_eq_nil_iff.mp (written.symm.trans unwritten)
    (0, [0x61]) (List.mem_of_mem_filter there)
  cases empty

end SockThreads

end MessageBus.Net
