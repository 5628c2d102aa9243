import MessageBus.Net.TcpSock

set_option autoImplicit false

namespace MessageBus.Net

def WriterPhase.isPushing : WriterPhase -> Bool
  | .pushing _ => true
  | _ => false

def WriterPhase.attends : WriterPhase -> Bool
  | .writing _ | .handling | .handlingWrite => true
  | _ => false

namespace SockThreads

-- No HandleEvent and no send task is queued or running, and every report has been dispatched.
def Quiet (state : SockThreads) : Prop :=
  state.writer = .idle ∧ state.loop = .idle ∧ ∀ task ∈ state.writeTasks, task = .shutDownWrite

def NotStranded (state : SockThreads) : Prop :=
  state.Quiet → state.sock.isclosing = false → state.sock.outbuf ≠ [] →
    state.lastWrite = some .again

-- HandleEvent in the write thread finds EV_WRITE, and not EV_READ, in m_sockev, while there is
-- something to write.
def handlesWrite (state : SockThreads) : Event -> Bool
  | .writer .testRead =>
    state.sock.isclosing || state.sock.outbuf.isEmpty || !state.sock.sockev.hasRead
  | .writer .testWrite =>
    state.sock.isclosing || state.sock.outbuf.isEmpty || state.sock.sockev.hasWrite
  | _ => true

-- Who is going to write what is left, when the last write did not end with EAGAIN.
inductive Attended (state : SockThreads) : Prop where
  | again (last : state.lastWrite = some .again)
  | queued (waits : .handleEvent ∈ state.writeTasks)
  | running (attends : state.writer.attends = true)
  | reported (ready : state.loop = .ready) (writes : state.sock.sockev.hasWrite = true)

structure Watched (state : SockThreads) : Prop where
  closed : state.sock.isclosing = true → state.sock.mWriteable = false
  emptied : ∀ origin, state.writer = .emptied origin → state.sock.outbuf = []
  shutDown : state.sock.isclosing = false → state.sock.mWriteable = false →
    state.sock.outbuf = [] ∧ state.writer.isPushing = false
  attended : state.sock.isclosing = false → state.sock.outbuf ≠ [] → state.Attended

theorem watched_initial : initial.Watched := by
  constructor <;> simp [initial, TcpSock.connected]

theorem Watched.notStranded {state : SockThreads} (watched : state.Watched) :
    state.NotStranded := by
  intro quiet isOpen left
  obtain ⟨idle, loopIdle, onlyShutdowns⟩ := quiet
  cases watched.attended isOpen left with
  | again last => exact last
  | queued waits => cases onlyShutdowns _ waits
  | running attends =>
    rw [idle] at attends
    cases attends
  | reported ready _ =>
    rw [loopIdle] at ready
    cases ready

variable {state following : SockThreads}

theorem watched_empty (closed : state.sock.isclosing = true → state.sock.mWriteable = false)
    (empty : state.sock.outbuf = []) (notPushing : state.writer.isPushing = false) :
    state.Watched :=
  ⟨closed, fun _ _ => empty, fun _ _ => ⟨empty, notPushing⟩, fun _ left => absurd empty left⟩

theorem watched_shutDown {phase : WriterPhase}
    (closed : state.sock.isclosing = true → state.sock.mWriteable = false)
    (emptied : ∀ origin, phase ≠ .emptied origin) (notPushing : phase.isPushing = false) :
    Watched { state.shutDownWrite with writer := phase } := by
  unfold shutDownWrite
  split
  next isClosing =>
    refine ⟨closed, fun origin isEmptied => absurd isEmptied (emptied origin), ?_, ?_⟩ <;>
      exact fun isOpen _ => absurd (isOpen.symm.trans isClosing) Bool.false_ne_true
  next => exact watched_empty (fun _ => rfl) rfl notPushing

section Steps

variable (watched : state.Watched)

include watched

-- The loop thread keeps the attention: a report with EV_WRITE is attended until it is dispatched.
theorem loop_attended {event : LoopEvent} (taken : state.loopStep event = some following)
    (attended : state.Attended) (stillOpen : following.sock.isclosing = false) :
    following.Attended := by
  have effect := loop_effect watched.closed taken
  have carried (kept : state.lastWrite = following.lastWrite)
      (reports : state.loop = .ready → state.sock.sockev.hasWrite = true →
        .handleEvent ∈ following.writeTasks ∨
          (following.loop = .ready ∧ following.sock.sockev.hasWrite = true)) :
      following.Attended := by
    cases attended with
    | again last => exact .again (kept ▸ last)
    | queued waits =>
      rcases effect.writeTasks with same | queued
      · exact .queued (same ▸ waits)
      · exact .queued (queued ▸ List.mem_append_left _ waits)
    | running attends => exact .running (effect.writer ▸ attends)
    | reported ready writes =>
      rcases reports ready writes with waits | ⟨ready, writes⟩
      · exact .queued waits
      · exact .reported ready writes
  have elsewhere {phase : LoopPhase} (inPhase : state.loop = phase) (different : phase ≠ .ready)
      (kept : state.lastWrite = following.lastWrite) : following.Attended :=
    carried kept fun ready _ => absurd (inPhase.symm.trans ready) different
  cases event with
  | clearEvent =>
    simp only [loopStep] at taken
    split at taken <;> cases taken
    next enabled => exact elsewhere enabled.1 (by decide) rfl
  | addEvent er =>
    simp only [loopStep] at taken
    split at taken <;> cases taken
    next waited => exact elsewhere waited (by decide) rfl
  | report =>
    simp only [loopStep] at taken
    split at taken <;> cases taken
    next enabled =>
      by_cases writes : state.sock.sockev.hasWrite = true
      · exact .reported rfl writes
      · exact elsewhere enabled.1 (by decide) (if_neg writes).symm
  | runPending =>
    simp only [loopStep] at taken
    split at taken
    · cases taken
    next er rest _ =>
      split at taken <;> cases taken
      obtain ⟨caredev, same⟩ := addAndUpdateEvent_frame state.sock er
      refine carried rfl fun ready writes => .inr ⟨ready, ?_⟩
      rw [same]
      exact writes
  | close =>
    simp only [loopStep] at taken
    split at taken <;> cases taken
    have closing := (close_flags state.sock watched.closed).1
    exact absurd (stillOpen.symm.trans closing) Bool.false_ne_true
  | dispatch =>
    simp only [loopStep] at taken
    split at taken <;> cases taken
    refine carried ?_ fun _ writes => .inl ?_
    · split <;> rfl
    · rw [if_pos writes]
      exact List.mem_append_right _ (List.mem_singleton_self _)
  | read result =>
    simp only [loopStep] at taken
    split at taken
    next inPhase =>
      have kept : state.lastWrite = following.lastWrite := by
        split at taken
        · cases taken
          rfl
        split at taken
        · cases result <;> cases taken <;> rfl
        · cases taken
          rfl
      exact elsewhere inPhase (by decide) kept
    next => cases taken
  | handleRest =>
    simp only [loopStep] at taken
    split at taken <;> cases taken
    next inPhase => exact elsewhere inPhase (by decide) rfl

theorem loop_watched {event : LoopEvent} (taken : state.loopStep event = some following) :
    following.Watched := by
  have effect := loop_effect watched.closed taken
  have stillOpen (isOpen : following.sock.isclosing = false) :
      state.sock.isclosing = false ∧ following.sock.mWriteable = state.sock.mWriteable := by
    rcases effect.flags with closing | same
    · exact absurd (isOpen.symm.trans closing.1) Bool.false_ne_true
    · exact ⟨same.1 ▸ isOpen, same.2.1⟩
  constructor
  · intro isClosing
    rcases effect.flags with closing | same
    · exact closing.2
    · exact same.2.1.trans (watched.closed (same.1 ▸ isClosing))
  · intro origin phase
    rw [effect.outbuf]
    exact watched.emptied origin (effect.writer ▸ phase)
  · intro isOpen notWriteable
    obtain ⟨wasOpen, sameWriteable⟩ := stillOpen isOpen
    rw [effect.outbuf, effect.writer]
    exact watched.shutDown wasOpen (sameWriteable ▸ notWriteable)
  · intro isOpen left
    exact loop_attended watched taken
      (watched.attended (stillOpen isOpen).1 (effect.outbuf ▸ left)) isOpen

theorem caller_watched {thread : Nat} {event : CallerEvent}
    (taken : state.callerStep thread event = some following) : following.Watched := by
  have unchanged {sock : TcpSock} {callers : Nat -> CallerPhase} {queued : List WriteTask}
      {pendings : List EventResult} {accepted : SendCalls} {acceptedBefore : Option SendCalls}
      (same : sock = { state.sock with
        caredev := sock.caredev, allowMoreSend := sock.allowMoreSend }) :
      Watched { state with
        sock, callers, pendings, accepted, acceptedBefore
        writeTasks := state.writeTasks ++ queued } := by
    rw [same]
    refine ⟨watched.closed, watched.emptied, watched.shutDown, ?_⟩
    intro isOpen left
    cases watched.attended isOpen left with
    | again last => exact .again last
    | queued waits => exact .queued (List.mem_append_left _ waits)
    | running attends => exact .running attends
    | reported ready writes => exact .reported ready writes
  have noTasks : state.writeTasks = state.writeTasks ++ [] := (List.append_nil _).symm
  cases event with
  | sendData data =>
    simp only [callerStep] at taken
    split at taken
    next =>
      split at taken
      · cases taken
      split at taken <;> cases taken
      · exact watched
      · rw [setCaller, noTasks]
        exact unchanged rfl
    next => cases taken
  | queueData =>
    simp only [callerStep] at taken
    split at taken <;> cases taken
    exact unchanged rfl
  | disAllowSend =>
    simp only [callerStep] at taken
    split at taken <;> cases taken
    rw [setCaller, disAllow, noTasks]
    exact unchanged rfl
  | testOutbuf inLoopThread =>
    simp only [callerStep] at taken
    split at taken
    next =>
      split at taken
      · cases taken
        rw [setCaller, noTasks]
        exact unchanged rfl
      split at taken
      · cases taken
        exact unchanged rfl
      split at taken <;> cases taken
      · obtain ⟨caredev, same⟩ := addAndUpdateEvent_frame state.sock .write
        rw [same, setCaller, noTasks]
        exact unchanged rfl
      · rw [setCaller, noTasks]
        exact unchanged rfl
    next => cases taken

theorem Watched.setWriter {phase : WriterPhase} {rest : List WriteTask}
    (emptied : ∀ origin, phase ≠ .emptied origin)
    (pushes : phase.isPushing = true → state.sock.mWriteable = true)
    (attended : state.sock.isclosing = false → state.sock.outbuf ≠ [] →
      Attended { state with writeTasks := rest, writer := phase }) :
    Watched { state with writeTasks := rest, writer := phase } := by
  refine ⟨watched.closed, fun origin isEmptied => absurd isEmptied (emptied origin), ?_, attended⟩
  intro isOpen notWriteable
  refine ⟨(watched.shutDown isOpen notWriteable).1, ?_⟩
  cases isPushing : phase.isPushing with
  | false => rfl
  | true =>
    have writeable := pushes isPushing
    exact absurd (notWriteable.symm.trans writeable) Bool.false_ne_true

theorem writer_watched {event : WriterEvent} (meets : state.handlesWrite (.writer event) = true)
    (taken : state.writerStep event = some following) : following.Watched := by
  -- A phase that does not attend leaves the attention to the queue or to the loop.
  have carried {was phase : WriterPhase} (before : state.writer = was) (attends : was.attends = false)
      (isOpen : state.sock.isclosing = false) (left : state.sock.outbuf ≠ []) :
      Attended { state with writer := phase } := by
    cases watched.attended isOpen left with
    | again last => exact .again last
    | queued waits => exact .queued waits
    | running attending =>
      rw [before, attends] at attending
      cases attending
    | reported ready writes => exact .reported ready writes
  cases writerStep_moves taken with
  | takeData data rest idle tasks =>
    refine watched.setWriter (by simp) (fun isPushing => by cases isPushing) ?_
    intro isOpen left
    cases @carried _ .idle idle rfl isOpen left with
    | again last => exact .again last
    | queued waits =>
      rcases List.mem_cons.mp (tasks ▸ waits) with same | later
      · cases same
      · exact .queued later
    | running attends => cases attends
    | reported ready writes => exact .reported ready writes
  | takeShutDown rest idle tasks => exact watched_shutDown watched.closed (by simp) rfl
  | takeHandleEvent rest idle tasks =>
    exact watched.setWriter (by simp) (fun isPushing => by cases isPushing) fun _ _ => .running rfl
  | refused data phase refuses =>
    exact watched.setWriter (by simp) (fun isPushing => by cases isPushing) (carried phase rfl)
  | passed data phase isOpen writeable allow =>
    exact watched.setWriter (by simp) (fun _ => writeable) (carried phase rfl)
  | pushBack data phase =>
    refine ⟨watched.closed, fun _ isEmptied => (by cases isEmptied), ?_, fun _ _ => .running rfl⟩
    intro isOpen notWriteable
    have notPushing := (watched.shutDown isOpen notWriteable).2
    rw [phase] at notPushing
    cases notPushing
  | writeClosed result origin phase isClosing =>
    exact watched.setWriter (by simp) (fun isPushing => by cases isPushing) fun isOpen _ =>
      absurd (isOpen.symm.trans isClosing) Bool.false_ne_true
  | writeNothing result origin phase empty =>
    obtain ⟨caredev, same⟩ := sent_frame state origin
    rw [same]
    exact watched_empty watched.closed empty rfl
  | again origin phase =>
    obtain ⟨caredev, same⟩ := sent_frame state origin
    rw [same]
    refine ⟨watched.closed, fun _ isEmptied => (by cases isEmptied), ?_, fun _ _ => .again rfl⟩
    intro isOpen notWriteable
    exact ⟨(watched.shutDown isOpen notWriteable).1, rfl⟩
  | write count origin phase left =>
    refine ⟨watched.closed, ?_, ?_, ?_⟩
    · intro other isEmptied
      change (if _ then _ else _) = _ at isEmptied
      split at isEmptied
      next empty => exact empty
      next => cases isEmptied
    · intro isOpen notWriteable
      exact absurd (watched.shutDown isOpen notWriteable).1 left
    · intro _ stillLeft
      exact .running (by rw [if_neg stillLeft]; rfl)
  | outbufEmptied onSend origin phase removed allowed removes calls =>
    have same : allowed.sock.isclosing = state.sock.isclosing ∧
        allowed.sock.mWriteable = state.sock.mWriteable ∧
        allowed.sock.outbuf = state.sock.outbuf := by
      obtain ⟨caredev, frame⟩ := removeAndUpdateEvent_frame state.sock .write
      rw [frame] at removes
      rw [calls, removes]
      split <;> exact ⟨rfl, rfl, rfl⟩
    have closed : allowed.sock.isclosing = true → allowed.sock.mWriteable = false := by
      rw [same.1, same.2.1]
      exact watched.closed
    have empty : allowed.sock.outbuf = [] := same.2.2.trans (watched.emptied origin phase)
    split
    · exact watched_empty closed empty rfl
    · exact watched_shutDown closed (by simp) rfl
  | readFirst phase leaves =>
    refine watched.setWriter (by simp) (fun isPushing => by cases isPushing) ?_
    intro isOpen left
    simp [handlesWrite, isOpen, left] at meets
    simp [isOpen, meets] at leaves
  | noRead phase =>
    exact watched.setWriter (by simp) (fun isPushing => by cases isPushing) fun _ _ => .running rfl
  | handleWrite phase writeable =>
    exact watched.setWriter (by simp) (fun isPushing => by cases isPushing) fun _ _ => .running rfl
  | noWrite phase leaves =>
    refine watched.setWriter (by simp) (fun isPushing => by cases isPushing) ?_
    intro isOpen left
    simp only [handlesWrite, isOpen, List.isEmpty_iff, Bool.false_or, Bool.or_eq_true, left,
      false_or] at meets
    have notWriteable := leaves.resolve_left (by simp [meets])
    exact absurd (watched.shutDown isOpen notWriteable).1 left

end Steps

theorem step_watched {event : Event} (watched : state.Watched)
    (meets : state.handlesWrite event = true) (taken : state.step event = some following) :
    following.Watched := by
  cases event with
  | caller thread event => exact caller_watched watched taken
  | writer event => exact writer_watched watched meets taken
  | loop event => exact loop_watched watched taken

theorem output_never_stranded (state : SockThreads)
    (reached : Transition.ReachableWhen step
      (fun state event => state.handlesWrite event = true) initial state) : state.NotStranded :=
  (reached.invariant Watched watched_initial fun _ _ _ watched meets taken =>
    step_watched watched meets taken).notStranded

-- One byte stays in m_outbuf with EAGAIN, and the report that follows meets EAGAIN again.
def leftRun : List Event :=
  [.caller 0 (.sendData [0x61, 0x62]), .caller 0 .queueData, .writer .take, .writer .testWriteable,
    .writer .pushBack, .writer (.write (.taken 1)), .writer (.write .again)]

def reportRun (events : List EventResult) : List Event :=
  .loop .clearEvent :: events.map (fun er => .loop (.addEvent er)) ++
    [.loop .report, .loop .dispatch, .loop (.read .again), .loop .handleRest]

theorem output_never_stranded_again : ∃ state : SockThreads, state.Quiet ∧
    state.sock.isclosing = false ∧ state.sock.outbuf = [0x62] ∧ state.NotStranded := by
  obtain ⟨state, ran, writer, loop, tasks, isOpen, left⟩ : ∃ state,
      Transition.run (Transition.checkedStep step fun state event =>
        state.handlesWrite event = true) initial (leftRun ++ reportRun [.write] ++
          [.writer .take, .writer .testRead, .writer .testWrite, .writer (.write .again)]) =
            some state ∧
      state.writer = .idle ∧ state.loop = .idle ∧ state.writeTasks = [] ∧
        state.sock.isclosing = false ∧ state.sock.outbuf = [0x62] :=
    ⟨_, rfl, rfl, rfl, rfl, rfl, rfl⟩
  refine ⟨state, ⟨writer, loop, ?_⟩, isOpen, left,
    output_never_stranded state (Transition.ReachableWhen.start.run _ ran)⟩
  rw [tasks]
  exact List.forall_mem_nil _

-- The report holds EV_READ as well, and HandleEvent leaves the write thread at its first test.
theorem output_stranded : ¬ ∀ state, Transition.Reachable step initial state → state.NotStranded := by
  intro notStranded
  obtain ⟨state, ran, writer, loop, tasks, isOpen, left, last⟩ : ∃ state,
      Transition.run step initial (leftRun ++ reportRun [.read, .write] ++
        [.writer .take, .writer .testRead]) = some state ∧
      state.writer = .idle ∧ state.loop = .idle ∧ state.writeTasks = [] ∧
        state.sock.isclosing = false ∧ state.sock.outbuf = [0x62] ∧ state.lastWrite = none :=
    ⟨_, rfl, rfl, rfl, rfl, rfl, rfl, rfl⟩
  have quiet : state.Quiet := by
    refine ⟨writer, loop, ?_⟩
    rw [tasks]
    exact List.forall_mem_nil _
  have again := notStranded state (Transition.Reachable.run .start _ ran) quiet isOpen
    (by simp [left])
  rw [last] at again
  cases again

end SockThreads

end MessageBus.Net
