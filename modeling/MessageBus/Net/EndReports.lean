import MessageBus.Net.LoopThreads

set_option autoImplicit false

namespace MessageBus.Net

-- A write that fails, a read that ends, an exception: the end of the connection is noticed.
def Point.endsSock (thread : ThreadId) (sock : LoopSock) : Point -> Outcome -> Bool
  | .doSend _, .failed | .reading, .zero | .reading, .failed => true
  | .handleException, _ => sock.sockev.hasException && !(sock.evloop && thread ≠ .loop)
  | _, _ => false

theorem endsSock_serves {thread : ThreadId} {sock : LoopSock} {point : Point} {outcome : Outcome}
    (notices : point.endsSock thread sock outcome = true)
    (allowed : point.allowed thread sock = true) : thread.serves = true := by
  cases point with
  | doSend | reading | handleException => exact allowed
  | _ => cases outcome <;> cases notices

inductive Point.EndMove (thread : ThreadId) (sock : LoopSock) (outcome : Outcome) :
    Point -> Effect -> Prop where
  | ends (point : Point) (report : EndReport)
      (notices : point.endsSock thread sock outcome = true) :
      EndMove thread sock outcome point (Effect.endReport sock report)
  | dropped (needremove told : Bool) (isClosing : sock.isclosing = true) :
      EndMove thread sock outcome (.close needremove told) (Effect.goOn sock [])
  | queued (needremove told : Bool) :
      EndMove thread sock outcome (.close needremove told)
        (Effect.queueTaskToLoop sock (.close needremove told))
  | begins (needremove told : Bool) (next : List Point) (clears : .clearSockcb ∈ next) :
      EndMove thread sock outcome (.close needremove told) (Effect.goOn
        { sock with isclosing := true, mWriteable := false, allowMoreSend := false } next)
  | clears : EndMove thread sock outcome .clearSockcb (Effect.goOn { sock with sockcb := false } [])
  | goesOn (point : Point) (effect : Effect)
      (notClose : ∀ needremove told, point ≠ .close needremove told)
      (notClear : point ≠ .clearSockcb) (reports : effect.sock.reports = sock.reports)
      (sockcb : effect.sock.sockcb = sock.sockcb)
      (closing : effect.sock.isclosing = sock.isclosing) : EndMove thread sock outcome point effect

theorem advance_endMoves {thread : ThreadId} {sock : LoopSock} {point : Point} {outcome : Outcome}
    {effect : Effect} (taken : point.advance thread sock outcome = some effect) :
    point.EndMove thread sock outcome effect := by
  cases point with
  | close needremove told =>
    simp only [Point.advance] at taken
    split at taken
    next isClosing =>
      cases taken
      exact .dropped needremove told isClosing
    next =>
      split at taken <;> cases taken
      · exact .queued needremove told
      · refine .begins needremove told _ ?_
        split <;> simp
  | clearSockcb =>
    cases taken
    exact .clears
  | doSend origin =>
    cases outcome with
    | failed =>
      cases taken
      exact .ends _ _ rfl
    | taken count =>
      simp only [Point.advance] at taken
      split at taken <;> cases taken
      exact .goesOn _ _ (by simp) (by simp) rfl rfl rfl
    | zero | again | interrupted =>
      cases taken
      exact .goesOn _ _ (by simp) (by simp) rfl rfl rfl
    | done | returned => cases taken
  | reading =>
    cases outcome with
    | failed =>
      cases taken
      exact .ends _ _ rfl
    | zero =>
      cases taken
      exact .ends _ _ rfl
    | taken | again | interrupted =>
      cases taken
      exact .goesOn _ _ (by simp) (by simp) rfl rfl rfl
    | done | returned => cases taken
  | handleException =>
    simp only [Point.advance] at taken
    split at taken
    next exception =>
      split at taken <;> cases taken
      next => exact .goesOn _ _ (by simp) (by simp) rfl rfl rfl
      next here =>
        refine .ends _ _ ?_
        simp only [Point.endsSock, exception, Bool.true_and, Bool.not_eq_true']
        exact Bool.not_eq_true _ ▸ here
    next =>
      cases taken
      exact .goesOn _ _ (by simp) (by simp) rfl rfl rfl
  | _ =>
    revert taken
    cases outcome <;> simp only [Point.advance] <;> repeat' split
    all_goals
      rintro ⟨⟩
      try exact .goesOn _ _ (by simp) (by simp) rfl rfl rfl

-- At most one report; after it the handlers are cleared, or a Close is on the way that will clear
-- them, or one is clearing them.
structure LoopSock.Once (sock : LoopSock) (told clearing : Prop) : Prop where
  cleared : sock.isclosing = true → sock.sockcb = false ∨ clearing
  once : sock.reports = [] ∨
    (∃ report, sock.reports = [report]) ∧ (sock.sockcb = false ∨ told ∨ clearing)

theorem LoopSock.Once.carried {sock later : LoopSock} {told clearing toldLater clearingLater : Prop}
    (holds : sock.Once told clearing) (reports : later.reports = sock.reports)
    (sockcb : later.sockcb = sock.sockcb) (closing : later.isclosing = sock.isclosing)
    (keepsTold : told → toldLater ∨ later.isclosing = true) (keeps : clearing → clearingLater) :
    later.Once toldLater clearingLater := by
  have cleared : later.isclosing = true → later.sockcb = false ∨ clearingLater := by
    rw [closing, sockcb]
    exact fun isClosing => (holds.cleared isClosing).imp_right keeps
  refine ⟨cleared, ?_⟩
  rw [reports]
  refine holds.once.imp_right (And.imp_right fun settled => ?_)
  rcases settled with noHandlers | onTheWay | clears
  · exact .inl (sockcb ▸ noHandlers)
  · rcases keepsTold onTheWay with still | isClosing
    · exact .inr (.inl still)
    · exact (cleared isClosing).imp_right .inr
  · exact .inr (.inr (keeps clears))

def Point.isToldClose : Point -> Bool
  | .close _ told => told
  | _ => false

namespace EventLoop

def toldClose (state : EventLoop) (id : Nat) : Bool :=
  (state.threads .loop ++ state.threads .write ++ state.pendings).any fun frame =>
    frame.1 == id && frame.2.isToldClose

def clearing (state : EventLoop) (id : Nat) : Bool :=
  (state.threads .loop).contains (id, .clearSockcb)

-- The end of a sock is noticed while its handlers are cleared, or while no Close that follows a
-- report of it is on the way and none is clearing them.
def reportsApart (state : EventLoop) : Event -> Bool
  | .advance thread outcome =>
    match state.threads thread with
    | (id, point) :: _ =>
      !point.endsSock thread (state.socks id) outcome || !(state.socks id).sockcb ||
        !(state.toldClose id || state.clearing id)
    | [] => true
  | _ => true

def ReportedOnce (state : EventLoop) : Prop := ∀ id, (state.socks id).reports.length ≤ 1

structure Once (state : EventLoop) : Prop where
  placed : state.Placed
  socks : ∀ id, (state.socks id).Once (state.toldClose id = true) (state.clearing id = true)

variable {state following : EventLoop}

theorem toldClose_iff {id : Nat} : state.toldClose id = true ↔
    ∃ needremove, (id, Point.close needremove true) ∈ state.threads .loop ∨
      (id, Point.close needremove true) ∈ state.threads .write ∨
        (id, Point.close needremove true) ∈ state.pendings := by
  simp only [toldClose, List.any_eq_true, List.mem_append, Bool.and_eq_true, beq_iff_eq, or_assoc]
  constructor
  · rintro ⟨⟨other, point⟩, member, rfl, told⟩
    cases point <;> simp only [Point.isToldClose, Bool.false_eq_true] at told
    next needremove _ =>
      subst told
      exact ⟨needremove, member⟩
  · rintro ⟨needremove, member⟩
    exact ⟨_, member, rfl, rfl⟩

theorem clearing_iff {id : Nat} :
    state.clearing id = true ↔ (id, Point.clearSockcb) ∈ state.threads .loop :=
  List.contains_iff_mem

theorem Once.reportedOnce (once : state.Once) : state.ReportedOnce := by
  intro id
  rcases (once.socks id).once with nothing | ⟨⟨report, one⟩, _⟩
  · rw [nothing]
    exact Nat.zero_le 1
  · rw [one]
    exact le_rfl

theorem Once.carried (once : state.Once) (placed : following.Placed)
    (socks : ∀ id, (following.socks id).reports = (state.socks id).reports ∧
      (following.socks id).sockcb = (state.socks id).sockcb ∧
        (following.socks id).isclosing = (state.socks id).isclosing)
    (loop : ∀ frame ∈ state.threads .loop, frame ∈ following.threads .loop)
    (write : ∀ frame ∈ state.threads .write, frame ∈ following.threads .write)
    (pendings : ∀ task ∈ state.pendings,
      task ∈ following.threads .loop ∨ task ∈ following.pendings) : following.Once := by
  refine ⟨placed, fun id => ?_⟩
  obtain ⟨reports, sockcb, closing⟩ := socks id
  refine (once.socks id).carried reports sockcb closing ?_ ?_
  · rw [toldClose_iff, toldClose_iff]
    rintro ⟨needremove, onLoop | onWrite | queued⟩
    · exact .inl ⟨needremove, .inl (loop _ onLoop)⟩
    · exact .inl ⟨needremove, .inr (.inl (write _ onWrite))⟩
    · rcases pendings _ queued with runs | waits
      · exact .inl ⟨needremove, .inl runs⟩
      · exact .inl ⟨needremove, .inr (.inr waits)⟩
  · rw [clearing_iff, clearing_iff]
    exact loop _

theorem mem_setStack {thread runs : ThreadId} {stack : List (Nat × Point)} {frame : Nat × Point}
    (own : thread = runs → frame ∈ stack) (others : frame ∈ state.threads runs) :
    frame ∈ (state.setStack thread stack).threads runs := by
  simp only [setStack, Function.update_apply]
  split
  next same => exact own same.symm
  next => exact others

section Advance

variable {thread : ThreadId} {id : Nat} {point : Point} {rest : List (Nat × Point)}
  {effect : Effect} (there : state.threads thread = (id, point) :: rest)

include there

theorem frame_kept {runs : ThreadId} {frame : Nat × Point} (member : frame ∈ state.threads runs) :
    frame = (id, point) ∨ frame ∈ (state.takeEffect thread id rest effect).threads runs := by
  by_cases same : thread = runs
  · subst same
    rw [there] at member
    refine (List.mem_cons.mp member).imp_right fun below => ?_
    simp only [takeEffect, setStack, Function.update_self]
    exact List.mem_append_right _ below
  · refine .inr ?_
    simp only [takeEffect, setStack, Function.update_of_ne (Ne.symm same)]
    exact member

theorem toldClose_kept {other : Nat} (told : state.toldClose other = true) :
    (other = id ∧ ∃ needremove, point = .close needremove true) ∨
      (state.takeEffect thread id rest effect).toldClose other = true := by
  obtain ⟨needremove, onLoop | onWrite | queued⟩ := toldClose_iff.mp told
  · rcases @frame_kept _ _ _ _ _ effect there _ _ onLoop with top | kept
    · exact .inl ⟨congrArg Prod.fst top, needremove, (congrArg Prod.snd top).symm⟩
    · exact .inr (toldClose_iff.mpr ⟨needremove, .inl kept⟩)
  · rcases @frame_kept _ _ _ _ _ effect there _ _ onWrite with top | kept
    · exact .inl ⟨congrArg Prod.fst top, needremove, (congrArg Prod.snd top).symm⟩
    · exact .inr (toldClose_iff.mpr ⟨needremove, .inr (.inl kept)⟩)
  · exact .inr (toldClose_iff.mpr ⟨needremove, .inr (.inr (List.mem_append_left _ queued))⟩)

theorem clearing_kept {other : Nat} (clears : state.clearing other = true) :
    (other = id ∧ point = .clearSockcb) ∨
      (state.takeEffect thread id rest effect).clearing other = true := by
  rcases @frame_kept _ _ _ _ _ effect there _ _ (clearing_iff.mp clears) with top | kept
  · exact .inl ⟨congrArg Prod.fst top, (congrArg Prod.snd top).symm⟩
  · exact .inr (clearing_iff.mpr kept)

omit there in
theorem next_pushed {next : Point} (member : next ∈ effect.next) :
    (id, next) ∈ (state.takeEffect thread id rest effect).threads thread := by
  simp only [takeEffect, setStack, Function.update_self]
  exact List.mem_append_left _ (List.mem_map_of_mem member)

omit there in
theorem clearing_pushed (member : .clearSockcb ∈ effect.next) :
    (state.takeEffect .loop id rest effect).clearing id = true :=
  clearing_iff.mpr (next_pushed member)

theorem advance_once {outcome : Outcome} (once : state.Once)
    (meets : state.reportsApart (.advance thread outcome) = true)
    (advanced : point.advance thread (state.socks id) outcome = some effect) :
    (effect.sock).Once ((state.takeEffect thread id rest effect).toldClose id = true)
      ((state.takeEffect thread id rest effect).clearing id = true) := by
  have holds := once.socks id
  have allowed := once.placed.here thread (id, point) (there ▸ List.mem_cons_self)
  have placed := advance_placed (once.placed.leaves id) allowed advanced
  have told := fun onTheWay => @toldClose_kept _ _ _ _ _ effect there id onTheWay
  have clears := fun still => @clearing_kept _ _ _ _ _ effect there id still
  cases advance_endMoves advanced with
  | ends _ report notices =>
    have serves := endsSock_serves notices allowed
    rcases endReport_cases (state.socks id) report with ⟨set, ended⟩ | ⟨cleared, ended⟩
    · -- The first report, of which a Close follows.
      simp only [reportsApart, there, notices, set, Bool.not_true, Bool.false_or,
        Bool.not_eq_true', Bool.or_eq_false_iff] at meets
      have settled : ¬ ((state.socks id).sockcb = false ∨ state.toldClose id = true ∨
          state.clearing id = true) := by
        simp only [set, meets.1, meets.2]
        decide
      have first := holds.once.resolve_right fun reported => settled reported.2
      have follows := @next_pushed state thread id rest (Effect.endReport (state.socks id) report)
        (.close true true) (by rw [ended]; simp [Effect.goOn])
      have onTheWay : (state.takeEffect thread id rest
          (Effect.endReport (state.socks id) report)).toldClose id = true := by
        refine toldClose_iff.mpr ⟨true, ?_⟩
        cases thread with
        | loop => exact .inl follows
        | write => exact .inr (.inl follows)
        | other => cases serves
      rw [ended] at onTheWay ⊢
      refine ⟨?_, .inr ⟨⟨report, ?_⟩, .inr (.inl onTheWay)⟩⟩
      · intro isClosing
        rcases holds.cleared isClosing with noHandlers | still
        · exact .inl noHandlers
        · exact absurd (.inr (.inr still)) settled
      · change (state.socks id).reports ++ [report] = [report]
        rw [first]
        rfl
    · rw [ended]
      exact ⟨fun _ => .inl cleared, holds.once.imp_right fun one => ⟨one.1, .inl cleared⟩⟩
  | dropped needremove _ isClosing =>
    exact holds.carried rfl rfl rfl (fun _ => .inr isClosing)
      fun still => (clears still).resolve_left (by simp)
  | queued needremove isTold =>
    refine holds.carried rfl rfl rfl (fun onTheWay => .inl ?_)
      fun still => (clears still).resolve_left (by simp)
    rcases told onTheWay with ⟨_, _, same⟩ | kept
    · obtain ⟨rfl, rfl⟩ := Point.close.inj same
      refine toldClose_iff.mpr ⟨needremove, .inr (.inr (List.mem_append_right _ ?_))⟩
      exact List.mem_singleton_self _
    · exact kept
  | begins needremove _ next begun =>
    -- Close got past its test, so this is the loop thread.
    obtain rfl := eq_of_beq (placed.next .clearSockcb begun)
    exact ⟨fun _ => .inr (clearing_pushed begun),
      holds.once.imp_right fun one => ⟨one.1, .inr (.inr (clearing_pushed begun))⟩⟩
  | clears => exact ⟨fun _ => .inl rfl, holds.once.imp_right fun one => ⟨one.1, .inl rfl⟩⟩
  | goesOn _ _ notClose notClear reports sockcb closing =>
    refine holds.carried reports sockcb closing (fun onTheWay => .inl ?_) fun still => ?_
    · rcases told onTheWay with ⟨_, needremove, same⟩ | kept
      · exact absurd same (notClose needremove true)
      · exact kept
    · exact (clears still).resolve_left fun top => notClear top.2

end Advance

theorem step_once {event : Event} (once : state.Once) (meets : state.reportsApart event = true)
    (taken : state.step event = some following) : following.Once := by
  have placed := step_placed once.placed taken
  cases event with
  | call thread id api =>
    simp only [step] at taken
    split at taken <;> cases taken
    have pushed {runs : ThreadId} {frame : Nat × Point} (member : frame ∈ state.threads runs) :=
      @mem_setStack state thread runs ((id, api.point) :: state.threads thread) frame
        (fun same => List.mem_cons_of_mem _ (same ▸ member)) member
    exact once.carried placed (fun _ => ⟨rfl, rfl, rfl⟩) (fun _ member => pushed member)
      (fun _ member => pushed member) fun _ member => .inr member
  | runPending =>
    simp only [step] at taken
    split at taken <;> cases taken
    next task rest idle waiting =>
      refine once.carried placed (fun _ => ⟨rfl, rfl, rfl⟩) ?_ (fun _ member => member) ?_
      · rw [idle]
        exact fun _ none => absurd none List.not_mem_nil
      · rw [waiting, List.forall_mem_cons]
        exact ⟨.inl (List.mem_singleton_self task), fun other member => .inr member⟩
  | runWriteTask =>
    simp only [step] at taken
    split at taken <;> cases taken
    next task rest idle waiting =>
      refine once.carried placed (fun _ => ⟨rfl, rfl, rfl⟩) (fun _ member => member) ?_
        fun _ member => .inr member
      rw [idle]
      exact fun _ none => absurd none List.not_mem_nil
  | wait id events =>
    simp only [step] at taken
    split at taken <;> cases taken
    refine once.carried placed (fun other => ?_) (fun _ member => member) (fun _ member => member)
      fun _ member => .inr member
    simp only [setSock, Function.update_apply]
    split
    next same => exact same ▸ ⟨rfl, rfl, rfl⟩
    next => exact ⟨rfl, rfl, rfl⟩
  | dispatch =>
    simp only [step] at taken
    split at taken <;> cases taken
    next id rest idle _ =>
      refine once.carried placed (fun _ => ⟨rfl, rfl, rfl⟩) ?_ (fun _ member => member)
        fun _ member => .inr member
      rw [idle]
      exact fun _ none => absurd none List.not_mem_nil
  | advance thread outcome =>
    obtain ⟨id, point, rest, effect, there, advanced, rfl⟩ := step_advances taken
    refine ⟨placed, fun other => ?_⟩
    by_cases same : other = id
    · subst same
      have own : (state.takeEffect thread other rest effect).socks other = effect.sock :=
        Function.update_self _ _ _
      rw [own]
      exact advance_once there once meets advanced
    · have untouched : (state.takeEffect thread id rest effect).socks other = state.socks other :=
        Function.update_of_ne same _ _
      rw [untouched]
      refine (once.socks other).carried rfl rfl rfl (fun onTheWay => .inl ?_) fun still => ?_
      · exact (toldClose_kept there onTheWay).resolve_left fun top => same top.1
      · exact (clearing_kept there still).resolve_left fun top => same top.1

theorem once_initial : initial.Once :=
  ⟨placed_initial, fun _ => ⟨(by rintro ⟨⟩), .inl rfl⟩⟩

theorem end_reported_once (state : EventLoop)
    (reached : Transition.ReachableWhen step (fun before event =>
      before.reportsApart event = true) initial state) : state.ReportedOnce :=
  (reached.invariant Once once_initial fun _ _ _ once meets taken =>
    step_once once meets taken).reportedOnce

def readable : SockEvent := { hasRead := true, hasWrite := false, hasException := false }

-- The peer closes; the loop thread reads 0, and what is sent afterwards is refused.
def peerCloses : List Event :=
  [.wait 0 readable, .dispatch, .advance .loop .done, .advance .loop .zero,
    .advance .loop (.returned true), .advance .loop .done, .advance .loop .done,
    .advance .loop .done, .call (.other 0) 0 (.sendData [7]), .advance (.other 0) .done]

theorem end_reported_once_peerCloses : ∃ state,
    Transition.run (Transition.checkedStep step fun before event =>
      before.reportsApart event = true) initial peerCloses = some state ∧
      (state.socks 0).reports = [.onClose] ∧ state.ReportedOnce :=
  ⟨_, rfl, by decide, end_reported_once _ (Transition.ReachableWhen.start.run peerCloses rfl)⟩

-- The peer is gone: a send in the write thread fails, its Close is queued, and the loop thread,
-- which has taken its tasks already, reads the end as well.
def bothNotice : List Event :=
  [.call (.other 0) 0 (.sendData [7]), .advance (.other 0) .done, .advance (.other 0) .done,
    .wait 0 readable, .runWriteTask, .advance .write .done, .advance .write .done,
    .advance .write .failed, .advance .write (.returned true), .advance .write .done,
    .dispatch, .advance .loop .done, .advance .loop .zero]

theorem end_reported_twice : ∃ state, Transition.run step initial bothNotice = some state ∧
    (state.socks 0).reports = [.onError, .onClose] ∧ ¬ state.ReportedOnce := by
  refine ⟨_, rfl, by decide, ?_⟩
  intro once
  exact absurd (once 0) (by decide)

end EventLoop

end MessageBus.Net
