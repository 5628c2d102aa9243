import MessageBus.Net.LoopThreads

set_option autoImplicit false

namespace MessageBus.Net

-- Which points call what asserts its thread, and when.
inductive Point.Asserts (sock : LoopSock) : Point -> AssertedCall -> Prop where
  | sends (data : Bytes) : Asserts sock (.sendDataInLoop data) .sendDataInLoop
  | removes : Asserts sock .removeTcpSock .removeTcpSock
  | adds (er : EventResult) (inLoop : sock.evloop = true) (cares : sock.caredev.hasEvent er = false) :
      Asserts sock (.addAndUpdateEvent er) .updateTcpSock
  | drops (er : EventResult) (inLoop : sock.evloop = true) (cares : sock.caredev.hasEvent er = true) :
      Asserts sock (.removeAndUpdateEvent er) .updateTcpSock

theorem advance_asserts {thread : ThreadId} {sock : LoopSock} {point : Point} {outcome : Outcome}
    {effect : Effect} (taken : point.advance thread sock outcome = some effect) :
    effect.asserted = [] ∨ ∃ call, effect.asserted = [call] ∧ point.Asserts sock call := by
  cases point with
  | sendDataInLoop data =>
    cases taken
    exact .inr ⟨_, rfl, .sends data⟩
  | removeTcpSock =>
    cases taken
    exact .inr ⟨_, rfl, .removes⟩
  | addAndUpdateEvent er =>
    simp only [Point.advance] at taken
    split at taken <;> cases taken
    next => exact .inl rfl
    next updates =>
      simp only [Bool.or_eq_true, Bool.not_eq_true', not_or, Bool.not_eq_false,
        Bool.not_eq_true] at updates
      exact .inr ⟨_, rfl, .adds er updates.1 updates.2⟩
  | removeAndUpdateEvent er =>
    simp only [Point.advance] at taken
    split at taken <;> cases taken
    next => exact .inl rfl
    next updates =>
      simp only [Bool.or_eq_true, Bool.not_eq_true', not_or, Bool.not_eq_false] at updates
      exact .inr ⟨_, rfl, .drops er updates.1 updates.2⟩
  | _ =>
    left
    revert taken
    cases outcome <;> simp only [Point.advance] <;> repeat' split
    all_goals
      rintro ⟨⟩
      try rfl

namespace EventLoop

def AssertsHold (state : EventLoop) : Prop :=
  ∀ call ∈ state.asserted, call.2 = call.1.thread

-- The write thread comes to AddAndUpdateEvent only with the event in m_caredev already, and to
-- RemoveAndUpdateEvent only without it, unless the sock has left the event loop.
def caresAlready (state : EventLoop) : Event -> Bool
  | .advance .write _ =>
    match state.threads .write with
    | (id, .addAndUpdateEvent er) :: _ =>
      !(state.socks id).evloop || (state.socks id).caredev.hasEvent er
    | (id, .removeAndUpdateEvent er) :: _ =>
      !(state.socks id).evloop || !(state.socks id).caredev.hasEvent er
    | _ => true
  | _ => true

variable {state following : EventLoop}

theorem asserted_in_thread {thread : ThreadId} {id : Nat} {point : Point}
    {rest : List (Nat × Point)} {outcome : Outcome} {call : AssertedCall}
    (there : state.threads thread = (id, point) :: rest)
    (allowed : point.allowed thread (state.socks id) = true)
    (meets : state.caresAlready (.advance thread outcome) = true)
    (asserts : point.Asserts (state.socks id) call) : thread = call.thread := by
  cases asserts with
  | sends data => exact eq_of_beq allowed
  | removes => exact eq_of_beq (Bool.and_eq_true_iff.mp allowed).1
  | adds er inLoop cares =>
    cases thread with
    | loop => rfl
    | write => simp [caresAlready, there, inLoop, cares] at meets
    | other => cases allowed
  | drops er inLoop cares =>
    cases thread with
    | loop => rfl
    | write => simp [caresAlready, there, inLoop, cares] at meets
    | other => cases allowed

theorem step_asserts {event : Event} (placed : state.Placed) (holds : state.AssertsHold)
    (meets : state.caresAlready event = true) (taken : state.step event = some following) :
    following.AssertsHold := by
  cases event with
  | advance thread outcome =>
    obtain ⟨id, point, rest, effect, there, advanced, rfl⟩ := step_advances taken
    have allowed := placed.here thread (id, point) (there ▸ List.mem_cons_self)
    refine List.forall_mem_append.mpr ⟨holds, ?_⟩
    intro call member
    obtain ⟨made, asserted, rfl⟩ := List.mem_map.mp member
    rcases advance_asserts advanced with nothing | ⟨only, same, asserts⟩
    · rw [nothing] at asserted
      cases asserted
    · rw [same, List.mem_singleton] at asserted
      exact asserted ▸ asserted_in_thread there allowed meets asserts
  | call | runPending | runWriteTask | wait | dispatch =>
    simp only [step] at taken
    split at taken <;> cases taken
    exact holds

theorem step_fails_assert {event : Event} (misses : state.caresAlready event = false)
    (taken : state.step event = some following) : ¬ following.AssertsHold := by
  intro holds
  have elsewhere : ∀ made : AssertedCall × ThreadId, made ∈ following.asserted →
      made ≠ (.updateTcpSock, .write) := by
    rintro made member rfl
    cases holds _ member
  cases event with
  | advance thread outcome =>
    cases thread with
    | write =>
      obtain ⟨id, point, rest, effect, there, advanced, rfl⟩ := step_advances taken
      simp only [caresAlready, there] at misses
      have updates : effect.asserted = [.updateTcpSock] := by
        cases point with
        | addAndUpdateEvent er | removeAndUpdateEvent er =>
          simp only [Point.advance, misses, Bool.false_eq_true, if_false] at advanced
          cases advanced
          rfl
        | _ => cases misses
      refine elsewhere _ (List.mem_append_right _ ?_) rfl
      rw [updates]
      exact List.mem_singleton_self _
    | loop | other => cases misses
  | call | runPending | runWriteTask | wait | dispatch => cases misses

theorem asserts_hold (state : EventLoop)
    (reached : Transition.ReachableWhen step (fun before event => before.caresAlready event = true)
      initial state) : state.AssertsHold := by
  have both := reached.invariant (fun state => state.Placed ∧ state.AssertsHold)
    ⟨placed_initial, fun _ impossible => by cases impossible⟩
    fun _ _ _ holds meets taken =>
      ⟨step_placed holds.1 taken, step_asserts holds.1 holds.2 meets taken⟩
  exact both.2

-- A send from another thread that the socket takes whole.
def wholeSend : List Event :=
  [.call (.other 0) 0 (.sendData [7]), .advance (.other 0) .done, .advance (.other 0) .done,
    .runWriteTask, .advance .write .done, .advance .write .done, .advance .write (.taken 1),
    .advance .write .done, .advance .write (.returned true), .advance .write .done,
    .advance .write .zero, .advance .write .done]

theorem asserts_hold_wholeSend : ∃ state,
    Transition.run (Transition.checkedStep step fun before event =>
      before.caresAlready event = true) initial wholeSend = some state ∧ state.AssertsHold :=
  ⟨_, rfl, asserts_hold _ (Transition.ReachableWhen.start.run wholeSend rfl)⟩

-- The same send with a socket that is full.
def sendAgain : List Event :=
  [.call (.other 0) 0 (.sendData [7]), .advance (.other 0) .done, .advance (.other 0) .done,
    .runWriteTask, .advance .write .done, .advance .write .done, .advance .write .again,
    .advance .write .done, .advance .write .done]

theorem update_in_write_thread : ∃ state, Transition.run step initial sendAgain = some state ∧
    (AssertedCall.updateTcpSock, ThreadId.write) ∈ state.asserted ∧ ¬ state.AssertsHold := by
  refine ⟨_, rfl, by decide, ?_⟩
  intro holds
  cases holds (.updateTcpSock, .write) (by decide)

end EventLoop
end MessageBus.Net
