import MessageBus.Local.QueuedCalls

set_option autoImplicit false

namespace MessageBus.Local

-- What SendMsg leaves in its parameter: what was there where it fails, and where it does not the
-- output of the handler whose result it returns.
def LeavesAlone (msgid param : Bytes) (handlers : List Handler) (outcome : Bool × Bytes) : Prop :=
  if outcome.1 then
    ∃ last, (calledHandlers msgid param handlers).getLast? = some last ∧
      (last msgid param).1 = true ∧ outcome.2 = (last msgid param).2.1
  else outcome.2 = param

-- The last handler that is called succeeds, or the last success before it gave the parameter back
-- as it was.
def FailsClean (msgid param : Bytes) (handlers : List Handler) : Prop :=
  (∃ last ∈ (calledHandlers msgid param handlers).getLast?, (last msgid param).1 = true) ∨
    ∀ success ∈ ((calledHandlers msgid param handlers).filter fun handler =>
        (handler msgid param).1).getLast?, (success msgid param).2.1 = param

instance (msgid param : Bytes) (handlers : List Handler) :
    Decidable (FailsClean msgid param handlers) := inferInstanceAs (Decidable (_ ∨ _))

theorem reference_leavesAlone (msgid param : Bytes) (handlers : List Handler) :
    LeavesAlone msgid param handlers (reference msgid param handlers) ↔
      FailsClean msgid param handlers := by
  simp only [LeavesAlone, FailsClean, reference, List.filter_map, List.getLast?_map,
    Option.map_map, Function.comp_def]
  rcases List.eq_nil_or_concat' (calledHandlers msgid param handlers) with none | ⟨others, last, all⟩
  · simp [none]
  · rw [all, List.getLast?_concat]
    cases result : (last msgid param).1 with
    | true => simp [result]
    | false =>
      simp only [Option.map_some, Option.getD_some, result, Bool.false_eq_true, if_false,
        Option.mem_some_iff, exists_eq_left', false_or]
      cases ((others ++ [last]).filter fun handler => (handler msgid param).1).getLast? <;> simp

section Paths

variable {lock : Lock} {onMsg : OnMsg} {objs : MsgHandlerObjContainer}

theorem sendMsg_returns {callertid : Nat} {msgid param after : Bytes} {ret : Bool}
    (returns : (sendMsg lock onMsg objs callertid msgid param).1 = .returns ret after) :
    (ret, after) = reference msgid param (registered lock onMsg objs msgid) := by
  have same {outcome : Bool × Bytes}
      (computed : (sendMsg lock onMsg objs callertid msgid param).1 =
        .returns outcome.1 outcome.2) : (ret, after) = outcome := by
    rw [returns, SendMsgResult.returns.injEq] at computed
    exact Prod.ext computed.1 computed.2
  by_cases own : callertid = msgbusTid
  · subst own
    exact same (sendMsg_msgbusThread msgid param)
  · by_cases flagged : ∃ handler ∈ (objs[msgid]?).getD [], handler.mustCalledInMsgbusthread = true
    · rw [sendMsg_queues own flagged param] at returns
      cases returns
    · refine same (sendMsg_direct own (fun handler member => ?_) param)
      exact Bool.eq_false_iff.mpr fun flag => flagged ⟨handler, member, flag⟩

end Paths

namespace MsgBus

structure Untouched (calls : List SendCall) (requests : List (Bytes × Bytes)) : Prop where
  made : requests.length = calls.length
  kept : ∀ (index : Nat) (call : SendCall), calls[index]? = some call → call.readyPath = false →
    call.ret = false ∧ requests[index]? = some (call.msgid, call.param)

variable {bus following : MsgBus} {requests : List (Bytes × Bytes)}

theorem Untouched.concat {calls : List SendCall} (untouched : Untouched calls requests)
    (call : SendCall) (fails : call.ret = false) :
    Untouched (calls ++ [call]) (requests ++ [(call.msgid, call.param)]) := by
  constructor
  · simp [untouched.made]
  · intro index found there own
    rcases Transition.found_in_concat there with known | ⟨rfl, rfl⟩
    · obtain ⟨ret, asked⟩ := untouched.kept index found known own
      have inside : index < requests.length := (List.getElem?_eq_some_iff.mp asked).1
      exact ⟨ret, (List.getElem?_append_left inside).trans asked⟩
    · rw [← untouched.made, List.getElem?_concat_length]
      exact ⟨fails, rfl⟩

theorem Untouched.set {calls : List SendCall} (untouched : Untouched calls requests) {index : Nat}
    {call : SendCall} (after : SendCall) (there : calls[index]? = some call)
    (same : after.readyPath = false → call.readyPath = false ∧
      (after.ret = false ∨ after.ret = call.ret) ∧ after.msgid = call.msgid ∧
      after.param = call.param) :
    Untouched (calls.set index after) requests := by
  constructor
  · rw [List.length_set]
    exact untouched.made
  · intro other found foundThere own
    rcases Transition.found_in_set foundThere with ⟨rfl, rfl⟩ | ⟨_, older⟩
    · obtain ⟨before, ret, msgid, param⟩ := same own
      obtain ⟨failed, asked⟩ := untouched.kept other call there before
      rw [failed, or_self] at ret
      exact ⟨ret, by rw [asked, msgid, param]⟩
    · exact untouched.kept other found older own

theorem Untouched.unasked {calls : List SendCall} (untouched : Untouched calls requests) :
    Untouched calls (requests ++ []) := by
  rwa [List.append_nil]

theorem step_untouched (untouched : Untouched bus.calls requests) {event : Event}
    (taken : bus.step event = some following) :
    Untouched following.calls (requests ++ (request event).toList) := by
  cases step_moves taken with
  | sendMsg callertid msgid param =>
    exact untouched.concat { callertid, msgid, param, ret := false, phase := .begun } rfl
  | queueTask index call there begun =>
    have waits := untouched.set { call with phase := .waiting } there fun _ =>
      ⟨by simp [SendCall.readyPath, begun], .inr rfl, rfl, rfl⟩
    exact waits.unasked
  | wake index call info there =>
    exact (untouched.set _ there fun unready => by cases unready).unasked
  | timeout index call there waiting =>
    have late := untouched.set { call with ret := false, phase := .leaving false } there fun _ =>
      ⟨by simp [SendCall.readyPath, waiting], .inl rfl, rfl, rfl⟩
    exact late.unasked
  | leave index call ready there leaving =>
    have left := untouched.set { call with phase := .returned ready } there fun unready =>
      ⟨by simpa [SendCall.readyPath, leaving] using unready, .inr rfl, rfl, rfl⟩
    exact left.unasked
  | _ => exact untouched.unasked

theorem run_untouched (events : List Event)
    (ran : Transition.run step initial events = some bus) :
    Untouched bus.calls (MsgBus.requests events) := by
  have start : Untouched initial.calls [] := ⟨rfl, fun _ _ impossible => by cases impossible⟩
  have followed := Transition.run_follows
    (fun requests event => requests ++ (request event).toList)
    (fun bus requests => Untouched bus.calls requests)
    (fun _ _ _ _ untouched taken => step_untouched untouched taken) start events ran
  rwa [requests_foldl] at followed

end MsgBus

theorem failed_sendMsg_leaves_param (lock : Lock) (onMsg : OnMsg) (objs : MsgHandlerObjContainer) :
    (∀ callertid msgid param ret after,
      (sendMsg lock onMsg objs callertid msgid param).1 = .returns ret after →
      (LeavesAlone msgid param (registered lock onMsg objs msgid) (ret, after) ↔
        FailsClean msgid param (registered lock onMsg objs msgid))) ∧
    (∀ (events : List Event) (bus : MsgBus),
      Transition.run (MsgBus.registeredStep (foundHandlers lock onMsg objs)) .initial events =
        some bus →
      ∀ (index : Nat) (call : SendCall), bus.calls[index]? = some call → call.isReturned = true →
        ∃ msgid param, (MsgBus.requests events)[index]? = some (msgid, param) ∧
          (LeavesAlone msgid param (registered lock onMsg objs msgid) (call.ret, call.param) ↔
            FailsClean msgid param (registered lock onMsg objs msgid))) ∧
    ∀ (events : List Event) (bus : MsgBus),
      Transition.run MsgBus.step .initial events = some bus →
      ∀ (index : Nat) (call : SendCall), bus.calls[index]? = some call → call.isReturned = true →
        call.readyPath = false →
          call.ret = false ∧ (MsgBus.requests events)[index]? = some (call.msgid, call.param) := by
  refine ⟨?_, ?_, ?_⟩
  · intro callertid msgid param ret after returns
    rw [sendMsg_returns returns]
    exact reference_leavesAlone msgid param _
  · intro events bus ran index call there returned
    rw [foundHandlers_registered] at ran
    obtain ⟨msgid, param, asked, outcome⟩ := MsgBus.queued_call_reference events ran there returned
    refine ⟨msgid, param, asked, ?_⟩
    rw [outcome]
    exact reference_leavesAlone msgid param _
  · intro events bus ran index call there _ timedOut
    exact (MsgBus.run_untouched events ran).kept index call there timedOut

-- The first handler answers, and the second does not know the message.
def overruledObjs (mustCalledInMsgbusthread : Bool) : MsgHandlerObjContainer :=
  (∅ : MsgHandlerObjContainer).insert [97]
    [{ ref := 0, mustCalledInMsgbusthread := false }, { ref := 1, mustCalledInMsgbusthread }]

def overruledOnMsg : OnMsg := fun ref _ param => (ref == 0, param ++ [7], true)

def overruledCall : List Event :=
  [.sendMsg 1 [97] [5], .queueTask 0, .takeTasks, .execute [], .findCaller, .findCaller, .fillInfo,
    .wake 0, .leave 0]

def lateCall : List Event := [.sendMsg 1 [97] [5], .queueTask 0, .timeout 0, .leave 0]

theorem failed_sendMsg_leaves_param_overruled :
    (∃ ret after, (sendMsg some overruledOnMsg (overruledObjs false) 1 [97] [5]).1 =
        .returns ret after ∧
      ¬ LeavesAlone [97] [5] (registered some overruledOnMsg (overruledObjs false) [97])
        (ret, after)) ∧
    (∃ bus call, Transition.run
        (MsgBus.registeredStep (foundHandlers some overruledOnMsg (overruledObjs true)))
        .initial overruledCall = some bus ∧ bus.calls = [call] ∧
      ¬ LeavesAlone [97] [5] (registered some overruledOnMsg (overruledObjs true) [97])
        (call.ret, call.param)) ∧
    ∃ bus call, Transition.run MsgBus.step .initial lateCall = some bus ∧ bus.calls = [call] ∧
      call.ret = false ∧ call.param = [5] := by
  refine ⟨?_, ?_, ?_⟩
  · have returns : (sendMsg some overruledOnMsg (overruledObjs false) 1 [97] [5]).1 =
        .returns false [5, 7] := by rfl
    refine ⟨false, [5, 7], returns, ?_⟩
    rw [(failed_sendMsg_leaves_param _ _ _).1 1 [97] [5] _ _ returns]
    decide
  · have ran : ∃ bus, Transition.run
        (MsgBus.registeredStep (foundHandlers some overruledOnMsg (overruledObjs true)))
        .initial overruledCall = some bus ∧ ∃ call, bus.calls = [call] ∧ call.isReturned = true :=
      ⟨_, rfl, _, rfl, rfl⟩
    obtain ⟨bus, ran, call, calls, returned⟩ := ran
    obtain ⟨msgid, param, asked, exactly⟩ :=
      (failed_sendMsg_leaves_param some overruledOnMsg (overruledObjs true)).2.1 overruledCall bus
        ran 0 call (by rw [calls]; rfl) returned
    cases asked
    refine ⟨bus, call, ran, calls, ?_⟩
    rw [exactly]
    decide
  · have ran : ∃ bus, Transition.run MsgBus.step .initial lateCall = some bus ∧
        ∃ call, bus.calls = [call] ∧ call.isReturned = true ∧ call.readyPath = false :=
      ⟨_, rfl, _, rfl, rfl, rfl⟩
    obtain ⟨bus, ran, call, calls, returned, unready⟩ := ran
    obtain ⟨failed, asked⟩ :=
      (failed_sendMsg_leaves_param some overruledOnMsg (overruledObjs true)).2.2 lateCall bus
        ran 0 call (by rw [calls]; rfl) returned unready
    exact ⟨bus, call, ran, calls, failed, (Prod.mk.inj (Option.some.inj asked)).2.symm⟩

theorem overruled_answer_left :
    (sendMsg some overruledOnMsg (overruledObjs false) 1 [97] [5]).1 = .returns false [5, 7] ∧
      ¬ LeavesAlone [97] [5] (registered some overruledOnMsg (overruledObjs false) [97])
        (false, [5, 7]) := by
  refine ⟨by rfl, fun alone => ?_⟩
  cases alone

end MessageBus.Local
