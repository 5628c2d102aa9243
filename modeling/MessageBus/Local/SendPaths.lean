import MessageBus.Local.HandlerRegistry
import MessageBus.Local.SendMsg

set_option autoImplicit false

namespace MessageBus.Local

-- What OnMsg of an object does.
abbrev OnMsg := Nat -> Handler

def sendMsgInMsgBusThread (lock : Lock) (onMsg : OnMsg) (objs : MsgHandlerObjContainer)
    (msgid : Bytes) (tasks : List MsgTask) : List MsgTask × MsgHandlerObjContainer :=
  match lookUpInMsgBusThread lock objs msgid with
  | none => (tasks.map (executeMsgBusHandlers msgid []), objs)
  | some (collected, after) =>
    (tasks.map (executeMsgBusHandlers msgid (collected.msgHandlers.map onMsg)), after)

def foundHandlers (lock : Lock) (onMsg : OnMsg) (objs : MsgHandlerObjContainer) (msgid : Bytes) :
    List Handler :=
  match lookUpInMsgBusThread lock objs msgid with
  | none => []
  | some (collected, _) => collected.msgHandlers.map onMsg

inductive SendMsgResult where
  | returns (ret : Bool) (param : Bytes)
  -- The call goes on as a task in the queue.
  | queues
  deriving DecidableEq, Repr

def sendMsg (lock : Lock) (onMsg : OnMsg) (objs : MsgHandlerObjContainer) (callertid : Nat)
    (msgid param : Bytes) : SendMsgResult × MsgHandlerObjContainer :=
  let task : MsgTask := { msgid, msgparam := param, callertid, ret := false, call := none }
  if callertid = msgbusTid then
    let (tasks, after) := sendMsgInMsgBusThread lock onMsg objs msgid [task]
    let front := tasks.head?.getD task
    (.returns front.ret front.msgparam, after)
  else
    match lookUpForSendMsg lock objs msgid with
    | none => (.returns false param, objs)
    | some (collected, after) =>
      if collected.complete then
        let back := executeMsgBusHandlers msgid (collected.msgHandlers.map onMsg) task
        (.returns back.ret back.msgparam, after)
      else (.queues, after)

def registered (lock : Lock) (onMsg : OnMsg) (objs : MsgHandlerObjContainer) (msgid : Bytes) :
    List Handler :=
  (((objs[msgid]?).getD []).filter fun handler => (lock handler.ref).isSome).map fun handler =>
    onMsg handler.ref

def calledHandlers (msgid param : Bytes) : List Handler -> List Handler
  | [] => []
  | handler :: rest =>
    let (_, _, isContinue) := handler msgid param
    handler :: if isContinue then calledHandlers msgid param rest else []

-- What SendMsg is for: the result of the last handler that is called, and the parameter of the last
-- one that returned true.
def reference (msgid param : Bytes) (handlers : List Handler) : Bool × Bytes :=
  let outcomes := (calledHandlers msgid param handlers).map fun handler => handler msgid param
  ((outcomes.getLast?.map fun outcome => outcome.1).getD false,
    ((outcomes.filter fun outcome => outcome.1).getLast?.map fun outcome => outcome.2.1).getD param)

theorem runHandlers_reference (msgid original : Bytes) (handlers : List Handler) (param : Bytes)
    (result : Bool) :
    runHandlers msgid original handlers param result =
      let outcomes := (calledHandlers msgid original handlers).map fun handler =>
        handler msgid original
      (((outcomes.filter fun outcome => outcome.1).getLast?.map fun outcome =>
          outcome.2.1).getD param,
        (outcomes.getLast?.map fun outcome => outcome.1).getD result) := by
  induction handlers generalizing param result with
  | nil => rfl
  | cons handler rest ih =>
    rw [runHandlers_cons]
    unfold calledHandlers
    rcases outcome : handler msgid original with ⟨ret, inputParam, isContinue⟩
    cases isContinue with
    | true =>
      simp only [if_true, ih, List.map_cons, outcome, List.filter_cons, List.getLast?_cons,
        Option.map_some, Option.getD_some]
      generalize (calledHandlers msgid original rest).map (fun handler => handler msgid original) =
        outcomes
      have last : (outcomes.getLast?.map fun outcome => outcome.1).getD ret =
          (outcomes.getLast?.getD (ret, inputParam, true)).1 := by
        cases outcomes.getLast? <;> rfl
      cases ret with
      | false => rw [last, if_neg Bool.false_ne_true, if_neg Bool.false_ne_true]
      | true =>
        rw [last, if_pos rfl, if_pos rfl, List.getLast?_cons, Option.map_some, Option.getD_some]
        cases (outcomes.filter fun outcome => outcome.1).getLast? <;> rfl
    | false =>
      cases ret <;> simp [outcome]

theorem executeMsgBusHandlers_reference (msgid : Bytes) (handlers : List Handler) (task : MsgTask) :
    executeMsgBusHandlers msgid handlers task =
      { task with
        ret := (reference msgid task.msgparam handlers).1
        msgparam := (reference msgid task.msgparam handlers).2 } := by
  rw [executeMsgBusHandlers_runs, runHandlers_reference]
  rfl

section Lists

variable {lock : Lock} {onMsg : OnMsg} {objs : MsgHandlerObjContainer} {breaks : WeakHandler -> Bool}
  {handlers : List WeakHandler}

variable (lock) in
theorem collectHandlers_complete (none : ∀ handler ∈ handlers, breaks handler = false) :
    (collectHandlers lock breaks handlers).complete = true ∧
      (collectHandlers lock breaks handlers).msgHandlers =
        (handlers.filter fun handler => (lock handler.ref).isSome).map WeakHandler.ref ∧
      (collectHandlers lock breaks handlers).weakMsgHandlers =
        handlers.filter fun handler => (lock handler.ref).isSome := by
  induction handlers with
  | nil => exact ⟨rfl, rfl, rfl⟩
  | cons handler rest ih =>
    obtain ⟨complete, others, weak⟩ := ih fun other member => none other (.tail _ member)
    unfold collectHandlers
    rw [if_neg (by simp [none handler List.mem_cons_self])]
    split
    next found => simp [complete, others, weak, found]
    next expired => simp [complete, others, weak, expired]

variable (lock) in
theorem collectHandlers_incomplete (some : ∃ handler ∈ handlers, breaks handler = true) :
    (collectHandlers lock breaks handlers).complete = false := by
  induction handlers with
  | nil => simp at some
  | cons handler rest ih =>
    unfold collectHandlers
    split
    · rfl
    next goesOn =>
      obtain ⟨other, member, stops⟩ := some
      rcases List.mem_cons.mp member with rfl | later
      · exact absurd stops goesOn
      · have others := ih ⟨other, later, stops⟩
        split <;> exact others

-- Only what has expired is taken out of the registry.
theorem registered_of_lookUp {msgid : Bytes} {collected : Collected}
    {after : MsgHandlerObjContainer}
    (found : lookUpHandlers lock breaks objs msgid = some (collected, after)) :
    registered lock onMsg after = registered lock onMsg objs := by
  obtain ⟨handlers, there, outcome⟩ := Option.map_eq_some_iff.mp found
  obtain ⟨rfl, rfl⟩ := Prod.mk.inj outcome
  have same := collectHandlers_filter lock breaks handlers
  funext other
  by_cases own : msgid = other
  · subst own
    split
    next empty =>
      rw [List.isEmpty_iff] at empty
      rw [empty] at same
      simp [registered, there, ← same]
    next => simp [registered, there, same]
  · split <;> simp [registered, Std.ExtTreeMap.getElem?_erase, Std.ExtTreeMap.getElem?_insert, own]

theorem lookUpInMsgBusThread_registered {msgid : Bytes} {collected : Collected}
    {after : MsgHandlerObjContainer}
    (found : lookUpInMsgBusThread lock objs msgid = some (collected, after)) :
    collected.msgHandlers.map onMsg = registered lock onMsg objs msgid := by
  obtain ⟨handlers, there, outcome⟩ := Option.map_eq_some_iff.mp found
  obtain ⟨rfl, rfl⟩ := Prod.mk.inj outcome
  rw [(collectHandlers_complete lock fun _ _ => rfl).2.1, registered, there]
  exact List.map_map

theorem foundHandlers_registered : foundHandlers lock onMsg objs = registered lock onMsg objs := by
  funext msgid
  unfold foundHandlers
  split
  next absent =>
    have missing : objs[msgid]? = none := Option.map_eq_none_iff.mp absent
    simp [registered, missing]
  next found => exact lookUpInMsgBusThread_registered found

theorem sendMsgInMsgBusThread_registered (msgid : Bytes) (tasks : List MsgTask) :
    (sendMsgInMsgBusThread lock onMsg objs msgid tasks).1 =
        tasks.map (executeMsgBusHandlers msgid (registered lock onMsg objs msgid)) ∧
      registered lock onMsg (sendMsgInMsgBusThread lock onMsg objs msgid tasks).2 =
        registered lock onMsg objs := by
  unfold sendMsgInMsgBusThread
  split
  next absent =>
    have missing : objs[msgid]? = none := Option.map_eq_none_iff.mp absent
    have empty : registered lock onMsg objs msgid = [] := by simp [registered, missing]
    rw [empty]
    exact ⟨rfl, rfl⟩
  next found =>
    rw [lookUpInMsgBusThread_registered found]
    exact ⟨rfl, registered_of_lookUp found⟩

theorem sendMsg_msgbusThread (msgid param : Bytes) :
    (sendMsg lock onMsg objs msgbusTid msgid param).1 =
      .returns (reference msgid param (registered lock onMsg objs msgid)).1
        (reference msgid param (registered lock onMsg objs msgid)).2 := by
  simp only [sendMsg, if_pos, (sendMsgInMsgBusThread_registered _ _).1, List.map_cons,
    List.head?_cons, Option.getD_some, executeMsgBusHandlers_reference]

theorem sendMsg_direct {callertid : Nat} (other : callertid ≠ msgbusTid) {msgid : Bytes}
    (unflagged : ∀ handler ∈ (objs[msgid]?).getD [], handler.mustCalledInMsgbusthread = false)
    (param : Bytes) :
    (sendMsg lock onMsg objs callertid msgid param).1 =
      .returns (reference msgid param (registered lock onMsg objs msgid)).1
        (reference msgid param (registered lock onMsg objs msgid)).2 := by
  simp only [sendMsg, if_neg other]
  split
  next absent =>
    have missing : objs[msgid]? = none := Option.map_eq_none_iff.mp absent
    simp [registered, missing, reference, calledHandlers]
  next collected after found =>
    obtain ⟨handlers, there, outcome⟩ := Option.map_eq_some_iff.mp found
    obtain ⟨rfl, rfl⟩ := Prod.mk.inj outcome
    rw [there, Option.getD_some] at unflagged
    obtain ⟨complete, all, _⟩ := collectHandlers_complete lock unflagged
    have own : (collectHandlers lock WeakHandler.mustCalledInMsgbusthread handlers).msgHandlers.map
        onMsg = registered lock onMsg objs msgid := by
      rw [all, registered, there]
      exact List.map_map
    rw [if_pos complete, own, executeMsgBusHandlers_reference]

theorem sendMsg_queues {callertid : Nat} (other : callertid ≠ msgbusTid) {msgid : Bytes}
    (flagged : ∃ handler ∈ (objs[msgid]?).getD [], handler.mustCalledInMsgbusthread = true)
    (param : Bytes) : (sendMsg lock onMsg objs callertid msgid param).1 = .queues := by
  simp only [sendMsg, if_neg other]
  split
  next absent =>
    have missing : objs[msgid]? = none := Option.map_eq_none_iff.mp absent
    simp [missing] at flagged
  next collected after found =>
    obtain ⟨handlers, there, outcome⟩ := Option.map_eq_some_iff.mp found
    obtain ⟨rfl, rfl⟩ := Prod.mk.inj outcome
    rw [there, Option.getD_some] at flagged
    have incomplete := collectHandlers_incomplete lock flagged
    simp [incomplete]

theorem sendMsg_registered (callertid : Nat) (msgid param : Bytes) :
    registered lock onMsg (sendMsg lock onMsg objs callertid msgid param).2 =
      registered lock onMsg objs := by
  simp only [sendMsg]
  split
  · exact (sendMsgInMsgBusThread_registered _ _).2
  · split
    · rfl
    next found => split <;> exact registered_of_lookUp found

end Lists

end MessageBus.Local
