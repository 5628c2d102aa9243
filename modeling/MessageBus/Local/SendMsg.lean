import MessageBus.Shared.Bytes
import MessageBus.Shared.Transition

set_option autoImplicit false

namespace MessageBus.Local

-- OnMsg: from the msgid and a copy of the parameter to the result, the parameter and is_continue.
abbrev Handler := Bytes -> Bytes -> Bool × Bytes × Bool

structure MsgTask where
  msgid : Bytes
  msgparam : Bytes
  callertid : Nat
  ret : Bool
  -- The SendMsg call that queued the task; PostMsg queues for no one.
  call : Option Nat
  deriving DecidableEq, Repr

section Handlers

variable {m : Type -> Type} [Monad m] (onMsg : Handler -> Bytes -> Bytes -> m (Bool × Bytes × Bool))

-- The loop of ExecuteMsgBusHandlers over the handlers of one task; onMsg may note its calls.
def runHandlersM (msgid original : Bytes) : List Handler -> Bytes -> Bool -> m (Bytes × Bool)
  | [], param, result => pure (param, result)
  | handler :: rest, param, _ => do
    let (result, inputParam, isContinue) ← onMsg handler msgid original
    let param := if result then inputParam else param
    if isContinue then runHandlersM msgid original rest param result else pure (param, result)

def executeMsgBusHandlersM (msgid : Bytes) (handlers : List Handler) (task : MsgTask) :
    m MsgTask := do
  let (msgparam, ret) ← runHandlersM onMsg msgid task.msgparam handlers task.msgparam false
  return { task with msgparam, ret }

end Handlers

def callOnMsg (handler : Handler) (msgid param : Bytes) : Id (Bool × Bytes × Bool) :=
  handler msgid param

def runHandlers (msgid original : Bytes) (handlers : List Handler) (param : Bytes)
    (result : Bool) : Bytes × Bool :=
  (runHandlersM callOnMsg msgid original handlers param result).run

def executeMsgBusHandlers (msgid : Bytes) (handlers : List Handler) (task : MsgTask) : MsgTask :=
  (executeMsgBusHandlersM callOnMsg msgid handlers task).run

theorem runHandlers_cons (msgid original : Bytes) (handler : Handler) (rest : List Handler)
    (param : Bytes) (result : Bool) : runHandlers msgid original (handler :: rest) param result =
      let (result, inputParam, isContinue) := handler msgid original
      let param := if result then inputParam else param
      if isContinue then runHandlers msgid original rest param result else (param, result) := by
  rcases outcome : handler msgid original with ⟨ret, inputParam, isContinue⟩
  simp only [runHandlers, runHandlersM, callOnMsg, outcome]
  cases isContinue <;> rfl

theorem executeMsgBusHandlers_runs (msgid : Bytes) (handlers : List Handler) (task : MsgTask) :
    executeMsgBusHandlers msgid handlers task =
      { task with
        msgparam := (runHandlers msgid task.msgparam handlers task.msgparam false).1
        ret := (runHandlers msgid task.msgparam handlers task.msgparam false).2 } := rfl

structure ReadySendMsgInfo where
  ready : Bool
  rspparam : Bytes
  rspresult : Bool
  deriving DecidableEq, Repr

inductive CallPhase where
  | begun
  | waiting
  | leaving (ready : Bool)
  | returned (ready : Bool)
  deriving DecidableEq, Repr

structure SendCall where
  callertid : Nat
  msgid : Bytes
  param : Bytes
  ret : Bool
  phase : CallPhase
  deriving DecidableEq, Repr

namespace SendCall

-- The call does not look at its ReadySendMsgInfo any more.
def settled (call : SendCall) : Bool :=
  match call.phase with
  | .begun | .waiting => false
  | .leaving _ | .returned _ => true

def isReturned (call : SendCall) : Bool :=
  match call.phase with
  | .returned _ => true
  | _ => false

def readyPath (call : SendCall) : Bool :=
  match call.phase with
  | .leaving ready | .returned ready => ready
  | _ => false

end SendCall

abbrev Groups := List (Bytes × List MsgTask)

inductive BusThread where
  | idle
  | executing (msgid : Bytes) (executed todo : List MsgTask) (rest : Groups)
  | finishing (tasks : List MsgTask) (rest : Groups)
  | filling (task : MsgTask) (info : Nat) (tasks : List MsgTask) (rest : Groups)
  deriving DecidableEq, Repr

structure MsgBus where
  sendmsgTasks : List MsgTask
  msgTasks : List MsgTask
  readySendmsgs : Std.ExtTreeMap Nat Nat
  thread : BusThread
  -- The calls and their ReadySendMsgInfo, in the order of their creation.
  calls : List SendCall
  infos : List ReadySendMsgInfo
  -- The outcomes of ExecuteMsgBusHandlers for the tasks of the calls.
  computed : List (Nat × Bool × Bytes)

inductive Event where
  | sendMsg (callertid : Nat) (msgid param : Bytes)
  | postMsg (msgid param : Bytes)
  | queueTask (call : Nat)
  | wake (call : Nat)
  | timeout (call : Nat)
  | leave (call : Nat)
  | takeTasks
  | execute (handlers : List Handler)
  | findCaller
  | fillInfo
  | nextGroup

def msgbusTid : Nat := 0

-- Posted messages with the same msgid that follow each other are processed as one group.
def groupPosts : List MsgTask -> Groups
  | [] => []
  | task :: rest =>
    match groupPosts rest with
    | [] => [(task.msgid, [task])]
    | (msgid, tasks) :: groups =>
      if msgid = task.msgid then (msgid, task :: tasks) :: groups
      else (task.msgid, [task]) :: (msgid, tasks) :: groups

def startGroups : Groups -> BusThread
  | [] => .idle
  | (msgid, tasks) :: rest => .executing msgid [] tasks rest

namespace MsgBus

def initial : MsgBus :=
  { sendmsgTasks := [], msgTasks := [], readySendmsgs := ∅, thread := .idle, calls := [],
    infos := [], computed := [] }

def setPhase (bus : MsgBus) (index : Nat) (call : SendCall) (phase : CallPhase) : MsgBus :=
  { bus with calls := bus.calls.set index { call with phase } }

def step (bus : MsgBus) : Event -> Option MsgBus
  | .sendMsg callertid msgid param =>
    if callertid ≠ msgbusTid ∧
        ∀ call ∈ bus.calls, call.callertid = callertid → call.isReturned = true then
      some { bus with
        readySendmsgs := bus.readySendmsgs.insert callertid bus.infos.length
        infos := bus.infos ++ [{ ready := false, rspparam := [], rspresult := false }]
        calls := bus.calls ++ [{ callertid, msgid, param, ret := false, phase := .begun }] }
    else none
  | .postMsg msgid param =>
    some { bus with msgTasks := bus.msgTasks ++
      [{ msgid, msgparam := param, callertid := msgbusTid, ret := false, call := none }] }
  | .queueTask index =>
    (bus.calls[index]?).bind fun call =>
      if call.phase = .begun then
        let task : MsgTask := { msgid := call.msgid, msgparam := call.param,
                                callertid := call.callertid, ret := false, call := some index }
        some { bus.setPhase index call .waiting with sendmsgTasks := bus.sendmsgTasks ++ [task] }
      else none
  | .wake index =>
    (bus.calls[index]?).bind fun call => (bus.infos[index]?).bind fun info =>
      if call.phase = .waiting ∧ info.ready = true then
        some (bus.setPhase index { call with param := info.rspparam, ret := info.rspresult }
          (.leaving true))
      else none
  -- The time is up; the ready flag is not looked at again.
  | .timeout index =>
    (bus.calls[index]?).bind fun call =>
      if call.phase = .waiting then
        some (bus.setPhase index { call with ret := false } (.leaving false))
      else none
  | .leave index =>
    (bus.calls[index]?).bind fun call =>
      match call.phase with
      | .leaving ready =>
        some { bus.setPhase index call (.returned ready) with
          readySendmsgs := bus.readySendmsgs.erase call.callertid }
      | _ => none
  | .takeTasks =>
    if bus.thread = .idle then
      some { bus with
        sendmsgTasks := []
        msgTasks := []
        thread := startGroups (bus.sendmsgTasks.map (fun task => (task.msgid, [task])) ++
          groupPosts bus.msgTasks) }
    else none
  | .execute handlers =>
    match bus.thread with
    | .executing msgid executed (task :: todo) rest =>
      let task := executeMsgBusHandlers msgid handlers task
      some { bus with
        thread := .executing msgid (executed ++ [task]) todo rest
        computed := bus.computed ++ task.call.toList.map fun call => (call, task.ret, task.msgparam) }
    | _ => none
  | .findCaller =>
    match bus.thread with
    | .executing _ executed [] rest => some { bus with thread := .finishing executed rest }
    | .finishing (task :: tasks) rest =>
      if task.callertid = msgbusTid then some { bus with thread := .finishing tasks rest }
      else
        match bus.readySendmsgs[task.callertid]? with
        | none => some { bus with thread := .finishing tasks rest }
        | some info => some { bus with thread := .filling task info tasks rest }
    | _ => none
  | .fillInfo =>
    match bus.thread with
    | .filling task info tasks rest =>
      some { bus with
        thread := .finishing tasks rest
        infos := bus.infos.set info
          { ready := true, rspparam := task.msgparam, rspresult := task.ret } }
    | _ => none
  | .nextGroup =>
    match bus.thread with
    | .finishing [] rest => some { bus with thread := startGroups rest }
    | _ => none

inductive Move (bus : MsgBus) : Event -> MsgBus -> Prop where
  | sendMsg (callertid : Nat) (msgid param : Bytes) (other : callertid ≠ msgbusTid)
      (alone : ∀ call ∈ bus.calls, call.callertid = callertid → call.isReturned = true) :
      Move bus (.sendMsg callertid msgid param)
        { bus with
          readySendmsgs := bus.readySendmsgs.insert callertid bus.infos.length
          infos := bus.infos ++ [{ ready := false, rspparam := [], rspresult := false }]
          calls := bus.calls ++ [{ callertid, msgid, param, ret := false, phase := .begun }] }
  | postMsg (msgid param : Bytes) :
      Move bus (.postMsg msgid param)
        { bus with msgTasks := bus.msgTasks ++
            [{ msgid, msgparam := param, callertid := msgbusTid, ret := false, call := none }] }
  | queueTask (index : Nat) (call : SendCall) (there : bus.calls[index]? = some call)
      (begun : call.phase = .begun) :
      Move bus (.queueTask index)
        { bus.setPhase index call .waiting with
          sendmsgTasks := bus.sendmsgTasks ++ [{ msgid := call.msgid, msgparam := call.param,
                                                 callertid := call.callertid, ret := false,
                                                 call := some index }] }
  | wake (index : Nat) (call : SendCall) (info : ReadySendMsgInfo)
      (there : bus.calls[index]? = some call) (infoThere : bus.infos[index]? = some info)
      (waiting : call.phase = .waiting) (ready : info.ready = true) :
      Move bus (.wake index)
        (bus.setPhase index { call with param := info.rspparam, ret := info.rspresult }
          (.leaving true))
  | timeout (index : Nat) (call : SendCall) (there : bus.calls[index]? = some call)
      (waiting : call.phase = .waiting) :
      Move bus (.timeout index) (bus.setPhase index { call with ret := false } (.leaving false))
  | leave (index : Nat) (call : SendCall) (ready : Bool) (there : bus.calls[index]? = some call)
      (leaving : call.phase = .leaving ready) :
      Move bus (.leave index)
        { bus.setPhase index call (.returned ready) with
          readySendmsgs := bus.readySendmsgs.erase call.callertid }
  | takeTasks (idle : bus.thread = .idle) :
      Move bus .takeTasks
        { bus with
          sendmsgTasks := []
          msgTasks := []
          thread := startGroups (bus.sendmsgTasks.map (fun task => (task.msgid, [task])) ++
            groupPosts bus.msgTasks) }
  | execute (handlers : List Handler) (msgid : Bytes) (executed : List MsgTask) (task : MsgTask)
      (todo : List MsgTask) (rest : Groups)
      (executing : bus.thread = .executing msgid executed (task :: todo) rest) :
      Move bus (.execute handlers)
        { bus with
          thread := .executing msgid (executed ++ [executeMsgBusHandlers msgid handlers task]) todo
            rest
          computed := bus.computed ++
            (executeMsgBusHandlers msgid handlers task).call.toList.map fun call =>
              (call, (executeMsgBusHandlers msgid handlers task).ret,
                (executeMsgBusHandlers msgid handlers task).msgparam) }
  | executed (msgid : Bytes) (executed : List MsgTask) (rest : Groups)
      (executing : bus.thread = .executing msgid executed [] rest) :
      Move bus .findCaller { bus with thread := .finishing executed rest }
  | skipTask (task : MsgTask) (tasks : List MsgTask) (rest : Groups)
      (finishing : bus.thread = .finishing (task :: tasks) rest) :
      Move bus .findCaller { bus with thread := .finishing tasks rest }
  | findCaller (task : MsgTask) (info : Nat) (tasks : List MsgTask) (rest : Groups)
      (finishing : bus.thread = .finishing (task :: tasks) rest)
      (found : bus.readySendmsgs[task.callertid]? = some info) :
      Move bus .findCaller { bus with thread := .filling task info tasks rest }
  | fillInfo (task : MsgTask) (info : Nat) (tasks : List MsgTask) (rest : Groups)
      (fills : bus.thread = .filling task info tasks rest) :
      Move bus .fillInfo
        { bus with
          thread := .finishing tasks rest
          infos := bus.infos.set info
            { ready := true, rspparam := task.msgparam, rspresult := task.ret } }
  | nextGroup (rest : Groups) (finished : bus.thread = .finishing [] rest) :
      Move bus .nextGroup { bus with thread := startGroups rest }

theorem step_moves {bus following : MsgBus} {event : Event}
    (taken : bus.step event = some following) : bus.Move event following := by
  cases event with
  | sendMsg callertid msgid param =>
    simp only [step] at taken
    split at taken <;> cases taken
    next allowed => exact .sendMsg callertid msgid param allowed.1 allowed.2
  | postMsg msgid param =>
    cases taken
    exact .postMsg msgid param
  | queueTask index =>
    simp only [step, Option.bind_eq_some_iff] at taken
    obtain ⟨call, there, taken⟩ := taken
    split at taken <;> cases taken
    next begun => exact .queueTask index call there begun
  | wake index =>
    simp only [step, Option.bind_eq_some_iff] at taken
    obtain ⟨call, there, info, infoThere, taken⟩ := taken
    split at taken <;> cases taken
    next wakes => exact .wake index call info there infoThere wakes.1 wakes.2
  | timeout index =>
    simp only [step, Option.bind_eq_some_iff] at taken
    obtain ⟨call, there, taken⟩ := taken
    split at taken <;> cases taken
    next waiting => exact .timeout index call there waiting
  | leave index =>
    simp only [step, Option.bind_eq_some_iff] at taken
    obtain ⟨call, there, taken⟩ := taken
    split at taken <;> cases taken
    next ready leaving => exact .leave index call ready there leaving
  | takeTasks =>
    simp only [step] at taken
    split at taken <;> cases taken
    next idle => exact .takeTasks idle
  | execute handlers =>
    simp only [step] at taken
    split at taken <;> cases taken
    next msgid executed task todo rest executing =>
      exact .execute handlers msgid executed task todo rest executing
  | findCaller =>
    simp only [step] at taken
    split at taken
    next msgid executed rest executing =>
      cases taken
      exact .executed msgid executed rest executing
    next task tasks rest finishing =>
      split at taken
      next =>
        cases taken
        exact .skipTask task tasks rest finishing
      next =>
        split at taken <;> cases taken
        next => exact .skipTask task tasks rest finishing
        next info found => exact .findCaller task info tasks rest finishing found
    next => cases taken
  | fillInfo =>
    simp only [step] at taken
    split at taken <;> cases taken
    next task info tasks rest fills => exact .fillInfo task info tasks rest fills
  | nextGroup =>
    simp only [step] at taken
    split at taken <;> cases taken
    next rest finished => exact .nextGroup rest finished

-- The caller of a finished task is not inside a later SendMsg call.
def finishesInTime (bus : MsgBus) : Event -> Bool
  | .findCaller =>
    match bus.thread with
    | .finishing (task :: _) _ =>
      bus.calls.zipIdx.all fun entry =>
        entry.1.callertid != task.callertid || entry.1.settled || some entry.2 == task.call
    | _ => true
  | _ => true

def outcomes (bus : MsgBus) (index : Nat) : List (Bool × Bytes) :=
  (bus.computed.filter fun entry => entry.1 == index).map Prod.snd

-- Whoever leaves through the ready path takes the outcome of its own message.
def OwnOutcomes (bus : MsgBus) : Prop :=
  ∀ (index : Nat) (call : SendCall), bus.calls[index]? = some call → call.readyPath = true →
    bus.outcomes index = [(call.ret, call.param)]

end MsgBus
end MessageBus.Local
