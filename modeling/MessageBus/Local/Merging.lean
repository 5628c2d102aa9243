import MessageBus.Local.SendPaths

set_option autoImplicit false

namespace MessageBus.Local

inductive RegistryOp where
  | registerMsg (msgid : Bytes) (ref : Nat) (mustCalledInMsgbusthread : Bool)
  | unRegisterMsg (msgid : Bytes) (pHandlerObj : Option Nat)
  deriving DecidableEq, Repr

-- A reference to an object that is gone gives NULL to RegisterMsg.
def RegistryOp.apply (lock : Lock) (objs : MsgHandlerObjContainer) :
    RegistryOp -> MsgHandlerObjContainer
  | .registerMsg msgid ref mustCalled =>
    (Local.registerMsg lock objs msgid (if (lock ref).isSome then some ref else none) mustCalled).2
  | .unRegisterMsg msgid pHandlerObj => Local.unRegisterMsg lock objs msgid pHandlerObj

structure Reaction (World : Type) where
  isContinue : Bool
  ops : List RegistryOp
  world : World

structure HandlerCall where
  ref : Nat
  msgid : Bytes
  param : Bytes
  deriving DecidableEq, Repr

structure Surroundings (World : Type) where
  objs : MsgHandlerObjContainer
  world : World

section Loops

variable {World : Type} (lock : Lock) (onMsg : Nat -> Bytes -> Bytes -> World -> Reaction World)

def Reaction.apply (reaction : Reaction World) (around : Surroundings World) :
    Surroundings World :=
  { objs := reaction.ops.foldl (RegistryOp.apply lock) around.objs, world := reaction.world }

-- The loop of ExecuteMsgBusHandlers for one task.
def callHandlers (msgid param : Bytes) :
    List Nat -> Surroundings World -> List HandlerCall × Surroundings World
  | [], around => ([], around)
  | ref :: rest, around =>
    let reaction := onMsg ref msgid param around.world
    let after := reaction.apply lock around
    if reaction.isContinue then
      let (calls, last) := callHandlers msgid param rest after
      ({ ref, msgid, param } :: calls, last)
    else ([{ ref, msgid, param }], after)

def executeTasks (msgid : Bytes) (msgHandlers : List Nat) :
    List MsgTask -> Surroundings World -> List (List HandlerCall) × Surroundings World
  | [], around => ([], around)
  | task :: rest, around =>
    let (calls, after) := callHandlers lock onMsg msgid task.msgparam msgHandlers around
    let (others, last) := executeTasks msgid msgHandlers rest after
    (calls :: others, last)

def strongHandlers (objs : MsgHandlerObjContainer) (msgid : Bytes) :
    List Nat × MsgHandlerObjContainer :=
  match lookUpInMsgBusThread lock objs msgid with
  | none => ([], objs)
  | some (collected, after) => (collected.msgHandlers, after)

def runGroups : Groups -> Surroundings World -> List (List HandlerCall) × Surroundings World
  | [], around => ([], around)
  | (msgid, tasks) :: rest, around =>
    let (msgHandlers, objs) := strongHandlers lock around.objs msgid
    let (calls, after) := executeTasks lock onMsg msgid msgHandlers tasks { around with objs }
    let (others, last) := runGroups rest after
    (calls ++ others, last)

def mergedRun (queue : List MsgTask) (around : Surroundings World) :
    List (List HandlerCall) × Surroundings World :=
  runGroups lock onMsg (groupPosts queue) around

-- Every posted message on its own, as the queued SendMsg tasks are.
def plainRun (queue : List MsgTask) (around : Surroundings World) :
    List (List HandlerCall) × Surroundings World :=
  runGroups lock onMsg (queue.map fun task => (task.msgid, [task])) around

-- In the plain run, what is found for the first of some equal msgids still leads to the same calls
-- as what is found again for each later one.
def SameHandlers : Option (Bytes × List Nat) -> List MsgTask -> Surroundings World -> Prop
  | _, [], _ => True
  | latest, task :: rest, around =>
    let (msgHandlers, objs) := strongHandlers lock around.objs task.msgid
    let first := ((latest.filter fun group => group.1 = task.msgid).map Prod.snd).getD msgHandlers
    let (calls, after) :=
      callHandlers lock onMsg task.msgid task.msgparam msgHandlers { around with objs }
    (callHandlers lock onMsg task.msgid task.msgparam first { around with objs }).1 = calls ∧
      SameHandlers (some (task.msgid, first)) rest after

-- The run of the merged groups, task by task.
def mergedFrom : Option (Bytes × List Nat) -> List MsgTask -> Surroundings World ->
    List (List HandlerCall) × Surroundings World
  | _, [], around => ([], around)
  | latest, task :: rest, around =>
    let (msgHandlers, objs) :=
      ((latest.filter fun group => group.1 = task.msgid).map fun group =>
        (group.2, around.objs)).getD (strongHandlers lock around.objs task.msgid)
    let (calls, after) :=
      callHandlers lock onMsg task.msgid task.msgparam msgHandlers { around with objs }
    let (others, last) := mergedFrom (some (task.msgid, msgHandlers)) rest after
    (calls :: others, last)

end Loops

section Calls

variable {World : Type} {lock : Lock} {onMsg : Nat -> Bytes -> Bytes -> World -> Reaction World}

theorem callHandlers_cons (msgid param : Bytes) (ref : Nat) (rest : List Nat)
    (around : Surroundings World) :
    callHandlers lock onMsg msgid param (ref :: rest) around =
      let after := (onMsg ref msgid param around.world).apply lock around
      if (onMsg ref msgid param around.world).isContinue then
        ({ ref, msgid, param } :: (callHandlers lock onMsg msgid param rest after).1,
          (callHandlers lock onMsg msgid param rest after).2)
      else ([{ ref, msgid, param }], after) :=
  rfl

theorem callHandlers_world {msgid param : Bytes} {msgHandlers : List Nat}
    {around other : Surroundings World} (same : around.world = other.world) :
    (callHandlers lock onMsg msgid param msgHandlers around).1 =
      (callHandlers lock onMsg msgid param msgHandlers other).1 := by
  induction msgHandlers generalizing around other with
  | nil => rfl
  | cons ref rest ih =>
    simp only [callHandlers_cons, same]
    split
    · exact congrArg (List.cons _) (ih rfl)
    · rfl

variable (lock onMsg) in
theorem callHandlers_first (msgid param : Bytes) (ref : Nat) (rest : List Nat)
    (around : Surroundings World) :
    ((callHandlers lock onMsg msgid param (ref :: rest) around).1.head?).map HandlerCall.ref =
      some ref := by
  rw [callHandlers_cons]
  simp only
  split <;> rfl

theorem callHandlers_same {msgid param : Bytes} {msgHandlers others : List Nat}
    {around : Surroundings World}
    (same : (callHandlers lock onMsg msgid param msgHandlers around).1 =
      (callHandlers lock onMsg msgid param others around).1) :
    callHandlers lock onMsg msgid param msgHandlers around =
      callHandlers lock onMsg msgid param others around := by
  induction msgHandlers generalizing others around with
  | nil =>
    cases others with
    | nil => rfl
    | cons other others =>
      have first := callHandlers_first lock onMsg msgid param other others around
      rw [← same] at first
      cases first
  | cons ref rest ih =>
    have first := callHandlers_first lock onMsg msgid param ref rest around
    cases others with
    | nil =>
      rw [same] at first
      cases first
    | cons other others =>
      rw [same, callHandlers_first] at first
      cases first
      simp only [callHandlers_cons] at same ⊢
      split at same
      next goesOn =>
        rw [if_pos goesOn, if_pos goesOn, ih (List.cons.inj same).2]
      next stops => rw [if_neg stops, if_neg stops]

theorem callHandlers_nil_iff {msgid param : Bytes} {msgHandlers : List Nat}
    {around : Surroundings World} :
    (callHandlers lock onMsg msgid param msgHandlers around).1 = [] ↔ msgHandlers = [] := by
  cases msgHandlers with
  | nil => exact ⟨fun _ => rfl, fun _ => rfl⟩
  | cons ref rest =>
    rw [callHandlers_cons]
    simp only
    split <;> simp

theorem executeTasks_cons (msgid : Bytes) (msgHandlers : List Nat) (task : MsgTask)
    (rest : List MsgTask) (around : Surroundings World) :
    executeTasks lock onMsg msgid msgHandlers (task :: rest) around =
      let first := callHandlers lock onMsg msgid task.msgparam msgHandlers around
      (first.1 :: (executeTasks lock onMsg msgid msgHandlers rest first.2).1,
        (executeTasks lock onMsg msgid msgHandlers rest first.2).2) :=
  rfl

theorem runGroups_cons (msgid : Bytes) (tasks : List MsgTask) (rest : Groups)
    (around : Surroundings World) :
    runGroups lock onMsg ((msgid, tasks) :: rest) around =
      let looked := strongHandlers lock around.objs msgid
      let done := executeTasks lock onMsg msgid looked.1 tasks { around with objs := looked.2 }
      (done.1 ++ (runGroups lock onMsg rest done.2).1, (runGroups lock onMsg rest done.2).2) :=
  rfl

variable (lock onMsg) in
-- The groups that are left in the middle of one of them.
def runRest (msgid : Bytes) (msgHandlers : List Nat) (groups : Groups)
    (around : Surroundings World) : List (List HandlerCall) × Surroundings World :=
  match groups with
  | [] => ([], around)
  | (other, tasks) :: rest =>
    if msgid = other then
      let done := executeTasks lock onMsg msgid msgHandlers tasks around
      (done.1 ++ (runGroups lock onMsg rest done.2).1, (runGroups lock onMsg rest done.2).2)
    else runGroups lock onMsg groups around

theorem runRest_cons (msgid : Bytes) (msgHandlers : List Nat) (other : Bytes)
    (tasks : List MsgTask) (rest : Groups) (around : Surroundings World) :
    runRest lock onMsg msgid msgHandlers ((other, tasks) :: rest) around =
      if msgid = other then
        let done := executeTasks lock onMsg msgid msgHandlers tasks around
        (done.1 ++ (runGroups lock onMsg rest done.2).1, (runGroups lock onMsg rest done.2).2)
      else runGroups lock onMsg ((other, tasks) :: rest) around :=
  rfl

theorem mergedFrom_cons (latest : Option (Bytes × List Nat)) (task : MsgTask)
    (rest : List MsgTask) (around : Surroundings World) :
    mergedFrom lock onMsg latest (task :: rest) around =
      let looked := ((latest.filter fun group => group.1 = task.msgid).map fun group =>
        (group.2, around.objs)).getD (strongHandlers lock around.objs task.msgid)
      let first := callHandlers lock onMsg task.msgid task.msgparam looked.1
        { around with objs := looked.2 }
      (first.1 :: (mergedFrom lock onMsg (some (task.msgid, looked.1)) rest first.2).1,
        (mergedFrom lock onMsg (some (task.msgid, looked.1)) rest first.2).2) :=
  rfl

variable (lock onMsg) in
theorem groupPosts_cons (task : MsgTask) (rest : List MsgTask) :
    ∃ tasks groups, groupPosts (task :: rest) = (task.msgid, task :: tasks) :: groups ∧
      ∀ (msgHandlers : List Nat) (around : Surroundings World),
        runRest lock onMsg task.msgid msgHandlers (groupPosts rest) around =
          let done := executeTasks lock onMsg task.msgid msgHandlers tasks around
          (done.1 ++ (runGroups lock onMsg groups done.2).1,
            (runGroups lock onMsg groups done.2).2) := by
  cases grouped : groupPosts rest with
  | nil =>
    refine ⟨[], [], ?_, fun _ _ => rfl⟩
    simp only [groupPosts, grouped]
  | cons first others =>
    obtain ⟨msgid, tasks⟩ := first
    by_cases same : msgid = task.msgid
    · subst same
      refine ⟨tasks, others, ?_, fun msgHandlers around => ?_⟩
      · simp only [groupPosts, grouped, if_true]
      · simp only [runRest, if_true]
    · refine ⟨[], (msgid, tasks) :: others, ?_, fun msgHandlers around => ?_⟩
      · simp only [groupPosts, grouped, if_neg same]
      · simp only [runRest, if_neg (Ne.symm same)]
        rfl

theorem mergedFrom_groups (queue : List MsgTask) :
    (∀ around : Surroundings World,
      mergedFrom lock onMsg none queue around = runGroups lock onMsg (groupPosts queue) around) ∧
    ∀ (msgid : Bytes) (msgHandlers : List Nat) (around : Surroundings World),
      mergedFrom lock onMsg (some (msgid, msgHandlers)) queue around =
        runRest lock onMsg msgid msgHandlers (groupPosts queue) around := by
  induction queue with
  | nil => exact ⟨fun _ => rfl, fun _ _ _ => rfl⟩
  | cons task rest ih =>
    obtain ⟨tasks, groups, grouped, group⟩ :=
      groupPosts_cons lock onMsg task rest
    have fresh (around : Surroundings World) : mergedFrom lock onMsg none (task :: rest) around =
        runGroups lock onMsg (groupPosts (task :: rest)) around := by
      simp only [mergedFrom_cons, grouped, runGroups_cons, executeTasks_cons, Option.filter_none,
        Option.map_none, Option.getD_none, ih.2, group, List.cons_append]
    refine ⟨fresh, fun msgid msgHandlers around => ?_⟩
    by_cases same : msgid = task.msgid
    · subst same
      simp only [mergedFrom_cons, grouped, runRest_cons, executeTasks_cons, Option.filter_some,
        decide_true, if_true, Option.map_some, Option.getD_some, ih.2, group, List.cons_append]
    · have unlike : Option.filter (fun group => decide (group.1 = task.msgid))
          (some (msgid, msgHandlers)) = none := by
        simp [same]
      simp only [grouped, runRest_cons, if_neg same]
      rw [← grouped, ← fresh]
      simp only [mergedFrom_cons, unlike, Option.filter_none]

theorem plainRun_cons (task : MsgTask) (rest : List MsgTask) (around : Surroundings World) :
    plainRun lock onMsg (task :: rest) around =
      let looked := strongHandlers lock around.objs task.msgid
      let first := callHandlers lock onMsg task.msgid task.msgparam looked.1
        { around with objs := looked.2 }
      (first.1 :: (plainRun lock onMsg rest first.2).1, (plainRun lock onMsg rest first.2).2) :=
  rfl

theorem sameHandlers_cons (latest : Option (Bytes × List Nat)) (task : MsgTask)
    (rest : List MsgTask) (around : Surroundings World) :
    SameHandlers lock onMsg latest (task :: rest) around ↔
      let looked := strongHandlers lock around.objs task.msgid
      let first := ((latest.filter fun group => group.1 = task.msgid).map Prod.snd).getD looked.1
      let called := callHandlers lock onMsg task.msgid task.msgparam looked.1
        { around with objs := looked.2 }
      (callHandlers lock onMsg task.msgid task.msgparam first
          { around with objs := looked.2 }).1 = called.1 ∧
        SameHandlers lock onMsg (some (task.msgid, first)) rest called.2 :=
  Iff.rfl

end Calls

section Registry

variable {lock : Lock} {objs : MsgHandlerObjContainer} {msgid : Bytes}

def AllLive (lock : Lock) (objs : MsgHandlerObjContainer) (msgid : Bytes) : Prop :=
  ∀ handler ∈ (objs[msgid]?).getD [], (lock handler.ref).isSome = true

theorem AllLive.insert {handlers : List WeakHandler} {other : Bytes}
    (live : AllLive lock objs msgid)
    (new : other = msgid → ∀ handler ∈ handlers, (lock handler.ref).isSome = true) :
    AllLive lock (objs.insert other handlers) msgid := by
  unfold AllLive
  rw [Std.ExtTreeMap.getElem?_insert]
  split
  next same => exact new (Std.LawfulEqCmp.compare_eq_iff_eq.mp same)
  next => exact live

theorem AllLive.apply (live : AllLive lock objs msgid) (op : RegistryOp) :
    AllLive lock (op.apply lock objs) msgid := by
  cases op with
  | unRegisterMsg other pHandlerObj =>
    simp only [RegistryOp.apply, unRegisterMsg]
    split
    · exact live
    next handlers there =>
      refine live.insert fun same handler member => live handler ?_
      rw [← same, there]
      exact List.mem_of_mem_eraseP member
  | registerMsg other ref mustCalled =>
    simp only [RegistryOp.apply, registerMsg]
    split
    · exact live
    next found same =>
      have lives : (lock found).isSome = true := by
        split at same
        next isLive => exact Option.some.inj same ▸ isLive
        next => cases same
      split
      · exact live.insert fun _ handler member => List.mem_singleton.mp member ▸ lives
      next handlers there =>
        split
        · exact live
        · refine live.insert fun own handler member => ?_
          rcases List.mem_append.mp member with older | new
          · refine live handler ?_
            rw [← own, there]
            exact older
          · exact List.mem_singleton.mp new ▸ lives

theorem strongHandlers_absent (absent : objs[msgid]? = none) :
    strongHandlers lock objs msgid = ([], objs) := by
  simp [strongHandlers, lookUpInMsgBusThread, lookUpHandlers, absent]

theorem strongHandlers_there {handlers : List WeakHandler} (there : objs[msgid]? = some handlers) :
    strongHandlers lock objs msgid =
      let live := handlers.filter fun handler => (lock handler.ref).isSome
      (live.map WeakHandler.ref,
        if live.isEmpty then objs.erase msgid else objs.insert msgid live) := by
  obtain ⟨_, all, weak⟩ := @collectHandlers_complete lock (fun _ => false) handlers fun _ _ => rfl
  simp only [strongHandlers, lookUpInMsgBusThread, lookUpHandlers, there, Option.map_some, all, weak]

theorem strongHandlers_allLive : AllLive lock (strongHandlers lock objs msgid).2 msgid ∧
    ((strongHandlers lock objs msgid).1 = [] → (strongHandlers lock objs msgid).2[msgid]? = none) := by
  cases there : objs[msgid]? with
  | none =>
    rw [strongHandlers_absent there]
    refine ⟨?_, fun _ => there⟩
    simp [AllLive, there]
  | some handlers =>
    rw [strongHandlers_there there]
    simp only
    split
    next => simp [AllLive]
    next some =>
      refine ⟨?_, fun none => absurd (List.isEmpty_iff.mpr (List.map_eq_nil_iff.mp none)) some⟩
      simp [AllLive]

theorem strongHandlers_kept (live : AllLive lock objs msgid)
    (some : (strongHandlers lock objs msgid).1 = [] → objs[msgid]? = none) :
    (strongHandlers lock objs msgid).2 = objs := by
  cases there : objs[msgid]? with
  | none => rw [strongHandlers_absent there]
  | some handlers =>
    rw [AllLive, there] at live
    have all : handlers.filter (fun handler => (lock handler.ref).isSome) = handlers :=
      List.filter_eq_self.mpr live
    rw [strongHandlers_there there] at some ⊢
    simp only [all] at some ⊢
    split
    next empty =>
      rw [List.isEmpty_iff] at empty
      rw [some (by rw [empty]; rfl)] at there
      cases there
    next =>
      apply Std.ExtTreeMap.ext_getElem?
      intro other
      rw [Std.ExtTreeMap.getElem?_insert]
      split
      next same => rw [← Std.LawfulEqCmp.compare_eq_iff_eq.mp same, there]
      next => rfl

end Registry

section Comparison

variable {World : Type} {lock : Lock} {onMsg : Nat -> Bytes -> Bytes -> World -> Reaction World}

theorem callHandlers_allLive {msgid : Bytes} (other param : Bytes) (msgHandlers : List Nat)
    {around : Surroundings World} (live : AllLive lock around.objs msgid) :
    AllLive lock (callHandlers lock onMsg other param msgHandlers around).2.objs msgid := by
  have reacts (reaction : Reaction World) {around : Surroundings World}
      (live : AllLive lock around.objs msgid) :
      AllLive lock (reaction.apply lock around).objs msgid := by
    simp only [Reaction.apply]
    induction reaction.ops generalizing around with
    | nil => exact live
    | cons op rest ih =>
      exact @ih { around with objs := op.apply lock around.objs } (live.apply op)
  induction msgHandlers generalizing around with
  | nil => exact live
  | cons ref rest ih =>
    rw [callHandlers_cons]
    simp only
    split
    · exact ih (reacts _ live)
    · exact reacts _ live

def Shared (lock : Lock) (objs : MsgHandlerObjContainer) (group : Bytes × List Nat) : Prop :=
  AllLive lock objs group.1 ∧ (group.2 = [] → objs[group.1]? = none)

theorem shared_after {msgid param : Bytes} {msgHandlers : List Nat} {around : Surroundings World}
    (shared : Shared lock around.objs (msgid, msgHandlers)) :
    Shared lock (callHandlers lock onMsg msgid param msgHandlers around).2.objs
      (msgid, msgHandlers) := by
  refine ⟨callHandlers_allLive msgid param msgHandlers shared.1, ?_⟩
  rintro rfl
  exact shared.2 rfl

variable (lock onMsg) in
theorem merged_iff (queue : List MsgTask) (latest : Option (Bytes × List Nat))
    (around : Surroundings World) (shared : ∀ group, latest = some group →
      Shared lock around.objs group) :
    ((mergedFrom lock onMsg latest queue around).1 = (plainRun lock onMsg queue around).1 ∧
      (mergedFrom lock onMsg latest queue around).2.objs =
        (plainRun lock onMsg queue around).2.objs) ↔
      SameHandlers lock onMsg latest queue around := by
  induction queue generalizing latest around with
  | nil => exact ⟨fun _ => trivial, fun _ => ⟨rfl, rfl⟩⟩
  | cons task rest ih =>
    rw [sameHandlers_cons, mergedFrom_cons, plainRun_cons]
    cases continued : latest.filter fun group => group.1 = task.msgid with
    | none =>
      simp only [Option.map_none, Option.getD_none, List.cons.injEq, true_and]
      refine ih _ _ ?_
      rintro group ⟨⟩
      exact shared_after strongHandlers_allLive
    | some group =>
      obtain ⟨isLatest, same⟩ := Option.filter_eq_some_iff.mp continued
      obtain ⟨msgid, first⟩ := group
      simp only [decide_eq_true_eq] at same
      subst same
      have known := shared _ isLatest
      simp only [Option.map_some, Option.getD_some, List.cons.injEq]
      have world : (callHandlers lock onMsg task.msgid task.msgparam first around).1 =
          (callHandlers lock onMsg task.msgid task.msgparam first
            { around with objs := (strongHandlers lock around.objs task.msgid).2 }).1 :=
        callHandlers_world rfl
      by_cases agree : (callHandlers lock onMsg task.msgid task.msgparam first
          { around with objs := (strongHandlers lock around.objs task.msgid).2 }).1 =
            (callHandlers lock onMsg task.msgid task.msgparam
              (strongHandlers lock around.objs task.msgid).1
              { around with objs := (strongHandlers lock around.objs task.msgid).2 }).1
      · have kept : (strongHandlers lock around.objs task.msgid).2 = around.objs := by
          refine strongHandlers_kept known.1 fun none => known.2 ?_
          rw [none] at agree
          exact callHandlers_nil_iff.mp agree
        rw [kept] at agree
        simp only [kept]
        have sameEnd := callHandlers_same agree
        simp only [← sameEnd, true_and]
        refine ih _ _ ?_
        rintro group ⟨⟩
        exact shared_after known
      · simp only [world, agree, false_and]

def HandlerCall.message (call : HandlerCall) : Bytes × Bytes := (call.msgid, call.param)

def MsgTask.message (task : MsgTask) : Bytes × Bytes := (task.msgid, task.msgparam)

theorem callHandlers_message (msgid param : Bytes) (msgHandlers : List Nat)
    (around : Surroundings World) :
    ∀ call ∈ (callHandlers lock onMsg msgid param msgHandlers around).1,
      call.message = (msgid, param) := by
  induction msgHandlers generalizing around with
  | nil =>
    intro _ impossible
    cases impossible
  | cons ref rest ih =>
    rw [callHandlers_cons]
    simp only
    split
    · rintro call (_ | ⟨_, member⟩)
      · rfl
      · exact ih _ call member
    · rintro call (_ | ⟨_, ⟨⟩⟩)
      rfl

def CallsFor (queue : List MsgTask) (calls : List (List HandlerCall)) : Prop :=
  List.Forall₂ (fun task calls => ∀ call ∈ calls, HandlerCall.message call = task.message) queue calls

variable (lock onMsg) in
theorem mergedFrom_callsFor (queue : List MsgTask) (latest : Option (Bytes × List Nat))
    (around : Surroundings World) :
    CallsFor queue (mergedFrom lock onMsg latest queue around).1 := by
  induction queue generalizing latest around with
  | nil => exact .nil
  | cons task rest ih =>
    rw [mergedFrom_cons]
    exact .cons (callHandlers_message _ _ _ _) (ih _ _)

theorem plainRun_callsFor (queue : List MsgTask) (around : Surroundings World) :
    CallsFor queue (plainRun lock onMsg queue around).1 := by
  induction queue generalizing around with
  | nil => exact .nil
  | cons task rest ih =>
    rw [plainRun_cons]
    exact .cons (callHandlers_message _ _ _ _) (ih _)

theorem CallsFor.others {queue : List MsgTask} {calls : List (List HandlerCall)}
    (own : CallsFor queue calls) {message : Bytes × Bytes}
    (absent : message ∉ queue.map MsgTask.message) :
    calls.flatten.filter (fun call => call.message = message) = [] := by
  rw [List.filter_eq_nil_iff]
  intro call member
  induction own with
  | nil => cases member
  | cons first rest ih =>
    rw [List.map_cons, List.mem_cons, not_or] at absent
    rcases List.mem_append.mp member with inFirst | later
    · simpa [first call inFirst] using Ne.symm absent.1
    · exact ih absent.2 later

theorem CallsFor.flatten_injective {queue : List MsgTask} {calls others : List (List HandlerCall)}
    (own : CallsFor queue calls) (also : CallsFor queue others)
    (distinct : (queue.map MsgTask.message).Nodup) (same : calls.flatten = others.flatten) :
    calls = others := by
  induction own generalizing others with
  | nil =>
    cases also
    rfl
  | @cons task _ _ _ first rest ih =>
    cases also with
    | cons otherFirst otherRest =>
      rw [List.map_cons, List.nodup_cons] at distinct
      rw [List.flatten_cons, List.flatten_cons] at same
      have head := congrArg (List.filter fun call => call.message = task.message) same
      rw [List.filter_append, List.filter_append, CallsFor.others rest distinct.1,
        CallsFor.others otherRest distinct.1, List.append_nil, List.append_nil,
        List.filter_eq_self.mpr fun call member => decide_eq_true (first call member),
        List.filter_eq_self.mpr fun call member => decide_eq_true (otherFirst call member)] at head
      subst head
      rw [ih otherRest distinct.2 (List.append_cancel_left same)]

theorem merging_unobserved_iff {World : Type} (lock : Lock)
    (onMsg : Nat -> Bytes -> Bytes -> World -> Reaction World) (queue : List MsgTask)
    (around : Surroundings World) :
    (((mergedRun lock onMsg queue around).1 = (plainRun lock onMsg queue around).1 ∧
        (mergedRun lock onMsg queue around).2.objs = (plainRun lock onMsg queue around).2.objs) ↔
      SameHandlers lock onMsg none queue around) ∧
    (SameHandlers lock onMsg none queue around →
      (mergedRun lock onMsg queue around).1.flatten =
          (plainRun lock onMsg queue around).1.flatten ∧
        (mergedRun lock onMsg queue around).2.objs = (plainRun lock onMsg queue around).2.objs) ∧
    ((queue.map MsgTask.message).Nodup →
      ((mergedRun lock onMsg queue around).1.flatten =
            (plainRun lock onMsg queue around).1.flatten ∧
          (mergedRun lock onMsg queue around).2.objs =
            (plainRun lock onMsg queue around).2.objs) →
        SameHandlers lock onMsg none queue around) := by
  have exactly := merged_iff lock onMsg queue none around
    (fun _ impossible => by cases impossible)
  have own := mergedFrom_callsFor lock onMsg queue none around
  rw [(mergedFrom_groups queue).1] at exactly own
  refine ⟨exactly, fun same => ?_, fun distinct observed => ?_⟩
  · obtain ⟨calls, objs⟩ := exactly.mpr same
    exact ⟨congrArg List.flatten calls, objs⟩
  · exact exactly.mp ⟨own.flatten_injective (plainRun_callsFor queue around) distinct observed.1,
      observed.2⟩

end Comparison

def post (msgid param : Bytes) : MsgTask :=
  { msgid, msgparam := param, callertid := msgbusTid, ret := false, call := none }

def twoRegistered : Surroundings Unit :=
  { objs := (∅ : MsgHandlerObjContainer).insert [97]
      [{ ref := 0, mustCalledInMsgbusthread := true },
        { ref := 1, mustCalledInMsgbusthread := true }]
    world := () }

-- Each handler of another message registers the first object for it.
def registersElsewhere (_ : Nat) (_ _ : Bytes) (_ : Unit) : Reaction Unit :=
  { isContinue := true, ops := [.registerMsg [98] 0 true], world := () }

theorem merging_unobserved_elsewhere :
    (mergedRun some registersElsewhere [post [97] [1], post [97] [2], post [98] [3]]
        twoRegistered).1.flatten =
      (plainRun some registersElsewhere [post [97] [1], post [97] [2], post [98] [3]]
        twoRegistered).1.flatten := by
  refine ((merging_unobserved_iff some registersElsewhere _ twoRegistered).2.1 ?_).1
  exact ⟨rfl, rfl, rfl, trivial⟩

-- The first object unregisters itself when it is called.
def onlyOnce (ref : Nat) (msgid _ : Bytes) (_ : Unit) : Reaction Unit :=
  { isContinue := true
    ops := if ref = 0 then [.unRegisterMsg msgid (some 0)] else []
    world := () }

theorem merged_call_after_unRegisterMsg : ¬ ∀ (World : Type) (lock : Lock)
    (onMsg : Nat -> Bytes -> Bytes -> World -> Reaction World) (queue : List MsgTask)
    (around : Surroundings World),
      (mergedRun lock onMsg queue around).1.flatten =
          (plainRun lock onMsg queue around).1.flatten ∧
        (mergedRun lock onMsg queue around).2.objs =
          (plainRun lock onMsg queue around).2.objs := by
  intro always
  have same := (always Unit some onlyOnce [post [97] [1], post [97] [2]] twoRegistered).1
  exact absurd same (by decide)

end MessageBus.Local
