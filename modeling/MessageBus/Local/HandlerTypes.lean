import MessageBus.Local.HandlerRegistry
import MessageBus.Local.SendMsg

set_option autoImplicit false

namespace MessageBus.Local

-- The call types of a handler function: 0 is for the msgbus thread, 1 for the thread pool, 2 for
-- any thread and 3 for the UI.
abbrev HandlerType := Nat

inductive Work where
  -- AddHandler before its RegisterMsg, RemoveHandler before its UnRegisterMsg.
  | registering (ref : Nat) (msgid : Bytes) (type : HandlerType)
  | unregistering (address : Nat) (msgid : Bytes)
  -- ExecuteMsgBusHandlers before the first of these objects.
  | calling (msgid : Bytes) (todo : List Nat)
  deriving DecidableEq, Repr

structure Activity where
  thread : Nat
  work : Work
  deriving DecidableEq, Repr

structure FunctionCall where
  thread : Nat
  ref : Nat
  msgid : Bytes
  type : HandlerType
  deriving DecidableEq, Repr

structure MsgHandlers where
  registry : HandlerRegistry
  -- The types in the all_handlers_ of each object.
  allHandlers : Nat -> Bytes -> Option HandlerType
  activities : List Activity
  called : List FunctionCall

namespace MsgHandlers

inductive Event where
  | construct (address : Nat)
  | destroy (address : Nat)
  | addHandler (thread address : Nat) (msgid : Bytes) (type : HandlerType)
  | removeHandler (thread address : Nat) (msgid : Bytes)
  -- SendMsg, and for the msgbus thread also a task out of its queues.
  | sendMsg (thread : Nat) (msgid : Bytes)
  | goOn (activity : Nat) (isContinue : Bool)
  deriving DecidableEq, Repr

def initial : MsgHandlers :=
  { registry := .initial, allHandlers := fun _ _ => none, activities := [], called := [] }

def setHandler (handlers : MsgHandlers) (ref : Nat) (msgid : Bytes) (type : Option HandlerType) :
    MsgHandlers :=
  { handlers with
    allHandlers := Function.update handlers.allHandlers ref
      (Function.update (handlers.allHandlers ref) msgid type) }

def begin (handlers : MsgHandlers) (thread : Nat) (work : Work) : MsgHandlers :=
  { handlers with activities := handlers.activities ++ [{ thread, work }] }

def setObjs (handlers : MsgHandlers) (allMsghandlerObjs : MsgHandlerObjContainer) : MsgHandlers :=
  { handlers with registry := { handlers.registry with allMsghandlerObjs } }

def setWork (handlers : MsgHandlers) (index : Nat) (activity : Activity) (work : Work) :
    MsgHandlers :=
  { handlers with activities := handlers.activities.set index { activity with work } }

def onMsg (handlers : MsgHandlers) (thread ref : Nat) (msgid : Bytes) : MsgHandlers :=
  match handlers.allHandlers ref msgid with
  | none => handlers
  | some type =>
    if type = 0 ∨ type = 2 then
      { handlers with called := handlers.called ++ [{ thread, ref, msgid, type }] }
    else handlers

-- Only a function that is called here can clear is_continue.
def stops (handlers : MsgHandlers) (ref : Nat) (msgid : Bytes) (isContinue : Bool) : Bool :=
  !isContinue && (handlers.allHandlers ref msgid == some 0 || handlers.allHandlers ref msgid == some 2)

def goOn (handlers : MsgHandlers) (index : Nat) (isContinue : Bool) (activity : Activity) :
    Option MsgHandlers :=
  let objs := handlers.registry.allMsghandlerObjs
  match activity.work with
  | .registering ref msgid type =>
    let after := (registerMsg handlers.registry.lock objs msgid (some ref) (type != 2)).2
    some ((handlers.setObjs after).setWork index activity (.calling msgid []))
  | .unregistering address msgid =>
    let after := unRegisterMsg handlers.registry.lock objs msgid (some address)
    some ((handlers.setObjs after).setWork index activity (.calling msgid []))
  | .calling msgid (ref :: todo) =>
    let todo := if handlers.stops ref msgid isContinue then [] else todo
    some ((handlers.onMsg activity.thread ref msgid).setWork index activity (.calling msgid todo))
  | .calling _ [] => none

def step (handlers : MsgHandlers) : Event -> Option MsgHandlers
  | .construct address =>
    (handlers.registry.step (.construct address)).map fun registry => { handlers with registry }
  | .destroy address =>
    (handlers.registry.step (.destroy address)).map fun registry => { handlers with registry }
  | .addHandler thread address msgid type =>
    (handlers.registry.objectAt address).map fun ref =>
      (handlers.setHandler ref msgid (some type)).begin thread (.registering ref msgid type)
  | .removeHandler thread address msgid =>
    (handlers.registry.objectAt address).map fun ref =>
      (handlers.setHandler ref msgid none).begin thread (.unregistering address msgid)
  | .sendMsg thread msgid =>
    let lock := handlers.registry.lock
    let objs := handlers.registry.allMsghandlerObjs
    if thread = msgbusTid then
      match lookUpInMsgBusThread lock objs msgid with
      | none => some handlers
      | some (collected, after) =>
        some ((handlers.setObjs after).begin thread (.calling msgid collected.msgHandlers))
    else
      match lookUpForSendMsg lock objs msgid with
      | none => some handlers
      | some (collected, after) =>
        if collected.complete then
          some ((handlers.setObjs after).begin thread (.calling msgid collected.msgHandlers))
        else some (handlers.setObjs after)
  | .goOn index isContinue =>
    (handlers.activities[index]?).bind fun activity => handlers.goOn index isContinue activity

-- Another thread than the msgbus thread may call the object.
def calledElsewhere (handlers : MsgHandlers) (ref : Nat) (msgid : Bytes) : Bool :=
  (((handlers.registry.allMsghandlerObjs[msgid]?).getD []).any fun handler =>
      handler.ref == ref && !handler.mustCalledInMsgbusthread) ||
    handlers.activities.any fun activity =>
      match activity.work with
      | .calling other todo =>
        activity.thread != msgbusTid && other == msgid && todo.contains ref
      | .registering _ _ _ | .unregistering _ _ => false

-- A function of type 0 is not added where the object may be called elsewhere, and the object is not
-- registered for any thread while its function is of type 0.
def keepsType (handlers : MsgHandlers) : Event -> Bool
  | .addHandler _ address msgid type =>
    type != 0 ||
      ((handlers.registry.objectAt address).all fun ref => !handlers.calledElsewhere ref msgid)
  | .goOn index _ =>
    (handlers.activities[index]?).all fun activity =>
      match activity.work with
      | .registering ref msgid type =>
        type != 2 || handlers.allHandlers ref msgid != some 0 ||
          registeredFor handlers.registry.lock handlers.registry.allMsghandlerObjs msgid ref
      | .unregistering _ _ | .calling _ _ => true
  | .construct _ | .destroy _ | .removeHandler _ _ _ | .sendMsg _ _ => true

def OnlyInMsgbusThread (handlers : MsgHandlers) : Prop :=
  ∀ call ∈ handlers.called, call.type = 0 → call.thread = msgbusTid

structure Typed (handlers : MsgHandlers) : Prop where
  registered : EveryHandler (fun msgid handler => handler.mustCalledInMsgbusthread = false →
    handlers.allHandlers handler.ref msgid ≠ some 0) handlers.registry.allMsghandlerObjs
  calls : ∀ activity ∈ handlers.activities, activity.thread ≠ msgbusTid →
    ∀ (msgid : Bytes) (todo : List Nat), activity.work = .calling msgid todo →
      ∀ ref ∈ todo, handlers.allHandlers ref msgid ≠ some 0
  called : handlers.OnlyInMsgbusThread

variable {handlers following : MsgHandlers}

theorem typed_initial : initial.Typed := by
  refine ⟨?_, ?_, ?_⟩
  · intro msgid found there
    simp [initial, HandlerRegistry.initial] at there
  · intro _ impossible
    cases impossible
  · intro _ impossible
    cases impossible

-- What an activity may still do to the objects of a message.
def Allowed (handlers : MsgHandlers) (activity : Activity) : Prop :=
  activity.thread ≠ msgbusTid → ∀ (msgid : Bytes) (todo : List Nat),
    activity.work = .calling msgid todo → ∀ ref ∈ todo, handlers.allHandlers ref msgid ≠ some 0

theorem Typed.setObjs (typed : handlers.Typed) {after : MsgHandlerObjContainer}
    (registered : EveryHandler (fun msgid handler => handler.mustCalledInMsgbusthread = false →
      handlers.allHandlers handler.ref msgid ≠ some 0) after) :
    (handlers.setObjs after).Typed :=
  ⟨registered, typed.calls, typed.called⟩

theorem Typed.begin (typed : handlers.Typed) {thread : Nat} {work : Work}
    (allowed : handlers.Allowed { thread, work }) : (handlers.begin thread work).Typed := by
  refine ⟨typed.registered, fun activity member => ?_, typed.called⟩
  rcases List.mem_append.mp member with older | new
  · exact typed.calls activity older
  · exact List.mem_singleton.mp new ▸ allowed

theorem Typed.setWork (typed : handlers.Typed) {index : Nat} {activity : Activity} {work : Work}
    (allowed : handlers.Allowed { activity with work }) :
    (handlers.setWork index activity work).Typed := by
  refine ⟨typed.registered, fun other member => ?_, typed.called⟩
  rcases List.mem_or_eq_of_mem_set member with older | rfl
  · exact typed.calls other older
  · exact allowed

theorem allowed_of_no_call {activity : Activity}
    (none : ∀ (msgid : Bytes) (todo : List Nat), activity.work = .calling msgid todo → todo = []) :
    handlers.Allowed activity := by
  intro _ msgid todo calls ref member
  rw [none msgid todo calls] at member
  cases member

theorem setHandler_allHandlers {ref other : Nat} {msgid found : Bytes} {type : Option HandlerType} :
    (handlers.setHandler ref msgid type).allHandlers other found =
      if other = ref ∧ found = msgid then type else handlers.allHandlers other found := by
  simp only [setHandler, Function.update_apply]
  by_cases sameRef : other = ref <;> by_cases sameMsgid : found = msgid <;>
    simp [sameRef, sameMsgid]

theorem Typed.setHandler (typed : handlers.Typed) {ref : Nat} {msgid : Bytes}
    {type : Option HandlerType}
    (safe : type = some 0 → handlers.calledElsewhere ref msgid = false) :
    (handlers.setHandler ref msgid type).Typed := by
  refine ⟨?_, ?_, typed.called⟩
  · intro found entries there handler member unflagged
    rw [setHandler_allHandlers]
    split
    next own =>
      intro isZero
      have elsewhere := safe isZero
      have listed : handlers.registry.allMsghandlerObjs[msgid]? = some entries := own.2 ▸ there
      simp only [calledElsewhere, Bool.or_eq_false_iff, List.any_eq_false, listed,
        Option.getD_some] at elsewhere
      have entry := elsewhere.1 handler member
      simp [own.1, unflagged] at entry
    next => exact typed.registered found entries there handler member unflagged
  · intro activity member outside found todo calls other isTodo
    rw [setHandler_allHandlers]
    split
    next own =>
      intro isZero
      have elsewhere := safe isZero
      simp only [calledElsewhere, Bool.or_eq_false_iff, List.any_eq_false] at elsewhere
      have entry := elsewhere.2 activity member
      simp [calls, outside, own.1.symm, own.2.symm, isTodo] at entry
    next => exact typed.calls activity member outside found todo calls other isTodo

theorem collected_unflagged {lock : Lock} {list : List WeakHandler} {ref : Nat}
    (member : ref ∈ (collectHandlers lock WeakHandler.mustCalledInMsgbusthread list).msgHandlers) :
    ∃ handler ∈ list, handler.ref = ref ∧ handler.mustCalledInMsgbusthread = false := by
  induction list with
  | nil => cases member
  | cons handler rest ih =>
    unfold collectHandlers at member
    split at member
    · cases member
    next unflagged =>
      split at member
      · rcases List.mem_cons.mp member with rfl | later
        · exact ⟨handler, List.mem_cons_self, rfl, Bool.eq_false_iff.mpr unflagged⟩
        · obtain ⟨other, inside, rest⟩ := ih later
          exact ⟨other, .tail _ inside, rest⟩
      · obtain ⟨other, inside, rest⟩ := ih member
        exact ⟨other, .tail _ inside, rest⟩

theorem Typed.onMsg (typed : handlers.Typed) {thread ref : Nat} {msgid : Bytes}
    (allowed : thread ≠ msgbusTid → handlers.allHandlers ref msgid ≠ some 0) :
    (handlers.onMsg thread ref msgid).Typed := by
  unfold MsgHandlers.onMsg
  split
  · exact typed
  next type found =>
    split
    · refine ⟨typed.registered, typed.calls, fun call member isZero => ?_⟩
      rcases List.mem_append.mp member with older | new
      · exact typed.called call older isZero
      · cases List.mem_singleton.mp new
        by_contra outside
        exact allowed outside (found.trans (congrArg some isZero))
    · exact typed

theorem onMsg_allHandlers (thread ref : Nat) (msgid : Bytes) :
    (handlers.onMsg thread ref msgid).allHandlers = handlers.allHandlers := by
  unfold MsgHandlers.onMsg
  split
  · rfl
  · split <;> rfl

theorem Typed.goOn (typed : handlers.Typed) {index : Nat} {isContinue : Bool} {activity : Activity}
    (there : handlers.activities[index]? = some activity)
    (meets : handlers.keepsType (.goOn index isContinue) = true)
    (taken : handlers.goOn index isContinue activity = some following) : following.Typed := by
  have member := List.mem_of_getElem? there
  simp only [MsgHandlers.goOn] at taken
  split at taken
  next ref msgid type working =>
    cases taken
    refine (typed.setObjs (typed.registered.registerMsg fun unregistered unflagged => ?_)).setWork
      (allowed_of_no_call fun _ _ same => (Work.calling.inj same).2.symm)
    simp only [keepsType, there, Option.all_some, working, unregistered, Bool.or_false,
      Bool.or_eq_true, bne_iff_ne, ne_eq] at meets
    simp only [bne_eq_false_iff_eq] at unflagged
    exact meets.resolve_left (not_not.mpr unflagged)
  next address msgid working =>
    cases taken
    exact (typed.setObjs (typed.registered.unRegisterMsg msgid (some address))).setWork
      (allowed_of_no_call fun _ _ same => (Work.calling.inj same).2.symm)
  next msgid ref todo working =>
    cases taken
    have allowed := typed.calls activity member
    refine Typed.setWork (typed.onMsg fun outside =>
      allowed outside msgid (ref :: todo) working ref List.mem_cons_self) ?_
    intro outside found left same other isLeft
    rw [onMsg_allHandlers]
    obtain ⟨rfl, rfl⟩ := Work.calling.inj same
    refine allowed outside msgid (ref :: todo) working other (.tail _ ?_)
    split at isLeft
    · cases isLeft
    · exact isLeft
  next => cases taken

theorem step_typed (typed : handlers.Typed) {event : Event}
    (meets : handlers.keepsType event = true) (taken : handlers.step event = some following) :
    following.Typed := by
  cases event with
  | construct address =>
    obtain ⟨registry, stepped, rfl⟩ := Option.map_eq_some_iff.mp taken
    simp only [HandlerRegistry.step] at stepped
    split at stepped <;> cases stepped
    exact ⟨typed.registered, typed.calls, typed.called⟩
  | destroy address =>
    obtain ⟨registry, stepped, rfl⟩ := Option.map_eq_some_iff.mp taken
    obtain ⟨ref, _, rfl⟩ := Option.map_eq_some_iff.mp stepped
    exact ⟨typed.registered, typed.calls, typed.called⟩
  | addHandler thread address msgid type =>
    obtain ⟨ref, found, rfl⟩ := Option.map_eq_some_iff.mp taken
    refine (typed.setHandler fun isZero => ?_).begin (allowed_of_no_call fun _ _ same => by cases same)
    simp only [keepsType, Option.some.inj isZero, found, Option.all_some, bne_self_eq_false,
      Bool.false_or, Bool.not_eq_true'] at meets
    exact meets
  | removeHandler thread address msgid =>
    obtain ⟨ref, found, rfl⟩ := Option.map_eq_some_iff.mp taken
    have removed : (handlers.setHandler ref msgid none).Typed :=
      typed.setHandler fun impossible => by cases impossible
    exact removed.begin (allowed_of_no_call fun _ _ same => by cases same)
  | sendMsg thread msgid =>
    simp only [step] at taken
    split at taken
    next isBus =>
      split at taken <;> cases taken
      · exact typed
      next found =>
        exact (typed.setObjs (typed.registered.lookUp found)).begin
          fun outside => absurd isBus outside
    next =>
      split at taken
      · cases taken
        exact typed
      next collected after found =>
        have looked := typed.setObjs (typed.registered.lookUp found)
        split at taken <;> cases taken
        · refine looked.begin fun _ other todo same ref isTodo => ?_
          obtain ⟨rfl, rfl⟩ := Work.calling.inj same
          obtain ⟨list, there, outcome⟩ := Option.map_eq_some_iff.mp found
          obtain ⟨rfl, rfl⟩ := Prod.mk.inj outcome
          obtain ⟨handler, inside, rfl, unflagged⟩ := collected_unflagged isTodo
          exact typed.registered msgid list there handler inside unflagged
        · exact looked
  | goOn index isContinue =>
    obtain ⟨activity, there, taken⟩ := Option.bind_eq_some_iff.mp taken
    exact typed.goOn there meets taken

theorem only_in_msgbus_thread_when (handlers : MsgHandlers)
    (reached : Transition.ReachableWhen step (fun handlers event => handlers.keepsType event = true)
      initial handlers) : handlers.OnlyInMsgbusThread := by
  have typed : handlers.Typed :=
    reached.invariant Typed typed_initial fun _ _ _ typed meets taken => step_typed typed meets taken
  exact typed.called

-- One function for the msgbus thread and one for any thread, which are both called.
def bothTypes : List Event :=
  [.construct 64, .addHandler 1 64 [97] 0, .goOn 0 true, .construct 80, .addHandler 1 80 [98] 2,
    .goOn 1 true, .sendMsg 1 [97], .sendMsg msgbusTid [97], .goOn 2 true, .sendMsg 1 [98],
    .goOn 3 true]

theorem only_in_msgbus_thread_bothTypes : ∃ handlers,
    Transition.run step initial bothTypes = some handlers ∧
      handlers.called.map FunctionCall.type = [0, 2] ∧ handlers.OnlyInMsgbusThread :=
  ⟨_, rfl, rfl, only_in_msgbus_thread_when _ (.run .start bothTypes rfl)⟩

-- A function for any thread is replaced by one for the msgbus thread.
def replacedType : List Event :=
  [.construct 64, .addHandler 1 64 [97] 2, .goOn 0 true, .addHandler 1 64 [97] 0, .goOn 1 true,
    .sendMsg 1 [97], .goOn 2 true]

theorem replaced_type_called_elsewhere : ¬ ∀ handlers : MsgHandlers,
    Transition.Reachable step initial handlers → handlers.OnlyInMsgbusThread := by
  intro always
  have ran : ∃ handlers, Transition.run step initial replacedType = some handlers ∧
      handlers.called = [{ thread := 1, ref := 0, msgid := [97], type := 0 }] :=
    ⟨_, rfl, rfl⟩
  obtain ⟨handlers, ran, called⟩ := ran
  have only := always handlers (.run .start replacedType ran)
  have outside := only { thread := 1, ref := 0, msgid := [97], type := 0 } (by simp [called]) rfl
  exact absurd outside (by decide)

end MsgHandlers
end MessageBus.Local
