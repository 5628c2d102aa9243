import MessageBus.Local.OwnOutcomes
import MessageBus.Local.SendPaths

set_option autoImplicit false

namespace MessageBus.Local

structure PassedTask where
  call : Option Nat
  msgid : Bytes
  msgparam : Bytes
  deriving DecidableEq, Repr

namespace PassedTask

def isSend (task : PassedTask) : Bool := task.call.isSome

def isPost (task : PassedTask) : Bool := task.call.isNone

def SendsFirst (tasks : List PassedTask) : Prop :=
  tasks.Pairwise fun earlier later => later.isSend = true → earlier.isSend = true

end PassedTask

def MsgTask.passed (task : MsgTask) : PassedTask :=
  { call := task.call, msgid := task.msgid, msgparam := task.msgparam }

structure OnMsgCall where
  handler : Handler
  msgid : Bytes
  param : Bytes

def noteOnMsg (handler : Handler) (msgid param : Bytes) :
    StateM (List OnMsgCall) (Bool × Bytes × Bool) :=
  modifyGet fun calls => (handler msgid param, calls ++ [{ handler, msgid, param }])

-- What ExecuteMsgBusHandlers calls for one task.
def onMsgCalls (msgid : Bytes) (handlers : List Handler) (task : MsgTask) : List OnMsgCall :=
  ((executeMsgBusHandlersM noteOnMsg msgid handlers task).run []).2

theorem runHandlersM_noted (msgid original : Bytes) (handlers : List Handler) (param : Bytes)
    (result : Bool) (calls : List OnMsgCall) :
    (runHandlersM noteOnMsg msgid original handlers param result).run calls =
      (runHandlers msgid original handlers param result,
        calls ++ (calledHandlers msgid original handlers).map fun handler =>
          { handler, msgid, param := original }) := by
  induction handlers generalizing param result calls with
  | nil => exact Prod.ext rfl (List.append_nil calls).symm
  | cons handler rest ih =>
    rw [runHandlers_cons]
    unfold calledHandlers
    rcases outcome : handler msgid original with ⟨ret, inputParam, isContinue⟩
    have noted : (noteOnMsg handler msgid original).run calls =
        ((ret, inputParam, isContinue), calls ++ [{ handler, msgid, param := original }]) :=
      Prod.ext outcome rfl
    rw [runHandlersM, StateT.run_bind, noted]
    cases isContinue with
    | true =>
      refine (ih _ _ _).trans (Prod.ext rfl ?_)
      rw [List.append_assoc]
      rfl
    | false => rfl

theorem executeMsgBusHandlersM_noted (msgid : Bytes) (handlers : List Handler) (task : MsgTask) :
    (executeMsgBusHandlersM noteOnMsg msgid handlers task).run [] =
      (executeMsgBusHandlers msgid handlers task,
        (calledHandlers msgid task.msgparam handlers).map fun handler =>
          { handler, msgid, param := task.msgparam }) := by
  rw [executeMsgBusHandlersM, StateT.run_bind, runHandlersM_noted]
  rfl

-- A task that was executed: what it was, the handlers then, the calls that were made, and what
-- the msgbus thread has of it after that.
structure HandledTask where
  passed : PassedTask
  handlers : List Handler
  calls : List OnMsgCall
  left : MsgTask

namespace HandledTask

-- Every handler, up to one that stops, was given the message, and the task has their outcome.
structure Called (task : HandledTask) : Prop where
  calls : task.calls = (calledHandlers task.passed.msgid task.passed.msgparam task.handlers).map
    fun handler => { handler, msgid := task.passed.msgid, param := task.passed.msgparam }
  left : (task.left.ret, task.left.msgparam) =
    reference task.passed.msgid task.passed.msgparam task.handlers

end HandledTask

def SameMsgids (groups : Groups) : Prop :=
  ∀ group ∈ groups, ∀ task ∈ group.2, task.msgid = group.1

namespace BusThread

def passes : BusThread -> Option PassedTask
  | .executing msgid _ (task :: _) _ =>
    some { call := task.call, msgid, msgparam := task.msgparam }
  | _ => none

def handles (handlers : List Handler) (before after : BusThread) : Option HandledTask :=
  match before, after with
  | .executing msgid _ (task :: _) _, .executing _ executed _ _ =>
    executed.getLast?.map fun left =>
      { passed := { call := task.call, msgid, msgparam := task.msgparam }, handlers
        calls := onMsgCalls msgid handlers task, left }
  | _, _ => none

def Grouped : BusThread -> Prop
  | .idle => True
  | .executing msgid _ todo rest => (∀ task ∈ todo, task.msgid = msgid) ∧ SameMsgids rest
  | .finishing _ rest | .filling _ _ _ rest => SameMsgids rest

def steps : BusThread -> Nat
  | .idle => 0
  | .executing _ executed todo rest => 3 * todo.length + 2 * executed.length + 2 + groupSteps rest
  | .finishing tasks rest => 2 * tasks.length + 1 + groupSteps rest
  | .filling _ _ tasks rest => 2 * tasks.length + 2 + groupSteps rest
where
  groupSteps (groups : Groups) : Nat := (groups.map fun group => 3 * group.2.length + 2).sum

end BusThread

theorem sameMsgids_groupPosts (tasks : List MsgTask) : SameMsgids (groupPosts tasks) := by
  induction tasks with
  | nil =>
    intro _ impossible
    cases impossible
  | cons task rest ih =>
    unfold groupPosts
    split
    · rintro group (_ | ⟨_, ⟨⟩⟩)
      simp
    next msgid tasks groups grouped =>
      rw [grouped] at ih
      have inFirst := ih (msgid, tasks) List.mem_cons_self
      split
      next same =>
        rintro group (_ | ⟨_, member⟩)
        · rintro other (_ | ⟨_, inside⟩)
          · exact same.symm
          · exact inFirst other inside
        · exact ih group (.tail _ member)
      · rintro group (_ | ⟨_, member⟩)
        · simp
        · exact ih group member

theorem sameMsgids_append {groups others : Groups} (same : SameMsgids groups)
    (alsoSame : SameMsgids others) : SameMsgids (groups ++ others) := by
  intro group member
  rcases List.mem_append.mp member with first | second
  · exact same group first
  · exact alsoSame group second

theorem startGroups_grouped {groups : Groups} (same : SameMsgids groups) :
    (startGroups groups).Grouped := by
  cases groups with
  | nil => trivial
  | cons group rest =>
    exact ⟨same group List.mem_cons_self, fun other member => same other (.tail _ member)⟩

theorem takenGroups_todo (sends posts : List MsgTask) :
    (startGroups (sends.map (fun task => (task.msgid, [task])) ++ groupPosts posts)).todo =
      sends ++ posts := by
  rw [startGroups_todo, List.flatMap_append, groupPosts_tasks]
  simp [List.flatMap_map]

theorem takenGroups_grouped (sends posts : List MsgTask) :
    (startGroups (sends.map (fun task => (task.msgid, [task])) ++ groupPosts posts)).Grouped := by
  refine startGroups_grouped (sameMsgids_append ?_ (sameMsgids_groupPosts _))
  rintro group member task inside
  obtain ⟨own, _, rfl⟩ := List.mem_map.mp member
  rw [List.mem_singleton.mp inside]

-- The msgbus thread with a record of what was given to it and of what it gave to the handlers.
structure Handling where
  bus : MsgBus
  queued : List PassedTask
  posted : List PassedTask
  batches : List (List HandledTask)
  batch : List HandledTask

namespace Handling

def initial : Handling :=
  { bus := .initial, queued := [], posted := [], batches := [], batch := [] }

def record (handling : Handling) (bus : MsgBus) : Event -> Handling
  | .postMsg msgid param =>
    { handling with
      posted := handling.posted ++ [{ call := none, msgid, msgparam := param }] }
  | .queueTask index =>
    { handling with
      queued := handling.queued ++ (handling.bus.calls[index]?).toList.map fun call =>
        { call := some index, msgid := call.msgid, msgparam := call.param } }
  | .takeTasks =>
    { handling with batches := handling.batches ++ [handling.batch], batch := [] }
  | .execute handlers =>
    { handling with
      batch := handling.batch ++ (handling.bus.thread.handles handlers bus.thread).toList }
  | .sendMsg _ _ _ | .wake _ | .timeout _ | .leave _ | .findCaller | .fillInfo | .nextGroup =>
    handling

def step (handling : Handling) (event : Event) : Option Handling :=
  (handling.bus.step event).map fun bus => { handling.record bus event with bus }

def handled (handling : Handling) : List HandledTask := handling.batches.flatten ++ handling.batch

def passed (handling : Handling) : List PassedTask := handling.handled.map HandledTask.passed

-- The handled tasks and those that the thread has taken out of the queues.
def taken (handling : Handling) : List PassedTask :=
  handling.passed ++ handling.bus.thread.todo.map MsgTask.passed

structure Accounted (handling : Handling) : Prop where
  sends : handling.taken.filter PassedTask.isSend ++
    handling.bus.sendmsgTasks.map MsgTask.passed = handling.queued
  posts : handling.taken.filter PassedTask.isPost ++
    handling.bus.msgTasks.map MsgTask.passed = handling.posted
  sendTasks : ∀ task ∈ handling.bus.sendmsgTasks, task.passed.isSend = true
  postTasks : ∀ task ∈ handling.bus.msgTasks, task.passed.isPost = true
  grouped : handling.bus.thread.Grouped
  batch : PassedTask.SendsFirst
    (handling.batch.map HandledTask.passed ++ handling.bus.thread.todo.map MsgTask.passed)
  batches : ∀ batch ∈ handling.batches, PassedTask.SendsFirst (batch.map HandledTask.passed)
  called : ∀ task ∈ handling.handled, task.Called

theorem accounted_initial : initial.Accounted := by
  constructor <;> simp [initial, MsgBus.initial, taken, passed, handled, BusThread.todo,
    BusThread.Grouped, PassedTask.SendsFirst]

variable {handling following : Handling}

theorem Accounted.other (accounted : handling.Accounted) {bus : MsgBus}
    (sends : bus.sendmsgTasks = handling.bus.sendmsgTasks)
    (posts : bus.msgTasks = handling.bus.msgTasks)
    (todo : bus.thread.todo = handling.bus.thread.todo) (grouped : bus.thread.Grouped) :
    Accounted { handling with bus } := by
  have taken : Handling.taken { handling with bus } = handling.taken := by
    simp only [Handling.taken, todo, Handling.passed, handled]
  refine ⟨?_, ?_, ?_, ?_, grouped, ?_, accounted.batches, accounted.called⟩
  · rw [taken, sends]
    exact accounted.sends
  · rw [taken, posts]
    exact accounted.posts
  · exact sends ▸ accounted.sendTasks
  · exact posts ▸ accounted.postTasks
  · exact todo ▸ accounted.batch

theorem filter_passed {tasks : List MsgTask} {kind : PassedTask -> Bool}
    (all : ∀ task ∈ tasks, kind task.passed = true) :
    (tasks.map MsgTask.passed).filter kind = tasks.map MsgTask.passed := by
  rw [List.filter_eq_self]
  intro passed member
  obtain ⟨task, inside, rfl⟩ := List.mem_map.mp member
  exact all task inside

theorem filter_passed_other {tasks : List MsgTask} {kind : PassedTask -> Bool}
    (none : ∀ task ∈ tasks, kind task.passed = false) :
    (tasks.map MsgTask.passed).filter kind = [] := by
  rw [List.filter_eq_nil_iff]
  intro passed member
  obtain ⟨task, inside, rfl⟩ := List.mem_map.mp member
  simp [none task inside]

theorem isSend_eq_not_isPost (task : PassedTask) : task.isSend = !task.isPost := by
  cases task with
  | mk call => cases call <;> rfl

theorem Accounted.takeTasks (accounted : handling.Accounted) (idle : handling.bus.thread = .idle) :
    Accounted { handling with
      batches := handling.batches ++ [handling.batch]
      batch := []
      bus := { handling.bus with
        sendmsgTasks := []
        msgTasks := []
        thread := startGroups (handling.bus.sendmsgTasks.map (fun task => (task.msgid, [task])) ++
          groupPosts handling.bus.msgTasks) } } := by
  have todo := takenGroups_todo handling.bus.sendmsgTasks handling.bus.msgTasks
  have notPost : ∀ task ∈ handling.bus.sendmsgTasks, task.passed.isPost = false := by
    intro task member
    have send := accounted.sendTasks task member
    rw [isSend_eq_not_isPost] at send
    simpa using send
  have notSend : ∀ task ∈ handling.bus.msgTasks, task.passed.isSend = false := by
    intro task member
    rw [isSend_eq_not_isPost, accounted.postTasks task member]
    rfl
  have sends := accounted.sends
  have posts := accounted.posts
  simp only [taken, idle, BusThread.todo, List.map_nil, List.append_nil] at sends posts
  refine ⟨?_, ?_, ?_, ?_, ?_, ?_, ?_, ?_⟩
  · simpa [taken, passed, handled, todo, filter_passed accounted.sendTasks, filter_passed_other notSend]
      using sends
  · simpa [taken, passed, handled, todo, filter_passed accounted.postTasks, filter_passed_other notPost]
      using posts
  · intro _ impossible
    cases impossible
  · intro _ impossible
    cases impossible
  · exact takenGroups_grouped handling.bus.sendmsgTasks handling.bus.msgTasks
  · rw [todo, List.map_nil, List.nil_append, PassedTask.SendsFirst, List.map_append, List.pairwise_append]
    refine ⟨List.pairwise_of_forall_mem_list ?_, List.pairwise_of_forall_mem_list ?_, ?_⟩
    · intro earlier member later laterMember _
      obtain ⟨task, inside, rfl⟩ := List.mem_map.mp member
      exact accounted.sendTasks task inside
    · intro earlier member later laterMember send
      obtain ⟨task, inside, rfl⟩ := List.mem_map.mp laterMember
      rw [notSend task inside] at send
      cases send
    · intro earlier member later laterMember _
      obtain ⟨task, inside, rfl⟩ := List.mem_map.mp member
      exact accounted.sendTasks task inside
  · intro batch member
    rcases List.mem_append.mp member with older | last
    · exact accounted.batches batch older
    · have own := accounted.batch
      simp only [idle, BusThread.todo, List.map_nil, List.append_nil] at own
      exact List.mem_singleton.mp last ▸ own
  · intro task member
    simp only [handled, List.flatten_append, List.flatten_cons, List.flatten_nil,
      List.append_nil] at member
    exact accounted.called task member

theorem Accounted.execute (accounted : handling.Accounted) {msgid : Bytes}
    {executed : List MsgTask} {task : MsgTask} {todo : List MsgTask} {rest : Groups}
    (executing : handling.bus.thread = .executing msgid executed (task :: todo) rest)
    (handlers : List Handler) (computed : List (Nat × Bool × Bytes)) {after : BusThread}
    (executes : after =
      .executing msgid (executed ++ [executeMsgBusHandlers msgid handlers task]) todo rest) :
    Accounted { handling with
      batch := handling.batch ++ (handling.bus.thread.handles handlers after).toList
      bus := { handling.bus with thread := after, computed } } := by
  have grouped := accounted.grouped
  rw [executing] at grouped
  obtain ⟨entry, handles, passes, called⟩ : ∃ entry,
      handling.bus.thread.handles handlers after = some entry ∧ entry.passed = task.passed ∧
        entry.Called := by
    rw [executing, executes, BusThread.handles, List.getLast?_concat]
    refine ⟨_, rfl, ?_, ?_, ?_⟩
    · rw [MsgTask.passed, grouped.1 task List.mem_cons_self]
    · rw [onMsgCalls, executeMsgBusHandlersM_noted]
    · rw [executeMsgBusHandlers_reference]
  have before : handling.bus.thread.todo.map MsgTask.passed =
      task.passed :: (todo ++ rest.flatMap Prod.snd).map MsgTask.passed := by
    rw [executing]
    rfl
  have later : after.todo = todo ++ rest.flatMap Prod.snd := by
    rw [executes]
    rfl
  have batch := accounted.batch
  rw [before] at batch
  have taken : Handling.taken { handling with
      batch := handling.batch ++ (handling.bus.thread.handles handlers after).toList
      bus := { handling.bus with thread := after, computed } } =
      handling.taken := by
    rw [Handling.taken, Handling.taken, before]
    simp only [Handling.passed, handled, handles, later, Option.toList_some, List.map_append,
      List.map_cons, List.map_nil, passes, List.append_assoc, List.singleton_append]
  refine ⟨?_, ?_, accounted.sendTasks, accounted.postTasks, ?_, ?_, accounted.batches, ?_⟩
  · rw [taken]
    exact accounted.sends
  · rw [taken]
    exact accounted.posts
  · rw [executes]
    exact ⟨fun other member => grouped.1 other (.tail _ member), grouped.2⟩
  · simpa only [handles, later, Option.toList_some, List.map_append, List.map_cons,
      List.map_nil, passes, List.append_assoc, List.singleton_append] using batch
  · intro other member
    rw [handled, handles, ← List.append_assoc] at member
    rcases List.mem_append.mp member with older | last
    · exact accounted.called other older
    · exact List.mem_singleton.mp last ▸ called

theorem step_accounted (accounted : handling.Accounted) {event : Event}
    (taken : handling.step event = some following) : following.Accounted := by
  obtain ⟨bus, stepped, rfl⟩ := Option.map_eq_some_iff.mp taken
  have grouped := accounted.grouped
  cases MsgBus.step_moves stepped with
  | sendMsg | wake | timeout | leave => exact accounted.other rfl rfl rfl grouped
  | postMsg msgid param =>
    refine { accounted with posts := ?_, postTasks := ?_ }
    · simp [record, Handling.taken, Handling.passed, handled, MsgTask.passed, ← accounted.posts]
    · intro task member
      rcases List.mem_append.mp member with older | new
      · exact accounted.postTasks task older
      · rw [List.mem_singleton.mp new]
        rfl
  | queueTask index call there =>
    refine { accounted with sends := ?_, sendTasks := ?_ }
    · simp [record, there, Handling.taken, Handling.passed, handled, MsgBus.setPhase,
        MsgTask.passed, ← accounted.sends]
    · intro task member
      rcases List.mem_append.mp member with older | new
      · exact accounted.sendTasks task older
      · rw [List.mem_singleton.mp new]
        rfl
  | takeTasks idle => exact accounted.takeTasks idle
  | execute handlers msgid executed task todo rest executing =>
    exact accounted.execute executing handlers _ rfl
  | executed msgid executed rest executing =>
    rw [executing] at grouped
    exact accounted.other rfl rfl (by rw [executing]; rfl) grouped.2
  | skipTask task tasks rest finishing | findCaller task info tasks rest finishing =>
    rw [finishing] at grouped
    exact accounted.other rfl rfl (by rw [finishing]; rfl) grouped
  | fillInfo task info tasks rest fills =>
    rw [fills] at grouped
    exact accounted.other rfl rfl (by rw [fills]; rfl) grouped
  | nextGroup rest finished =>
    rw [finished] at grouped
    refine accounted.other rfl rfl ?_ (startGroups_grouped grouped)
    rw [finished]
    exact startGroups_todo rest

-- The msgbus thread alone, which finds some handlers for every message.
def ofMsgbusThread (handlers : List Handler) (event : Event) : Prop :=
  event = .takeTasks ∨ event = .execute handlers ∨ event = .findCaller ∨ event = .fillInfo ∨
    event = .nextGroup

def finished (bus : MsgBus) : Prop :=
  bus.thread = .idle ∧ bus.sendmsgTasks = [] ∧ bus.msgTasks = []

def steps (bus : MsgBus) : Nat :=
  bus.thread.steps + 6 * (bus.sendmsgTasks.length + bus.msgTasks.length)

theorem startGroups_steps (groups : Groups) :
    (startGroups groups).steps = BusThread.steps.groupSteps groups := by
  cases groups with
  | nil => rfl
  | cons group rest => simp [startGroups, BusThread.steps, BusThread.steps.groupSteps]

theorem groupPosts_steps (tasks : List MsgTask) :
    BusThread.steps.groupSteps (groupPosts tasks) ≤ 5 * tasks.length := by
  induction tasks with
  | nil => simp [groupPosts, BusThread.steps.groupSteps]
  | cons task rest ih =>
    unfold groupPosts
    split
    next none => simp [BusThread.steps.groupSteps]
    next grouped =>
      rw [grouped] at ih
      simp only [BusThread.steps.groupSteps, List.map_cons, List.sum_cons] at ih ⊢
      split <;> simp only [List.map_cons, List.sum_cons, List.length_cons, List.length_nil] <;> omega

theorem batch_steps (sends posts : List MsgTask) :
    (startGroups (sends.map (fun task => (task.msgid, [task])) ++ groupPosts posts)).steps ≤
      5 * (sends.length + posts.length) := by
  have grouped := groupPosts_steps posts
  rw [startGroups_steps]
  simp only [BusThread.steps.groupSteps, List.map_append, List.sum_append, List.map_map,
    Function.comp_def, List.length_singleton, List.map_const', List.sum_replicate,
    smul_eq_mul] at grouped ⊢
  omega

theorem progress (handlers : List Handler) (bus : MsgBus) (unfinished : ¬ finished bus) :
    ∃ event after, ofMsgbusThread handlers event ∧ bus.step event = some after ∧
      steps after < steps bus := by
  cases place : bus.thread with
  | idle =>
    refine ⟨.takeTasks, _, .inl rfl, if_pos place, ?_⟩
    · have taken := batch_steps bus.sendmsgTasks bus.msgTasks
      have some : 0 < bus.sendmsgTasks.length + bus.msgTasks.length := by
        by_contra none
        exact unfinished ⟨place, List.length_eq_zero_iff.mp (by omega),
          List.length_eq_zero_iff.mp (by omega)⟩
      simp only [steps, List.length_nil]
      omega
  | executing msgid executed todo rest =>
    cases todo with
    | nil =>
      have taken : bus.step .findCaller = some { bus with thread := .finishing executed rest } := by
        simp only [MsgBus.step, place]
      refine ⟨.findCaller, _, .inr (.inr (.inl rfl)), taken, ?_⟩
      simp only [steps, place, BusThread.steps, List.length_nil]
      omega
    | cons task todo =>
      have taken : ∃ computed, bus.step (.execute handlers) = some { bus with
          thread := .executing msgid (executed ++ [executeMsgBusHandlers msgid handlers task]) todo rest
          computed } := by
        simp only [MsgBus.step, place]
        exact ⟨_, rfl⟩
      obtain ⟨computed, taken⟩ := taken
      refine ⟨.execute handlers, _, .inr (.inl rfl), taken, ?_⟩
      simp only [steps, place, BusThread.steps, List.length_cons, List.length_append,
        List.length_nil]
      omega
  | finishing tasks rest =>
    cases tasks with
    | nil =>
      have taken : bus.step .nextGroup = some { bus with thread := startGroups rest } := by
        simp only [MsgBus.step, place]
      refine ⟨.nextGroup, _, .inr (.inr (.inr (.inr rfl))), taken, ?_⟩
      rw [steps, startGroups_steps]
      simp only [steps, place, BusThread.steps, List.length_nil]
      omega
    | cons task tasks =>
      have found : ∃ after, bus.step .findCaller = some after ∧
          after.thread.steps < bus.thread.steps ∧
          after.sendmsgTasks = bus.sendmsgTasks ∧ after.msgTasks = bus.msgTasks := by
        simp only [MsgBus.step, place]
        split
        · refine ⟨_, rfl, ?_, rfl, rfl⟩
          simp only [BusThread.steps, List.length_cons]
          omega
        · split <;> refine ⟨_, rfl, ?_, rfl, rfl⟩ <;>
            simp only [BusThread.steps, List.length_cons] <;> omega
      obtain ⟨after, taken, less, sends, posts⟩ := found
      refine ⟨.findCaller, after, .inr (.inr (.inl rfl)), taken, ?_⟩
      simp only [steps, sends, posts]
      omega
  | filling task info tasks rest =>
    have taken : ∃ infos, bus.step .fillInfo = some { bus with
        thread := .finishing tasks rest, infos } := by
      simp only [MsgBus.step, place]
      exact ⟨_, rfl⟩
    obtain ⟨infos, taken⟩ := taken
    refine ⟨.fillInfo, _, .inr (.inr (.inr (.inl rfl))), taken, ?_⟩
    simp only [steps, place, BusThread.steps]
    omega

theorem record_given {handlers : List Handler} {event : Event} (own : ofMsgbusThread handlers event)
    (handling : Handling) (bus : MsgBus) :
    (handling.record bus event).queued = handling.queued ∧
      (handling.record bus event).posted = handling.posted := by
  rcases own with rfl | rfl | rfl | rfl | rfl <;> exact ⟨rfl, rfl⟩

theorem Accounted.finished (accounted : handling.Accounted) (finished : finished handling.bus) :
    handling.passed.filter PassedTask.isSend = handling.queued ∧
      handling.passed.filter PassedTask.isPost = handling.posted := by
  obtain ⟨idle, noSend, noPost⟩ := finished
  have sends := accounted.sends
  have posts := accounted.posts
  rw [taken, idle, noSend] at sends
  rw [taken, idle, noPost] at posts
  simpa [BusThread.todo] using And.intro sends posts

theorem handled_once_in_order (events : List Event) (handling : Handling)
    (ran : Transition.run step initial events = some handling) :
    handling.passed.filter PassedTask.isPost <+: handling.posted ∧
      handling.passed.filter PassedTask.isSend <+: handling.queued ∧
      (∀ task ∈ handling.handled, task.Called) ∧
      (∀ batch ∈ handling.batches ++ [handling.batch],
        PassedTask.SendsFirst (batch.map HandledTask.passed)) ∧
      ∀ handlers : List Handler, ∃ more final, (∀ event ∈ more, ofMsgbusThread handlers event) ∧
        Transition.run step handling more = some final ∧
        final.passed.filter PassedTask.isPost = handling.posted ∧
        final.passed.filter PassedTask.isSend = handling.queued ∧
        ∀ task ∈ final.handled, task.Called := by
  have accounted : handling.Accounted :=
    (Transition.Reachable.run .start events ran).invariant Accounted accounted_initial
      fun _ _ _ accounted _ taken => step_accounted accounted taken
  refine ⟨?_, ?_, accounted.called, ?_, fun handlers => ?_⟩
  · rw [← accounted.posts, taken, List.filter_append, List.append_assoc]
    exact List.prefix_append _ _
  · rw [← accounted.sends, taken, List.filter_append, List.append_assoc]
    exact List.prefix_append _ _
  · intro batch member
    rcases List.mem_append.mp member with older | last
    · exact accounted.batches batch older
    · rw [List.mem_singleton.mp last]
      exact (List.pairwise_append.mp accounted.batch).1
  · obtain ⟨more, final, own, ran, ⟨accounts, queued, posted⟩, finished⟩ :=
      Transition.exists_run step (ofMsgbusThread handlers)
        (fun later => later.Accounted ∧ later.queued = handling.queued ∧
          later.posted = handling.posted)
        (fun later => Handling.finished later.bus) (fun later => steps later.bus)
        (fun later kept unfinished => by
          obtain ⟨accounts, queued, posted⟩ := kept
          obtain ⟨event, bus, own, stepped, less⟩ := progress handlers later.bus unfinished
          have taken : later.step event = some { later.record bus event with bus } := by
            rw [step, stepped]
            rfl
          have given := record_given own later bus
          exact ⟨event, _, own, taken, ⟨step_accounted accounts taken, given.1.trans queued,
            given.2.trans posted⟩, less⟩)
        handling ⟨accounted, rfl, rfl⟩
    have all := accounts.finished finished
    exact ⟨more, final, own, ran, all.2.trans posted, all.1.trans queued, accounts.called⟩

def ofOne (_msgid param : Bytes) : Bool × Bytes × Bool := (true, 7 :: param, true)

-- Two posts are merged, and a SendMsg that comes after them overtakes them.
def overtakenPosts : List Event :=
  [.postMsg [97] [1], .postMsg [97] [2], .sendMsg 1 [98] [3], .queueTask 0, .takeTasks,
    .postMsg [97] [4], .execute [ofOne], .findCaller, .findCaller, .fillInfo, .nextGroup,
    .execute [ofOne, ofOne]]

theorem handled_once_overtakenPosts : ∃ handling,
    Transition.run step initial overtakenPosts = some handling ∧
      handling.handled.flatMap HandledTask.calls = [⟨ofOne, [98], [3]⟩, ⟨ofOne, [97], [1]⟩,
        ⟨ofOne, [97], [1]⟩] ∧
      handling.passed.filter PassedTask.isPost <+: handling.posted :=
  ⟨_, rfl, rfl, (handled_once_in_order overtakenPosts _ rfl).1⟩

end Handling
end MessageBus.Local
