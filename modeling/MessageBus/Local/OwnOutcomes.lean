import MessageBus.Local.SendMsg
import MessageBus.Shared.Tables

set_option autoImplicit false

namespace MessageBus.Local

theorem groupPosts_tasks (tasks : List MsgTask) : (groupPosts tasks).flatMap Prod.snd = tasks := by
  induction tasks with
  | nil => rfl
  | cons task rest ih =>
    unfold groupPosts
    split
    next none =>
      rw [none] at ih
      simp [← ih]
    next msgid tasks groups grouped =>
      rw [grouped] at ih
      split <;> simp [← ih]

namespace BusThread

def todo : BusThread -> List MsgTask
  | .idle => []
  | .executing _ _ todo rest => todo ++ rest.flatMap Prod.snd
  | .finishing _ rest | .filling _ _ _ rest => rest.flatMap Prod.snd

def executed : BusThread -> List MsgTask
  | .idle => []
  | .executing _ executed _ _ => executed
  | .finishing tasks _ => tasks
  | .filling task _ tasks _ => task :: tasks

end BusThread

theorem startGroups_todo (groups : Groups) :
    (startGroups groups).todo = groups.flatMap Prod.snd := by
  cases groups <;> rfl

theorem startGroups_executed (groups : Groups) : (startGroups groups).executed = [] := by
  cases groups <;> rfl

theorem startGroups_not_filling (groups : Groups) (task : MsgTask) (info : Nat)
    (tasks : List MsgTask) (rest : Groups) : startGroups groups ≠ .filling task info tasks rest := by
  cases groups <;> exact fun same => by cases same

def LaterCalls (calls after : List SendCall) : Prop :=
  ∀ (index : Nat) (call : SendCall), calls[index]? = some call → ∃ later, after[index]? = some later ∧
    later.callertid = call.callertid ∧ (call.settled = true → later.settled = true)

theorem laterCalls_concat (calls : List SendCall) (last : SendCall) :
    LaterCalls calls (calls ++ [last]) := by
  intro index call there
  exact ⟨call, List.getElem?_append_left (List.getElem?_eq_some_iff.mp there).1 ▸ there, rfl, id⟩

theorem laterCalls_set {calls : List SendCall} {index : Nat} {call after : SendCall}
    (there : calls[index]? = some call) (sameCaller : after.callertid = call.callertid)
    (settled : call.settled = true → after.settled = true) :
    LaterCalls calls (calls.set index after) := by
  intro other found foundThere
  by_cases same : other = index
  · subst same
    cases there.symm.trans foundThere
    have inside := (List.getElem?_eq_some_iff.mp there).1
    exact ⟨after, List.getElem?_set_self inside, sameCaller, settled⟩
  · exact ⟨found, (List.getElem?_set_ne (Ne.symm same)).trans foundThere, rfl, id⟩

namespace MsgBus

def waitingTasks (bus : MsgBus) : List MsgTask :=
  bus.sendmsgTasks ++ (bus.msgTasks ++ bus.thread.todo)

-- How many tasks of a call wait for their handlers or were handed to them.
def tasksOf (waiting : List MsgTask) (computed : List (Nat × Bool × Bytes)) (index : Nat) : Nat :=
  (waiting.countP fun task => task.call == some index) +
    computed.countP fun entry => entry.1 == index

def hasQueued (calls : List SendCall) (index : Nat) : Bool :=
  calls[index]?.any fun call => call.phase != .begun

structure Sound (bus : MsgBus) : Prop where
  infoPerCall : bus.infos.length = bus.calls.length
  onlyTask : ∀ index, tasksOf bus.waitingTasks bus.computed index ≤
    (hasQueued bus.calls index).toNat
  executed : ∀ task ∈ bus.thread.executed, ∀ index, task.call = some index →
    (index, task.ret, task.msgparam) ∈ bus.computed
  table : ∀ (tid info : Nat), bus.readySendmsgs[tid]? = some info →
    ∃ call : SendCall, bus.calls[info]? = some call ∧ call.callertid = tid
  filling : ∀ (task : MsgTask) (info : Nat) (tasks : List MsgTask) (rest : Groups),
    bus.thread = .filling task info tasks rest → ∃ call : SendCall,
      bus.calls[info]? = some call ∧ (call.settled = true ∨ task.call = some info)
  ready : ∀ (index : Nat) (call : SendCall) (info : ReadySendMsgInfo),
    bus.calls[index]? = some call → bus.infos[index]? = some info → info.ready = true →
      call.settled = false → (index, info.rspresult, info.rspparam) ∈ bus.computed
  left : ∀ (index : Nat) (call : SendCall), bus.calls[index]? = some call →
    call.readyPath = true → (index, call.ret, call.param) ∈ bus.computed

theorem sound_initial : initial.Sound := by
  constructor <;> simp [initial, waitingTasks, tasksOf, BusThread.todo, BusThread.executed]

variable {bus : MsgBus}

theorem Sound.ownOutcomes (sound : bus.Sound) : bus.OwnOutcomes := by
  intro index call there ready
  have computed := sound.left index call there ready
  have once : (bus.outcomes index).length ≤ 1 := by
    rw [outcomes, List.length_map, ← List.countP_eq_length_filter]
    calc bus.computed.countP (fun entry => entry.1 == index)
      _ ≤ tasksOf bus.waitingTasks bus.computed index := Nat.le_add_left _ _
      _ ≤ (hasQueued bus.calls index).toNat := sound.onlyTask index
      _ ≤ 1 := Bool.toNat_le _
  have member : (call.ret, call.param) ∈ bus.outcomes index :=
    List.mem_map.mpr ⟨_, List.mem_filter.mpr ⟨computed, beq_self_eq_true index⟩, rfl⟩
  cases outcomes : bus.outcomes index with
  | nil =>
    rw [outcomes] at member
    cases member
  | cons first others =>
    rw [outcomes] at member once
    cases others with
    | nil => exact congrArg (fun outcome => [outcome]) (List.mem_singleton.mp member).symm
    | cons second others => simp at once

theorem Sound.setCall (sound : bus.Sound) {index : Nat} {call : SendCall} (after : SendCall)
    (there : bus.calls[index]? = some call) (sameCaller : after.callertid = call.callertid)
    (settled : call.settled = true → after.settled = true) (begun : after.phase ≠ .begun)
    (left : after.readyPath = true → (index, after.ret, after.param) ∈ bus.computed) :
    Sound { bus with calls := bus.calls.set index after } := by
  have later := laterCalls_set there sameCaller settled
  refine { sound with
    infoPerCall := ?_, onlyTask := ?_, table := ?_, filling := ?_, ready := ?_, left := ?_ }
  · rw [List.length_set]
    exact sound.infoPerCall
  · intro other
    have before := sound.onlyTask other
    by_cases same : other = index
    · have inside := (List.getElem?_eq_some_iff.mp there).1
      have started : hasQueued (bus.calls.set index after) other = true := by
        simp [hasQueued, same, inside, begun]
      rw [started]
      exact Nat.le_trans before (Bool.toNat_le _)
    · rw [hasQueued, List.getElem?_set_ne (Ne.symm same)]
      exact before
  · intro tid info found
    obtain ⟨older, olderThere, caller⟩ := sound.table tid info found
    obtain ⟨newer, newerThere, same, _⟩ := later info older olderThere
    exact ⟨newer, newerThere, same.trans caller⟩
  · intro task info tasks rest fills
    obtain ⟨older, olderThere, fate⟩ := sound.filling task info tasks rest fills
    obtain ⟨newer, newerThere, _, stays⟩ := later info older olderThere
    exact ⟨newer, newerThere, fate.imp_left stays⟩
  · intro other found info foundThere infoThere isReady unsettled
    rcases Transition.found_in_set foundThere with ⟨rfl, rfl⟩ | ⟨_, older⟩
    · apply sound.ready other call info there infoThere isReady
      by_contra wasSettled
      rw [settled (Bool.not_eq_false _ ▸ wasSettled)] at unsettled
      cases unsettled
    · exact sound.ready other found info older infoThere isReady unsettled
  · intro other found foundThere isReady
    rcases Transition.found_in_set foundThere with ⟨rfl, rfl⟩ | ⟨_, older⟩
    · exact left isReady
    · exact sound.left other found older isReady

theorem Sound.sendMsg (sound : bus.Sound) (callertid : Nat) (msgid param : Bytes) :
    Sound { bus with
      readySendmsgs := bus.readySendmsgs.insert callertid bus.infos.length
      infos := bus.infos ++ [{ ready := false, rspparam := [], rspresult := false }]
      calls := bus.calls ++ [{ callertid, msgid, param, ret := false, phase := .begun }] } := by
  have later := laterCalls_concat bus.calls
    { callertid, msgid, param, ret := false, phase := .begun }
  refine { sound with
    infoPerCall := ?_, onlyTask := ?_, table := ?_, filling := ?_, ready := ?_, left := ?_ }
  · simp only [List.length_append, List.length_singleton, sound.infoPerCall]
  · intro index
    refine Nat.le_trans (sound.onlyTask index) ?_
    by_cases older : index < bus.calls.length
    · simp [hasQueued, List.getElem?_append_left older]
    · simp [hasQueued, List.getElem?_eq_none (Nat.le_of_not_lt older)]
  · intro tid info found
    rcases Tables.of_insert found with ⟨same, rfl⟩ | ⟨_, before⟩
    · simpa [sound.infoPerCall] using same
    · obtain ⟨older, olderThere, caller⟩ := sound.table tid info before
      obtain ⟨newer, newerThere, same, _⟩ := later info older olderThere
      exact ⟨newer, newerThere, same.trans caller⟩
  · intro task info tasks rest fills
    obtain ⟨older, olderThere, fate⟩ := sound.filling task info tasks rest fills
    obtain ⟨newer, newerThere, _, stays⟩ := later info older olderThere
    exact ⟨newer, newerThere, fate.imp_left stays⟩
  · intro index found info foundThere infoThere isReady unsettled
    rcases Transition.found_in_concat infoThere with olderInfo | ⟨_, rfl⟩
    · rcases Transition.found_in_concat foundThere with older | ⟨rfl, _⟩
      · exact sound.ready index found info older olderInfo isReady unsettled
      · have inside := (List.getElem?_eq_some_iff.mp olderInfo).1
        exact absurd sound.infoPerCall (Nat.ne_of_gt inside)
    · cases isReady
  · intro index found foundThere isReady
    rcases Transition.found_in_concat foundThere with older | ⟨_, rfl⟩
    · exact sound.left index found older isReady
    · cases isReady

theorem Sound.setThread (sound : bus.Sound) {thread : BusThread}
    (todo : thread.todo = bus.thread.todo)
    (executed : ∀ task ∈ thread.executed, task ∈ bus.thread.executed)
    (filling : ∀ (task : MsgTask) (info : Nat) (tasks : List MsgTask) (rest : Groups),
      thread = .filling task info tasks rest → ∃ call : SendCall,
        bus.calls[info]? = some call ∧ (call.settled = true ∨ task.call = some info)) :
    Sound { bus with thread } := by
  refine { sound with onlyTask := ?_, executed := ?_, filling := filling }
  · rw [waitingTasks, todo]
    exact sound.onlyTask
  · exact fun task member => sound.executed task (executed task member)

theorem Sound.finishing (sound : bus.Sound) {tasks : List MsgTask} {rest : Groups}
    (todo : bus.thread.todo = rest.flatMap Prod.snd)
    (executed : ∀ task ∈ tasks, task ∈ bus.thread.executed) :
    Sound { bus with thread := .finishing tasks rest } := by
  apply sound.setThread
  · exact todo.symm
  · exact executed
  · intro _ _ _ _ impossible
    cases impossible

theorem Sound.queueTask (sound : bus.Sound) {index : Nat} {call : SendCall}
    (there : bus.calls[index]? = some call) (begun : call.phase = .begun) {task : MsgTask}
    (own : task.call = some index) :
    Sound { bus.setPhase index call .waiting with
      sendmsgTasks := bus.sendmsgTasks ++ [task] } := by
  have waits : (bus.setPhase index call .waiting).Sound := by
    refine sound.setCall { call with phase := .waiting } there rfl ?_ ?_ ?_
    · simp [SendCall.settled, begun]
    · simp
    · intro impossible
      cases impossible
  refine { waits with onlyTask := ?_ }
  intro other
  have before := sound.onlyTask other
  have after := waits.onlyTask other
  simp only [tasksOf, waitingTasks, List.countP_append, List.countP_singleton, own,
    setPhase] at before after ⊢
  by_cases same : other = index
  · subst same
    have inside := (List.getElem?_eq_some_iff.mp there).1
    have none : hasQueued bus.calls other = false := by simp [hasQueued, there, begun]
    have one : hasQueued (bus.calls.set other { call with phase := .waiting }) other = true := by
      simp [hasQueued, inside]
    simp only [none, one, beq_self_eq_true, if_true, Bool.toNat_false, Bool.toNat_true] at before ⊢
    omega
  · have different : (some index == some other) = false := by
      simpa using Ne.symm same
    simpa [different] using after

theorem Sound.execute (sound : bus.Sound) {msgid : Bytes} {executed : List MsgTask}
    {task : MsgTask} {todo : List MsgTask} {rest : Groups}
    (executing : bus.thread = .executing msgid executed (task :: todo) rest) {after : MsgTask}
    (sameCall : after.call = task.call) :
    Sound { bus with
      thread := .executing msgid (executed ++ [after]) todo rest
      computed := bus.computed ++
        after.call.toList.map fun call => (call, after.ret, after.msgparam) } := by
  refine { sound with onlyTask := ?_, executed := ?_, filling := ?_, ready := ?_, left := ?_ }
  · intro index
    have before := sound.onlyTask index
    refine Nat.le_trans (Nat.le_of_eq ?_) before
    simp only [tasksOf, waitingTasks, executing, BusThread.todo, sameCall, List.cons_append,
      List.countP_append, List.countP_cons]
    cases own : task.call with
    | none => simp
    | some call =>
      by_cases same : call = index
      · simp [same]
        omega
      · simp [same]
  · intro found member index own
    rcases List.mem_append.mp member with older | newer
    · apply List.mem_append_left
      apply sound.executed found _ index own
      rw [executing]
      exact older
    · cases List.mem_singleton.mp newer
      simp [own]
  · intro _ _ _ _ impossible
    cases impossible
  · exact fun index call info there infoThere isReady unsettled =>
      List.mem_append_left _ (sound.ready index call info there infoThere isReady unsettled)
  · exact fun index call there isReady =>
      List.mem_append_left _ (sound.left index call there isReady)

theorem Sound.fillInfo (sound : bus.Sound) {task : MsgTask} {info : Nat} {tasks : List MsgTask}
    {rest : Groups} (fills : bus.thread = .filling task info tasks rest) :
    Sound { bus with
      thread := .finishing tasks rest
      infos := bus.infos.set info
        { ready := true, rspparam := task.msgparam, rspresult := task.ret } } := by
  have moved : Sound { bus with thread := .finishing tasks rest } := by
    apply sound.finishing
    · rw [fills]
      rfl
    · rw [fills]
      exact fun _ => List.mem_cons_of_mem task
  refine { moved with infoPerCall := ?_, ready := ?_ }
  · rw [List.length_set]
    exact sound.infoPerCall
  · intro index call filled there filledThere isReady unsettled
    rcases Transition.found_in_set filledThere with ⟨rfl, rfl⟩ | ⟨_, older⟩
    · obtain ⟨known, knownThere, fate⟩ := sound.filling task index tasks rest fills
      cases there.symm.trans knownThere
      rcases fate with settled | own
      · rw [unsettled] at settled
        cases settled
      · apply sound.executed task _ index own
        rw [fills]
        exact List.mem_cons_self
    · exact sound.ready index call filled there older isReady unsettled

theorem Sound.leave (sound : bus.Sound) {index : Nat} {call : SendCall} {ready : Bool}
    (there : bus.calls[index]? = some call) (leaving : call.phase = .leaving ready) :
    Sound { bus.setPhase index call (.returned ready) with
      readySendmsgs := bus.readySendmsgs.erase call.callertid } := by
  have returned : (bus.setPhase index call (.returned ready)).Sound := by
    refine sound.setCall { call with phase := .returned ready } there rfl ?_ ?_ ?_
    · exact fun _ => rfl
    · simp
    · intro isReady
      apply sound.left index call there
      rw [SendCall.readyPath, leaving]
      exact isReady
  refine { returned with table := ?_ }
  exact Tables.every_erase returned.table call.callertid

theorem Sound.takeTasks (sound : bus.Sound) (idle : bus.thread = .idle) :
    Sound { bus with
      sendmsgTasks := []
      msgTasks := []
      thread := startGroups (bus.sendmsgTasks.map (fun task => (task.msgid, [task])) ++
        groupPosts bus.msgTasks) } := by
  have sendmsgs : (bus.sendmsgTasks.map fun task => (task.msgid, [task])).flatMap Prod.snd =
      bus.sendmsgTasks := by
    simp [List.flatMap_map]
  refine { sound with onlyTask := ?_, executed := ?_, filling := ?_ }
  · have before := sound.onlyTask
    simp only [waitingTasks, idle, BusThread.todo, List.append_nil] at before
    simpa only [waitingTasks, startGroups_todo, List.flatMap_append, sendmsgs, groupPosts_tasks,
      List.nil_append] using before
  · rw [startGroups_executed]
    intro _ impossible
    cases impossible
  · exact fun task info tasks rest fills =>
      absurd fills (startGroups_not_filling _ task info tasks rest)

theorem Sound.skipTask (sound : bus.Sound) {task : MsgTask} {tasks : List MsgTask} {rest : Groups}
    (finishing : bus.thread = .finishing (task :: tasks) rest) :
    Sound { bus with thread := .finishing tasks rest } := by
  apply sound.finishing
  · rw [finishing]
    rfl
  · rw [finishing]
    exact fun _ => List.mem_cons_of_mem task

theorem Sound.findCaller (sound : bus.Sound) (meets : bus.finishesInTime .findCaller = true)
    {task : MsgTask} {info : Nat} {tasks : List MsgTask} {rest : Groups}
    (finishing : bus.thread = .finishing (task :: tasks) rest)
    (found : bus.readySendmsgs[task.callertid]? = some info) :
    Sound { bus with thread := .filling task info tasks rest } := by
  apply sound.setThread
  · rw [finishing]
    rfl
  · rw [finishing]
    exact fun _ => id
  · intro _ _ _ _ same
    cases same
    obtain ⟨call, there, caller⟩ := sound.table _ _ found
    refine ⟨call, there, ?_⟩
    simp only [finishesInTime, finishing, List.all_eq_true] at meets
    have inTime := meets (call, info) (List.mem_zipIdx_iff_getElem?.mpr there)
    simp only [caller, bne_self_eq_false, Bool.false_or, Bool.or_eq_true, beq_iff_eq] at inTime
    exact inTime.imp_right Eq.symm

theorem step_sound {event : Event} {following : MsgBus} (sound : bus.Sound)
    (meets : bus.finishesInTime event = true) (taken : bus.step event = some following) :
    following.Sound := by
  cases step_moves taken with
  | sendMsg callertid msgid param => exact sound.sendMsg callertid msgid param
  | postMsg msgid param =>
    refine { sound with onlyTask := ?_ }
    intro index
    refine Nat.le_trans (Nat.le_of_eq ?_) (sound.onlyTask index)
    simp [tasksOf, waitingTasks]
  | queueTask index call there begun => exact sound.queueTask there begun rfl
  | wake index call info there infoThere waiting ready =>
    refine sound.setCall { call with
      param := info.rspparam, ret := info.rspresult, phase := .leaving true } there rfl ?_ ?_ ?_
    · exact fun _ => rfl
    · simp
    · intro _
      apply sound.ready index call info there infoThere ready
      simp [SendCall.settled, waiting]
  | timeout index call there waiting =>
    refine sound.setCall { call with ret := false, phase := .leaving false } there rfl ?_ ?_ ?_
    · exact fun _ => rfl
    · simp
    · intro impossible
      cases impossible
  | leave index call ready there leaving => exact sound.leave there leaving
  | takeTasks idle => exact sound.takeTasks idle
  | execute handlers msgid executed task todo rest executing => exact sound.execute executing rfl
  | executed msgid executed rest executing =>
    apply sound.finishing
    · rw [executing]
      rfl
    · rw [executing]
      exact fun _ => id
  | skipTask task tasks rest finishing => exact sound.skipTask finishing
  | findCaller task info tasks rest finishing found => exact sound.findCaller meets finishing found
  | fillInfo task info tasks rest fills => exact sound.fillInfo fills
  | nextGroup rest finished =>
    apply sound.setThread
    · rw [finished, startGroups_todo]
      rfl
    · rw [startGroups_executed]
      intro _ impossible
      cases impossible
    · exact fun task info tasks rest fills =>
        absurd fills (startGroups_not_filling _ task info tasks rest)

theorem own_outcomes_in_time (bus : MsgBus)
    (reached : Transition.ReachableWhen step (fun bus event => bus.finishesInTime event = true)
      initial bus) : bus.OwnOutcomes := by
  apply Sound.ownOutcomes
  exact reached.invariant Sound sound_initial fun _ _ _ => step_sound

-- The first call times out, and its thread calls again after the late task was dropped.
def lateDroppedEvents : List Event :=
  [.sendMsg 1 [97] [1], .queueTask 0, .takeTasks, .execute [fun _ _ => (true, [170], true)],
    .findCaller, .timeout 0, .leave 0, .findCaller, .nextGroup, .sendMsg 1 [98] [2], .queueTask 1,
    .takeTasks, .execute [fun _ _ => (true, [187], true)], .findCaller, .findCaller, .fillInfo,
    .wake 1, .leave 1]

def lateDropped : MsgBus :=
  (Transition.run (Transition.checkedStep step fun bus event => bus.finishesInTime event = true)
    initial lateDroppedEvents).getD initial

theorem own_outcomes_lateDropped :
    lateDropped.calls.map SendCall.param = [[1], [187]] ∧ lateDropped.OwnOutcomes :=
  ⟨by decide, own_outcomes_in_time lateDropped (.run .start lateDroppedEvents rfl)⟩

-- The same thread is back in SendMsg before the task of its first call is finished.
def lateTakenEvents : List Event :=
  [.sendMsg 1 [97] [1], .queueTask 0, .takeTasks, .execute [fun _ _ => (true, [170], true)],
    .findCaller, .timeout 0, .leave 0, .sendMsg 1 [98] [2], .queueTask 1, .findCaller, .fillInfo,
    .wake 1, .leave 1]

def lateTaken : MsgBus := (Transition.run step initial lateTakenEvents).getD initial

theorem late_outcome_taken :
    ¬ ∀ bus : MsgBus, Transition.Reachable step initial bus → bus.OwnOutcomes := by
  intro always
  have own := always lateTaken (Transition.Reachable.run .start lateTakenEvents rfl)
  have second := own 1 _ rfl (by decide)
  exact absurd second (by decide)

end MsgBus
end MessageBus.Local
