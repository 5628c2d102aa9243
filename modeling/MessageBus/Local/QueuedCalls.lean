import MessageBus.Local.Batches
import MessageBus.Local.SendPaths
import Mathlib.Data.List.Perm.Subperm

set_option autoImplicit false

namespace MessageBus.Local

def NotReady (infos : List ReadySendMsgInfo) (index : Nat) : Prop :=
  ∀ info, infos[index]? = some info → info.ready = false

def MsgTask.sender (task : MsgTask) : Option Nat × Nat := (task.call, task.callertid)

structure Expected (calls : List SendCall) (infos : List ReadySendMsgInfo)
    (senders : List (Option Nat × Nat)) : Prop where
  waiting : ∀ sender ∈ senders, ∀ index, sender.1 = some index → ∃ call : SendCall,
    calls[index]? = some call ∧ call.phase = .waiting ∧ call.callertid = sender.2 ∧
      NotReady infos index
  posts : ∀ sender ∈ senders, sender.1 = none → sender.2 = msgbusTid
  once : ∀ index, senders.countP (fun sender => sender.1 == some index) ≤ 1

theorem Expected.fewer {calls : List SendCall} {infos : List ReadySendMsgInfo}
    {senders after : List (Option Nat × Nat)} (expected : Expected calls infos senders)
    (fewer : after.Subperm senders) : Expected calls infos after :=
  ⟨fun sender member => expected.waiting sender (fewer.subset member),
    fun sender member => expected.posts sender (fewer.subset member),
    fun index => Nat.le_trans (fewer.countP_le _) (expected.once index)⟩

theorem Expected.setCall {calls : List SendCall} {infos : List ReadySendMsgInfo}
    {senders : List (Option Nat × Nat)} (expected : Expected calls infos senders) {index : Nat}
    {after : SendCall} (nobody : ∀ sender ∈ senders, sender.1 ≠ some index) :
    Expected (calls.set index after) infos senders := by
  refine { expected with waiting := fun sender member other own => ?_ }
  obtain ⟨call, there, rest⟩ := expected.waiting sender member other own
  refine ⟨call, ?_, rest⟩
  rw [List.getElem?_set_ne]
  · exact there
  · rintro rfl
    exact nobody sender member own

namespace SendCall

theorem not_returned {call : SendCall} (unsettled : call.settled = false) :
    call.isReturned = false := by
  unfold settled at unsettled
  unfold isReturned
  split at unsettled <;> simp_all

theorem waiting_unsettled {call : SendCall} (waits : call.phase = .waiting) :
    call.settled = false := by
  simp [settled, waits]

end SendCall

namespace MsgBus

-- A registry that stays as it is, and no call that runs out of time.
def registeredStep (found : Bytes -> List Handler) (bus : MsgBus) : Event -> Option MsgBus
  | .execute _ =>
    bus.step (.execute ((bus.thread.passes.map fun task => found task.msgid).getD []))
  | .timeout _ => none
  | event => bus.step event

def request : Event -> Option (Bytes × Bytes)
  | .sendMsg _ msgid param => some (msgid, param)
  | _ => none

def requests (events : List Event) : List (Bytes × Bytes) := events.filterMap request

def senders (bus : MsgBus) : List (Option Nat × Nat) :=
  (bus.waitingTasks ++ bus.thread.executed).map MsgTask.sender

structure Prompt (found : Bytes -> List Handler) (bus : MsgBus)
    (requests : List (Bytes × Bytes)) : Prop where
  sound : bus.Sound
  grouped : bus.thread.Grouped
  made : requests.length = bus.calls.length
  ready : ∀ (index : Nat) (call : SendCall), bus.calls[index]? = some call →
    call.settled = true → call.readyPath = true
  callers : ∀ (index : Nat) (call : SendCall), bus.calls[index]? = some call →
    call.callertid ≠ msgbusTid
  alone : ∀ (index other : Nat) (call another : SendCall), bus.calls[index]? = some call →
    bus.calls[other]? = some another → call.callertid = another.callertid →
      call.isReturned = false → another.isReturned = false → index = other
  asked : ∀ (index : Nat) (call : SendCall), bus.calls[index]? = some call →
    call.settled = false → requests[index]? = some (call.msgid, call.param)
  fresh : ∀ (index : Nat) (call : SendCall), bus.calls[index]? = some call →
    call.phase = .begun → NotReady bus.infos index
  expected : Expected bus.calls bus.infos bus.senders
  carries : ∀ task ∈ bus.waitingTasks, ∀ index, task.call = some index →
    requests[index]? = some (task.msgid, task.msgparam)
  computed : ∀ (index : Nat) (ret : Bool) (param : Bytes), (index, ret, param) ∈ bus.computed →
    ∃ msgid original, requests[index]? = some (msgid, original) ∧
      (ret, param) = reference msgid original (found msgid)

variable {found : Bytes -> List Handler} {bus following : MsgBus}
  {requests : List (Bytes × Bytes)}

theorem prompt_initial : Prompt found initial [] := by
  refine ⟨sound_initial, trivial, rfl, ?_, ?_, ?_, ?_, ?_, ⟨?_, ?_, ?_⟩, ?_, ?_⟩ <;>
    simp [initial, senders, waitingTasks, BusThread.todo, BusThread.executed]

-- The thread that called is still in the call whose task is finished.
theorem Prompt.finishesInTime (prompt : Prompt found bus requests) (event : Event) :
    bus.finishesInTime event = true := by
  unfold MsgBus.finishesInTime
  split
  · split
    next task tasks rest finishing =>
      rw [List.all_eq_true]
      rintro ⟨call, index⟩ member
      have there := List.mem_zipIdx_iff_getElem?.mp member
      by_contra late
      simp only [Bool.or_eq_true, bne_iff_ne, ne_eq, beq_iff_eq, not_or, not_not,
        Bool.not_eq_true] at late
      obtain ⟨⟨sameThread, unsettled⟩, notOwn⟩ := late
      have unfinished : task.sender ∈ bus.senders :=
        List.mem_map_of_mem (List.mem_append_right _ (by simp [finishing, BusThread.executed]))
      cases own : task.call with
      | none =>
        have noCaller := prompt.expected.posts _ unfinished own
        exact prompt.callers index call there (sameThread.trans noCaller)
      | some other =>
        obtain ⟨another, elsewhere, waits, caller, _⟩ :=
          prompt.expected.waiting _ unfinished other own
        have same := prompt.alone index other call another there elsewhere
          (sameThread.trans caller.symm) (SendCall.not_returned unsettled)
          (SendCall.not_returned (SendCall.waiting_unsettled waits))
        exact notOwn (same ▸ own.symm)
    next => rfl
  · rfl

theorem Prompt.setCall (prompt : Prompt found bus requests) {index : Nat} {call : SendCall}
    (after : SendCall) (there : bus.calls[index]? = some call)
    (nobody : ∀ sender ∈ bus.senders, sender.1 ≠ some index)
    (sound : Sound { bus with calls := bus.calls.set index after })
    (sameCaller : after.callertid = call.callertid)
    (returned : after.isReturned = false → call.isReturned = false)
    (ready : after.settled = true → after.readyPath = true)
    (asked : after.settled = false →
      call.settled = false ∧ after.msgid = call.msgid ∧ after.param = call.param)
    (begun : after.phase ≠ .begun) :
    Prompt found { bus with calls := bus.calls.set index after } requests := by
  refine { prompt with
    sound, made := ?_, ready := ?_, callers := ?_, alone := ?_, asked := ?_, fresh := ?_
    expected := prompt.expected.setCall nobody }
  · rw [List.length_set]
    exact prompt.made
  · intro other found foundThere
    rcases Transition.found_in_set foundThere with ⟨rfl, rfl⟩ | ⟨_, older⟩
    · exact ready
    · exact prompt.ready other found older
  · intro other found foundThere
    rcases Transition.found_in_set foundThere with ⟨rfl, rfl⟩ | ⟨_, older⟩
    · exact sameCaller ▸ prompt.callers other call there
    · exact prompt.callers other found older
  · intro first second one another oneThere anotherThere same oneOpen anotherOpen
    rcases Transition.found_in_set oneThere with ⟨rfl, rfl⟩ | ⟨_, older⟩ <;>
      rcases Transition.found_in_set anotherThere with ⟨rfl, rfl⟩ | ⟨_, known⟩
    · rfl
    · exact prompt.alone first second call another there known (sameCaller ▸ same)
        (returned oneOpen) anotherOpen
    · exact prompt.alone first second one call older there (sameCaller ▸ same) oneOpen
        (returned anotherOpen)
    · exact prompt.alone first second one another older known same oneOpen anotherOpen
  · intro other found foundThere unsettled
    rcases Transition.found_in_set foundThere with ⟨rfl, rfl⟩ | ⟨_, older⟩
    · obtain ⟨before, msgid, param⟩ := asked unsettled
      rw [msgid, param]
      exact prompt.asked other call there before
    · exact prompt.asked other found older unsettled
  · intro other found foundThere isBegun
    rcases Transition.found_in_set foundThere with ⟨rfl, rfl⟩ | ⟨_, older⟩
    · exact absurd isBegun begun
    · exact prompt.fresh other found older isBegun

theorem Prompt.setThread (prompt : Prompt found bus requests) {thread : BusThread}
    (sound : Sound { bus with thread }) (grouped : thread.Grouped)
    (todo : thread.todo = bus.thread.todo)
    (executed : (thread.executed.map MsgTask.sender).Subperm
      (bus.thread.executed.map MsgTask.sender)) :
    Prompt found { bus with thread } requests := by
  refine { prompt with sound, grouped, expected := ?_, carries := ?_ }
  · apply prompt.expected.fewer
    simp only [senders, waitingTasks, todo, List.map_append]
    exact (List.subperm_append_left _).mpr executed
  · rw [waitingTasks, todo]
    exact prompt.carries

theorem Prompt.sendMsg (prompt : Prompt found bus requests) {callertid : Nat}
    (other : callertid ≠ msgbusTid)
    (idle : ∀ call ∈ bus.calls, call.callertid = callertid → call.isReturned = true)
    (msgid param : Bytes) :
    Prompt found { bus with
      readySendmsgs := bus.readySendmsgs.insert callertid bus.infos.length
      infos := bus.infos ++ [{ ready := false, rspparam := [], rspresult := false }]
      calls := bus.calls ++ [{ callertid, msgid, param, ret := false, phase := .begun }] }
      (requests ++ [(msgid, param)]) := by
  have older {index : Nat} (inside : index < bus.calls.length) :
      (requests ++ [(msgid, param)])[index]? = requests[index]? :=
    List.getElem?_append_left (prompt.made ▸ inside)
  have fresh {index : Nat} (before : NotReady bus.infos index) :
      NotReady (bus.infos ++ [{ ready := false, rspparam := [], rspresult := false }]) index := by
    intro info there
    rcases Transition.found_in_concat there with known | ⟨_, rfl⟩
    · exact before info known
    · rfl
  refine { prompt with
    sound := prompt.sound.sendMsg callertid msgid param, made := ?_, ready := ?_, callers := ?_
    alone := ?_, asked := ?_, fresh := ?_, expected := ?_, carries := ?_, computed := ?_ }
  · simp only [List.length_append, List.length_singleton, prompt.made]
  · intro index call there
    rcases Transition.found_in_concat there with known | ⟨_, rfl⟩
    · exact prompt.ready index call known
    · intro impossible
      cases impossible
  · intro index call there
    rcases Transition.found_in_concat there with known | ⟨_, rfl⟩
    · exact prompt.callers index call known
    · exact other
  · intro first second one another oneThere anotherThere same oneOpen anotherOpen
    rcases Transition.found_in_concat oneThere with known | ⟨rfl, rfl⟩ <;>
      rcases Transition.found_in_concat anotherThere with there | ⟨rfl, rfl⟩
    · exact prompt.alone first second one another known there same oneOpen anotherOpen
    · rw [idle one (List.mem_of_getElem? known) same] at oneOpen
      cases oneOpen
    · rw [idle another (List.mem_of_getElem? there) same.symm] at anotherOpen
      cases anotherOpen
    · rfl
  · intro index call there unsettled
    rcases Transition.found_in_concat there with known | ⟨rfl, rfl⟩
    · rw [older (List.getElem?_eq_some_iff.mp known).1]
      exact prompt.asked index call known unsettled
    · rw [← prompt.made]
      simp
  · intro index call there begun
    rcases Transition.found_in_concat there with known | ⟨rfl, rfl⟩
    · exact fresh (prompt.fresh index call known begun)
    · intro info infoThere
      rw [← prompt.sound.infoPerCall, List.getElem?_concat_length, Option.some.injEq] at infoThere
      rw [← infoThere]
  · refine { prompt.expected with waiting := fun sender member index own => ?_ }
    obtain ⟨call, there, waits, caller, notReady⟩ :=
      prompt.expected.waiting sender member index own
    have inside := (List.getElem?_eq_some_iff.mp there).1
    exact ⟨call, (List.getElem?_append_left inside).trans there, waits, caller, fresh notReady⟩
  · intro task member index own
    have asked := prompt.carries task member index own
    rw [older (prompt.made ▸ (List.getElem?_eq_some_iff.mp asked).1)]
    exact asked
  · intro index ret answer member
    obtain ⟨own, original, asked, outcome⟩ := prompt.computed index ret answer member
    refine ⟨own, original, ?_, outcome⟩
    rw [older (prompt.made ▸ (List.getElem?_eq_some_iff.mp asked).1)]
    exact asked

theorem Prompt.no_task (prompt : Prompt found bus requests) {index : Nat} {call : SendCall}
    (there : bus.calls[index]? = some call)
    (apart : call.phase ≠ .waiting ∨ ¬ NotReady bus.infos index) :
    ∀ sender ∈ bus.senders, sender.1 ≠ some index := by
  intro sender member own
  obtain ⟨waiting, known, waits, _, notReady⟩ :=
    prompt.expected.waiting sender member index own
  cases there.symm.trans known
  exact apart.elim (fun different => different waits) fun ready => ready notReady

theorem Prompt.queueTask (prompt : Prompt found bus requests) {index : Nat} {call : SendCall}
    (there : bus.calls[index]? = some call) (begun : call.phase = .begun) {task : MsgTask}
    (own : task.call = some index) (caller : task.callertid = call.callertid)
    (msgid : task.msgid = call.msgid) (param : task.msgparam = call.param) :
    Prompt found { bus.setPhase index call .waiting with
      sendmsgTasks := bus.sendmsgTasks ++ [task] } requests := by
  have unsettled : call.settled = false := by simp [SendCall.settled, begun]
  have nobody := prompt.no_task there (.inl (by simp [begun]))
  have queued := prompt.sound.queueTask there begun own
  have waits := prompt.setCall { call with phase := .waiting } there nobody
    (prompt.sound.setCall { call with phase := .waiting } there rfl
      (fun settled => absurd settled (by simp [unsettled])) (by simp)
      (fun impossible => by cases impossible))
    rfl (fun _ => SendCall.not_returned unsettled) (fun impossible => by cases impossible)
    (fun _ => ⟨unsettled, rfl, rfl⟩) (by simp)
  have inside := (List.getElem?_eq_some_iff.mp there).1
  have same : senders { bus.setPhase index call .waiting with
      sendmsgTasks := bus.sendmsgTasks ++ [task] } |>.Perm (task.sender :: bus.senders) := by
    simp only [senders, waitingTasks, setPhase, List.append_assoc, List.map_append]
    exact List.perm_middle
  refine { waits with sound := queued, expected := ?_, carries := ?_ }
  · refine Expected.fewer ⟨?_, ?_, ?_⟩ same.subperm
    · rintro sender (_ | ⟨_, member⟩) other isOwn
      · cases own.symm.trans isOwn
        refine ⟨{ call with phase := .waiting }, List.getElem?_set_self inside, rfl, caller.symm,
          prompt.fresh index call there begun⟩
      · exact waits.expected.waiting sender member other isOwn
    · rintro sender (_ | ⟨_, member⟩) none
      · cases own.symm.trans none
      · exact prompt.expected.posts sender member none
    · intro other
      rw [List.countP_cons]
      split
      next isOwn =>
        have absent : bus.senders.countP (fun sender => sender.1 == some other) = 0 := by
          rw [List.countP_eq_zero]
          intro sender member another
          rw [beq_iff_eq] at isOwn another
          cases own.symm.trans isOwn
          exact nobody sender member another
        omega
      next => exact prompt.expected.once other
  · intro other member index' isOwn
    simp only [waitingTasks, setPhase, List.append_assoc, List.mem_append, List.mem_singleton] at member
    rcases member with older | rfl | posted
    · exact prompt.carries other (List.mem_append_left _ older) index' isOwn
    · cases own.symm.trans isOwn
      rw [msgid, param]
      exact prompt.asked index call there unsettled
    · exact prompt.carries other (List.mem_append_right _ (List.mem_append.mpr posted)) index' isOwn

theorem Prompt.execute (prompt : Prompt found bus requests) {msgid : Bytes}
    {executed : List MsgTask} {task : MsgTask} {todo : List MsgTask} {rest : Groups}
    (executing : bus.thread = .executing msgid executed (task :: todo) rest) :
    Prompt found { bus with
      thread := .executing msgid (executed ++ [executeMsgBusHandlers msgid (found msgid) task])
        todo rest
      computed := bus.computed ++
        (executeMsgBusHandlers msgid (found msgid) task).call.toList.map fun call =>
          (call, (executeMsgBusHandlers msgid (found msgid) task).ret,
            (executeMsgBusHandlers msgid (found msgid) task).msgparam) } requests := by
  have grouped := prompt.grouped
  rw [executing] at grouped
  have waits : task ∈ bus.waitingTasks := by
    simp [waitingTasks, executing, BusThread.todo]
  refine { prompt with
    sound := prompt.sound.execute executing rfl
    grouped := ⟨fun other member => grouped.1 other (.tail _ member), grouped.2⟩
    expected := ?_, carries := ?_, computed := ?_ }
  · apply prompt.expected.fewer
    apply List.Perm.subperm
    have sameSender : (executeMsgBusHandlers msgid (found msgid) task).sender = task.sender := rfl
    simp only [senders, waitingTasks, executing, BusThread.todo, BusThread.executed, sameSender,
      List.append_assoc, List.cons_append, List.map_append, List.map_cons, List.map_nil]
    refine .append_left _ (.append_left _ ?_)
    have last := @List.perm_append_comm _ (todo.map MsgTask.sender ++
      (rest.flatMap Prod.snd).map MsgTask.sender ++ executed.map MsgTask.sender) [task.sender]
    simpa only [List.append_assoc, List.singleton_append] using last
  · intro other member
    refine prompt.carries other ?_
    simp only [waitingTasks, executing, BusThread.todo, List.cons_append, List.mem_append,
      List.mem_cons] at member ⊢
    exact member.imp_right (Or.imp_right .inr)
  · intro index ret param member
    rcases List.mem_append.mp member with older | new
    · exact prompt.computed index ret param older
    · obtain ⟨call, own, same⟩ := List.mem_map.mp new
      rw [Option.mem_toList] at own
      cases same
      refine ⟨task.msgid, task.msgparam, prompt.carries task waits index own, ?_⟩
      rw [grouped.1 task List.mem_cons_self, executeMsgBusHandlers_reference]

theorem Prompt.takeTasks (prompt : Prompt found bus requests) (idle : bus.thread = .idle) :
    Prompt found { bus with
      sendmsgTasks := []
      msgTasks := []
      thread := startGroups (bus.sendmsgTasks.map (fun task => (task.msgid, [task])) ++
        groupPosts bus.msgTasks) } requests := by
  have same : waitingTasks { bus with
      sendmsgTasks := []
      msgTasks := []
      thread := startGroups (bus.sendmsgTasks.map (fun task => (task.msgid, [task])) ++
        groupPosts bus.msgTasks) } = bus.waitingTasks := by
    simp only [waitingTasks, takenGroups_todo, idle, List.nil_append]
    rw [BusThread.todo, List.append_nil]
  refine { prompt with
    sound := prompt.sound.takeTasks idle
    grouped := takenGroups_grouped bus.sendmsgTasks bus.msgTasks, expected := ?_, carries := ?_ }
  · have before := prompt.expected
    rw [senders, idle] at before
    rw [senders, same, startGroups_executed]
    exact before
  · rw [same]
    exact prompt.carries

theorem Prompt.fillInfo (prompt : Prompt found bus requests) {task : MsgTask} {info : Nat}
    {tasks : List MsgTask} {rest : Groups} (fills : bus.thread = .filling task info tasks rest) :
    Prompt found { bus with
      thread := .finishing tasks rest
      infos := bus.infos.set info
        { ready := true, rspparam := task.msgparam, rspresult := task.ret } } requests := by
  have grouped := prompt.grouped
  rw [fills] at grouped
  have before : bus.senders.Perm (task.sender ::
      senders { bus with thread := .finishing tasks rest }) := by
    simp only [senders, waitingTasks, fills, BusThread.todo, BusThread.executed, List.map_append,
      List.map_cons]
    exact List.perm_middle
  obtain ⟨filled, filledThere, fate⟩ := prompt.sound.filling task info tasks rest fills
  have first : task.sender ∈ bus.senders := before.symm.subset List.mem_cons_self
  have still {index : Nat} (different : index ≠ info) (notReady : NotReady bus.infos index) :
      NotReady (bus.infos.set info
        { ready := true, rspparam := task.msgparam, rspresult := task.ret }) index := by
    intro found there
    rw [List.getElem?_set_ne (Ne.symm different)] at there
    exact notReady found there
  refine { prompt with
    sound := prompt.sound.fillInfo fills, grouped := grouped, fresh := ?_, expected := ?_
    carries := ?_ }
  · intro index call there begun
    refine still ?_ (prompt.fresh index call there begun)
    rintro rfl
    cases there.symm.trans filledThere
    rcases fate with settled | own
    · simp [SendCall.settled, begun] at settled
    · exact prompt.no_task there (.inl (by simp [begun])) _ first own
  · have later := prompt.expected.fewer
      ((List.sublist_cons_self _ _).subperm.trans before.symm.subperm)
    refine { later with waiting := fun sender member index own => ?_ }
    obtain ⟨call, there, waits, caller, notReady⟩ := later.waiting sender member index own
    refine ⟨call, there, waits, caller, still ?_ notReady⟩
    rintro rfl
    cases there.symm.trans filledThere
    rcases fate with settled | isOwn
    · simp [SendCall.settled, waits] at settled
    · have once := prompt.expected.once index
      have first : task.sender.1 = some index := isOwn
      rw [before.countP_eq, List.countP_cons, if_pos (beq_iff_eq.mpr first)] at once
      have another : 0 < (senders { bus with thread := .finishing tasks rest }).countP
          fun sender => sender.1 == some index :=
        List.countP_pos_iff.mpr ⟨sender, member, beq_iff_eq.mpr own⟩
      omega
  · intro other member
    refine prompt.carries other ?_
    simpa only [waitingTasks, fills, BusThread.todo] using member

theorem Prompt.postMsg (prompt : Prompt found bus requests) (msgid param : Bytes)
    (sound : Sound { bus with msgTasks := bus.msgTasks ++
      [{ msgid, msgparam := param, callertid := msgbusTid, ret := false, call := none }] }) :
    Prompt found { bus with msgTasks := bus.msgTasks ++
      [{ msgid, msgparam := param, callertid := msgbusTid, ret := false, call := none }] }
        requests := by
  have same : senders { bus with msgTasks := bus.msgTasks ++
      [{ msgid, msgparam := param, callertid := msgbusTid, ret := false, call := none }] } |>.Perm
        ((none, msgbusTid) :: bus.senders) := by
    simp only [senders, waitingTasks, List.append_assoc, List.map_append, List.map_cons,
      List.map_nil, MsgTask.sender]
    rw [← List.append_assoc, ← List.append_assoc _ (bus.msgTasks.map _)]
    exact List.perm_middle
  refine { prompt with sound, expected := ?_, carries := ?_ }
  · refine Expected.fewer ⟨?_, ?_, ?_⟩ same.subperm
    · rintro sender (_ | ⟨_, member⟩) other isOwn
      · cases isOwn
      · exact prompt.expected.waiting sender member other isOwn
    · rintro sender (_ | ⟨_, member⟩) none
      · rfl
      · exact prompt.expected.posts sender member none
    · intro other
      rw [List.countP_cons, if_neg (by simp)]
      exact prompt.expected.once other
  · intro other member index own
    simp only [waitingTasks, List.mem_append, List.mem_singleton] at member
    rcases member with older | (posted | rfl) | taken
    · exact prompt.carries other (by simp [waitingTasks, older]) index own
    · exact prompt.carries other (by simp [waitingTasks, posted]) index own
    · cases own
    · exact prompt.carries other (by simp [waitingTasks, taken]) index own

theorem Prompt.unasked (prompt : Prompt found bus requests) : Prompt found bus (requests ++ []) := by
  rwa [List.append_nil]

theorem registeredStep_step {event : Event}
    (taken : bus.registeredStep found event = some following) :
    ∃ same : Event, bus.step same = some following ∧ request same = request event ∧
      (∀ index, same ≠ .timeout index) ∧ ∀ handlers, same = .execute handlers →
        handlers = (bus.thread.passes.map fun task => found task.msgid).getD [] := by
  cases event with
  | timeout => cases taken
  | execute =>
    refine ⟨.execute _, taken, rfl, by simp, ?_⟩
    rintro handlers ⟨⟩
    rfl
  | _ =>
    simp only [registeredStep] at taken
    exact ⟨_, taken, rfl, by simp, by simp⟩

theorem step_prompt (prompt : Prompt found bus requests) {event : Event}
    (taken : bus.registeredStep found event = some following) :
    Prompt found following (requests ++ (request event).toList) := by
  obtain ⟨same, stepped, asked, inTime, registered⟩ := registeredStep_step taken
  have sound := step_sound prompt.sound (prompt.finishesInTime same) stepped
  have grouped := prompt.grouped
  rw [← asked]
  cases step_moves stepped with
  | timeout index => exact absurd rfl (inTime index)
  | sendMsg callertid msgid param other alone => exact prompt.sendMsg other alone msgid param
  | postMsg msgid param => exact (prompt.postMsg msgid param sound).unasked
  | queueTask index call there begun =>
    exact (prompt.queueTask there begun rfl rfl rfl rfl).unasked
  | wake index call info there infoThere waiting isReady =>
    have ready : ¬ NotReady bus.infos index := by
      intro notReady
      rw [notReady info infoThere] at isReady
      cases isReady
    have left := prompt.setCall _ there (prompt.no_task there (.inr ready)) sound rfl
      (fun _ => SendCall.not_returned (SendCall.waiting_unsettled waiting)) (fun _ => rfl)
      (fun impossible => by cases impossible) (by simp)
    exact left.unasked
  | leave index call ready there leaving =>
    have isReady : ready = true := by
      have path := prompt.ready index call there (by simp [SendCall.settled, leaving])
      simpa [SendCall.readyPath, leaving] using path
    have returned := (prompt.setCall { call with phase := .returned ready } there
      (prompt.no_task there (.inl (by simp [leaving])))
      (prompt.sound.setCall _ there rfl (fun _ => rfl) (by simp) fun _ =>
        prompt.sound.left index call there (by simp [SendCall.readyPath, leaving, isReady]))
      rfl (fun impossible => by cases impossible) (fun _ => isReady)
      (fun impossible => by cases impossible) (by simp)).unasked
    exact { returned with sound }
  | takeTasks idle => exact (prompt.takeTasks idle).unasked
  | execute handlers msgid executed task todo rest executing =>
    have own : handlers = found msgid := by
      rw [registered handlers rfl, executing]
      rfl
    subst own
    exact (prompt.execute executing).unasked
  | executed msgid executed rest executing =>
    rw [executing] at grouped
    have moved : Prompt found { bus with thread := .finishing executed rest } requests := by
      refine prompt.setThread sound grouped.2 ?_ ?_ <;> rw [executing]
      · rfl
      · exact .refl _
    exact moved.unasked
  | skipTask task tasks rest finishing =>
    rw [finishing] at grouped
    have moved : Prompt found { bus with thread := .finishing tasks rest } requests := by
      refine prompt.setThread sound grouped ?_ ?_ <;> rw [finishing]
      · rfl
      · exact (List.sublist_cons_self _ _).subperm
    exact moved.unasked
  | findCaller task info tasks rest finishing =>
    rw [finishing] at grouped
    have moved : Prompt found { bus with thread := .filling task info tasks rest } requests := by
      refine prompt.setThread sound grouped ?_ ?_ <;> rw [finishing]
      · rfl
      · exact .refl _
    exact moved.unasked
  | fillInfo task info tasks rest fills => exact (prompt.fillInfo fills).unasked
  | nextGroup rest finished =>
    rw [finished] at grouped
    have moved := prompt.setThread sound (startGroups_grouped grouped)
      (by rw [finished, startGroups_todo]; rfl) (by rw [startGroups_executed]; exact List.nil_subperm)
    exact moved.unasked

theorem requests_foldl (events : List Event) (earlier : List (Bytes × Bytes)) :
    events.foldl (fun requests event => requests ++ (request event).toList) earlier =
      earlier ++ MsgBus.requests events := by
  induction events generalizing earlier with
  | nil => exact (List.append_nil _).symm
  | cons event rest ih =>
    rw [List.foldl_cons, ih, MsgBus.requests, MsgBus.requests, List.filterMap_cons]
    cases request event <;> simp

theorem queued_call_reference (events : List Event)
    (ran : Transition.run (registeredStep found) initial events = some bus) {index : Nat}
    {call : SendCall} (there : bus.calls[index]? = some call) (returned : call.isReturned = true) :
    ∃ msgid param, (MsgBus.requests events)[index]? = some (msgid, param) ∧
      (call.ret, call.param) = reference msgid param (found msgid) := by
  have prompt : Prompt found bus (MsgBus.requests events) := by
    have followed := Transition.run_follows
      (fun requests event => requests ++ (request event).toList)
      (fun bus requests => Prompt found bus requests)
      (fun _ _ _ _ prompt taken => step_prompt prompt taken) prompt_initial events ran
    rwa [requests_foldl] at followed
  have settled : call.settled = true := by
    unfold SendCall.isReturned at returned
    split at returned
    next ready phase => rw [SendCall.settled, phase]
    next => cases returned
  exact prompt.computed index call.ret call.param
    (prompt.sound.left index call there (prompt.ready index call there settled))

end MsgBus

def SendMsgResult.ofPair (outcome : Bool × Bytes) : SendMsgResult := .returns outcome.1 outcome.2

theorem send_paths_agree (lock : Lock) (onMsg : OnMsg) (objs : MsgHandlerObjContainer) :
    (∀ msgid param, (sendMsg lock onMsg objs msgbusTid msgid param).1 =
      .ofPair (reference msgid param (registered lock onMsg objs msgid))) ∧
    (∀ callertid msgid param, callertid ≠ msgbusTid →
      (sendMsg lock onMsg objs callertid msgid param).1 =
        if ((objs[msgid]?).getD []).any WeakHandler.mustCalledInMsgbusthread then .queues
        else .ofPair (reference msgid param (registered lock onMsg objs msgid))) ∧
    (∀ callertid msgid param,
      registered lock onMsg (sendMsg lock onMsg objs callertid msgid param).2 =
        registered lock onMsg objs) ∧
    ∀ (events : List Event) (bus : MsgBus),
      Transition.run (MsgBus.registeredStep (foundHandlers lock onMsg objs)) .initial events =
        some bus →
      ∀ (index : Nat) (call : SendCall), bus.calls[index]? = some call → call.isReturned = true →
        ∃ msgid param, (MsgBus.requests events)[index]? = some (msgid, param) ∧
          (call.ret, call.param) = reference msgid param (registered lock onMsg objs msgid) := by
  refine ⟨fun msgid param => sendMsg_msgbusThread msgid param, fun callertid msgid param other => ?_,
    fun callertid msgid param => sendMsg_registered callertid msgid param,
    fun events bus ran index call there returned => ?_⟩
  · split
    next flagged => exact sendMsg_queues other (List.any_eq_true.mp flagged) param
    next unflagged =>
      refine sendMsg_direct other (fun handler member => ?_) param
      simpa using List.any_eq_false.mp (Bool.eq_false_iff.mpr unflagged) handler member
  · rw [foundHandlers_registered] at ran
    exact MsgBus.queued_call_reference events ran there returned

-- An expired handler, one that needs the msgbus thread, one that stops the others, and a last one.
def mixedObjs : MsgHandlerObjContainer :=
  (∅ : MsgHandlerObjContainer).insert [97]
    [{ ref := 0, mustCalledInMsgbusthread := false }, { ref := 1, mustCalledInMsgbusthread := true },
      { ref := 2, mustCalledInMsgbusthread := false },
      { ref := 3, mustCalledInMsgbusthread := false }]

def mixedLock : Lock := fun ref => if ref = 0 then none else some ref

def mixedOnMsg : OnMsg := fun ref _ param => (ref == 1, param ++ [7], ref != 2)

def mixedCall : List Event :=
  [.sendMsg 1 [97] [5], .queueTask 0, .takeTasks, .execute [], .findCaller, .findCaller, .fillInfo,
    .wake 0, .leave 0]

theorem send_paths_agree_mixed :
    (sendMsg mixedLock mixedOnMsg mixedObjs 1 [97] [5]).1 = .queues ∧
      ∃ bus, Transition.run (MsgBus.registeredStep (foundHandlers mixedLock mixedOnMsg mixedObjs))
          .initial mixedCall = some bus ∧
        bus.calls.map (fun call => (call.ret, call.param)) = [(false, [5, 7])] := by
  obtain ⟨_, elsewhere, _, queued⟩ := send_paths_agree mixedLock mixedOnMsg mixedObjs
  refine ⟨(elsewhere 1 [97] [5] (by decide)).trans (by rfl), ?_⟩
  have ran : ∃ bus, Transition.run
      (MsgBus.registeredStep (foundHandlers mixedLock mixedOnMsg mixedObjs))
      .initial mixedCall = some bus ∧ ∃ call, bus.calls = [call] ∧ call.isReturned = true :=
    ⟨_, rfl, _, rfl, rfl⟩
  obtain ⟨bus, ran, call, calls, returned⟩ := ran
  obtain ⟨msgid, param, asked, outcome⟩ := queued mixedCall bus ran 0 call (by rw [calls]; rfl) returned
  cases asked
  have computed : reference [97] [5] (registered mixedLock mixedOnMsg mixedObjs [97]) =
      (false, [5, 7]) := by rfl
  exact ⟨bus, ran, by rw [calls, List.map_cons, outcome, computed]; rfl⟩

end MessageBus.Local
