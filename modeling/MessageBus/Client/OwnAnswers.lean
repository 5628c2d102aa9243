import MessageBus.Client.RemoteCalls

set_option autoImplicit false

namespace MessageBus.Client

-- What can become of one future, said without the tables of the manager.
inductive Life where
  | unanswered
  | answered (conn : ConnId) (pdata : Bytes)
  | stored (conn : ConnId) (pdata : Bytes)
  | finished (pdata : Bytes)
  deriving DecidableEq, Repr

namespace Life

def answer : Life -> Option Bytes
  | .unanswered => none
  | .answered _ pdata | .stored _ pdata | .finished pdata => some pdata

def content : Life -> Option Bytes
  | .unanswered | .answered _ _ => none
  | .stored _ pdata | .finished pdata => some pdata

def final : Life -> Option Bytes
  | .finished pdata => some pdata
  | _ => none

theorem answer_of_content {life : Life} {pdata : Bytes} (there : life.content = some pdata) :
    life.answer = some pdata := by
  cases life <;> simp_all [content, answer]

end Life

def Call.Sound (call : Call) (life : Life) : Prop :=
  match call.phase with
  | .writing (some future) => future = call.future
  | .waiting future => future = call.future
  | .joined future => future = call.future ∧ life.content.isSome = true
  | .returned true => call.sync = true → life.content = some call.rspContent
  | _ => True

theorem Call.Sound.later {call : Call} {life after : Life} (sound : call.Sound life)
    (kept : ∀ pdata, life.content = some pdata → after.content = some pdata) :
    call.Sound after := by
  unfold Call.Sound at sound ⊢
  split <;> simp_all
  obtain ⟨pdata, there⟩ := Option.isSome_iff_exists.mp sound.2
  simp [kept pdata there]

theorem Call.step_frame {call : Call} {mgr : FutureMgr} {event : CallEvent}
    {next : Call × FutureMgr} (taken : call.step mgr event = some next) :
    next.1.future = call.future ∧ next.1.futureId = call.futureId ∧
      (next.2 = mgr ∨ next.2 = mgr.safeRemoveFuture call.futureId) := by
  cases Call.step_moves taken with
  | removeFuture => exact ⟨rfl, rfl, .inr rfl⟩
  | _ => exact ⟨rfl, rfl, .inl rfl⟩

theorem Call.step_sound {call : Call} {mgr : FutureMgr} {event : CallEvent} {life : Life}
    {next : Call × FutureMgr} (sound : call.Sound life)
    (table : ∀ future : FutureRef, mgr.sendmsgRspContainer[call.futureId]? = some future →
      future = call.future)
    (contents : ∀ netFuture : NetFuture, mgr.futures[call.future]? = some netFuture →
      life.content = if netFuture.ready then some netFuture.rspContent else none)
    (taken : call.step mgr event = some next) : next.1.Sound life := by
  unfold Call.Sound at sound
  cases Call.step_moves taken with
  | connected | notConnected | sendFailed | noFuture | timeout => trivial
  | getFuture connected curSendmsgRsp found =>
    cases curSendmsgRsp with
    | none => trivial
    | some future => exact table future (found future rfl)
  | posted curSendmsgRsp writing async =>
    intro sync
    cases async.symm.trans sync
  | sent future writing =>
    rw [writing] at sound
    exact sound
  | join future netFuture waiting there ready =>
    rw [waiting] at sound
    rw [sound] at there
    exact ⟨sound, by simp [contents netFuture there, ready]⟩
  | readContent future netFuture joined there =>
    rw [joined] at sound
    rw [sound.1] at there
    intro _
    have content := contents netFuture there
    by_cases ready : netFuture.ready = true
    · simpa [ready] using content
    · simp [content, ready] at sound
  | removeFuture removals failed => cases removals <;> trivial

namespace Req2ReceiverMgr

def accepted (arrivals : List Arrival) (futureSid : UInt32) : List Bytes :=
  (arrivals.filter fun arrival => arrival.inTable && arrival.futureSid == futureSid).map
    Arrival.pdata

theorem firstAnswer_accepted (mgr : Req2ReceiverMgr) (futureSid : UInt32) :
    mgr.firstAnswer futureSid = (accepted mgr.arrivals futureSid).head? := by
  simp [firstAnswer, accepted, List.head?_map, List.head?_filter]

theorem accepted_append (arrivals : List Arrival) (futureSid id : UInt32) (pdata : Bytes)
    (inTable : Bool) : accepted (arrivals ++ [⟨futureSid, pdata, inTable⟩]) id =
      accepted arrivals id ++ if inTable = true ∧ futureSid = id then [pdata] else [] := by
  cases inTable <;> by_cases same : futureSid = id <;> simp [accepted, same]

theorem payloads_append (log : List (FutureRef × Bytes)) (future other : FutureRef)
    (pdata : Bytes) : payloads (log ++ [(future, pdata)]) other =
      payloads log other ++ if future = other then [pdata] else [] := by
  by_cases same : future = other <;> simp [payloads, same]

structure Follows (mgr : Req2ReceiverMgr) (life : FutureRef -> Life) : Prop where
  tracked : mgr.futureMgr.Tracked
  unborn : ∀ future, mgr.futureMgr.futures.length ≤ future → life future = .unanswered
  tabled : ∀ (id : UInt32) (future : FutureRef),
    mgr.futureMgr.sendmsgRspContainer[id]? = some future → life future = .unanswered
  reading : ∀ (conn : ConnId) (delivery : Delivery), mgr.reading[conn]? = some delivery →
    life delivery.future =
      if delivery.stored then .stored conn delivery.pdata else .answered conn delivery.pdata
  answers : ∀ (id : UInt32) (future : FutureRef), id.toNat = future + 1 →
    accepted mgr.arrivals id = (life future).answer.toList
  stores : ∀ future, payloads mgr.stores future = (life future).content.toList
  callbacks : ∀ future, payloads mgr.callbacks future = [] ∨
    payloads mgr.callbacks future = (life future).final.toList
  contents : ∀ (future : FutureRef) (netFuture : NetFuture),
    mgr.futureMgr.futures[future]? = some netFuture →
      (life future).content = if netFuture.ready then some netFuture.rspContent else none
  counted : mgr.calls.length = mgr.futureMgr.futures.length
  own : ∀ (index : Nat) (call : Call), mgr.calls[index]? = some call →
    call.future = index ∧ call.futureId.toNat = index + 1
  sound : ∀ call ∈ mgr.calls, call.Sound (life call.future)

theorem follows_initial : initial.Follows fun _ => .unanswered := by
  constructor
  case tracked => exact FutureMgr.tracked_initial
  all_goals simp [initial, FutureMgr.initial, accepted, payloads, Life.answer, Life.content]

variable {mgr : Req2ReceiverMgr} {life : FutureRef -> Life}

theorem Follows.entry (follows : mgr.Follows life)
    (few : mgr.futureMgr.futures.length < FutureMgr.idPeriod) {id : UInt32} {future : FutureRef}
    (there : mgr.futureMgr.sendmsgRspContainer[id]? = some future) :
    future < mgr.futureMgr.futures.length ∧ id.toNat = future + 1 := by
  have known := CyclicIds.Tracks.entries follows.tracked id future there
  exact ⟨known.1, by rw [known.2, Nat.mod_eq_of_lt (Nat.lt_trans known.1 few)]⟩

theorem Follows.shrink (follows : mgr.Follows life) {smaller : FutureMgr}
    (tracked : smaller.Tracked) (sameFutures : smaller.futures = mgr.futureMgr.futures)
    (within : ∀ (id : UInt32) (future : FutureRef), smaller.sendmsgRspContainer[id]? = some future →
      mgr.futureMgr.sendmsgRspContainer[id]? = some future) :
    Follows { mgr with futureMgr := smaller } life := by
  refine { follows with tracked, unborn := ?_, tabled := ?_, contents := ?_, counted := ?_ }
  · simpa only [sameFutures] using follows.unborn
  · exact fun id future there => follows.tabled id future (within id future there)
  · simpa only [sameFutures] using follows.contents
  · simpa only [sameFutures] using follows.counted

theorem startCall_follows (follows : mgr.Follows life)
    (few : mgr.futureMgr.futures.length < FutureMgr.idPeriod) (sync callback : Bool) (now : Int) :
    (mgr.startCall sync callback now).Follows life := by
  have free := CyclicIds.Tracks.free_of_few follows.tracked (by decide)
    (fun _ _ => UInt32.toNat.inj) mgr.futureMgr.nextFutureId_correct few
  have tracked := FutureMgr.safeInsertFuture_tracked follows.tracked callback now
  have newId : mgr.futureMgr.nextFutureId.toNat = mgr.futureMgr.futures.length + 1 := by
    rw [FutureMgr.nextFutureId_correct, follows.tracked.counted,
      CyclicIds.next_after _ _ (by decide), CyclicIds.after, Nat.mod_eq_of_lt few]
  have fresh := FutureMgr.safeInsertFuture_fresh callback now free
  unfold startCall
  rw [fresh] at tracked ⊢
  refine { follows with
    tracked, unborn := ?_, tabled := ?_, contents := ?_, counted := ?_, own := ?_, sound := ?_ }
  · intro future after
    simp only [List.length_append] at after
    exact follows.unborn future (by omega)
  · intro id future there
    simp only [Std.ExtTreeMap.getElem?_insert] at there
    split at there
    · cases there
      exact follows.unborn _ (Nat.le_refl _)
    · exact follows.tabled id future there
  · intro future netFuture there
    rcases Transition.found_in_concat there with older | ⟨rfl, rfl⟩
    · exact follows.contents future netFuture older
    · simp [follows.unborn _ (Nat.le_refl _), Life.content, NetFuture.new]
  · simp only [List.length_append, follows.counted, List.length_singleton]
  · intro index call there
    rcases Transition.found_in_concat there with older | ⟨rfl, rfl⟩
    · exact follows.own index call older
    · exact ⟨follows.counted.symm, by rw [follows.counted, ← newId]⟩
  · intro call member
    rcases List.mem_append.mp member with older | newer
    · exact follows.sound call older
    · rw [List.mem_singleton.mp newer]
      trivial

theorem call_follows (follows : mgr.Follows life)
    (few : mgr.futureMgr.futures.length < FutureMgr.idPeriod) {index : Nat} {call : Call}
    (there : mgr.calls[index]? = some call) {event : CallEvent} {next : Call × FutureMgr}
    (taken : call.step mgr.futureMgr event = some next) :
    Follows { mgr with calls := mgr.calls.set index next.1, futureMgr := next.2 } life := by
  have own := follows.own index call there
  have member : call ∈ mgr.calls := List.mem_of_getElem? there
  obtain ⟨sameFuture, sameId, table⟩ := Call.step_frame taken
  have sound : next.1.Sound (life call.future) := by
    apply Call.step_sound (follows.sound call member) _ (follows.contents call.future) taken
    intro future found
    rw [own.1]
    exact Nat.succ.inj ((follows.entry few found).2.symm.trans own.2)
  have after : Follows { mgr with futureMgr := next.2 } life := by
    rcases table with same | removed
    · rw [same]
      exact follows
    · rw [removed]
      exact follows.shrink (FutureMgr.safeRemoveFuture_tracked follows.tracked call.futureId) rfl
        fun id future found => (FutureMgr.safeRemoveFuture_within call.futureId id future found).2
  refine { after with counted := ?_, own := ?_, sound := ?_ }
  · simpa only [List.length_set] using after.counted
  · intro other changed found
    rcases Transition.found_in_set found with ⟨rfl, rfl⟩ | older
    · rw [sameFuture, sameId]
      exact own
    · exact follows.own other changed older.2
  · intro changed found
    rcases List.mem_or_eq_of_mem_set found with older | rfl
    · exact follows.sound changed older
    · rw [sameFuture]
      exact sound

theorem Follows.unborn_update (follows : mgr.Follows life) {future : FutureRef} {after : Life}
    (born : future < mgr.futureMgr.futures.length) (other : FutureRef)
    (later : mgr.futureMgr.futures.length ≤ other) :
    Function.update life future after other = .unanswered := by
  have younger : other ≠ future := fun same => Nat.not_le_of_lt born (same ▸ later)
  rw [Function.update_of_ne younger]
  exact follows.unborn other later

theorem Follows.stores_update (follows : mgr.Follows life) {future : FutureRef} {after : Life}
    (stores : payloads mgr.stores future = after.content.toList) (other : FutureRef) :
    payloads mgr.stores other = (Function.update life future after other).content.toList := by
  by_cases same : other = future
  · rw [same, Function.update_self, stores]
  · rw [Function.update_of_ne same]
    exact follows.stores other

theorem Follows.callbacks_update (follows : mgr.Follows life) {future : FutureRef} {after : Life}
    (callbacks : payloads mgr.callbacks future = [] ∨
      payloads mgr.callbacks future = after.final.toList) (other : FutureRef) :
    payloads mgr.callbacks other = [] ∨
      payloads mgr.callbacks other = (Function.update life future after other).final.toList := by
  by_cases same : other = future
  · rwa [same, Function.update_self]
  · rw [Function.update_of_ne same]
    exact follows.callbacks other

theorem Follows.contents_update (follows : mgr.Follows life) {future : FutureRef} {after : Life}
    (contents : ∀ netFuture : NetFuture, mgr.futureMgr.futures[future]? = some netFuture →
      after.content = if netFuture.ready then some netFuture.rspContent else none)
    (other : FutureRef) (netFuture : NetFuture)
    (there : mgr.futureMgr.futures[other]? = some netFuture) :
    (Function.update life future after other).content =
      if netFuture.ready then some netFuture.rspContent else none := by
  by_cases same : other = future
  · subst same
    rw [Function.update_self]
    exact contents netFuture there
  · rw [Function.update_of_ne same]
    exact follows.contents other netFuture there

theorem Follows.sound_update (follows : mgr.Follows life) {future : FutureRef} {after : Life}
    (kept : ∀ pdata, (life future).content = some pdata → after.content = some pdata) :
    ∀ call ∈ mgr.calls, call.Sound (Function.update life future after call.future) := by
  intro call member
  have sound := follows.sound call member
  by_cases same : call.future = future
  · rw [same] at sound
    rw [same, Function.update_self]
    exact sound.later kept
  · rw [Function.update_of_ne same]
    exact sound

theorem Follows.reading_apart (follows : mgr.Follows life) {conn reader : ConnId}
    {delivery other : Delivery} (there : mgr.reading[conn]? = some delivery)
    (otherThere : mgr.reading[reader]? = some other) (different : reader ≠ conn) :
    other.future ≠ delivery.future := by
  intro same
  have state := follows.reading reader other otherThere
  rw [same, follows.reading conn delivery there] at state
  split at state <;> split at state
  · exact different (Life.stored.inj state).1.symm
  · cases state
  · cases state
  · exact different (Life.answered.inj state).1.symm

theorem Follows.reading_update (follows : mgr.Follows life) {conn reader : ConnId}
    {delivery other : Delivery} {after : Life} (there : mgr.reading[conn]? = some delivery)
    (different : conn ≠ reader) (otherThere : mgr.reading[reader]? = some other) :
    Function.update life delivery.future after other.future =
      if other.stored then .stored reader other.pdata else .answered reader other.pdata := by
  have apart := follows.reading_apart there otherThere (Ne.symm different)
  rw [Function.update_of_ne apart]
  exact follows.reading reader other otherThere

theorem Follows.answered (follows : mgr.Follows life) {future : FutureRef} {pdata : Bytes}
    (before : (life future).answer = some pdata) :
    future < mgr.futureMgr.futures.length ∧
    ∀ after : Life, after.answer = some pdata →
      (∀ (id : UInt32) (other : FutureRef),
        mgr.futureMgr.sendmsgRspContainer[id]? = some other →
          Function.update life future after other = .unanswered) ∧
      (∀ (id : UInt32) (other : FutureRef), id.toNat = other + 1 →
        accepted mgr.arrivals id = (Function.update life future after other).answer.toList) := by
  have known : life future ≠ .unanswered := by
    intro same
    rw [same] at before
    cases before
  refine ⟨?_, ?_⟩
  · by_contra late
    exact known (follows.unborn future (Nat.le_of_not_lt late))
  · intro after same
    refine ⟨?_, ?_⟩
    · intro id other there
      have free := follows.tabled id other there
      have different : other ≠ future := fun equal => known (equal ▸ free)
      rw [Function.update_of_ne different]
      exact free
    · intro id
      refine (Function.forall_update_iff life fun other state => id.toNat = other + 1 →
        accepted mgr.arrivals id = state.answer.toList).mpr ⟨?_, fun other _ =>
          follows.answers id other⟩
      intro equal
      rw [follows.answers id future equal, before, same]

theorem frame_follows (follows : mgr.Follows life)
    (few : mgr.futureMgr.futures.length < FutureMgr.idPeriod) {conn : ConnId} {futureSid : UInt32}
    {pdata : Bytes} {following : Req2ReceiverMgr}
    (taken : mgr.step (.frame conn futureSid pdata) = some following) :
    ∃ after, following.Follows after := by
  simp only [step] at taken
  split at taken
  · cases taken
  next idle =>
    cases found : mgr.futureMgr.sendmsgRspContainer[futureSid]? with
    | none =>
      simp only [FutureMgr.safeGetFuture, found, Option.isSome_none, Option.some.injEq] at taken
      subst taken
      refine ⟨life, { follows with answers := ?_ }⟩
      intro id future known
      rw [accepted_append]
      simpa using follows.answers id future known
    | some future =>
      have entry := follows.entry few found
      have before := follows.tabled futureSid future found
      have stores := follows.stores future
      have callbacks := follows.callbacks future
      have contents := follows.contents future
      rw [before] at stores callbacks contents
      have removed (id : UInt32) (other : FutureRef)
          (there : (mgr.futureMgr.safeRemoveFuture futureSid).sendmsgRspContainer[id]? =
            some other) : other ≠ future := by
        intro same
        have within := FutureMgr.safeRemoveFuture_within futureSid id other there
        apply within.1
        apply UInt32.toNat.inj
        rw [entry.2, (follows.entry few within.2).2, same]
      simp only [FutureMgr.safeGetFuture, found, Option.isSome_some, if_true,
        Option.some.injEq] at taken
      subst taken
      have smaller := follows.shrink
        (FutureMgr.safeRemoveFuture_tracked follows.tracked futureSid) rfl
        fun id other there => (FutureMgr.safeRemoveFuture_within futureSid id other there).2
      refine ⟨Function.update life future (.answered conn pdata), {
        tracked := smaller.tracked
        unborn := ?_
        tabled := ?_
        reading := ?_
        answers := ?_
        stores := ?_
        callbacks := ?_
        contents := ?_
        counted := follows.counted
        own := follows.own
        sound := ?_ }⟩
      · exact follows.unborn_update entry.1
      · intro id other there
        rw [Function.update_of_ne (removed id other there)]
        exact smaller.tabled id other there
      · intro reader delivery there
        rcases Tables.of_insert there with ⟨rfl, rfl⟩ | ⟨_, older⟩
        · simp
        · have life := follows.reading reader delivery older
          have different : delivery.future ≠ future := by
            intro same
            rw [same, before] at life
            split at life <;> cases life
          rw [Function.update_of_ne different]
          exact life
      · intro id other known
        rw [accepted_append]
        by_cases same : other = future
        · have sameId : futureSid = id := UInt32.toNat.inj (by rw [entry.2, known, same])
          have none := follows.answers id other known
          rw [same, before] at none
          simpa [same, sameId, Life.answer] using none
        · have otherId : futureSid ≠ id := by
            intro sameId
            rw [sameId, known] at entry
            exact same (Nat.succ.inj entry.2)
          rw [Function.update_of_ne same]
          simpa [otherId] using follows.answers id other known
      · exact follows.stores_update stores
      · exact follows.callbacks_update callbacks
      · exact follows.contents_update contents
      · apply follows.sound_update
        intro _ impossible
        rw [before] at impossible
        cases impossible

theorem store_follows (follows : mgr.Follows life) {conn : ConnId} {following : Req2ReceiverMgr}
    (taken : mgr.step (.store conn) = some following) : ∃ after, following.Follows after := by
  simp only [step] at taken
  split at taken
  next future pdata found =>
    have before := follows.reading conn _ found
    simp only [Bool.false_eq_true, if_false] at before
    have stores := follows.stores future
    have callbacks := follows.callbacks future
    rw [before] at stores callbacks
    have answer : (life future).answer = some pdata := by
      rw [before]
      rfl
    have answered := follows.answered answer
    have kept := answered.2 (.stored conn pdata) rfl
    cases taken
    refine ⟨Function.update life future (.stored conn pdata), {
      tracked := ?_
      unborn := ?_
      tabled := kept.1
      reading := ?_
      answers := kept.2
      stores := ?_
      callbacks := ?_
      contents := ?_
      counted := ?_
      own := follows.own
      sound := ?_ }⟩
    · simpa only [FutureMgr.setResult, FutureMgr.Tracked, List.length_modify] using follows.tracked
    · simpa only [FutureMgr.setResult, List.length_modify] using follows.unborn_update answered.1
    · intro reader delivery there
      rcases Tables.of_insert there with ⟨rfl, rfl⟩ | ⟨other, older⟩
      · simp
      · exact follows.reading_update found other older
    · intro other
      rw [payloads_append]
      by_cases same : other = future
      · simpa [same, Life.content] using stores
      · rw [Function.update_of_ne same, if_neg (Ne.symm same), List.append_nil]
        exact follows.stores other
    · exact follows.callbacks_update callbacks
    · intro other netFuture there
      simp only [FutureMgr.setResult, List.getElem?_modify] at there
      obtain ⟨older, found, changed⟩ := Option.map_eq_some_iff.mp there
      by_cases same : other = future
      · subst same
        simp only [if_true] at changed
        simp [← changed, NetFuture.setResult, Life.content]
      · rw [Function.update_of_ne same]
        rw [if_neg (Ne.symm same)] at changed
        exact changed ▸ follows.contents other older found
    · simpa only [FutureMgr.setResult, List.length_modify] using follows.counted
    · apply follows.sound_update
      intro _ impossible
      rw [before] at impossible
      cases impossible
  next => cases taken

theorem callback_follows (follows : mgr.Follows life) {conn : ConnId}
    {following : Req2ReceiverMgr} (taken : mgr.step (.callback conn) = some following) :
    ∃ after, following.Follows after := by
  simp only [step] at taken
  split at taken
  next future pdata found =>
    obtain ⟨netFuture, there, rfl⟩ := Option.map_eq_some_iff.mp taken
    have before := follows.reading conn _ found
    simp only [if_true] at before
    have stores := follows.stores future
    have callbacks := follows.callbacks future
    have contents := follows.contents future
    rw [before] at stores callbacks contents
    have answer : (life future).answer = some pdata := by
      rw [before]
      rfl
    have answered := follows.answered answer
    have kept := answered.2 (.finished pdata) rfl
    refine ⟨Function.update life future (.finished pdata), {
      tracked := follows.tracked
      unborn := follows.unborn_update answered.1
      tabled := kept.1
      reading := ?_
      answers := kept.2
      stores := ?_
      callbacks := ?_
      contents := ?_
      counted := follows.counted
      own := follows.own
      sound := ?_ }⟩
    · intro reader delivery there
      obtain ⟨other, older⟩ := Tables.of_erase there
      exact follows.reading_update found other older
    · exact follows.stores_update stores
    · have content : netFuture.rspContent = pdata := by
        have equal := contents netFuture there
        simp only [Life.content] at equal
        split at equal <;> cases equal
        rfl
      simp only [Life.final, Option.toList_none, or_self] at callbacks
      intro other
      cases netFuture.callback with
      | false =>
        by_cases same : other = future
        · simp [same, callbacks]
        · rw [Function.update_of_ne same]
          simpa using follows.callbacks other
      | true =>
        simp only [if_true, content]
        rw [payloads_append]
        by_cases same : other = future
        · simp [same, callbacks, Life.final]
        · rw [Function.update_of_ne same, if_neg (Ne.symm same), List.append_nil]
          exact follows.callbacks other
    · exact follows.contents_update contents
    · apply follows.sound_update
      intro stored there
      rw [before] at there
      exact there
  next => cases taken

theorem startCall_created (mgr : Req2ReceiverMgr) (sync callback : Bool) (now : Int) :
    mgr.futureMgr.futures.length ≤ (mgr.startCall sync callback now).futureMgr.futures.length := by
  simp [startCall, FutureMgr.safeInsertFuture_futures]

theorem created_le {mgr following : Req2ReceiverMgr} {event : Event}
    (taken : mgr.step event = some following) :
    mgr.futureMgr.futures.length ≤ following.futureMgr.futures.length := by
  cases event with
  | setRunning | clearBadFuture =>
    cases taken
    exact Nat.le_refl _
  | sendMsgDirectToClient destIp now =>
    simp only [step] at taken
    split at taken <;> cases taken
    · exact Nat.le_refl _
    · exact startCall_created mgr true false now
  | postMsgDirectToClient destIp callback now =>
    simp only [step] at taken
    split at taken <;> cases taken
    · exact Nat.le_refl _
    · exact startCall_created mgr false callback now
  | call index event =>
    simp only [step, Option.bind_eq_some_iff, Option.map_eq_some_iff] at taken
    obtain ⟨call, _, next, taken, rfl⟩ := taken
    rcases (Call.step_frame taken).2.2 with same | removed
    · exact Nat.le_of_eq (congrArg (fun futureMgr => futureMgr.futures.length) same.symm)
    · exact Nat.le_of_eq (congrArg (fun futureMgr => futureMgr.futures.length) removed.symm)
  | frame conn futureSid pdata =>
    have same := FutureMgr.safeGetFuture_futures mgr.futureMgr futureSid true
    simp only [step] at taken
    split at taken
    · cases taken
    · split at taken <;> cases taken <;> simp [same]
  | store conn =>
    simp only [step] at taken
    split at taken <;> cases taken
    simp [FutureMgr.setResult]
  | callback conn =>
    simp only [step] at taken
    split at taken
    · obtain ⟨_, _, rfl⟩ := Option.map_eq_some_iff.mp taken
      exact Nat.le_refl _
    · cases taken

theorem step_follows (follows : mgr.Follows life)
    (few : mgr.futureMgr.futures.length < FutureMgr.idPeriod) {event : Event}
    {following : Req2ReceiverMgr} (taken : mgr.step event = some following) :
    ∃ after, following.Follows after := by
  cases event with
  | setRunning running =>
    cases taken
    exact ⟨life, { follows with }⟩
  | sendMsgDirectToClient destIp now =>
    simp only [step] at taken
    split at taken <;> cases taken
    · exact ⟨life, follows⟩
    · exact ⟨life, startCall_follows follows few true false now⟩
  | postMsgDirectToClient destIp callback now =>
    simp only [step] at taken
    split at taken <;> cases taken
    · exact ⟨life, follows⟩
    · exact ⟨life, startCall_follows follows few false callback now⟩
  | call index event =>
    simp only [step, Option.bind_eq_some_iff, Option.map_eq_some_iff] at taken
    obtain ⟨call, there, next, taken, rfl⟩ := taken
    exact ⟨life, call_follows follows few there taken⟩
  | frame conn futureSid pdata => exact frame_follows follows few taken
  | store conn => exact store_follows follows taken
  | callback conn => exact callback_follows follows taken
  | clearBadFuture now =>
    cases taken
    exact ⟨life, follows.shrink (FutureMgr.safeClearBadFuture_tracked follows.tracked now) rfl
      (FutureMgr.safeClearBadFuture_within now)⟩

theorem reachable_follows {mgr : Req2ReceiverMgr} (reached : Transition.Reachable step initial mgr)
    (few : mgr.futureMgr.futures.length < FutureMgr.idPeriod) : ∃ life, mgr.Follows life := by
  refine reached.invariant (fun state => state.futureMgr.futures.length < FutureMgr.idPeriod →
    ∃ life, state.Follows life) (fun _ => ⟨_, follows_initial⟩) ?_ few
  intro before event following holds _ taken few
  have earlier := Nat.lt_of_le_of_lt (created_le taken) few
  obtain ⟨life, follows⟩ := holds earlier
  exact step_follows follows earlier taken

theorem Follows.firstAnswer (follows : mgr.Follows life) {call : Call} (member : call ∈ mgr.calls) :
    mgr.firstAnswer call.futureId = (life call.future).answer := by
  obtain ⟨index, there⟩ := List.getElem?_of_mem member
  have own := follows.own index call there
  rw [firstAnswer_accepted, follows.answers call.futureId call.future (by rw [own.2, own.1])]
  cases (life call.future).answer <;> rfl

theorem Follows.ownAnswers (follows : mgr.Follows life) : mgr.OwnAnswers := by
  have stored {call : Call} {pdata : Bytes} (member : call ∈ mgr.calls)
      (there : (life call.future).content = some pdata) :
      mgr.firstAnswer call.futureId = some pdata := by
    rw [follows.firstAnswer member]
    exact Life.answer_of_content there
  constructor
  case apart =>
    intro i j call other callThere otherThere same
    have callOwn := follows.own i call callThere
    have otherOwn := follows.own j other otherThere
    rcases same with future | futureId
    · rw [← callOwn.1, ← otherOwn.1, future]
    · rw [futureId, otherOwn.2] at callOwn
      exact (Nat.succ.inj callOwn.2).symm
  case setOnce =>
    intro future
    rw [follows.stores future]
    cases (life future).content <;> simp
  case calledBackOnce =>
    intro future
    rcases follows.callbacks future with none | final
    · simp [none]
    · rw [final]
      cases (life future).final <;> simp
  case storesFirst =>
    intro call member pdata there
    rw [follows.stores, Option.mem_toList] at there
    exact stored member there
  case callsBackFirst =>
    intro call member pdata there
    rcases follows.callbacks call.future with none | final
    · simp [none] at there
    · rw [final, Option.mem_toList] at there
      apply stored member
      cases state : life call.future <;> simp_all [Life.final, Life.content]
  case keeps =>
    intro future netFuture there ready
    rw [follows.stores future, follows.contents future netFuture there, if_pos ready]
    rfl
  case returnsFirst =>
    intro call member sync returned
    have sound := follows.sound call member
    simp only [Call.Sound, returned] at sound
    exact stored member (sound sync)
  case unknown =>
    intro conn futureSid pdata following missing taken
    simp only [step] at taken
    split at taken
    · cases taken
    · simp only [FutureMgr.safeGetFuture, missing] at taken
      cases taken
      exact ⟨rfl, rfl, rfl, rfl⟩

theorem remote_calls_get_own_answers (mgr : Req2ReceiverMgr)
    (reached : Transition.Reachable step initial mgr)
    (few : mgr.futureMgr.futures.length < FutureMgr.idPeriod) : mgr.OwnAnswers := by
  obtain ⟨life, follows⟩ := reachable_follows reached few
  exact follows.ownAnswers

-- A synchronous and a posted call share a connection and are answered in the other order.
def sampleEvents : List Event :=
  [.setRunning true, .sendMsgDirectToClient [49] 0, .postMsgDirectToClient [49] true 0,
    .call 0 (.connect true), .call 1 (.connect true), .call 0 .getFuture, .call 1 .getFuture,
    .call 1 (.sendData true), .call 0 (.sendData true), .frame 5 2 [7], .store 5, .callback 5,
    .frame 5 1 [8], .frame 6 1 [9], .store 5, .call 0 .join, .call 0 .readContent]

def sampleMgr : Req2ReceiverMgr := (Transition.run step initial sampleEvents).getD initial

theorem sampleMgr_answers : sampleMgr.calls.map Call.rspContent = [[8], []] ∧
    sampleMgr.OwnAnswers :=
  ⟨by decide, remote_calls_get_own_answers sampleMgr
    (.run .start sampleEvents rfl) (by decide)⟩

end Req2ReceiverMgr
end MessageBus.Client
