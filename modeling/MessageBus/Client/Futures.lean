import MessageBus.Shared.Bytes
import MessageBus.Shared.CyclicIds
import MessageBus.Shared.Tables
import MessageBus.Shared.Transition

set_option autoImplicit false

namespace MessageBus.Client

-- A shared_ptr to a NetFuture: futures are numbered by their creation.
abbrev FutureRef := Nat

structure NetFuture where
  ready : Bool
  hasError : Bool
  rspContent : Bytes
  generatedTime : Int
  callback : Bool
  deriving DecidableEq, Repr

namespace NetFuture

def maxExistTime : Int := 120

def new (callback : Bool) (generatedTime : Int) : NetFuture :=
  { ready := false, hasError := false, rspContent := [], generatedTime, callback }

-- The part of set_result under wait_lock_; the callback runs after it.
def setResult (future : NetFuture) (pdata : Bytes) : NetFuture :=
  { future with rspContent := pdata, ready := true }

def isBad (future : NetFuture) (now : Int) : Bool := now - future.generatedTime > maxExistTime

end NetFuture

structure FutureMgr where
  futureIncId : UInt32
  sendmsgRspContainer : Std.ExtTreeMap UInt32 FutureRef
  -- Every future ever created, in order.
  futures : List NetFuture

structure InsertedFuture where
  futureId : UInt32
  future : FutureRef
  inserted : Bool
  deriving DecidableEq, Repr

namespace FutureMgr

def initial : FutureMgr := { futureIncId := 0, sendmsgRspContainer := ∅, futures := [] }

def nextFutureId (mgr : FutureMgr) : UInt32 :=
  let futureIncId := mgr.futureIncId + 1
  if futureIncId = 0 then futureIncId + 1 else futureIncId

def safeInsertFuture (mgr : FutureMgr) (callback : Bool) (now : Int) :
    InsertedFuture × FutureMgr :=
  let waitingFutureId := mgr.nextFutureId
  let created := { mgr with
    futureIncId := waitingFutureId
    futures := mgr.futures ++ [NetFuture.new callback now] }
  match mgr.sendmsgRspContainer[waitingFutureId]? with
  | some present =>
    ({ futureId := waitingFutureId, future := present, inserted := false }, created)
  | none =>
    ({ futureId := waitingFutureId, future := mgr.futures.length, inserted := true },
      { created with sendmsgRspContainer :=
          mgr.sendmsgRspContainer.insert waitingFutureId mgr.futures.length })

def safeGetFuture (mgr : FutureMgr) (futureSid : UInt32) (erase : Bool) :
    Option FutureRef × FutureMgr :=
  match mgr.sendmsgRspContainer[futureSid]? with
  | some future =>
    (some future, if erase then
      { mgr with sendmsgRspContainer := mgr.sendmsgRspContainer.erase futureSid } else mgr)
  | none => (none, mgr)

def safeRemoveFuture (mgr : FutureMgr) (futureSid : UInt32) : FutureMgr :=
  { mgr with sendmsgRspContainer := mgr.sendmsgRspContainer.erase futureSid }

def refIsBad (mgr : FutureMgr) (now : Int) (future : FutureRef) : Bool :=
  (mgr.futures[future]?).any fun netFuture => netFuture.isBad now

def safeClearBadFuture (mgr : FutureMgr) (now : Int) : FutureMgr :=
  { mgr with sendmsgRspContainer :=
      mgr.sendmsgRspContainer.filter fun _ future => !mgr.refIsBad now future }

-- The ids are 1 to 2^32 - 1.
def idPeriod : Nat := 4294967295

def Tracked (mgr : FutureMgr) : Prop :=
  CyclicIds.Tracks idPeriod UInt32.toNat mgr.futureIncId.toNat mgr.futures.length
    fun id => mgr.sendmsgRspContainer[id]?

theorem nextFutureId_correct (mgr : FutureMgr) :
    mgr.nextFutureId.toNat = CyclicIds.next idPeriod mgr.futureIncId.toNat := by
  have bound := mgr.futureIncId.toNat_lt
  have step : (mgr.futureIncId + 1).toNat = (mgr.futureIncId.toNat + 1) % 2 ^ 32 :=
    UInt32.toNat_add _ _
  by_cases last : mgr.futureIncId.toNat = idPeriod
  · have zero : mgr.futureIncId + 1 = 0 := by
      apply UInt32.toNat.inj
      rw [step, last]
      rfl
    simp [nextFutureId, CyclicIds.next, zero, last]
  · have below : mgr.futureIncId.toNat < idPeriod := by
      simp only [idPeriod] at last ⊢
      omega
    have count : (mgr.futureIncId + 1).toNat = mgr.futureIncId.toNat + 1 := by
      simp only [idPeriod] at below
      rw [step]
      omega
    have nonzero : mgr.futureIncId + 1 ≠ 0 := by
      intro zero
      rw [zero] at count
      cases count
    simp [nextFutureId, CyclicIds.next, nonzero, below, count]

theorem nextFutureId_ne_zero (mgr : FutureMgr) : mgr.nextFutureId ≠ 0 := by
  intro zero
  have correct := mgr.nextFutureId_correct
  rw [zero] at correct
  simp only [CyclicIds.next] at correct
  split at correct <;> cases correct

theorem safeInsertFuture_fresh {mgr : FutureMgr} (callback : Bool) (now : Int)
    (free : mgr.sendmsgRspContainer[mgr.nextFutureId]? = none) :
    mgr.safeInsertFuture callback now =
      ({ futureId := mgr.nextFutureId, future := mgr.futures.length, inserted := true },
        { futureIncId := mgr.nextFutureId
          sendmsgRspContainer := mgr.sendmsgRspContainer.insert mgr.nextFutureId mgr.futures.length
          futures := mgr.futures ++ [NetFuture.new callback now] }) := by
  simp only [safeInsertFuture, free]

theorem safeInsertFuture_clash {mgr : FutureMgr} (callback : Bool) (now : Int) {present : FutureRef}
    (taken : mgr.sendmsgRspContainer[mgr.nextFutureId]? = some present) :
    mgr.safeInsertFuture callback now =
      ({ futureId := mgr.nextFutureId, future := present, inserted := false },
        { mgr with
          futureIncId := mgr.nextFutureId
          futures := mgr.futures ++ [NetFuture.new callback now] }) := by
  simp only [safeInsertFuture, taken]

theorem safeInsertFuture_futures (mgr : FutureMgr) (callback : Bool) (now : Int) :
    (mgr.safeInsertFuture callback now).2.futures =
      mgr.futures ++ [NetFuture.new callback now] := by
  cases found : mgr.sendmsgRspContainer[mgr.nextFutureId]? with
  | none => rw [safeInsertFuture_fresh callback now found]
  | some present => rw [safeInsertFuture_clash callback now found]

theorem safeGetFuture_futures (mgr : FutureMgr) (futureSid : UInt32) (erase : Bool) :
    (mgr.safeGetFuture futureSid erase).2.futures = mgr.futures := by
  unfold safeGetFuture
  split
  · cases erase <;> rfl
  · rfl

theorem tracked_initial : initial.Tracked := by
  have start : CyclicIds.Tracks idPeriod UInt32.toNat 0 0 fun _ => none := .initial
  simpa [Tracked, initial] using start

inductive Op where
  | insert (callback : Bool) (now : Int)
  | get (futureSid : UInt32) (erase : Bool)
  | remove (futureSid : UInt32)
  | clearBad (now : Int)
  deriving DecidableEq, Repr

def step (mgr : FutureMgr) : Op -> Option FutureMgr
  | .insert callback now => some (mgr.safeInsertFuture callback now).2
  | .get futureSid erase => some (mgr.safeGetFuture futureSid erase).2
  | .remove futureSid => some (mgr.safeRemoveFuture futureSid)
  | .clearBad now => some (mgr.safeClearBadFuture now)

theorem safeInsertFuture_tracked {mgr : FutureMgr} (tracked : mgr.Tracked) (callback : Bool)
    (now : Int) : (mgr.safeInsertFuture callback now).2.Tracked := by
  have allocated := mgr.nextFutureId_correct
  have created (larger : UInt32 -> Option Nat) (within : ∀ id serial, larger id = some serial →
      mgr.sendmsgRspContainer[id]? = some serial ∨
        id = mgr.nextFutureId ∧ serial = mgr.futures.length) :=
    CyclicIds.Tracks.create tracked (by decide) allocated within
  cases found : mgr.sendmsgRspContainer[mgr.nextFutureId]? with
  | none =>
    rw [safeInsertFuture_fresh callback now found]
    simp only [Tracked, allocated, List.length_append, List.length_singleton]
    apply created
    intro id serial there
    rcases Tables.of_insert there with ⟨same, ofFuture⟩ | ⟨_, older⟩
    · exact .inr ⟨same.symm, ofFuture.symm⟩
    · exact .inl older
  | some present =>
    rw [safeInsertFuture_clash callback now found]
    simp only [Tracked, allocated, List.length_append, List.length_singleton]
    exact created _ fun _ _ there => .inl there

theorem safeRemoveFuture_within {mgr : FutureMgr} (futureSid id : UInt32) (future : FutureRef)
    (there : (mgr.safeRemoveFuture futureSid).sendmsgRspContainer[id]? = some future) :
    futureSid ≠ id ∧ mgr.sendmsgRspContainer[id]? = some future := by
  exact Tables.of_erase there

theorem safeClearBadFuture_within {mgr : FutureMgr} (now : Int) (id : UInt32) (future : FutureRef)
    (there : (mgr.safeClearBadFuture now).sendmsgRspContainer[id]? = some future) :
    mgr.sendmsgRspContainer[id]? = some future := by
  simp only [safeClearBadFuture, Std.ExtTreeMap.getElem?_filter', Option.filter_eq_some_iff] at there
  exact there.1

theorem safeRemoveFuture_tracked {mgr : FutureMgr} (tracked : mgr.Tracked) (futureSid : UInt32) :
    (mgr.safeRemoveFuture futureSid).Tracked :=
  CyclicIds.Tracks.shrink tracked fun id future there =>
    (safeRemoveFuture_within futureSid id future there).2

theorem safeGetFuture_tracked {mgr : FutureMgr} (tracked : mgr.Tracked) (futureSid : UInt32)
    (erase : Bool) : (mgr.safeGetFuture futureSid erase).2.Tracked := by
  unfold safeGetFuture
  cases mgr.sendmsgRspContainer[futureSid]? with
  | none => exact tracked
  | some future =>
    cases erase with
    | false => exact tracked
    | true => exact safeRemoveFuture_tracked tracked futureSid

theorem safeClearBadFuture_tracked {mgr : FutureMgr} (tracked : mgr.Tracked) (now : Int) :
    (mgr.safeClearBadFuture now).Tracked :=
  CyclicIds.Tracks.shrink tracked (safeClearBadFuture_within now)

theorem reachable_tracked {mgr : FutureMgr} (reached : Transition.Reachable step initial mgr) :
    mgr.Tracked := by
  refine reached.invariant Tracked tracked_initial ?_
  intro mgr op following tracked _ taken
  cases op with
  | insert callback now => exact Option.some.inj taken ▸ safeInsertFuture_tracked tracked callback now
  | get futureSid erase => exact Option.some.inj taken ▸ safeGetFuture_tracked tracked futureSid erase
  | remove futureSid => exact Option.some.inj taken ▸ safeRemoveFuture_tracked tracked futureSid
  | clearBad now => exact Option.some.inj taken ▸ safeClearBadFuture_tracked tracked now

structure InsertIsFresh (mgr : FutureMgr) (callback : Bool) (now : Int) : Prop where
  nonzero : (mgr.safeInsertFuture callback now).1.futureId ≠ 0
  unused : mgr.sendmsgRspContainer[(mgr.safeInsertFuture callback now).1.futureId]? = none
  inserted : (mgr.safeInsertFuture callback now).1.inserted = true
  own : (mgr.safeInsertFuture callback now).1.future = mgr.futures.length
  kept : ∀ (id : UInt32) (future : FutureRef), mgr.sendmsgRspContainer[id]? = some future →
    (mgr.safeInsertFuture callback now).2.sendmsgRspContainer[id]? = some future

theorem insertIsFresh_of_free {mgr : FutureMgr} (callback : Bool) (now : Int)
    (free : mgr.sendmsgRspContainer[mgr.nextFutureId]? = none) :
    mgr.InsertIsFresh callback now := by
  constructor <;> rw [safeInsertFuture_fresh callback now free]
  · exact mgr.nextFutureId_ne_zero
  · exact free
  · intro id future there
    exact Tables.insert_fresh free there

theorem insertIsFresh_iff {mgr : FutureMgr} (tracked : mgr.Tracked) (callback : Bool) (now : Int) :
    mgr.InsertIsFresh callback now ↔ ∀ (id : UInt32) (future : FutureRef),
      mgr.sendmsgRspContainer[id]? = some future → ¬ idPeriod ∣ mgr.futures.length - future := by
  have free := CyclicIds.Tracks.free_iff tracked (by decide) (fun _ _ => UInt32.toNat.inj)
    mgr.nextFutureId_correct
  refine Iff.trans ⟨?_, insertIsFresh_of_free callback now⟩ free
  intro fresh
  cases found : mgr.sendmsgRspContainer[mgr.nextFutureId]? with
  | none => rfl
  | some present =>
    have inserted := fresh.inserted
    rw [safeInsertFuture_clash callback now found] at inserted
    cases inserted

theorem remove_inserted {mgr : FutureMgr} (callback : Bool) (now : Int)
    (free : mgr.sendmsgRspContainer[mgr.nextFutureId]? = none) :
    ((mgr.safeInsertFuture callback now).2.safeRemoveFuture mgr.nextFutureId).sendmsgRspContainer =
      mgr.sendmsgRspContainer := by
  rw [safeInsertFuture_fresh callback now free]
  apply Std.ExtTreeMap.ext_getElem?
  intro id
  simp only [safeRemoveFuture, Std.ExtTreeMap.getElem?_erase, Std.ExtTreeMap.getElem?_insert,
    Std.LawfulEqCmp.compare_eq_iff_eq]
  by_cases same : mgr.nextFutureId = id
  · rw [if_pos same, ← same, free]
  · rw [if_neg same, if_neg same]

-- The first future is left alone while every later one is removed again.
theorem first_future_kept (later : Nat) (below : later < idPeriod) :
    ∃ mgr, Transition.Reachable step initial mgr ∧ mgr.futures.length = later + 1 ∧
      mgr.sendmsgRspContainer = (∅ : Std.ExtTreeMap UInt32 FutureRef).insert 1 0 := by
  induction later with
  | zero => exact ⟨(initial.safeInsertFuture false 0).2, .next (.insert false 0) .start trivial rfl, rfl, rfl⟩
  | succ later ih =>
    obtain ⟨mgr, reached, created, table⟩ := ih (by omega)
    have free : mgr.sendmsgRspContainer[mgr.nextFutureId]? = none := by
      apply CyclicIds.Tracks.free_iff (reachable_tracked reached) (by decide)
        (fun _ _ => UInt32.toNat.inj) mgr.nextFutureId_correct |>.mpr
      intro id future there divides
      rw [table, Std.ExtTreeMap.getElem?_insert] at there
      have first : future = 0 := by
        split at there
        · exact (Option.some.inj there).symm
        · cases there
      have := Nat.le_of_dvd (by omega) divides
      omega
    have inserted : Transition.Reachable step initial (mgr.safeInsertFuture false 0).2 :=
      .next (.insert false 0) reached trivial rfl
    have removed : Transition.Reachable step initial
        ((mgr.safeInsertFuture false 0).2.safeRemoveFuture mgr.nextFutureId) :=
      .next (.remove mgr.nextFutureId) inserted trivial rfl
    refine ⟨_, removed, ?_, (remove_inserted false 0 free).trans table⟩
    simp [safeRemoveFuture, safeInsertFuture_fresh false 0 free, created]

end FutureMgr
end MessageBus.Client

namespace MessageBus.PyPort

open Client (FutureRef)

structure Future where
  createTime : Rat
  callback : Bool
  deriving DecidableEq, Repr

def Future.isBad (future : Future) (now : Rat) : Bool := now - future.createTime > 120

structure FutureMgr where
  futureMap : Std.ExtTreeMap Nat FutureRef
  futureid : Nat
  -- Every future ever created, in order.
  futures : List Future

namespace FutureMgr

def initial : FutureMgr := { futureMap := ∅, futureid := 0, futures := [] }

def idPeriod : Nat := 100000000

def nextFutureId (mgr : FutureMgr) : Nat :=
  let futureid := mgr.futureid + 1
  if futureid > idPeriod then 1 else futureid

def getFuture (mgr : FutureMgr) (callback : Bool) (now : Rat) : (Nat × FutureRef) × FutureMgr :=
  let futureid := mgr.nextFutureId
  ((futureid, mgr.futures.length),
    { futureMap := mgr.futureMap.insert futureid mgr.futures.length
      futureid
      futures := mgr.futures ++ [{ createTime := now, callback }] })

def removeFuture (mgr : FutureMgr) (futureid : Nat) : FutureMgr :=
  if mgr.futureMap.contains futureid then
    { mgr with futureMap := mgr.futureMap.erase futureid }
  else mgr

def refIsBad (mgr : FutureMgr) (now : Rat) (future : FutureRef) : Bool :=
  (mgr.futures[future]?).any fun created => created.isBad now

def clearBadFuture (mgr : FutureMgr) (now : Rat) : FutureMgr :=
  { mgr with futureMap := mgr.futureMap.filter fun _ future => !mgr.refIsBad now future }

def popFuture (mgr : FutureMgr) (futureid : Nat) : Option FutureRef × FutureMgr :=
  match mgr.futureMap[futureid]? with
  | none => (none, mgr)
  | some future => (some future, { mgr with futureMap := mgr.futureMap.erase futureid })

def clearFuture (mgr : FutureMgr) : FutureMgr := { mgr with futureMap := ∅ }

inductive Op where
  | get (callback : Bool) (now : Rat)
  | remove (futureid : Nat)
  | clearBad (now : Rat)
  | pop (futureid : Nat)
  | clear
  deriving DecidableEq

def step (mgr : FutureMgr) : Op -> Option FutureMgr
  | .get callback now => some (mgr.getFuture callback now).2
  | .remove futureid => some (mgr.removeFuture futureid)
  | .clearBad now => some (mgr.clearBadFuture now)
  | .pop futureid => some (mgr.popFuture futureid).2
  | .clear => some mgr.clearFuture

def Tracked (mgr : FutureMgr) : Prop :=
  CyclicIds.Tracks idPeriod id mgr.futureid mgr.futures.length fun id => mgr.futureMap[id]?

theorem nextFutureId_correct (mgr : FutureMgr) :
    id mgr.nextFutureId = CyclicIds.next idPeriod mgr.futureid := by
  by_cases below : mgr.futureid < idPeriod
  · simp [nextFutureId, CyclicIds.next, below]
  · have full : mgr.futureid + 1 > idPeriod := by omega
    simp [nextFutureId, CyclicIds.next, below, full]

theorem getFuture_tracked {mgr : FutureMgr} (tracked : mgr.Tracked) (callback : Bool) (now : Rat) :
    (mgr.getFuture callback now).2.Tracked := by
  have allocated := mgr.nextFutureId_correct
  simp only [Tracked, getFuture, List.length_append, List.length_singleton]
  rw [show mgr.nextFutureId = CyclicIds.next idPeriod mgr.futureid from allocated]
  refine CyclicIds.Tracks.create tracked (by decide) allocated ?_
  intro id serial there
  rcases Tables.of_insert there with ⟨same, ofFuture⟩ | ⟨_, older⟩
  · exact .inr ⟨same.symm.trans allocated.symm, ofFuture.symm⟩
  · exact .inl older

theorem erase_tracked {mgr : FutureMgr} (tracked : mgr.Tracked) (futureid : Nat) :
    Tracked { mgr with futureMap := mgr.futureMap.erase futureid } := by
  apply CyclicIds.Tracks.shrink tracked
  intro id serial there
  exact (Tables.of_erase there).2

theorem reachable_tracked {mgr : FutureMgr} (reached : Transition.Reachable step initial mgr) :
    mgr.Tracked := by
  refine reached.invariant Tracked ?_ ?_
  · have start : CyclicIds.Tracks idPeriod (id : Nat -> Nat) 0 0 fun _ => none := .initial
    simpa [Tracked, initial] using start
  · intro mgr op following tracked _ taken
    cases op with
    | get callback now => exact Option.some.inj taken ▸ getFuture_tracked tracked callback now
    | remove futureid =>
      cases taken
      unfold removeFuture
      split
      · exact erase_tracked tracked futureid
      · exact tracked
    | clearBad now =>
      cases taken
      apply CyclicIds.Tracks.shrink tracked
      intro id serial there
      simp only [clearBadFuture, Std.ExtTreeMap.getElem?_filter', Option.filter_eq_some_iff] at there
      exact there.1
    | pop futureid =>
      cases taken
      unfold popFuture
      split
      · exact tracked
      · exact erase_tracked tracked futureid
    | clear =>
      cases taken
      apply CyclicIds.Tracks.shrink tracked
      intro id serial there
      simp [clearFuture] at there

structure GetIsFresh (mgr : FutureMgr) (callback : Bool) (now : Rat) : Prop where
  nonzero : (mgr.getFuture callback now).1.1 ≠ 0
  unused : mgr.futureMap[(mgr.getFuture callback now).1.1]? = none
  kept : ∀ (id : Nat) (future : FutureRef), mgr.futureMap[id]? = some future →
    (mgr.getFuture callback now).2.futureMap[id]? = some future

theorem getIsFresh_iff {mgr : FutureMgr} (tracked : mgr.Tracked) (callback : Bool) (now : Rat) :
    mgr.GetIsFresh callback now ↔ ∀ (id : Nat) (future : FutureRef),
      mgr.futureMap[id]? = some future → ¬ idPeriod ∣ mgr.futures.length - future := by
  have free := CyclicIds.Tracks.free_iff tracked (by decide) Function.injective_id
    mgr.nextFutureId_correct
  refine Iff.trans ⟨fun fresh => fresh.unused, ?_⟩ free
  intro (unused : mgr.futureMap[mgr.nextFutureId]? = none)
  refine ⟨?_, unused, ?_⟩
  · have allocated := mgr.nextFutureId_correct
    simp only [CyclicIds.next, id] at allocated
    simp only [getFuture, allocated]
    split <;> simp
  · intro id future there
    exact Tables.insert_fresh unused there

end FutureMgr
end MessageBus.PyPort

namespace MessageBus.Client

theorem new_ids_fresh_iff (mgr : FutureMgr) (pyMgr : PyPort.FutureMgr)
    (reached : Transition.Reachable FutureMgr.step FutureMgr.initial mgr)
    (pyReached : Transition.Reachable PyPort.FutureMgr.step PyPort.FutureMgr.initial pyMgr) :
    (∀ (callback : Bool) (now : Int), mgr.InsertIsFresh callback now ↔
      ∀ (id : UInt32) (future : FutureRef), mgr.sendmsgRspContainer[id]? = some future →
        ¬ FutureMgr.idPeriod ∣ mgr.futures.length - future) ∧
    (∀ (callback : Bool) (now : Rat), pyMgr.GetIsFresh callback now ↔
      ∀ (id : Nat) (future : FutureRef), pyMgr.futureMap[id]? = some future →
        ¬ PyPort.FutureMgr.idPeriod ∣ pyMgr.futures.length - future) :=
  ⟨FutureMgr.insertIsFresh_iff (FutureMgr.reachable_tracked reached),
    PyPort.FutureMgr.getIsFresh_iff (PyPort.FutureMgr.reachable_tracked pyReached)⟩

def secondMgr : FutureMgr := (FutureMgr.initial.safeInsertFuture false 0).2

def secondPyMgr : PyPort.FutureMgr := (PyPort.FutureMgr.initial.getFuture false 0).2

theorem new_ids_fresh_second : secondMgr.InsertIsFresh true 5 ∧ secondPyMgr.GetIsFresh true 5 := by
  have reached : Transition.Reachable FutureMgr.step FutureMgr.initial secondMgr :=
    .next (.insert false 0) .start trivial rfl
  have pyReached : Transition.Reachable PyPort.FutureMgr.step PyPort.FutureMgr.initial secondPyMgr :=
    .next (.get false 0) .start trivial rfl
  have fresh := new_ids_fresh_iff secondMgr secondPyMgr reached pyReached
  refine ⟨(fresh.1 true 5).mpr ?_, (fresh.2 true 5).mpr ?_⟩
  · intro id future there
    have only := (CyclicIds.Tracks.entries (FutureMgr.reachable_tracked reached) id future there).1
    cases Nat.lt_one_iff.mp only
    decide
  · intro id future there
    have only := (CyclicIds.Tracks.entries (PyPort.FutureMgr.reachable_tracked pyReached) id future
      there).1
    cases Nat.lt_one_iff.mp only
    decide

theorem outstanding_future_shares_id :
    ¬ ∀ mgr, Transition.Reachable FutureMgr.step FutureMgr.initial mgr →
      ∀ (callback : Bool) (now : Int), mgr.InsertIsFresh callback now := by
  intro always
  obtain ⟨mgr, reached, created, table⟩ :=
    FutureMgr.first_future_kept (FutureMgr.idPeriod - 1) (by decide)
  have fresh := (FutureMgr.insertIsFresh_iff (FutureMgr.reachable_tracked reached) false 0).mp
    (always mgr reached false 0) 1 0 (by rw [table]; rfl)
  apply fresh
  simp [created, FutureMgr.idPeriod]

end MessageBus.Client
