import MessageBus.Shared.Bytes
import MessageBus.Shared.Tables
import MessageBus.Shared.Transition
import MessageBus.Shared.WeakRefs

set_option autoImplicit false

namespace MessageBus.Local

structure WeakHandler where
  -- Which object it was made for; never used for another one.
  ref : Nat
  mustCalledInMsgbusthread : Bool
  deriving DecidableEq, Repr

abbrev MsgHandlerObjContainer := Std.ExtTreeMap Bytes (List WeakHandler)

-- The address that lock().get() gives.
abbrev Lock := Nat -> Option Nat

structure Collected where
  -- The loop came to the end of the list.
  complete : Bool
  msgHandlers : List Nat
  weakMsgHandlers : List WeakHandler

def collectHandlers (lock : Lock) (breaks : WeakHandler -> Bool) : List WeakHandler -> Collected
  | [] => { complete := true, msgHandlers := [], weakMsgHandlers := [] }
  | handler :: rest =>
    if breaks handler then
      { complete := false, msgHandlers := [], weakMsgHandlers := handler :: rest }
    else
      let others := collectHandlers lock breaks rest
      match lock handler.ref with
      | some _ =>
        { others with
          msgHandlers := handler.ref :: others.msgHandlers
          weakMsgHandlers := handler :: others.weakMsgHandlers }
      | none => others

-- Nothing is found where the message has no list, not even an empty one.
def lookUpHandlers (lock : Lock) (breaks : WeakHandler -> Bool)
    (objs : MsgHandlerObjContainer) (msgid : Bytes) : Option (Collected × MsgHandlerObjContainer) :=
  (objs[msgid]?).map fun handlers =>
    let collected := collectHandlers lock breaks handlers
    (collected,
      if collected.weakMsgHandlers.isEmpty then objs.erase msgid
      else objs.insert msgid collected.weakMsgHandlers)

-- The lookup of SendMsgInMsgBusThread, of SendMsg and of printAllMsgHandler.
def lookUpInMsgBusThread (lock : Lock) (objs : MsgHandlerObjContainer) (msgid : Bytes) :
    Option (Collected × MsgHandlerObjContainer) :=
  lookUpHandlers lock (fun _ => false) objs msgid

def lookUpForSendMsg (lock : Lock) (objs : MsgHandlerObjContainer) (msgid : Bytes) :
    Option (Collected × MsgHandlerObjContainer) :=
  lookUpHandlers lock WeakHandler.mustCalledInMsgbusthread objs msgid

def lookUpForPrint (lock : Lock) (objs : MsgHandlerObjContainer) (msgid : Bytes) :
    Option (Collected × MsgHandlerObjContainer) :=
  lookUpHandlers lock (fun _ => false) objs msgid

def registerMsg (lock : Lock) (objs : MsgHandlerObjContainer) (msgid : Bytes)
    (spHandlerObj : Option Nat) (mustCalledInMsgbusthread : Bool) : Bool × MsgHandlerObjContainer :=
  match spHandlerObj with
  | none => (false, objs)
  | some ref =>
    match objs[msgid]? with
    | none => (true, objs.insert msgid [{ ref, mustCalledInMsgbusthread }])
    | some handlers =>
      if handlers.any fun handler =>
          (lock handler.ref).isSome && lock handler.ref == lock ref then (true, objs)
      else (true, objs.insert msgid (handlers ++ [{ ref, mustCalledInMsgbusthread }]))

-- Whether RegisterMsg finds the object among those of the message.
def registeredFor (lock : Lock) (objs : MsgHandlerObjContainer) (msgid : Bytes) (ref : Nat) : Bool :=
  ((objs[msgid]?).getD []).any fun handler =>
    (lock handler.ref).isSome && lock handler.ref == lock ref

def unRegisterMsg (lock : Lock) (objs : MsgHandlerObjContainer) (msgid : Bytes)
    (pHandlerObj : Option Nat) : MsgHandlerObjContainer :=
  match objs[msgid]? with
  | none => objs
  | some handlers =>
    objs.insert msgid (handlers.eraseP fun handler => lock handler.ref == pHandlerObj)

def liveHandlers (lock : Lock) (objs : MsgHandlerObjContainer) (msgid : Bytes) : List Nat :=
  WeakRefs.live (fun handler => lock handler.ref) ((objs[msgid]?).getD [])

section Lists

variable {lock : Lock} {objs : MsgHandlerObjContainer}

variable (lock) in
theorem collectHandlers_filter (breaks : WeakHandler -> Bool) (handlers : List WeakHandler) :
    ((collectHandlers lock breaks handlers).weakMsgHandlers.filter fun handler =>
        (lock handler.ref).isSome) =
      handlers.filter fun handler => (lock handler.ref).isSome := by
  induction handlers with
  | nil => rfl
  | cons handler rest ih =>
    unfold collectHandlers
    split
    · rfl
    · split
      next found => simp [found, ih]
      next expired => simp [expired, ih]

variable (lock) in
theorem collectHandlers_live (breaks : WeakHandler -> Bool) (handlers : List WeakHandler) :
    WeakRefs.live (fun handler => lock handler.ref)
        (collectHandlers lock breaks handlers).weakMsgHandlers =
      WeakRefs.live (fun handler => lock handler.ref) handlers := by
  rw [← WeakRefs.live_filter, collectHandlers_filter, WeakRefs.live_filter]

theorem liveHandlers_insert (msgid other : Bytes) (handlers : List WeakHandler) :
    liveHandlers lock (objs.insert msgid handlers) other =
      if other = msgid then WeakRefs.live (fun handler => lock handler.ref) handlers
      else liveHandlers lock objs other := by
  rw [liveHandlers, Std.ExtTreeMap.getElem?_insert]
  by_cases same : msgid = other
  · simp [same]
  · simp [same, Ne.symm same, liveHandlers]

theorem liveHandlers_of_lookUp {breaks : WeakHandler -> Bool} {msgid : Bytes}
    {collected : Collected} {after : MsgHandlerObjContainer}
    (found : lookUpHandlers lock breaks objs msgid = some (collected, after)) :
    liveHandlers lock after = liveHandlers lock objs := by
  obtain ⟨handlers, there, outcome⟩ := Option.map_eq_some_iff.mp found
  obtain ⟨rfl, rfl⟩ := Prod.mk.inj outcome
  have same := collectHandlers_live lock breaks handlers
  funext other
  split
  next empty =>
    rw [List.isEmpty_iff] at empty
    rw [empty] at same
    rw [liveHandlers, Std.ExtTreeMap.getElem?_erase]
    split
    next equal =>
      rw [Std.LawfulEqCmp.compare_eq_iff_eq] at equal
      rw [← equal, liveHandlers, there]
      exact same
    next => rfl
  next =>
    rw [liveHandlers_insert, same]
    split
    next equal => rw [equal, liveHandlers, there, Option.getD_some]
    next => rfl

theorem registered_iff {ref address : Nat} (lives : lock ref = some address)
    (handlers : List WeakHandler) :
    (handlers.any fun handler => (lock handler.ref).isSome && lock handler.ref == lock ref) = true ↔
      address ∈ WeakRefs.live (fun handler => lock handler.ref) handlers := by
  rw [WeakRefs.mem_live, List.any_eq_true]
  refine exists_congr fun handler => and_congr_right fun _ => ?_
  simp only [lives, Bool.and_eq_true, beq_iff_eq]
  constructor
  · exact fun both => both.2
  · exact fun found => ⟨found ▸ rfl, found⟩

variable (objs) in
theorem liveHandlers_registerMsg {ref address : Nat} (lives : lock ref = some address)
    (msgid : Bytes) (mustCalled : Bool) :
    liveHandlers lock (registerMsg lock objs msgid (some ref) mustCalled).2 =
      Function.update (liveHandlers lock objs) msgid
        (if address ∈ liveHandlers lock objs msgid then liveHandlers lock objs msgid
          else liveHandlers lock objs msgid ++ [address]) := by
  have alone : WeakRefs.live (fun handler : WeakHandler => lock handler.ref)
      [{ ref, mustCalledInMsgbusthread := mustCalled }] = [address] := by
    simp [WeakRefs.live, lives]
  simp only [registerMsg]
  split
  next absent =>
    have none : liveHandlers lock objs msgid = [] := by simp [liveHandlers, absent, WeakRefs.live]
    funext other
    rw [liveHandlers_insert, alone, Function.update_apply, none, if_neg List.not_mem_nil,
      List.nil_append]
  next handlers there =>
    have known : liveHandlers lock objs msgid =
        WeakRefs.live (fun handler => lock handler.ref) handlers := by
      simp [liveHandlers, there]
    split
    next registered =>
      rw [registered_iff lives, ← known] at registered
      rw [if_pos registered, Function.update_eq_self]
    next unregistered =>
      rw [registered_iff lives, ← known] at unregistered
      funext other
      rw [liveHandlers_insert, WeakRefs.live_append, alone, Function.update_apply,
        if_neg unregistered, known]

theorem liveHandlers_unRegisterMsg (msgid : Bytes) (pHandlerObj : Option Nat)
    (nodup : (liveHandlers lock objs msgid).Nodup) :
    liveHandlers lock (unRegisterMsg lock objs msgid pHandlerObj) =
      Function.update (liveHandlers lock objs) msgid
        ((liveHandlers lock objs msgid).filter fun address => some address ≠ pHandlerObj) := by
  unfold unRegisterMsg
  split
  next absent =>
    have none : liveHandlers lock objs msgid = [] := by simp [liveHandlers, absent, WeakRefs.live]
    rw [none, List.filter_nil, ← none, Function.update_eq_self]
  next handlers there =>
    have known : liveHandlers lock objs msgid =
        WeakRefs.live (fun handler => lock handler.ref) handlers := by
      simp [liveHandlers, there]
    have left : WeakRefs.live (fun handler => lock handler.ref)
        (handlers.eraseP fun handler => lock handler.ref == pHandlerObj) =
          (liveHandlers lock objs msgid).filter fun address => some address ≠ pHandlerObj := by
      rw [known] at nodup ⊢
      cases pHandlerObj with
      | none => simpa using WeakRefs.live_erase_expired
      | some address => simpa using WeakRefs.live_erase nodup
    funext other
    rw [liveHandlers_insert, left, Function.update_apply]

def EveryHandler (holds : Bytes -> WeakHandler -> Prop) (objs : MsgHandlerObjContainer) : Prop :=
  ∀ (msgid : Bytes) (handlers : List WeakHandler), objs[msgid]? = some handlers →
    ∀ handler ∈ handlers, holds msgid handler

section Every

variable {holds : Bytes -> WeakHandler -> Prop}

theorem EveryHandler.insert (every : EveryHandler holds objs) {msgid : Bytes}
    {handlers : List WeakHandler} (new : ∀ handler ∈ handlers, holds msgid handler) :
    EveryHandler holds (objs.insert msgid handlers) :=
  Tables.every_insert every new

theorem EveryHandler.erase (every : EveryHandler holds objs) (msgid : Bytes) :
    EveryHandler holds (objs.erase msgid) :=
  Tables.every_erase every msgid

theorem collectHandlers_sublist (breaks : WeakHandler -> Bool) (handlers : List WeakHandler) :
    (collectHandlers lock breaks handlers).weakMsgHandlers.Sublist handlers := by
  induction handlers with
  | nil => exact .slnil
  | cons handler rest ih =>
    unfold collectHandlers
    split
    · exact .refl _
    · split
      · exact ih.cons_cons handler
      · exact ih.cons handler

theorem EveryHandler.lookUp (every : EveryHandler holds objs) {breaks : WeakHandler -> Bool}
    {msgid : Bytes} {collected : Collected} {after : MsgHandlerObjContainer}
    (found : lookUpHandlers lock breaks objs msgid = some (collected, after)) :
    EveryHandler holds after := by
  obtain ⟨handlers, there, outcome⟩ := Option.map_eq_some_iff.mp found
  obtain ⟨rfl, rfl⟩ := Prod.mk.inj outcome
  split
  · exact every.erase msgid
  · exact every.insert fun handler member =>
      every msgid handlers there handler ((collectHandlers_sublist breaks handlers).subset member)

theorem EveryHandler.registerMsg (every : EveryHandler holds objs) {ref : Nat} {msgid : Bytes}
    {mustCalled : Bool} (new : registeredFor lock objs msgid ref = false →
      holds msgid { ref, mustCalledInMsgbusthread := mustCalled }) :
    EveryHandler holds (registerMsg lock objs msgid (some ref) mustCalled).2 := by
  unfold Local.registerMsg
  unfold registeredFor at new
  split
  next impossible => cases impossible
  next same =>
    cases same
    split
    next absent =>
      refine every.insert fun handler member => ?_
      rw [List.mem_singleton.mp member]
      exact new (by rw [absent]; rfl)
    next handlers there =>
      split
      · exact every
      next unregistered =>
        refine every.insert fun handler member => ?_
        rcases List.mem_append.mp member with older | last
        · exact every msgid handlers there handler older
        · rw [List.mem_singleton.mp last]
          refine new ?_
          rw [there]
          exact Bool.eq_false_iff.mpr unregistered

theorem EveryHandler.unRegisterMsg (every : EveryHandler holds objs) (msgid : Bytes)
    (pHandlerObj : Option Nat) : EveryHandler holds (unRegisterMsg lock objs msgid pHandlerObj) := by
  unfold Local.unRegisterMsg
  split
  · exact every
  next handlers there =>
    exact every.insert fun handler member =>
      every msgid handlers there handler (List.mem_of_mem_eraseP member)

end Every

def MadeFor (number : Nat) : MsgHandlerObjContainer -> Prop :=
  EveryHandler fun _ handler => handler.ref < number

end Lists

structure HandlerRegistry where
  allMsghandlerObjs : MsgHandlerObjContainer
  addresses : List (Option Nat)

namespace HandlerRegistry

inductive Event where
  | construct (address : Nat)
  | destroy (address : Nat)
  | registerMsg (msgid : Bytes) (address : Nat) (mustCalledInMsgbusthread : Bool)
  | unRegisterMsg (msgid : Bytes) (pHandlerObj : Option Nat)
  | sendMsgInMsgBusThread (msgid : Bytes)
  | sendMsg (msgid : Bytes)
  | printAllMsgHandler (msgid : Bytes)
  deriving DecidableEq, Repr

def initial : HandlerRegistry := { allMsghandlerObjs := ∅, addresses := [] }

def lock (registry : HandlerRegistry) : Lock := fun ref => (registry.addresses[ref]?).join

def live (registry : HandlerRegistry) : Bytes -> List Nat :=
  liveHandlers registry.lock registry.allMsghandlerObjs

def objectAt (registry : HandlerRegistry) (address : Nat) : Option Nat :=
  registry.addresses.findIdx? fun other => other == some address

def afterLookUp (registry : HandlerRegistry)
    (found : Option (Collected × MsgHandlerObjContainer)) : HandlerRegistry :=
  match found with
  | none => registry
  | some (_, after) => { registry with allMsghandlerObjs := after }

def step (registry : HandlerRegistry) : Event -> Option HandlerRegistry
  | .construct address =>
    if (registry.objectAt address).isNone then
      some { registry with addresses := registry.addresses ++ [some address] }
    else none
  | .destroy address =>
    (registry.objectAt address).map fun ref =>
      { registry with addresses := registry.addresses.set ref none }
  | .registerMsg msgid address mustCalled =>
    (registry.objectAt address).map fun ref =>
      { registry with allMsghandlerObjs :=
        (Local.registerMsg registry.lock registry.allMsghandlerObjs msgid (some ref) mustCalled).2 }
  | .unRegisterMsg msgid pHandlerObj =>
    some { registry with allMsghandlerObjs :=
      Local.unRegisterMsg registry.lock registry.allMsghandlerObjs msgid pHandlerObj }
  | .sendMsgInMsgBusThread msgid =>
    some (registry.afterLookUp
      (lookUpInMsgBusThread registry.lock registry.allMsghandlerObjs msgid))
  | .sendMsg msgid =>
    some (registry.afterLookUp (lookUpForSendMsg registry.lock registry.allMsghandlerObjs msgid))
  | .printAllMsgHandler msgid =>
    some (registry.afterLookUp (lookUpForPrint registry.lock registry.allMsghandlerObjs msgid))

-- The purpose of the registry: for each message the objects that want it, in the order in which
-- they asked for it.
def reference (lists : Bytes -> List Nat) : Event -> Bytes -> List Nat
  | .registerMsg msgid address _ =>
    Function.update lists msgid
      (if address ∈ lists msgid then lists msgid else lists msgid ++ [address])
  | .unRegisterMsg msgid pHandlerObj =>
    Function.update lists msgid
      ((lists msgid).filter fun address => some address ≠ pHandlerObj)
  | .destroy address => fun msgid => (lists msgid).filter (· ≠ address)
  | .construct _ | .sendMsgInMsgBusThread _ | .sendMsg _ | .printAllMsgHandler _ => lists

structure Sound (registry : HandlerRegistry) : Prop where
  made : MadeFor registry.addresses.length registry.allMsghandlerObjs
  apart : ∀ (ref other address : Nat), registry.lock ref = some address →
    registry.lock other = some address → ref = other
  nodup : ∀ msgid, (registry.live msgid).Nodup

theorem sound_initial : initial.Sound := by
  refine ⟨?_, ?_, ?_⟩
  · intro msgid handlers there
    simp [initial] at there
  · intro ref other address there
    simp [initial, lock] at there
  · intro msgid
    simp [initial, live, liveHandlers, WeakRefs.live]

variable {registry following : HandlerRegistry}

theorem lock_objectAt {address ref : Nat} (found : registry.objectAt address = some ref) :
    registry.lock ref = some address := by
  obtain ⟨inside, lives, _⟩ := List.findIdx?_eq_some_iff_getElem.mp found
  rw [beq_iff_eq] at lives
  rw [lock, List.getElem?_eq_getElem inside, lives]
  rfl

theorem lock_of_no_objectAt {address : Nat} (none : registry.objectAt address = none) (ref : Nat) :
    registry.lock ref ≠ some address := by
  intro lives
  rw [lock, Option.join_eq_some_iff] at lives
  have member := List.mem_of_getElem? lives
  have absent := List.findIdx?_eq_none_iff.mp none _ member
  simp at absent

theorem lock_lt {address ref : Nat} (lives : registry.lock ref = some address) :
    ref < registry.addresses.length := by
  rw [lock, Option.join_eq_some_iff] at lives
  exact (List.getElem?_eq_some_iff.mp lives).1

theorem Sound.found_made (sound : registry.Sound) {msgid : Bytes} {handler : WeakHandler}
    (member : handler ∈ (registry.allMsghandlerObjs[msgid]?).getD []) :
    handler.ref < registry.addresses.length := by
  cases there : registry.allMsghandlerObjs[msgid]? with
  | none =>
    rw [there] at member
    cases member
  | some handlers =>
    rw [there] at member
    exact sound.made msgid handlers there handler member

theorem lock_construct (address ref : Nat) :
    lock { registry with addresses := registry.addresses ++ [some address] } ref =
      if ref = registry.addresses.length then some address else registry.lock ref := by
  simp only [lock, List.getElem?_append]
  split
  next inside => rw [if_neg (Nat.ne_of_lt inside)]
  next outside =>
    by_cases last : ref = registry.addresses.length
    · simp [last]
    · have beyond : 1 ≤ ref - registry.addresses.length := by omega
      rw [if_neg last, List.getElem?_eq_none (Nat.le_of_not_lt outside),
        List.getElem?_eq_none (by simpa using beyond)]

theorem lock_destroy {ref : Nat} (inside : ref < registry.addresses.length) (other : Nat) :
    lock { registry with addresses := registry.addresses.set ref none } other =
      if other = ref then none else registry.lock other := by
  simp only [lock]
  by_cases same : other = ref
  · simp [same, inside]
  · rw [List.getElem?_set_ne (Ne.symm same), if_neg same]

theorem Sound.construct (sound : registry.Sound) {address : Nat}
    (free : registry.objectAt address = none) :
    Sound { registry with addresses := registry.addresses ++ [some address] } ∧
      live { registry with addresses := registry.addresses ++ [some address] } = registry.live := by
  have same : live { registry with addresses := registry.addresses ++ [some address] } =
      registry.live := by
    funext msgid
    refine WeakRefs.live_congr fun handler member => ?_
    rw [lock_construct, if_neg (Nat.ne_of_lt (sound.found_made member))]
  refine ⟨⟨?_, ?_, fun msgid => same ▸ sound.nodup msgid⟩, same⟩
  · intro msgid handlers there handler member
    have below := sound.made msgid handlers there handler member
    simp only [List.length_append, List.length_singleton]
    omega
  · intro ref other found lives otherLives
    rw [lock_construct] at lives otherLives
    split at lives <;> split at otherLives
    next last otherLast => exact last.trans otherLast.symm
    next => exact absurd (lives ▸ otherLives) (lock_of_no_objectAt free other)
    next => exact absurd (otherLives ▸ lives) (lock_of_no_objectAt free ref)
    next => exact sound.apart ref other found lives otherLives

theorem Sound.destroy (sound : registry.Sound) {address ref : Nat}
    (found : registry.objectAt address = some ref) :
    Sound { registry with addresses := registry.addresses.set ref none } ∧
      live { registry with addresses := registry.addresses.set ref none } =
        fun msgid => (registry.live msgid).filter (· ≠ address) := by
  have lived := lock_objectAt found
  have inside := lock_lt lived
  have fewer : live { registry with addresses := registry.addresses.set ref none } =
      fun msgid => (registry.live msgid).filter (· ≠ address) := by
    funext msgid
    refine WeakRefs.live_death fun handler _ => ?_
    rw [lock_destroy inside]
    by_cases same : handler.ref = ref
    · rw [if_pos same, same, if_pos lived]
    · rw [if_neg same, if_neg]
      exact fun lives => same (sound.apart handler.ref ref address lives lived)
  refine ⟨⟨?_, ?_, ?_⟩, fewer⟩
  · simpa only [List.length_set] using sound.made
  · intro first second where' lives otherLives
    rw [lock_destroy inside] at lives otherLives
    split at lives
    · cases lives
    · split at otherLives
      · cases otherLives
      · exact sound.apart first second where' lives otherLives
  · intro msgid
    rw [fewer]
    exact (sound.nodup msgid).filter _

theorem Sound.write (sound : registry.Sound) {after : MsgHandlerObjContainer}
    (made : MadeFor registry.addresses.length after)
    (nodup : ∀ msgid, (liveHandlers registry.lock after msgid).Nodup) :
    Sound { registry with allMsghandlerObjs := after } :=
  ⟨made, sound.apart, nodup⟩

theorem Sound.afterLookUp (sound : registry.Sound) (breaks : WeakHandler -> Bool) (msgid : Bytes) :
    (registry.afterLookUp
        (lookUpHandlers registry.lock breaks registry.allMsghandlerObjs msgid)).Sound ∧
      (registry.afterLookUp
        (lookUpHandlers registry.lock breaks registry.allMsghandlerObjs msgid)).live =
          registry.live := by
  unfold HandlerRegistry.afterLookUp
  split
  next => exact ⟨sound, rfl⟩
  next found =>
    have same := liveHandlers_of_lookUp found
    refine ⟨sound.write (sound.made.lookUp found) fun msgid => ?_, same⟩
    rw [same]
    exact sound.nodup msgid

theorem reference_nodup {lists : Bytes -> List Nat} (nodup : ∀ msgid, (lists msgid).Nodup)
    (event : Event) (msgid : Bytes) : (reference lists event msgid).Nodup := by
  cases event with
  | construct | sendMsgInMsgBusThread | sendMsg | printAllMsgHandler => exact nodup msgid
  | destroy address => exact (nodup msgid).filter _
  | unRegisterMsg other pHandlerObj =>
    simp only [reference, Function.update_apply]
    split
    · exact (nodup other).filter _
    · exact nodup msgid
  | registerMsg other address mustCalled =>
    simp only [reference, Function.update_apply]
    split
    · split
      · exact nodup other
      next new =>
        rw [List.nodup_append]
        refine ⟨nodup other, List.nodup_singleton _, fun found member last there => ?_⟩
        rw [List.mem_singleton.mp there]
        exact fun equal => new (equal ▸ member)
    · exact nodup msgid

theorem step_follows (sound : registry.Sound) {event : Event}
    (taken : registry.step event = some following) :
    following.Sound ∧ following.live = reference registry.live event := by
  cases event with
  | construct address =>
    simp only [step] at taken
    split at taken <;> cases taken
    next free => exact sound.construct (Option.isNone_iff_eq_none.mp free)
  | destroy address =>
    obtain ⟨ref, found, rfl⟩ := Option.map_eq_some_iff.mp taken
    exact sound.destroy found
  | registerMsg msgid address mustCalled =>
    obtain ⟨ref, found, rfl⟩ := Option.map_eq_some_iff.mp taken
    have lives := lock_objectAt found
    have added := liveHandlers_registerMsg registry.allMsghandlerObjs lives msgid mustCalled
    refine ⟨sound.write (sound.made.registerMsg fun _ => lock_lt lives) ?_, added⟩
    rw [added]
    exact reference_nodup sound.nodup (.registerMsg msgid address mustCalled)
  | unRegisterMsg msgid pHandlerObj =>
    cases taken
    have removed := liveHandlers_unRegisterMsg msgid pHandlerObj (sound.nodup msgid)
    refine ⟨sound.write (sound.made.unRegisterMsg msgid pHandlerObj) ?_, removed⟩
    rw [removed]
    exact reference_nodup sound.nodup (.unRegisterMsg msgid pHandlerObj)
  | sendMsgInMsgBusThread msgid | printAllMsgHandler msgid | sendMsg msgid =>
    cases taken
    exact sound.afterLookUp _ msgid

def Event.msgid : Event -> Option Bytes
  | .construct _ | .destroy _ => none
  | .registerMsg msgid _ _ | .unRegisterMsg msgid _ | .sendMsgInMsgBusThread msgid
  | .sendMsg msgid | .printAllMsgHandler msgid => some msgid

def Event.prunes : Event -> Bool
  | .sendMsgInMsgBusThread _ | .sendMsg _ | .printAllMsgHandler _ => true
  | .construct _ | .destroy _ | .registerMsg _ _ _ | .unRegisterMsg _ _ => false

theorem reference_frame (lists : Bytes -> List Nat) {event : Event} {msgid other : Bytes}
    (own : event.msgid = some msgid) (different : other ≠ msgid) :
    reference lists event other = lists other := by
  cases event with
  | construct | destroy => cases own
  | registerMsg | unRegisterMsg =>
    cases own
    exact Function.update_of_ne different _ _
  | sendMsgInMsgBusThread | sendMsg | printAllMsgHandler => rfl

theorem registry_is_reference (events : List Event) (registry : HandlerRegistry)
    (ran : Transition.run step initial events = some registry) :
    registry.live = events.foldl reference (fun _ => []) ∧
      (∀ msgid, (registry.live msgid).Nodup) ∧
      ∀ (event : Event) (following : HandlerRegistry), registry.step event = some following →
        (event.prunes = true → following.live = registry.live) ∧
          ∀ msgid, event.msgid = some msgid →
            ∀ other, other ≠ msgid → following.live other = registry.live other := by
  have followed : registry.Sound ∧ registry.live = events.foldl reference (fun _ => []) := by
    refine Transition.run_follows reference
      (fun registry lists => registry.Sound ∧ registry.live = lists) ?_
      ⟨sound_initial, ?_⟩ events ran
    · rintro state _ event following ⟨sound, rfl⟩ taken
      exact step_follows sound taken
    · funext msgid
      simp [live, liveHandlers, initial, WeakRefs.live]
  obtain ⟨sound, lists⟩ := followed
  refine ⟨lists, sound.nodup, fun event following taken => ?_⟩
  have next := (step_follows sound taken).2
  refine ⟨fun prunes => ?_, fun msgid own other different => ?_⟩
  · rw [next]
    cases event with
    | construct | destroy | registerMsg | unRegisterMsg => cases prunes
    | sendMsgInMsgBusThread | sendMsg | printAllMsgHandler => rfl
  · rw [next]
    exact reference_frame registry.live own different

-- An object dies, and the next one at its address registers for the same message.
def reusedAddress : List Event :=
  [.construct 64, .registerMsg [97] 64 true, .construct 80, .registerMsg [97] 80 false,
    .destroy 64, .construct 64, .registerMsg [97] 64 true, .unRegisterMsg [97] none,
    .sendMsgInMsgBusThread [97]]

theorem registry_is_reference_reusedAddress : ∃ registry,
    Transition.run step initial reusedAddress = some registry ∧ registry.live [97] = [80, 64] := by
  refine ⟨_, rfl, ?_⟩
  rw [(registry_is_reference reusedAddress _ rfl).1]
  decide

end HandlerRegistry
end MessageBus.Local
