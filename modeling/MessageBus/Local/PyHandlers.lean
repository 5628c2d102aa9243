import MessageBus.Shared.Bytes
import MessageBus.Shared.Transition
import MessageBus.Shared.WeakRefs

set_option autoImplicit false

namespace MessageBus.PyPort

structure Objects (Object : Type) where
  isMethod : Object -> Bool
  callable : Object -> Bool
  -- The attribute OnMsg, and whether it is callable.
  onMsg : Object -> Option Bool
  -- Whether weakref.ref(o) is made, or raises a TypeError.
  weakrefable : Object -> Bool
  -- o == other.
  equal : Object -> Object -> Bool

-- An argument: the object, or a weakref.ref to it.
inductive Given (Object : Type) where
  | itself (object : Object)
  | weakref (object : Object)
  deriving DecidableEq, Repr

def Given.target {Object : Type} : Given Object -> Object
  | .itself handler | .weakref handler => handler

-- An object that is passed is not dead.
def Given.passed {Object : Type} (alive : Object -> Bool) : Given Object -> Bool
  | .itself handler => alive handler
  | .weakref _ => true

section Callable

variable {Object : Type} (py : Objects Object)

def Objects.getCallableHandler (alive : Object -> Bool) : Given Object -> Option (Object × Bool)
  | .itself handler =>
    if py.isMethod handler then none
    else
      let func := if py.callable handler then some handler else none
      match py.onMsg handler with
      | none | some false => func.map fun func => (func, false)
      | some true => some (handler, true)
  | .weakref o => if alive o then some (o, (py.onMsg o).isSome) else none

def Objects.valid : Given Object -> Bool
  | .itself handler =>
    !py.isMethod handler && (py.callable handler || py.onMsg handler == some true)
  | .weakref _ => false

end Callable

structure WeakHandler (Object : Type) where
  object : Object
  number : Nat
  deriving DecidableEq, Repr

-- A pair of strong_handlers.
structure StrongHandler (Object : Type) where
  handler : WeakHandler Object
  isObject : Bool
  deriving DecidableEq, Repr

structure Sending (Object : Type) where
  strong : List (StrongHandler Object)
  called : List (StrongHandler Object)
  ended : Bool
  deriving DecidableEq, Repr

structure Adding (Object : Type) where
  msgid : Bytes
  handler : Object
  valid : Bool
  before : List (WeakHandler Object)
  deriving DecidableEq, Repr

inductive Outcome where
  | returned (value : Bool)
  | raised
  deriving DecidableEq, Repr

structure Added (Object : Type) where
  handler : Object
  valid : Bool
  outcome : Outcome
  before : List Object
  after : List Object
  deriving DecidableEq, Repr

-- What goes on under the lock: a loop over the handlers of a message.
inductive Loop (Object : Type) where
  | adding (call : Adding Object) (position : Nat)
  | collecting (msgid : Bytes) (strong : List (StrongHandler Object)) (position : Nat)

structure MsgBus (Object : Type) where
  allHandlers : Bytes -> Option (List (WeakHandler Object))
  alive : Object -> Bool
  loop : Option (Loop Object)
  sends : List (Sending Object)
  adds : List (Added Object)
  registered : Nat

namespace MsgBus

variable {Object : Type} [DecidableEq Object]

inductive Event (Object : Type) where
  | addHandler (msgid : Bytes) (handler : Given Object)
  | removeHandler (msgid : Bytes) (handler : Given Object)
  | sendMsg (msgid : Bytes)
  -- The next round of the loop under the lock, or its end.
  | visit
  -- DoMsgHandler calls the next handler, which lets it go on, or not, or raises.
  | handle (send : Nat) (goesOn : Bool)
  | finish (send : Nat)
  | die (object : Object)

def initial : MsgBus Object :=
  { allHandlers := fun _ => none, alive := fun _ => true, loop := none, sends := [], adds := []
    registered := 0 }

def handlers (bus : MsgBus Object) (msgid : Bytes) : List (WeakHandler Object) :=
  (bus.allHandlers msgid).getD []

def setHandlers (bus : MsgBus Object) (msgid : Bytes) (handlers : List (WeakHandler Object)) :
    MsgBus Object :=
  { bus with allHandlers := Function.update bus.allHandlers msgid (some handlers) }

def live (bus : MsgBus Object) (handlers : List (WeakHandler Object)) : List Object :=
  WeakRefs.live (fun h => if bus.alive h.object then some h.object else none) handlers

def held (bus : MsgBus Object) : List Object :=
  (match bus.loop with
    | some (.adding call _) => [call.handler]
    | some (.collecting _ strong _) => strong.map fun h => h.handler.object
    | none => []) ++
  bus.sends.flatMap fun send => if send.ended then [] else send.strong.map fun h => h.handler.object

def leave (bus : MsgBus Object) (call : Adding Object) (outcome : Outcome) : MsgBus Object :=
  { bus with
    loop := none
    adds := bus.adds ++ [{
      handler := call.handler, valid := call.valid, outcome
      before := bus.live call.before
      after := bus.live (bus.handlers call.msgid) }] }

def append (bus : MsgBus Object) (call : Adding Object) : MsgBus Object :=
  { bus.setHandlers call.msgid
      (bus.handlers call.msgid ++ [{ object := call.handler, number := bus.registered }]) with
    registered := bus.registered + 1 }

def visitAdding (py : Objects Object) (bus : MsgBus Object) (call : Adding Object)
    (position : Nat) : MsgBus Object :=
  match (bus.handlers call.msgid)[position]? with
  | none =>
    if py.weakrefable call.handler then (bus.append call).leave call (.returned true)
    else bus.leave call .raised
  | some h =>
    match py.getCallableHandler bus.alive (.weakref h.object) with
    -- None has no item 0.
    | none => bus.leave call .raised
    | some (o, _) =>
      if o = call.handler then bus.leave call (.returned true)
      else { bus with loop := some (.adding call (position + 1)) }

def visitCollecting (py : Objects Object) (bus : MsgBus Object) (msgid : Bytes)
    (strong : List (StrongHandler Object)) (position : Nat) : MsgBus Object :=
  match (bus.handlers msgid)[position]? with
  | none =>
    { bus.setHandlers msgid ((bus.handlers msgid).filter fun h => bus.alive h.object) with
      loop := none
      sends := bus.sends ++ [{ strong, called := [], ended := false }] }
  | some h =>
    match py.getCallableHandler bus.alive (.weakref h.object) with
    | none => { bus with loop := some (.collecting msgid strong (position + 1)) }
    | some (_, isObject) =>
      { bus with
        loop := some (.collecting msgid (strong ++ [{ handler := h, isObject }]) (position + 1)) }

-- weak_handlers.remove(h) removes the first that is h or equal to it: dead ones only equal themselves.
def remove (py : Objects Object) (bus : MsgBus Object) (param : Object)
    (weakHandlers : List (WeakHandler Object)) : List (WeakHandler Object) :=
  if weakHandlers.any fun h => bus.alive h.object && h.object == param then
    weakHandlers.eraseP fun h =>
      h.object == param || (bus.alive h.object && py.equal h.object param)
  else weakHandlers

def step (py : Objects Object) (bus : MsgBus Object) : Event Object -> Option (MsgBus Object)
  | .addHandler msgid given =>
    if bus.loop.isSome || !given.passed bus.alive then none
    else
      let before := bus.handlers msgid
      match py.getCallableHandler bus.alive given with
      | none =>
        some (bus.leave { msgid, handler := given.target, valid := py.valid given, before }
          (.returned false))
      | some (handler, _) =>
        some { bus.setHandlers msgid before with
          loop := some (.adding { msgid, handler, valid := py.valid given, before } 0) }
  | .removeHandler msgid given =>
    if bus.loop.isSome || !given.passed bus.alive then none
    else
      match bus.allHandlers msgid, py.getCallableHandler bus.alive given with
      | some weakHandlers, some (param, _) =>
        some (bus.setHandlers msgid (bus.remove py param weakHandlers))
      | _, _ => some bus
  | .sendMsg msgid =>
    if bus.loop.isSome then none
    else if (bus.allHandlers msgid).isSome then
      some { bus with loop := some (.collecting msgid [] 0) }
    else some bus
  | .visit =>
    match bus.loop with
    | none => none
    | some (.adding call position) => some (bus.visitAdding py call position)
    | some (.collecting msgid strong position) =>
      some (bus.visitCollecting py msgid strong position)
  | .handle index goesOn =>
    (bus.sends[index]?).bind fun send =>
      if send.ended then none
      else
        (send.strong[send.called.length]?).map fun h =>
          { bus with
            sends := bus.sends.set index
              { send with called := send.called ++ [h], ended := !goesOn } }
  | .finish index =>
    (bus.sends[index]?).bind fun send =>
      if send.ended || send.called.length != send.strong.length then none
      else some { bus with sends := bus.sends.set index { send with ended := true } }
  | .die object =>
    if bus.alive object && !bus.held.contains object then
      some { bus with alive := Function.update bus.alive object false }
    else none

end MsgBus

structure Sending.InOrder {Object : Type} (send : Sending Object) : Prop where
  once : (send.called.map fun h => h.handler.object).Nodup
  order : send.called.Pairwise fun first second => first.handler.number < second.handler.number

structure Added.Registers {Object : Type} [DecidableEq Object] (add : Added Object) : Prop where
  returned : add.outcome = .returned true
  once : add.after.count add.handler = 1
  kept : add.before.Sublist add.after

structure MsgBus.Registers {Object : Type} [DecidableEq Object] (bus : MsgBus Object) : Prop where
  adds : ∀ add ∈ bus.adds, add.valid = true → add.Registers
  sends : ∀ send ∈ bus.sends, send.InOrder

-- The entry that AddHandler comes to is live, and a handler it is to append can be referred to
-- weakly.
def MsgBus.meetsLive {Object : Type} (py : Objects Object) (bus : MsgBus Object) :
    MsgBus.Event Object -> Prop
  | .visit => ∀ call position, bus.loop = some (.adding call position) → call.valid = true →
    (∀ h, (bus.handlers call.msgid)[position]? = some h → bus.alive h.object = true) ∧
      ((bus.handlers call.msgid)[position]? = none → py.weakrefable call.handler = true)
  | _ => True

namespace MsgBus

variable {Object : Type} {py : Objects Object}

section Callable

theorem getCallableHandler_itself (alive : Object -> Bool) (handler : Object) :
    py.getCallableHandler alive (.itself handler) =
      if py.valid (.itself handler) then some (handler, py.onMsg handler == some true) else none := by
  cases isMethod : py.isMethod handler <;> cases callable : py.callable handler <;>
    cases onMsg : py.onMsg handler with
  | none => simp [Objects.getCallableHandler, Objects.valid, isMethod, callable, onMsg]
  | some called =>
    cases called <;> simp [Objects.getCallableHandler, Objects.valid, isMethod, callable, onMsg]

theorem getCallableHandler_valid {alive : Object -> Bool} {given : Given Object}
    (valid : py.valid given = true) : ∃ isObject,
      py.getCallableHandler alive given = some (given.target, isObject) := by
  cases given with
  | itself handler => exact ⟨_, (getCallableHandler_itself alive handler).trans (if_pos valid)⟩
  | weakref handler => cases valid

theorem getCallableHandler_weakref (alive : Object -> Bool) (object : Object) :
    py.getCallableHandler alive (.weakref object) =
      if alive object then some (object, (py.onMsg object).isSome) else none :=
  rfl

-- What is handed to AddHandler and accepted is alive as long as it is passed.
theorem getCallableHandler_alive {alive : Object -> Bool} {given : Given Object}
    {pair : Object × Bool} (passed : given.passed alive = true)
    (found : py.getCallableHandler alive given = some pair) : alive pair.1 = true := by
  cases given with
  | itself handler =>
    rw [getCallableHandler_itself] at found
    split at found
    next =>
      cases found
      exact passed
    next => cases found
  | weakref object =>
    rw [getCallableHandler_weakref] at found
    split at found
    next alive =>
      cases found
      exact alive
    next => cases found

end Callable

variable {bus following : MsgBus Object}

theorem handlers_setHandlers (bus : MsgBus Object) (msgid other : Bytes)
    (handlers : List (WeakHandler Object)) : (bus.setHandlers msgid handlers).handlers other =
      if other = msgid then handlers else bus.handlers other := by
  unfold setHandlers MsgBus.handlers
  by_cases same : other = msgid <;> simp [Function.update, same]

structure Ordered (handlers : List (WeakHandler Object)) : Prop where
  once : (handlers.map WeakHandler.object).Nodup
  order : handlers.Pairwise fun first second => first.number < second.number

theorem Ordered.sublist {handlers fewer : List (WeakHandler Object)} (ordered : Ordered handlers)
    (less : fewer.Sublist handlers) : Ordered fewer :=
  ⟨ordered.once.sublist (less.map _), ordered.order.sublist less⟩

theorem Ordered.append {handlers : List (WeakHandler Object)} {new : WeakHandler Object}
    (ordered : Ordered handlers) (numbered : ∀ h ∈ handlers, h.number < new.number)
    (absent : ∀ h ∈ handlers, h.object ≠ new.object) : Ordered (handlers ++ [new]) := by
  constructor
  case once =>
    rw [List.map_append, List.map_singleton, ← List.concat_eq_append]
    refine ordered.once.concat fun member => ?_
    obtain ⟨h, there, same⟩ := List.mem_map.mp member
    exact absent h there same
  case order =>
    refine List.pairwise_append.mpr ⟨ordered.order, List.pairwise_singleton _ _, ?_⟩
    rintro h there _ (_ | ⟨_, ⟨⟩⟩)
    exact numbered h there

variable [DecidableEq Object]

structure Kept (bus : MsgBus Object) : Prop where
  listed : ∀ msgid, Ordered (bus.handlers msgid)
  numbered : ∀ msgid, ∀ h ∈ bus.handlers msgid, h.number < bus.registered
  sends : ∀ send ∈ bus.sends, send.called <+: send.strong ∧
    Ordered (send.strong.map StrongHandler.handler)
  adds : ∀ add ∈ bus.adds, add.valid = true → add.outcome = .raised ∨ add.Registers

def Follows (bus : MsgBus Object) : Loop Object -> Prop
  | .adding call position => bus.handlers call.msgid = call.before ∧
    bus.alive call.handler = true ∧ ∀ h ∈ call.before.take position, h.object ≠ call.handler
  | .collecting msgid strong position =>
    (strong.map StrongHandler.handler).Sublist ((bus.handlers msgid).take position)

structure Sound (bus : MsgBus Object) : Prop extends Kept bus where
  loop : ∀ loop, bus.loop = some loop → bus.Follows loop

theorem sound_initial : (initial : MsgBus Object).Sound := by
  constructor
  case loop => exact fun _ none => by cases none
  case toKept =>
    constructor
    case listed => exact fun _ => ⟨.nil, .nil⟩
    all_goals
      intro _ _
      simp_all [initial, MsgBus.handlers]

theorem Kept.setHandlers (kept : bus.Kept) {msgid : Bytes} {handlers : List (WeakHandler Object)}
    (fewer : handlers.Sublist (bus.handlers msgid)) : (bus.setHandlers msgid handlers).Kept := by
  have less (other : Bytes) :
      ((bus.setHandlers msgid handlers).handlers other).Sublist (bus.handlers other) := by
    rw [handlers_setHandlers]
    split
    next same => exact same ▸ fewer
    next => exact List.Sublist.refl _
  exact { kept with
    listed := fun other => (kept.listed other).sublist (less other)
    numbered := fun other h there => kept.numbered other h ((less other).subset there) }

section Adding

variable {call : Adding Object}

omit [DecidableEq Object] in
theorem mem_live {handlers : List (WeakHandler Object)} {object : Object} :
    object ∈ bus.live handlers ↔ bus.alive object = true ∧ ∃ h ∈ handlers, h.object = object := by
  unfold live
  rw [WeakRefs.mem_live]
  constructor
  · rintro ⟨h, there, alive⟩
    split at alive
    next isAlive =>
      cases alive
      exact ⟨isAlive, h, there, rfl⟩
    next => cases alive
  · rintro ⟨alive, h, there, rfl⟩
    exact ⟨h, there, if_pos alive⟩

omit [DecidableEq Object] in
theorem live_nodup {handlers : List (WeakHandler Object)} (ordered : Ordered handlers) :
    (bus.live handlers).Nodup := by
  refine ordered.once.sublist (WeakRefs.live_sublist (fun h object alive => ?_) handlers)
  split at alive
  · exact Option.some.inj alive
  · cases alive

theorem Kept.leave (kept : bus.Kept) {outcome : Outcome}
    (registers : call.valid = true → outcome = .raised ∨ outcome = .returned true ∧
      (bus.live (bus.handlers call.msgid)).count call.handler = 1 ∧
      (bus.live call.before).Sublist (bus.live (bus.handlers call.msgid))) :
    (bus.leave call outcome).Sound := by
  refine { kept with adds := ?_, loop := fun _ none => by cases none }
  intro add member valid
  rcases List.mem_append.mp member with older | new
  · exact kept.adds add older valid
  · obtain rfl := List.mem_singleton.mp new
    rcases registers valid with raised | ⟨returned, once, before⟩
    · exact .inl raised
    · exact .inr ⟨returned, once, before⟩

theorem Kept.append (kept : bus.Kept)
    (absent : ∀ h ∈ bus.handlers call.msgid, h.object ≠ call.handler) :
    (bus.append call).Kept := by
  have handlers (msgid : Bytes) : (bus.append call).handlers msgid =
      if msgid = call.msgid then
        bus.handlers call.msgid ++ [{ object := call.handler, number := bus.registered }]
      else bus.handlers msgid := handlers_setHandlers ..
  refine { kept with listed := fun msgid => ?_, numbered := fun msgid h there => ?_ }
  · rw [handlers]
    split
    · exact (kept.listed _).append (kept.numbered _) absent
    · exact kept.listed msgid
  · rw [handlers] at there
    change h.number < bus.registered + 1
    split at there
    · rcases List.mem_append.mp there with older | new
      · exact Nat.lt_succ_of_lt (kept.numbered _ h older)
      · rw [List.mem_singleton.mp new]
        exact Nat.lt_succ_self _
    · exact Nat.lt_succ_of_lt (kept.numbered _ h there)

theorem Sound.visitAdding (sound : bus.Sound) {position : Nat}
    (loop : bus.loop = some (.adding call position)) :
    (bus.visitAdding py call position).Sound := by
  obtain ⟨same, alive, differ⟩ := sound.loop _ loop
  unfold MsgBus.visitAdding
  split
  next finished =>
    split
    · -- No entry is the handler's, so it gets one.
      have all : call.before.take position = call.before :=
        List.take_of_length_le (same ▸ List.getElem?_eq_none_iff.mp finished)
      rw [all] at differ
      have kept : (bus.append call).Kept := sound.toKept.append (same ▸ differ)
      refine kept.leave fun _ => .inr ⟨rfl, ?_, ?_⟩
      all_goals
        have appended : (bus.append call).handlers call.msgid =
            call.before ++ [{ object := call.handler, number := bus.registered }] := by
          rw [← same]
          exact (handlers_setHandlers ..).trans (if_pos rfl)
        have live : (bus.append call).live ((bus.append call).handlers call.msgid) =
            bus.live call.before ++ [call.handler] := by
          rw [appended]
          refine (WeakRefs.live_append ..).trans (congrArg _ ?_)
          exact (WeakRefs.live_cons ..).trans (by simp [alive, MsgBus.append, setHandlers, WeakRefs.live])
        rw [live]
      · have absent : call.handler ∉ bus.live call.before := by
          intro member
          obtain ⟨_, h, there, own⟩ := mem_live.mp member
          exact differ h there own
        rw [List.count_append, List.count_eq_zero_of_not_mem absent, List.count_singleton_self]
      · exact List.sublist_append_left _ _
    · exact sound.toKept.leave fun _ => .inl rfl
  next h found =>
    rw [getCallableHandler_weakref]
    split
    next => exact sound.toKept.leave fun _ => .inl rfl
    next o isObject isAlive =>
      split at isAlive
      next =>
        cases isAlive
        split
        next own =>
          refine sound.toKept.leave fun _ => .inr ⟨rfl, ?_, ?_⟩
          · have member : call.handler ∈ bus.live (bus.handlers call.msgid) :=
              mem_live.mpr ⟨alive, h, List.mem_of_getElem? found, own⟩
            exact List.count_eq_one_of_mem (live_nodup (sound.listed _)) member
          · rw [same]
        next other =>
          refine { sound with loop := fun loop now => ?_ }
          cases now
          refine ⟨same, alive, fun visited member => ?_⟩
          rw [same] at found
          rw [List.take_add_one, found] at member
          rcases List.mem_append.mp member with earlier | this
          · exact differ visited earlier
          · rwa [List.mem_singleton.mp this]
      next => cases isAlive

theorem Sound.visitCollecting (sound : bus.Sound) {msgid : Bytes}
    {strong : List (StrongHandler Object)} {position : Nat}
    (loop : bus.loop = some (.collecting msgid strong position)) :
    (bus.visitCollecting py msgid strong position).Sound := by
  have collected : (strong.map StrongHandler.handler).Sublist
      ((bus.handlers msgid).take position) := sound.loop _ loop
  unfold MsgBus.visitCollecting
  split
  next finished =>
    have kept := sound.toKept.setHandlers (@List.filter_sublist _ (fun h => bus.alive h.object)
      (bus.handlers msgid))
    refine { kept with sends := fun send member => ?_, loop := fun _ none => by cases none }
    rcases List.mem_append.mp member with older | new
    · exact sound.sends send older
    · obtain rfl := List.mem_singleton.mp new
      exact ⟨List.nil_prefix,
        (sound.listed msgid).sublist (collected.trans (List.take_sublist _ _))⟩
  next h found =>
    split
    next =>
      refine { sound with loop := fun loop now => ?_ }
      cases now
      exact collected.trans (List.take_sublist_take_left (Nat.le_succ _))
    next o isObject _ =>
      refine { sound with loop := fun loop now => ?_ }
      cases now
      change (List.map _ _).Sublist ((bus.handlers msgid).take (position + 1))
      rw [List.map_append, List.take_add_one, found]
      exact collected.append (List.Sublist.refl _)

end Adding

theorem remove_sublist (bus : MsgBus Object) (param : Object)
    (weakHandlers : List (WeakHandler Object)) :
    (bus.remove py param weakHandlers).Sublist weakHandlers := by
  unfold remove
  split
  · exact List.eraseP_sublist
  · exact List.Sublist.refl _

theorem Sound.setSend (sound : bus.Sound) {index : Nat} {send after : Sending Object}
    (there : bus.sends[index]? = some send) (strong : after.strong = send.strong)
    (called : after.called <+: after.strong) :
    Sound { bus with sends := bus.sends.set index after } := by
  refine { sound with sends := fun other member => ?_ }
  rcases List.mem_or_eq_of_mem_set member with older | rfl
  · exact sound.sends other older
  · exact ⟨called, strong ▸ (sound.sends send (List.mem_of_getElem? there)).2⟩

inductive Move (py : Objects Object) (bus : MsgBus Object) : Event Object -> MsgBus Object -> Prop where
  | refused (msgid : Bytes) (given : Given Object)
      (found : py.getCallableHandler bus.alive given = none) :
      Move py bus (.addHandler msgid given)
        (bus.leave { msgid, handler := given.target, valid := py.valid given
                     before := bus.handlers msgid } (.returned false))
  | adding (msgid : Bytes) (given : Given Object) (handler : Object) (isObject : Bool)
      (passed : given.passed bus.alive = true)
      (found : py.getCallableHandler bus.alive given = some (handler, isObject)) :
      Move py bus (.addHandler msgid given)
        { bus.setHandlers msgid (bus.handlers msgid) with
          loop := some (.adding { msgid, handler, valid := py.valid given
                                  before := bus.handlers msgid } 0) }
  | removed (msgid : Bytes) (given : Given Object) (weakHandlers : List (WeakHandler Object))
      (param : Object) (noLoop : bus.loop = none)
      (listed : bus.allHandlers msgid = some weakHandlers) :
      Move py bus (.removeHandler msgid given)
        (bus.setHandlers msgid (bus.remove py param weakHandlers))
  | removesNone (msgid : Bytes) (given : Given Object) : Move py bus (.removeHandler msgid given) bus
  | sendMsg (msgid : Bytes) :
      Move py bus (.sendMsg msgid) { bus with loop := some (.collecting msgid [] 0) }
  | sendsToNone (msgid : Bytes) : Move py bus (.sendMsg msgid) bus
  | visitAdding (call : Adding Object) (position : Nat)
      (loop : bus.loop = some (.adding call position)) :
      Move py bus .visit (bus.visitAdding py call position)
  | visitCollecting (msgid : Bytes) (strong : List (StrongHandler Object)) (position : Nat)
      (loop : bus.loop = some (.collecting msgid strong position)) :
      Move py bus .visit (bus.visitCollecting py msgid strong position)
  | handle (index : Nat) (goesOn : Bool) (send : Sending Object) (handler : StrongHandler Object)
      (there : bus.sends[index]? = some send)
      (next : send.strong[send.called.length]? = some handler) :
      Move py bus (.handle index goesOn)
        { bus with
          sends := bus.sends.set index
            { send with called := send.called ++ [handler], ended := !goesOn } }
  | finish (index : Nat) (send : Sending Object) (there : bus.sends[index]? = some send) :
      Move py bus (.finish index)
        { bus with sends := bus.sends.set index { send with ended := true } }
  | die (object : Object) (unheld : object ∉ bus.held) :
      Move py bus (.die object) { bus with alive := Function.update bus.alive object false }

theorem step_moves {event : Event Object} (taken : step py bus event = some following) :
    bus.Move py event following := by
  cases event with
  | addHandler msgid given =>
    simp only [step] at taken
    split at taken
    · cases taken
    next free =>
      have passed : given.passed bus.alive = true := by
        simp only [Bool.or_eq_true, not_or, Bool.not_eq_true'] at free
        exact Bool.eq_true_of_not_eq_false free.2
      split at taken <;> cases taken
      next refused => exact .refused msgid given refused
      next handler isObject found => exact .adding msgid given handler isObject passed found
  | removeHandler msgid given =>
    simp only [step] at taken
    split at taken
    · cases taken
    next free =>
      have noLoop : bus.loop = none := by
        simp only [Bool.or_eq_true, not_or, Bool.not_eq_true, Option.isSome_eq_false_iff] at free
        exact Option.isNone_iff_eq_none.mp free.1
      split at taken <;> cases taken
      next weakHandlers param isObject listed _ =>
        exact .removed msgid given weakHandlers param noLoop listed
      next => exact .removesNone msgid given
  | sendMsg msgid =>
    simp only [step] at taken
    split at taken
    · cases taken
    · split at taken <;> cases taken
      · exact .sendMsg msgid
      · exact .sendsToNone msgid
  | visit =>
    simp only [step] at taken
    split at taken <;> cases taken
    next call position loop => exact .visitAdding call position loop
    next msgid strong position loop => exact .visitCollecting msgid strong position loop
  | handle index goesOn =>
    simp only [step, Option.bind_eq_some_iff] at taken
    obtain ⟨send, there, taken⟩ := taken
    split at taken
    · cases taken
    · obtain ⟨handler, next, rfl⟩ := Option.map_eq_some_iff.mp taken
      exact .handle index goesOn send handler there next
  | finish index =>
    simp only [step, Option.bind_eq_some_iff] at taken
    obtain ⟨send, there, taken⟩ := taken
    split at taken <;> cases taken
    exact .finish index send there
  | die object =>
    simp only [step] at taken
    split at taken <;> cases taken
    next free =>
      simp only [Bool.and_eq_true, Bool.not_eq_true', List.contains_eq_mem, decide_eq_false_iff_not]
        at free
      exact .die object free.2

omit [DecidableEq Object] in
theorem called_grows {send : Sending Object} {handler : StrongHandler Object}
    (called : send.called <+: send.strong)
    (next : send.strong[send.called.length]? = some handler) :
    send.called ++ [handler] <+: send.strong := by
  obtain ⟨rest, whole⟩ := called
  rw [← whole, List.getElem?_append_right (Nat.le_refl _), Nat.sub_self] at next
  cases rest with
  | nil => cases next
  | cons first others =>
    cases next
    exact ⟨others, by rw [← whole, List.append_assoc]; rfl⟩

theorem step_sound {event : Event Object} (sound : bus.Sound)
    (taken : step py bus event = some following) : following.Sound := by
  cases step_moves taken with
  | refused msgid given refused =>
    apply sound.toKept.leave
    intro valid
    obtain ⟨isObject, found⟩ := @getCallableHandler_valid _ py bus.alive given valid
    cases refused.symm.trans found
  | adding msgid given handler isObject passed found =>
    have kept := sound.toKept.setHandlers (List.Sublist.refl (bus.handlers msgid))
    refine { kept with loop := fun loop now => ?_ }
    cases now
    refine ⟨(handlers_setHandlers ..).trans (if_pos rfl), getCallableHandler_alive passed found, ?_⟩
    intro h member
    rw [List.take_zero] at member
    cases member
  | removed msgid given weakHandlers param noLoop listed =>
    have there : bus.handlers msgid = weakHandlers := congrArg (·.getD []) listed
    have fewer : (bus.remove py param weakHandlers).Sublist (bus.handlers msgid) :=
      there.symm ▸ remove_sublist bus param weakHandlers
    have kept := sound.toKept.setHandlers fewer
    refine { kept with loop := fun loop now => ?_ }
    cases now.symm.trans noLoop
  | removesNone msgid given | sendsToNone msgid => exact sound
  | sendMsg msgid =>
    refine { sound with loop := fun loop now => ?_ }
    cases now
    exact List.nil_sublist _
  | visitAdding call position loop => exact sound.visitAdding loop
  | visitCollecting msgid strong position loop => exact sound.visitCollecting loop
  | handle index goesOn send handler there next =>
    have called := called_grows (sound.sends send (List.mem_of_getElem? there)).1 next
    exact sound.setSend there rfl called
  | finish index send there =>
    exact sound.setSend there rfl (sound.sends send (List.mem_of_getElem? there)).1
  | die object unheld =>
    refine { sound with loop := fun loop now => ?_ }
    cases loop with
    | adding call position =>
      obtain ⟨same, alive, differ⟩ := sound.loop _ now
      refine ⟨same, ?_, differ⟩
      -- The handler is held as long as AddHandler runs.
      have other : call.handler ≠ object := by
        rintro rfl
        apply unheld
        apply List.mem_append_left
        rw [now]
        exact List.mem_singleton_self _
      exact (Function.update_of_ne other _ _).trans alive
    | collecting msgid strong position => exact sound.loop _ now

def Returned (bus : MsgBus Object) : Prop :=
  ∀ add ∈ bus.adds, add.valid = true → add.outcome ≠ .raised

omit [DecidableEq Object] in
theorem Returned.leave {call : Adding Object} {outcome : Outcome} (returned : bus.Returned)
    (value : call.valid = true → outcome ≠ .raised) : (bus.leave call outcome).Returned := by
  intro add member valid
  rcases List.mem_append.mp member with older | new
  · exact returned add older valid
  · obtain rfl := List.mem_singleton.mp new
    exact value valid

theorem visitAdding_returned {call : Adding Object} {position : Nat} (returned : bus.Returned)
    (loop : bus.loop = some (.adding call position)) (meets : bus.meetsLive py .visit) :
    (bus.visitAdding py call position).Returned := by
  have meets := meets call position loop
  unfold MsgBus.visitAdding
  split
  next finished =>
    split
    next => exact Returned.leave returned fun _ => by simp
    next refuses =>
      exact returned.leave fun valid => absurd ((meets valid).2 finished) refuses
  next h found =>
    rw [getCallableHandler_weakref]
    split
    next dead =>
      refine returned.leave fun valid => ?_
      rw [if_pos ((meets valid).1 h found)] at dead
      cases dead
    next o isObject isAlive =>
      split
      · exact returned.leave fun _ => by simp
      · exact returned

theorem visitAdding_raises_iff (call : Adding Object) (position : Nat) :
    bus.visitAdding py call position = bus.leave call .raised ↔
      (∃ h, (bus.handlers call.msgid)[position]? = some h ∧ bus.alive h.object = false) ∨
        (bus.handlers call.msgid)[position]? = none ∧ py.weakrefable call.handler = false := by
  have ends (other : MsgBus Object) (outcome : Outcome) :
      (other.leave call outcome).adds.getLast?.map Added.outcome = some outcome := by
    simp [MsgBus.leave]
  have differ (other : MsgBus Object) :
      other.leave call (.returned true) ≠ bus.leave call .raised := by
    intro same
    have last := congrArg (fun bus : MsgBus Object => bus.adds.getLast?.map Added.outcome) same
    simp only [ends] at last
    cases last
  unfold MsgBus.visitAdding
  cases found : (bus.handlers call.msgid)[position]? with
  | none =>
    cases refers : py.weakrefable call.handler with
    | true => simp [differ]
    | false => simp
  | some h =>
    simp only [getCallableHandler_weakref]
    cases alive : bus.alive h.object with
    | false => simp [alive]
    | true =>
      by_cases own : h.object = call.handler
      · simp [← own, alive, differ]
      · refine iff_of_false (fun same => ?_) (by simp [alive])
        have loop := congrArg MsgBus.loop same
        simp [own, MsgBus.leave] at loop

omit [DecidableEq Object] in
theorem visitCollecting_returned {msgid : Bytes} {strong : List (StrongHandler Object)}
    {position : Nat} (returned : bus.Returned) :
    (bus.visitCollecting py msgid strong position).Returned := by
  unfold MsgBus.visitCollecting
  split
  · exact returned
  · split <;> exact returned

theorem step_returned {event : Event Object} (returned : bus.Returned)
    (meets : bus.meetsLive py event) (taken : step py bus event = some following) :
    following.Returned := by
  cases step_moves taken with
  | refused msgid given refused => exact returned.leave fun _ => by simp
  | visitAdding call position loop => exact visitAdding_returned returned loop meets
  | visitCollecting msgid strong position loop => exact visitCollecting_returned returned
  | _ => exact returned

theorem Sound.inOrder (sound : bus.Sound) {send : Sending Object} (member : send ∈ bus.sends) :
    send.InOrder := by
  obtain ⟨called, ordered⟩ := sound.sends send member
  have first := ordered.sublist (called.sublist.map StrongHandler.handler)
  constructor
  case once => simpa [List.map_map, Function.comp_def] using first.once
  case order =>
    have order := first.order
    rwa [List.pairwise_map] at order

theorem sends_in_order (reached : Transition.Reachable (step py) initial bus) :
    ∀ send ∈ bus.sends, send.InOrder := by
  have sound := reached.invariant Sound sound_initial fun _ _ _ sound _ taken =>
    step_sound sound taken
  exact fun send member => sound.inOrder member

theorem registers_among_live {Object : Type} [DecidableEq Object] (py : Objects Object)
    (bus : MsgBus Object)
    (reached : Transition.ReachableWhen (step py) (meetsLive py) initial bus) :
    bus.Registers := by
  have sound := reached.invariant Sound sound_initial fun _ _ _ sound _ taken =>
    step_sound sound taken
  have returned := reached.invariant Returned (fun _ none => by cases none)
    fun _ _ _ returned meets taken => step_returned returned meets taken
  constructor
  case adds =>
    intro add member valid
    rcases sound.adds add member valid with raised | registers
    · exact absurd raised (returned add member valid)
    · exact registers
  case sends => exact fun send member => sound.inOrder member

-- Functions that are all different.
def functions : Objects Nat :=
  { isMethod := fun _ => false, callable := fun _ => true, onMsg := fun _ => none
    weakrefable := fun _ => true, equal := fun one two => one == two }

theorem registers_two : ∃ bus : MsgBus Nat, bus.live (bus.handlers []) = [1, 2] ∧ bus.Registers := by
  have empty : Transition.ReachableWhen (step functions) (meetsLive functions) initial initial :=
    .start
  have asked := empty.next (Event.addHandler [] (.itself 1)) trivial rfl
  have one := asked.next Event.visit
    (fun call position loop _ => by cases loop; exact ⟨(fun _ there => by cases there), fun _ => rfl⟩) rfl
  have again := one.next (Event.addHandler [] (.itself 2)) trivial rfl
  have passed := again.next Event.visit
    (fun call position loop _ => by cases loop; exact ⟨fun h _ => rfl, fun _ => rfl⟩) rfl
  have two := passed.next Event.visit
    (fun call position loop _ => by cases loop; exact ⟨(fun _ there => by cases there), fun _ => rfl⟩) rfl
  exact ⟨_, rfl, registers_among_live functions _ two⟩

-- A function dies, and another is to be registered for its message.
def deadBefore : List (Event Nat) :=
  [.addHandler [] (.itself 1), .visit, .die 1, .addHandler [] (.itself 2), .visit]

theorem dead_handler_raises : ¬ ∀ (py : Objects Nat) (bus : MsgBus Nat),
    Transition.Reachable (step py) initial bus → bus.Registers := by
  intro all
  obtain ⟨bus, ran, adds⟩ : ∃ bus, Transition.run (step functions) initial deadBefore = some bus ∧
      bus.adds.getLast?.map (fun add => (add.valid, add.outcome)) = some (true, .raised) :=
    ⟨_, rfl, rfl⟩
  have registers := all functions bus (Transition.Reachable.run .start deadBefore ran)
  obtain ⟨add, last, same⟩ := Option.map_eq_some_iff.mp adds
  obtain ⟨valid, raised⟩ := Prod.mk.inj same
  have returned := (registers.adds add (List.mem_of_getLast? last) valid).returned
  cases raised.symm.trans returned

end MsgBus

end MessageBus.PyPort
