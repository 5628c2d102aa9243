import MessageBus.Shared.Bytes
import MessageBus.Shared.Transition

set_option autoImplicit false

namespace MessageBus.Client

def maxSendmsgClientNum : Nat := 1024

structure SendmsgClient where
  fd : Nat
  -- None of its handlers of the end has been called.
  isOpen : Bool
  deriving DecidableEq, Repr

structure ReceiverMgr where
  sendmsgClientnum : Int
  -- The client_sockfd that is counted and not yet held against the limit.
  clientSockfd : Option Nat
  clients : List SendmsgClient
  clientSenders : Nat -> Option Bytes
  -- The connections that were closed again because of the limit.
  refused : List Nat

namespace ReceiverMgr

inductive Event where
  | accept (fd : Nat)
  | testLimit
  -- A message whose sender was checked.
  | onRead (client : Nat) (sendername : Bytes)
  | onClose (client : Nat)
  | onError (client : Nat)
  | onTimeout (client : Nat)
  deriving DecidableEq, Repr

def initial : ReceiverMgr :=
  { sendmsgClientnum := 0, clientSockfd := none, clients := [], clientSenders := fun _ => none,
    refused := [] }

def receiverOnClose (mgr : ReceiverMgr) (client : SendmsgClient) : ReceiverMgr :=
  { mgr with
    sendmsgClientnum := mgr.sendmsgClientnum - 1
    clientSenders := Function.update mgr.clientSenders client.fd none }

-- Each of the three handlers comes before the Close that clears them.
def endClient (mgr : ReceiverMgr) (index : Nat) : Option ReceiverMgr :=
  ((mgr.clients[index]?).filter SendmsgClient.isOpen).map fun client =>
    { mgr.receiverOnClose client with clients := mgr.clients.set index { client with isOpen := false } }

def isFree (mgr : ReceiverMgr) (fd : Nat) : Bool :=
  mgr.clients.all fun client => !(client.isOpen && client.fd == fd)

def step (mgr : ReceiverMgr) : Event -> Option ReceiverMgr
  | .accept fd =>
    if mgr.clientSockfd.isNone && mgr.isFree fd then
      some { mgr with sendmsgClientnum := mgr.sendmsgClientnum + 1, clientSockfd := some fd }
    else none
  | .testLimit =>
    (mgr.clientSockfd).map fun fd =>
      if mgr.sendmsgClientnum > maxSendmsgClientNum then
        { mgr with clientSockfd := none, refused := mgr.refused ++ [fd] }
      else
        { mgr with clientSockfd := none, clients := mgr.clients ++ [{ fd, isOpen := true }] }
  | .onRead index sendername =>
    ((mgr.clients[index]?).filter SendmsgClient.isOpen).map fun client =>
      if (mgr.clientSenders client.fd).isSome then mgr
      else
        { mgr with
          clientSenders := Function.update mgr.clientSenders client.fd (some sendername) }
  | .onClose index | .onError index | .onTimeout index => mgr.endClient index

def openNum (mgr : ReceiverMgr) : Nat := mgr.clients.countP SendmsgClient.isOpen

-- The count is that of the open connections, and a client is refused exactly when the limit is
-- reached without it.
structure ExactCount (mgr : ReceiverMgr) : Prop where
  count : mgr.sendmsgClientnum = mgr.openNum + mgr.clientSockfd.toList.length
  refusal : ∀ following, mgr.step .testLimit = some following →
    (following.refused ≠ mgr.refused ↔ maxSendmsgClientNum ≤ mgr.openNum)

def admits (mgr : ReceiverMgr) : Event -> Bool
  | .testLimit => mgr.openNum < maxSendmsgClientNum
  | .accept _ | .onRead _ _ | .onClose _ | .onError _ | .onTimeout _ => true

structure Counted (mgr : ReceiverMgr) : Prop where
  count : mgr.sendmsgClientnum =
    mgr.openNum + mgr.clientSockfd.toList.length + mgr.refused.length
  senders : ∀ (fd : Nat) (name : Bytes), mgr.clientSenders fd = some name →
    ∃ client ∈ mgr.clients, client.isOpen = true ∧ client.fd = fd

variable {mgr following : ReceiverMgr}

theorem counted_initial : initial.Counted :=
  ⟨rfl, by simp [initial]⟩

theorem Counted.unknown_sender (counted : mgr.Counted) {fd : Nat} (free : mgr.isFree fd = true) :
    mgr.clientSenders fd = none := by
  cases found : mgr.clientSenders fd with
  | none => rfl
  | some name =>
    obtain ⟨client, member, isOpen, same⟩ := counted.senders fd name found
    have closed := List.all_eq_true.mp free client member
    simp [isOpen, same] at closed

theorem testLimit_cases (taken : mgr.step .testLimit = some following) : ∃ fd,
    mgr.clientSockfd = some fd ∧
      ((maxSendmsgClientNum < mgr.sendmsgClientnum ∧
          following = { mgr with clientSockfd := none, refused := mgr.refused ++ [fd] }) ∨
        (mgr.sendmsgClientnum ≤ maxSendmsgClientNum ∧
          following = { mgr with clientSockfd := none
                                 clients := mgr.clients ++ [{ fd, isOpen := true }] })) := by
  obtain ⟨fd, accepted, rfl⟩ := Option.map_eq_some_iff.mp taken
  refine ⟨fd, accepted, ?_⟩
  split
  next above => exact .inl ⟨above, rfl⟩
  next within => exact .inr ⟨not_lt.mp within, rfl⟩

theorem endClient_counted (counted : mgr.Counted) {index : Nat}
    (taken : mgr.endClient index = some following) : following.Counted := by
  obtain ⟨client, found, rfl⟩ := Option.map_eq_some_iff.mp taken
  obtain ⟨there, isOpen⟩ := Option.filter_eq_some_iff.mp found
  obtain ⟨inside, own⟩ := List.getElem?_eq_some_iff.mp there
  refine ⟨?_, ?_⟩
  · have before := counted.count
    have some : 0 < mgr.clients.countP SendmsgClient.isOpen :=
      List.countP_pos_iff.mpr ⟨client, List.mem_of_getElem? there, isOpen⟩
    simp only [openNum, receiverOnClose] at before ⊢
    rw [List.countP_set inside, own, isOpen, if_pos rfl, if_neg Bool.false_ne_true]
    omega
  · intro fd name known
    simp only [receiverOnClose, Function.update_apply] at known
    split at known
    · cases known
    next other =>
      obtain ⟨someone, member, someoneOpen, same⟩ := counted.senders fd name known
      obtain ⟨position, found⟩ := List.mem_iff_getElem?.mp member
      have elsewhere : index ≠ position := by
        rintro rfl
        cases there.symm.trans found
        exact other same.symm
      exact ⟨someone, List.mem_of_getElem? ((List.getElem?_set_ne elsewhere).trans found),
        someoneOpen, same⟩

theorem step_counted (counted : mgr.Counted) {event : Event}
    (taken : mgr.step event = some following) : following.Counted := by
  cases event with
  | accept fd =>
    simp only [step] at taken
    split at taken <;> cases taken
    next free =>
      have idle := Option.isNone_iff_eq_none.mp (Bool.and_eq_true_iff.mp free).1
      refine ⟨?_, counted.senders⟩
      have before := counted.count
      simp only [idle, Option.toList_none, List.length_nil, Option.toList_some,
        List.length_singleton, openNum] at before ⊢
      omega
  | testLimit =>
    obtain ⟨fd, accepted, ⟨_, rfl⟩ | ⟨_, rfl⟩⟩ := testLimit_cases taken
    · refine ⟨?_, counted.senders⟩
      have before := counted.count
      simp only [accepted, Option.toList_none, List.length_nil, Option.toList_some,
        List.length_singleton, List.length_append, openNum] at before ⊢
      omega
    · refine ⟨?_, ?_⟩
      · have before := counted.count
        simp only [accepted, Option.toList_none, List.length_nil, Option.toList_some,
          List.length_singleton, openNum, List.countP_append, List.countP_singleton,
          if_true] at before ⊢
        omega
      · intro known name found
        obtain ⟨client, member, isOpen, same⟩ := counted.senders known name found
        exact ⟨client, List.mem_append_left _ member, isOpen, same⟩
  | onRead index sendername =>
    obtain ⟨client, found, rfl⟩ := Option.map_eq_some_iff.mp taken
    obtain ⟨there, isOpen⟩ := Option.filter_eq_some_iff.mp found
    split
    · exact counted
    · refine ⟨counted.count, ?_⟩
      intro fd name known
      simp only [Function.update_apply] at known
      split at known
      next same => exact ⟨client, List.mem_of_getElem? there, isOpen, same.symm⟩
      next => exact counted.senders fd name known
  | onClose index | onError index | onTimeout index => exact endClient_counted counted taken

theorem Counted.exactCount_iff (counted : mgr.Counted) : mgr.ExactCount ↔ mgr.refused = [] := by
  have drift := counted.count
  constructor
  · intro exact
    have count := exact.count
    exact List.length_eq_zero_iff.mp (by omega)
  · intro none
    rw [none] at drift
    refine ⟨by simpa using drift, ?_⟩
    intro following taken
    obtain ⟨fd, accepted, ⟨above, rfl⟩ | ⟨within, rfl⟩⟩ := testLimit_cases taken
    · simp only [accepted, Option.toList_some, List.length_singleton, List.length_nil] at drift
      simp only [ne_eq, List.append_right_eq_self, List.cons_ne_nil, not_false_eq_true, true_iff]
      omega
    · simp only [accepted, Option.toList_some, List.length_singleton, List.length_nil] at drift
      simp only [ne_eq, not_true_eq_false, false_iff]
      omega

theorem step_refused {event : Event} (taken : mgr.step event = some following) :
    following.refused = mgr.refused ∨ event = .testLimit := by
  cases event with
  | testLimit => exact .inr rfl
  | accept fd =>
    simp only [step] at taken
    split at taken <;> cases taken
    exact .inl rfl
  | onRead index sendername =>
    obtain ⟨client, _, rfl⟩ := Option.map_eq_some_iff.mp taken
    split <;> exact .inl rfl
  | onClose index | onError index | onTimeout index =>
    obtain ⟨client, _, rfl⟩ := Option.map_eq_some_iff.mp taken
    exact .inl rfl

theorem step_exact (counted : mgr.Counted) (exact : mgr.ExactCount) {event : Event}
    (meets : mgr.admits event = true) (taken : mgr.step event = some following) :
    following.ExactCount := by
  have none := counted.exactCount_iff.mp exact
  rw [(step_counted counted taken).exactCount_iff]
  rcases step_refused taken with same | rfl
  · exact same.trans none
  · by_contra some
    rw [← none] at some
    have full := (exact.refusal following taken).mp some
    simp only [admits, decide_eq_true_eq] at meets
    omega

theorem step_drifts (counted : mgr.Counted) {event : Event} (misses : ¬ mgr.admits event = true)
    (taken : mgr.step event = some following) : ¬ following.ExactCount := by
  rw [(step_counted counted taken).exactCount_iff]
  cases event with
  | testLimit =>
    simp only [admits, decide_eq_true_eq, not_lt] at misses
    have count := counted.count
    obtain ⟨fd, accepted, ⟨_, rfl⟩ | ⟨within, _⟩⟩ := testLimit_cases taken
    · simp
    · simp only [accepted, Option.toList_some, List.length_singleton] at count
      omega
  | accept | onRead | onClose | onError | onTimeout => exact absurd rfl misses

theorem step_lasting (counted : mgr.Counted) (drifted : ¬ mgr.ExactCount) {event : Event}
    (taken : mgr.step event = some following) : ¬ following.ExactCount := by
  rw [counted.exactCount_iff] at drifted
  rw [(step_counted counted taken).exactCount_iff]
  rcases step_refused taken with same | rfl
  · exact same ▸ drifted
  · obtain ⟨fd, _, ⟨_, rfl⟩ | ⟨_, rfl⟩⟩ := testLimit_cases taken
    · simp
    · exact drifted

theorem client_count_exact_iff (events : List Event) (mgr : ReceiverMgr)
    (ran : Transition.run step initial events = some mgr) :
    mgr.ExactCount ↔ Transition.run (Transition.checkedStep step fun before event =>
      before.admits event = true) initial events = some mgr := by
  refine Transition.holds_iff_checked (fun _ _ _ counted taken => step_counted counted taken)
    (fun _ _ _ counted exact meets taken => step_exact counted exact meets taken)
    (fun _ _ _ counted misses taken => step_drifts counted misses taken)
    (fun _ _ _ counted drifted taken => step_lasting counted drifted taken)
    counted_initial ?_ events ran
  exact counted_initial.exactCount_iff.mpr rfl

def twoClients : List Event :=
  [.accept 5, .testLimit, .onRead 0 [65], .onTimeout 0, .accept 5, .testLimit]

theorem client_count_exact_twoClients : ∃ mgr,
    Transition.run step initial twoClients = some mgr ∧ mgr.ExactCount :=
  ⟨_, rfl, (client_count_exact_iff twoClients _ rfl).mpr rfl⟩

def clientsFrom : Nat -> List Event
  | 0 => []
  | fd + 1 => clientsFrom fd ++ [.accept fd, .testLimit]

def withClients (number : Nat) : ReceiverMgr :=
  { sendmsgClientnum := number, clientSockfd := none
    clients := (List.range number).map fun fd => { fd, isOpen := true }
    clientSenders := fun _ => none, refused := [] }

theorem withClients_free (number : Nat) : (withClients number).isFree number = true := by
  simp only [isFree, withClients, List.all_map, List.all_eq_true, List.mem_range,
    Function.comp_apply]
  intro fd below
  simp [Nat.ne_of_lt below]

theorem clientsFrom_admitted (number : Nat) (within : number ≤ maxSendmsgClientNum) :
    Transition.run step initial (clientsFrom number) = some (withClients number) := by
  induction number with
  | zero => rfl
  | succ number ih =>
    rw [clientsFrom, Transition.run_append, ih (by omega), Option.bind_some]
    have accepted : (withClients number).step (.accept number) = some { withClients number with
        sendmsgClientnum := number + 1, clientSockfd := some number } := by
      simp only [step, withClients_free, Bool.and_true]
      rfl
    have room : ¬ ((number : Int) + 1 > maxSendmsgClientNum) := by omega
    rw [Transition.run, accepted]
    simp [Transition.run, step, room, withClients, List.range_succ]

def oneTooMany : List Event :=
  clientsFrom maxSendmsgClientNum ++
    [.accept maxSendmsgClientNum, .testLimit, .onClose 0, .accept 0, .testLimit]

-- The client refused first still counts when the first of the others has gone.
theorem closed_and_refused (rest : List SendmsgClient) (apart : ∀ client ∈ rest, client.fd ≠ 0) :
    Transition.run step
      { sendmsgClientnum := maxSendmsgClientNum + 1, clientSockfd := some maxSendmsgClientNum
        clients := { fd := 0, isOpen := true } :: rest
        clientSenders := fun _ => none, refused := [] }
      [.testLimit, .onClose 0, .accept 0, .testLimit] =
    some
      { sendmsgClientnum := maxSendmsgClientNum + 1, clientSockfd := none
        clients := { fd := 0, isOpen := false } :: rest
        clientSenders := fun _ => none, refused := [maxSendmsgClientNum, 0] } := by
  have free : (∀ client ∈ rest, client.isOpen = false ∨ ¬ client.fd = 0) = True :=
    eq_true fun client member => .inr (apart client member)
  have first : Option.filter SendmsgClient.isOpen (some { fd := 0, isOpen := true }) =
      some { fd := 0, isOpen := true } := rfl
  simp [Transition.run, step, endClient, receiverOnClose, isFree, first, free, maxSendmsgClientNum]

theorem room_left_and_refused : ∃ mgr, Transition.run step initial oneTooMany = some mgr ∧
    mgr.refused = [maxSendmsgClientNum, 0] ∧ mgr.openNum < maxSendmsgClientNum ∧
      ¬ mgr.ExactCount := by
  let rest : List SendmsgClient := (List.range 1023).map fun fd => { fd := fd + 1, isOpen := true }
  have clients : (withClients maxSendmsgClientNum).clients = { fd := 0, isOpen := true } :: rest := by
    simp only [withClients, maxSendmsgClientNum, List.range_succ_eq_map (n := 1023),
      List.map_cons, List.map_map, Function.comp_def, rest]
  have accepted : (withClients maxSendmsgClientNum).step (.accept maxSendmsgClientNum) = some
      { sendmsgClientnum := maxSendmsgClientNum + 1, clientSockfd := some maxSendmsgClientNum
        clients := { fd := 0, isOpen := true } :: rest
        clientSenders := fun _ => none, refused := [] } := by
    rw [← clients]
    simp only [step, withClients_free, Bool.and_true]
    rfl
  have ran : Transition.run step initial oneTooMany = some
      { sendmsgClientnum := maxSendmsgClientNum + 1, clientSockfd := none
        clients := { fd := 0, isOpen := false } :: rest
        clientSenders := fun _ => none, refused := [maxSendmsgClientNum, 0] } := by
    rw [oneTooMany, Transition.run_append, clientsFrom_admitted _ le_rfl, Option.bind_some,
      Transition.run, accepted, Option.bind_some]
    exact closed_and_refused rest (by simp [rest])
  have others : rest.countP SendmsgClient.isOpen = 1023 := by
    simp [rest, List.countP_map, Function.comp_def]
  refine ⟨_, ran, rfl, ?_, fun exact => ?_⟩
  · simp [openNum, others, maxSendmsgClientNum]
  · have count := exact.count
    simp [openNum, others, maxSendmsgClientNum] at count

end ReceiverMgr
end MessageBus.Client
