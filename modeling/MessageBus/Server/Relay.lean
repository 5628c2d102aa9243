import MessageBus.Server.WellFormed

set_option autoImplicit false

namespace MessageBus.Server

def isPrefixMatching (left right : Name) : Bool :=
  if left.length > right.length then left.take right.length == right
  else right.take left.length == left

theorem isPrefixMatching_iff {left right : Name} :
    isPrefixMatching left right = true ↔ right <+: left ∨ left <+: right := by
  simp only [isPrefixMatching, List.prefix_iff_eq_take]
  split
  next longer =>
    have notPrefix : left ≠ right.take left.length := by
      intro same
      have bound := congrArg List.length same
      rw [List.length_take] at bound
      omega
    rw [beq_iff_eq]
    exact ⟨fun same => .inl same.symm, fun either =>
      either.elim Eq.symm fun other => absurd other notPrefix⟩
  next short =>
    have same : right = left.take right.length → left = right.take left.length := by
      intro equal
      have bound := congrArg List.length equal
      rw [List.length_take] at bound
      have sameLength : right.length = left.length := by omega
      rw [← sameLength, List.take_length, equal, sameLength, List.take_length]
    rw [beq_iff_eq]
    exact ⟨fun matching => .inr matching.symm, fun either => (either.elim same id).symm⟩

-- The loop of msgbus_select_best_client, which looks at the draw before it lowers it.
def selectBestClientLoop (bestelem : Nat) : Int -> List Nat -> Nat
  | _, [] => bestelem
  | randselect, pos :: rest =>
    if randselect < 0 then pos else selectBestClientLoop bestelem (randselect - 1) rest

-- msgbus_select_best_client on the connections of a service, in the order of their addresses.
def selectBestClient (rand : Rand) (container : Std.ExtTreeSet Nat) : Option Nat :=
  match container.toList with
  | [] => none
  | first :: rest =>
    some (selectBestClientLoop first (randselect rand container.size) (first :: rest))

theorem selectBestClientLoop_member {bestelem : Nat} {clients : List Nat} (randselect : Int) :
    selectBestClientLoop bestelem randselect clients = bestelem ∨
      selectBestClientLoop bestelem randselect clients ∈ clients := by
  induction clients generalizing randselect with
  | nil => exact .inl rfl
  | cons pos rest ih =>
    rw [selectBestClientLoop]
    split
    · exact .inr List.mem_cons_self
    · exact (ih (randselect - 1)).imp_right (List.mem_cons_of_mem pos)

theorem selectBestClient_member {rand : Rand} {container : Std.ExtTreeSet Nat} {client : Nat}
    (selected : selectBestClient rand container = some client) : client ∈ container.toList := by
  unfold selectBestClient at selected
  split at selected
  next => cases selected
  next first rest there =>
    rw [there, ← Option.some.inj selected]
    rcases @selectBestClientLoop_member first (first :: rest) _ with same | inside
    · rw [same]
      exact List.mem_cons_self
    · exact inside

theorem selectBestClient_filled (rand : Rand) {container : Std.ExtTreeSet Nat}
    (filled : container.isEmpty = false) :
    ∃ client, selectBestClient rand container = some client := by
  unfold selectBestClient
  split
  next nothing =>
    have empty : container.toList.isEmpty = container.isEmpty := Std.ExtTreeSet.isEmpty_toList
    rw [nothing, filled] at empty
    cases empty
  next => exact ⟨_, rfl⟩

structure MsgBusSendMsgRsp where
  msgId : UInt32
  retCode : UInt16
  errMsg : String
  deriving DecidableEq, Repr

namespace Registry

def isExist (registry : Registry) (destName : Name) : Bool :=
  registry.activeClients.toList.any fun entry =>
    isPrefixMatching entry.1 destName && decide (entry.2.size > 0)

def sendmsgAnswer (registry : Registry) (msgId : UInt32) (destName : Name) : MsgBusSendMsgRsp :=
  if registry.isExist destName then { msgId, retCode := 0, errMsg := "" }
  else { msgId, retCode := 1, errMsg := "dest client not found." }

def pickFrom (draw : Name -> Rand) (entry : Name × Std.ExtTreeSet Nat) : Option (Name × Nat) :=
  (selectBestClient (draw entry.1) entry.2).map fun destclient => (entry.1, destclient)

-- The connections msgbus_process_thread picks for a task with a destination.
def matchedClients (registry : Registry) (draw : Name -> Rand) (clientName : Name) :
    List (Name × Nat) :=
  registry.activeClients.toList.filterMap fun entry =>
    if isPrefixMatching entry.1 clientName then pickFrom draw entry else none

-- The same for a broadcast: one connection for each service, in the order of the names.
def allClients (registry : Registry) (draw : Name -> Rand) : List (Name × Nat) :=
  registry.activeClients.toList.filterMap (pickFrom draw)

structure ReachesGroup (registry : Registry) (dest : Name) : Prop where
  answered : ∀ msgId, (registry.sendmsgAnswer msgId dest).retCode = 0 ↔
    ∃ serviceName ∈ registry.activeClients, dest <+: serviceName
  picked : ∀ draw serviceName, serviceName ∈ (registry.matchedClients draw dest).map Prod.fst ↔
    serviceName ∈ registry.activeClients ∧ dest <+: serviceName
  once : ∀ draw, ((registry.matchedClients draw dest).map Prod.fst).Nodup
  own : ∀ draw, ∀ pick ∈ registry.matchedClients draw dest, registry.active pick.1 pick.2 = true

variable {registry : Registry}

theorem member_toList {serviceName : Name} :
    serviceName ∈ registry.activeClients ↔
      ∃ clients, (serviceName, clients) ∈ registry.activeClients.toList := by
  simp only [Std.ExtTreeMap.mem_iff_isSome_getElem?, Option.isSome_iff_exists,
    Std.ExtTreeMap.mem_toList_iff_getElem?_eq_some]

theorem WellFormed.entry (formed : registry.WellFormed) {serviceName : Name}
    {clients : Std.ExtTreeSet Nat compare}
    (member : (serviceName, clients) ∈ registry.activeClients.toList) :
    clients.isEmpty = false :=
  (formed.clients serviceName clients
    (Std.ExtTreeMap.mem_toList_iff_getElem?_eq_some.mp member)).filled

theorem isExist_iff (formed : registry.WellFormed) {dest : Name} :
    registry.isExist dest = true ↔
      ∃ serviceName ∈ registry.activeClients, isPrefixMatching serviceName dest = true := by
  simp only [isExist, List.any_eq_true, Bool.and_eq_true, decide_eq_true_eq]
  constructor
  · rintro ⟨entry, member, matching, _⟩
    exact ⟨entry.1, member_toList.mpr ⟨entry.2, member⟩, matching⟩
  · rintro ⟨serviceName, active, matching⟩
    obtain ⟨clients, member⟩ := member_toList.mp active
    have filled := formed.entry member
    rw [Std.ExtTreeSet.isEmpty_eq_size_beq_zero, beq_eq_false_iff_ne] at filled
    exact ⟨_, member, matching, Nat.pos_of_ne_zero filled⟩

theorem sendmsgAnswer_iff {msgId : UInt32} {dest : Name} :
    (registry.sendmsgAnswer msgId dest).retCode = 0 ↔ registry.isExist dest = true := by
  unfold sendmsgAnswer
  split
  next found => simp [found]
  next missing => simp [missing]

theorem pickFrom_some {draw : Name -> Rand} {entry : Name × Std.ExtTreeSet Nat}
    {pick : Name × Nat} (picked : pickFrom draw entry = some pick) :
    pick.1 = entry.1 ∧ pick.2 ∈ entry.2.toList := by
  obtain ⟨client, selected, rfl⟩ := Option.map_eq_some_iff.mp picked
  exact ⟨rfl, selectBestClient_member selected⟩

theorem matchedClients_iff (formed : registry.WellFormed) (draw : Name -> Rand) {dest : Name}
    {serviceName : Name} : serviceName ∈ (registry.matchedClients draw dest).map Prod.fst ↔
      serviceName ∈ registry.activeClients ∧ isPrefixMatching serviceName dest = true := by
  simp only [matchedClients, List.mem_map, List.mem_filterMap]
  constructor
  · rintro ⟨pick, ⟨entry, member, picked⟩, rfl⟩
    split at picked
    next matching =>
      rw [(pickFrom_some picked).1]
      exact ⟨member_toList.mpr ⟨entry.2, member⟩, matching⟩
    next => cases picked
  · rintro ⟨active, matching⟩
    obtain ⟨clients, member⟩ := member_toList.mp active
    obtain ⟨client, selected⟩ := selectBestClient_filled (draw serviceName) (formed.entry member)
    refine ⟨(serviceName, client), ⟨_, member, ?_⟩, rfl⟩
    rw [if_pos matching, pickFrom, selected, Option.map_some]

theorem matchedClients_own {draw : Name -> Rand} {dest : Name} {pick : Name × Nat}
    (member : pick ∈ registry.matchedClients draw dest) :
    registry.active pick.1 pick.2 = true := by
  obtain ⟨entry, there, picked⟩ := List.mem_filterMap.mp member
  split at picked
  next =>
    have own := pickFrom_some picked
    refine active_iff.mpr ⟨entry.2, ?_, ?_⟩
    · rw [own.1]
      exact Std.ExtTreeMap.mem_toList_iff_getElem?_eq_some.mp there
    · exact Std.ExtTreeSet.mem_iff_contains.mp (Std.ExtTreeSet.mem_toList.mp own.2)
  next => cases picked

theorem keys_filterMap {Key Value Pick : Type} (choose : Key × Value -> Option (Key × Pick))
    (own : ∀ entry pick, choose entry = some pick → pick.1 = entry.1)
    (entries : List (Key × Value)) :
    List.Sublist ((entries.filterMap choose).map Prod.fst) (entries.map Prod.fst) := by
  induction entries with
  | nil => exact List.Sublist.refl _
  | cons entry rest ih =>
    cases chosen : choose entry with
    | none =>
      rw [List.filterMap_cons_none chosen]
      exact ih.cons entry.1
    | some pick =>
      rw [List.filterMap_cons_some chosen, List.map_cons, List.map_cons, own entry pick chosen]
      exact ih.cons_cons entry.1

theorem nodup_names : (registry.activeClients.toList.map Prod.fst).Nodup := by
  rw [Std.ExtTreeMap.map_fst_toList_eq_keys]
  exact Std.ExtTreeMap.nodup_keys

theorem matchedClients_once (draw : Name -> Rand) (dest : Name) :
    ((registry.matchedClients draw dest).map Prod.fst).Nodup := by
  refine (keys_filterMap _ ?_ _).nodup nodup_names
  intro entry pick picked
  split at picked
  next => exact (pickFrom_some picked).1
  next => cases picked

theorem prefix_antisymm {left right : Name} (forward : left <+: right)
    (backward : right <+: left) : left = right :=
  forward.eq_of_length_le backward.length_le

theorem reaches_group_iff (reached : Transition.Reachable step empty registry) (dest : Name) :
    registry.ReachesGroup dest ↔
      ∀ serviceName ∈ registry.activeClients, serviceName <+: dest → serviceName = dest := by
  have formed := reachable_wellFormed reached
  constructor
  · intro reaches serviceName active shorter
    have matching := isPrefixMatching_iff.mpr (Or.inr shorter)
    have picked := (matchedClients_iff formed (fun _ => 0)).mpr ⟨active, matching⟩
    exact prefix_antisymm shorter ((reaches.picked (fun _ => 0) serviceName).mp picked).2
  · intro noShorter
    have group : ∀ serviceName, serviceName ∈ registry.activeClients →
        (isPrefixMatching serviceName dest = true ↔ dest <+: serviceName) := by
      intro serviceName active
      rw [isPrefixMatching_iff]
      constructor
      · rintro (longer | shorter)
        · exact longer
        · exact noShorter serviceName active shorter ▸ List.prefix_rfl
      · exact .inl
    refine ⟨?_, ?_, fun draw => matchedClients_once draw dest,
      fun draw pick member => matchedClients_own member⟩
    · intro msgId
      rw [sendmsgAnswer_iff, isExist_iff formed]
      constructor
      · rintro ⟨serviceName, active, matching⟩
        exact ⟨serviceName, active, (group serviceName active).mp matching⟩
      · rintro ⟨serviceName, active, longer⟩
        exact ⟨serviceName, active, (group serviceName active).mpr longer⟩
    · intro draw serviceName
      rw [matchedClients_iff formed]
      exact and_congr_right (group serviceName)

-- The clients "ne" and "nu".
def newsClients : List Event :=
  [registerEvent 0 [110, 101] 80, registerEvent 1 [110, 117] 80]

theorem reaches_group_iff_newsClients :
    ∃ registry, Transition.run step empty newsClients = some registry ∧
      (registry.ReachesGroup [110] ↔
        ∀ serviceName ∈ registry.activeClients, serviceName <+: [110] → serviceName = [110]) :=
  ⟨_, rfl, reaches_group_iff (Transition.Reachable.run .start newsClients rfl) [110]⟩

-- A message for "nex", which begins no name, is taken and goes to "ne".
theorem shorter_name_reached :
    ∃ registry, Transition.run step empty newsClients = some registry ∧
      (registry.sendmsgAnswer 1 [110, 101, 120]).retCode = 0 ∧
        registry.matchedClients (fun _ => 0) [110, 101, 120] = [([110, 101], 0)] ∧
          ¬ registry.ReachesGroup [110, 101, 120] := by
  refine ⟨_, rfl, by decide, by decide, ?_⟩
  intro reaches
  have picked := (reaches.picked (fun _ => 0) [110, 101]).mp (by decide)
  exact absurd picked.2 (by decide)

end Registry
end MessageBus.Server
