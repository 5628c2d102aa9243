import Mathlib

set_option autoImplicit false

-- Numbered items on a queue from which an item may be parked and queued again.
@[ext]
structure Lane where
  handed : List Nat
  onWay : List Nat
  parked : List Nat
  next : Nat
  deriving DecidableEq, Repr

namespace Lane

structure Ordered (lane : Lane) : Prop where
  handed : lane.handed.Pairwise (· < ·)
  onWay : lane.onWay.Pairwise (· < ·)
  ahead : ∀ done ∈ lane.handed, ∀ item ∈ lane.onWay ++ lane.parked, done < item
  issued : ∀ item ∈ lane.handed ++ lane.onWay ++ lane.parked, item < lane.next

-- The moves that keep the order: an item is handed over before the parked ones, and a parked item
-- is queued again behind earlier ones only.
inductive Step (lane : Lane) : Lane -> Prop where
  | forget (parked : List Nat) (fewer : ∀ item ∈ parked, item ∈ lane.parked) (next : Nat)
      (later : lane.next ≤ next) : Step lane { lane with parked, next }
  | issue : Step lane { lane with onWay := lane.onWay ++ [lane.next], next := lane.next + 1 }
  | hand (first : Nat) (rest : List Nat) (queue : lane.onWay = first :: rest)
      (before : ∀ item ∈ lane.parked, first < item) :
      Step lane { lane with handed := lane.handed ++ [first], onWay := rest }
  | drop (first : Nat) (rest : List Nat) (queue : lane.onWay = first :: rest) :
      Step lane { lane with onWay := rest }
  | park (first : Nat) (rest : List Nat) (parked : List Nat) (queue : lane.onWay = first :: rest)
      (moved : ∀ item ∈ parked, item = first ∨ item ∈ lane.parked) :
      Step lane { lane with onWay := rest, parked }
  | requeue (item : Nat) (parked : List Nat) (wasParked : item ∈ lane.parked)
      (behind : ∀ other ∈ lane.onWay, other < item) (fewer : ∀ item ∈ parked, item ∈ lane.parked) :
      Step lane { lane with onWay := lane.onWay ++ [item], parked }

theorem Step.same {lane following other : Lane} (step : lane.Step other)
    (same : following = other) : lane.Step following :=
  same ▸ step

theorem Step.stay {lane following : Lane} (same : following = lane) : lane.Step following :=
  .same (.forget lane.parked (fun _ member => member) lane.next le_rfl) same

theorem ordered_new : Ordered { handed := [], onWay := [], parked := [], next := 0 } := by
  constructor <;> simp

theorem pairwise_concat {list : List Nat} {last : Nat} (ordered : list.Pairwise (· < ·))
    (below : ∀ item ∈ list, item < last) : (list ++ [last]).Pairwise (· < ·) := by
  rw [List.pairwise_append]
  refine ⟨ordered, List.pairwise_singleton _ _, ?_⟩
  intro item member other isLast
  rw [List.mem_singleton.mp isLast]
  exact below item member

theorem Step.ordered {lane following : Lane} (step : lane.Step following)
    (before : lane.Ordered) : following.Ordered := by
  obtain ⟨handed, onWay, ahead, issued⟩ := before
  simp only [List.mem_append] at ahead issued
  cases step with
  | forget parked fewer next later =>
    refine ⟨handed, onWay, ?_, ?_⟩ <;> simp only [List.mem_append]
    · intro done member item still
      exact ahead done member item (still.imp_right (fewer item))
    · intro item member
      exact (issued item (member.imp_right (fewer item))).trans_le later
  | issue =>
    refine ⟨handed, pairwise_concat onWay fun item member => issued item (.inl (.inr member)),
      ?_, ?_⟩ <;> simp only [List.mem_append, List.mem_singleton]
    · rintro done member item ((queued | rfl) | parked)
      · exact ahead done member item (.inl queued)
      · exact issued done (.inl (.inl member))
      · exact ahead done member item (.inr parked)
    · rintro item ((before | queued | rfl) | parked)
      · exact Nat.lt_succ_of_lt (issued item (.inl (.inl before)))
      · exact Nat.lt_succ_of_lt (issued item (.inl (.inr queued)))
      · exact Nat.lt_succ_self _
      · exact Nat.lt_succ_of_lt (issued item (.inr parked))
  | hand first rest queue earlier =>
    rw [queue] at onWay ahead issued
    obtain ⟨below, restOrdered⟩ := List.pairwise_cons.mp onWay
    refine ⟨pairwise_concat handed fun done member =>
      ahead done member first (.inl List.mem_cons_self), restOrdered, ?_, ?_⟩ <;>
      simp only [List.mem_append, List.mem_singleton]
    · rintro done (member | rfl) item still
      · exact ahead done member item (still.imp_left (List.mem_cons_of_mem _))
      · exact still.elim (below item) (earlier item)
    · rintro item (((before | rfl) | queued) | parked)
      · exact issued item (.inl (.inl before))
      · exact issued item (.inl (.inr List.mem_cons_self))
      · exact issued item (.inl (.inr (List.mem_cons_of_mem _ queued)))
      · exact issued item (.inr parked)
  | drop first rest queue =>
    rw [queue] at onWay ahead issued
    refine ⟨handed, (List.pairwise_cons.mp onWay).2, ?_, ?_⟩ <;> simp only [List.mem_append]
    · intro done member item still
      exact ahead done member item (still.imp_left (List.mem_cons_of_mem _))
    · intro item member
      exact issued item (member.imp_left (Or.imp_right (List.mem_cons_of_mem _)))
  | park first rest parked queue moved =>
    rw [queue] at onWay ahead issued
    have wasThere {item : Nat} (member : item ∈ parked) :
        item ∈ first :: rest ∨ item ∈ lane.parked := by
      rcases moved item member with rfl | before
      · exact .inl List.mem_cons_self
      · exact .inr before
    refine ⟨handed, (List.pairwise_cons.mp onWay).2, ?_, ?_⟩ <;> simp only [List.mem_append]
    · rintro done member item (queued | isParked)
      · exact ahead done member item (.inl (List.mem_cons_of_mem _ queued))
      · exact ahead done member item (wasThere isParked)
    · rintro item ((before | queued) | isParked)
      · exact issued item (.inl (.inl before))
      · exact issued item (.inl (.inr (List.mem_cons_of_mem _ queued)))
      · exact issued item ((wasThere isParked).imp_left Or.inr)
  | requeue item parked wasParked behind fewer =>
    refine ⟨handed, pairwise_concat onWay behind, ?_, ?_⟩ <;>
      simp only [List.mem_append, List.mem_singleton]
    · rintro done member other ((queued | rfl) | isParked)
      · exact ahead done member other (.inl queued)
      · exact ahead done member other (.inr wasParked)
      · exact ahead done member other (.inr (fewer other isParked))
    · rintro other ((before | queued | rfl) | isParked)
      · exact issued other (.inl (.inl before))
      · exact issued other (.inl (.inr queued))
      · exact issued other (.inr wasParked)
      · exact issued other (.inr (fewer other isParked))

theorem Ordered.abandoned {lane : Lane} (ordered : lane.Ordered) :
    Ordered { lane with onWay := [] } := by
  refine ⟨ordered.handed, .nil, ?_, ?_⟩
  · exact fun done member item still =>
      ordered.ahead done member item (List.mem_append_right _ still)
  · intro item member
    rw [List.append_nil, List.mem_append] at member
    refine ordered.issued item ?_
    simp only [List.mem_append]
    exact member.imp_left Or.inl

end Lane
