import Mathlib.Data.Finset.Card
import BiBeam.Coordinator.GateRuns

namespace BiBeam

namespace Delivery

def response : Delivery → MatchResponse
  | .returned _ response _ => response
  | .sent _ response _ => response

def cohort : Delivery → CohortRecord
  | .returned _ _ cohort => cohort
  | .sent _ _ cohort => cohort

/-- The request that a response answers. -/
def request? (channels : List AdmitRequest) : Delivery → Option AdmitRequest
  | .returned request _ _ => some request
  | .sent waiter _ _ => GateWorld.asker? channels waiter

/-- The receiver is one of at least `floor` distinct members, and is put
into the cohort it asked for. -/
def MeetsFloor (floor : UInt32) (channels : List AdmitRequest) (delivery : Delivery) : Prop :=
  floor.toNat ≤ delivery.cohort.members.toFinset.card ∧
    ∃ request, delivery.request? channels = some request ∧ request.peerId ∈ delivery.cohort.members ∧
      delivery.response.cohort? = some request.cohortId

theorem MeetsFloor.append {floor : UInt32} {channels : List AdmitRequest} {delivery : Delivery}
    (safe : delivery.MeetsFloor floor channels) (newest : AdmitRequest) :
    delivery.MeetsFloor floor (channels ++ [newest]) := by
  obtain ⟨enough, request, asked, member, named⟩ := safe
  refine ⟨enough, request, ?_, member, named⟩
  cases delivery with
  | returned => exact asked
  | sent => exact GateWorld.asker?_append asked newest

end Delivery

namespace GateWorld

variable {σ : Type} [DecidableEq σ]

/-- The invariant behind the floor: records without repetitions, waiters
parked as they asked, and only safe deliveries so far. -/
structure FloorInvariant (world : GateWorld σ) : Prop where
  distinct : ∀ slot, (world.records slot).members.Nodup
  asked : world.ParkedAsAsked
  safe : ∀ delivery ∈ world.delivered, delivery.MeetsFloor world.gate.floor world.channels

omit [DecidableEq σ] in
theorem card_members {cohort : CohortRecord} (distinct : cohort.members.Nodup) :
    cohort.members.toFinset.card = cohort.members.length :=
  List.toFinset_card_of_nodup distinct

theorem distinct_update {records : σ → CohortRecord} (distinct : ∀ slot, (records slot).members.Nodup)
    (slot : σ) (peerId : PeerId) (region : String) (other : σ) :
    (Function.update records slot ((records slot).joined peerId region) other).members.Nodup := by
  by_cases here : other = slot
  · rw [here, Function.update_self]
    exact CohortRecord.joined_nodup (distinct slot) peerId region
  · rw [Function.update_of_ne here]
    exact distinct other

theorem FloorInvariant.step {world next : GateWorld σ} {call : GateCall σ} (inv : world.FloorInvariant)
    (effect : world.Effect call next) : next.FloorInvariant := by
  have asked := inv.asked.step effect
  cases effect with
  | refused | underFloor => exact inv
  | @admitted slot request exitRegionLookup cohort accepts joins reached =>
    subst joins
    refine ⟨distinct_update inv.distinct slot _ _, asked, fun delivery member => ?_⟩
    rcases List.mem_append.mp member with old | new
    · exact inv.safe delivery old
    · rw [List.mem_singleton.mp new]
      have distinct := CohortRecord.joined_nodup (inv.distinct slot) request.peerId request.region
      rw [← card_members distinct] at reached
      exact ⟨reached, request, rfl, CohortRecord.mem_joined.mpr (Or.inr rfl),
        AdmissionGate.buildResponse_cohort ..⟩
  | @parked slot request exitRegionLookup cohort pending dropped accepts joins short parking =>
    subst joins
    exact ⟨distinct_update inv.distinct slot _ _, asked,
      fun delivery member => (inv.safe delivery member).append request⟩
  | @released slot region cohortId auditLog exitRegionLookup ready pending reached draining =>
    refine ⟨inv.distinct, asked, fun delivery member => ?_⟩
    rcases List.mem_append.mp member with old | new
    · exact inv.safe delivery old
    · obtain ⟨waiter, isReady, rfl⟩ := List.mem_map.mp new
      rw [(partitionWaitersFor_spec draining).1, List.mem_filter] at isReady
      obtain ⟨waits, matching⟩ := isReady
      rw [Bool.and_eq_true, decide_eq_true_eq, List.contains_iff_mem] at matching
      rw [← card_members (inv.distinct slot)] at reached
      have named : (buildResponse cohortId (world.records slot) exitRegionLookup).cohort? =
          some waiter.cohortId := by rw [matching.1, AdmissionGate.buildResponse_cohort]
      exact ⟨reached, _, inv.asked region waiter waits, matching.2, named⟩
  | cancelled => exact ⟨inv.distinct, asked, inv.safe⟩

theorem after_floorInvariant (floor : UInt32) {records : σ → CohortRecord}
    (distinct : ∀ slot, (records slot).members.Nodup) (calls : List (GateCall σ)) :
    (after floor records calls).FloorInvariant := by
  refine after_invariant ?_ (fun inv effect => inv.step effect) calls
  exact ⟨distinct, after_parkedAsAsked floor records [], fun delivery member => nomatch member⟩

/-- Every response the gate ever delivers goes to one of at least `floor`
distinct members of the record at hand, and no record ever repeats a member. -/
theorem delivered_meetsFloor (floor : UInt32) (records : σ → CohortRecord)
    (distinct : ∀ slot, (records slot).members.Nodup) (calls : List (GateCall σ)) :
    (∀ slot, ((after floor records calls).records slot).members.Nodup) ∧
      ∀ delivery ∈ (after floor records calls).delivered,
        delivery.MeetsFloor floor (after floor records calls).channels := by
  have inv := after_floorInvariant floor distinct calls
  have safe := inv.safe
  rw [after_floor floor records calls] at safe
  exact ⟨inv.distinct, safe⟩

/-- Floor two: the first peer parks, the second is admitted, and the drain
then answers the first. -/
def twoPeers : List (GateCall Unit) :=
  [.admitOrBucket () ⟨⟨1⟩, ⟨7⟩, "eu-west"⟩ fun _ => none,
   .admitOrBucket () ⟨⟨2⟩, ⟨7⟩, "eu-west"⟩ fun _ => none,
   .drainReady () "eu-west" ⟨7⟩ none fun _ => none]

theorem delivered_meetsFloor_twoPeers :
    (after 2 (fun _ => ⟨[], [], 0, ""⟩) twoPeers).delivered.length = 2 ∧
      (∀ slot, ((after 2 (fun _ => ⟨[], [], 0, ""⟩) twoPeers).records slot).members.Nodup) ∧
      ∀ delivery ∈ (after 2 (fun _ => ⟨[], [], 0, ""⟩) twoPeers).delivered,
        delivery.MeetsFloor 2 (after 2 (fun _ => ⟨[], [], 0, ""⟩) twoPeers).channels :=
  ⟨by decide, delivered_meetsFloor 2 _ (fun _ => List.nodup_nil) twoPeers⟩

end GateWorld

end BiBeam
