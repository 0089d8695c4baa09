import BiBeam.Coordinator.GateRefinement

namespace BiBeam

open WaitList

namespace WaitMap

/-- The requests that wait in a region. -/
def requestsIn (map : WaitMap) (region : String) : Set (CohortId × PeerId) :=
  {request | (region, request) ∈ map.keys}

/-- The peers that wait in a region, for whatever cohorts. -/
def peersIn (map : WaitMap) (region : String) : Set PeerId :=
  {peerId | ∃ cohortId, (region, cohortId, peerId) ∈ map.keys}

end WaitMap

namespace WaitList

/-- No peer waits twice in a region, not even for two cohorts. -/
def OnePeerEach (waiters : WaitList) : Prop :=
  ∀ region, ((bucket waiters region).map PendingAdmission.peerId).Nodup

theorem mem_requestsIn {waiters : WaitList} {region : String} {request : CohortId × PeerId} :
    request ∈ (bucket waiters region).map PendingAdmission.key ↔ request ∈ (view waiters).requestsIn region := by
  rw [WaitMap.requestsIn, Set.mem_ofPred_eq, mem_keys, List.mem_map]

theorem mem_peersIn {waiters : WaitList} {region : String} {peerId : PeerId} :
    peerId ∈ (bucket waiters region).map PendingAdmission.peerId ↔ peerId ∈ (view waiters).peersIn region := by
  rw [WaitMap.peersIn, Set.mem_ofPred_eq, List.mem_map]
  constructor
  · rintro ⟨entry, member, rfl⟩
    exact ⟨entry.cohortId, mem_keys.mpr ⟨entry, member, rfl⟩⟩
  · rintro ⟨cohortId, waits⟩
    obtain ⟨entry, member, same⟩ := mem_keys.mp waits
    exact ⟨entry, member, (Prod.mk.inj same).2⟩

theorem onePeerEach_filter {waiters after : WaitList} {keep : String → PendingAdmission → Bool}
    (filtered : ∀ region, bucket after region = (bucket waiters region).filter (keep region))
    (once : OnePeerEach waiters) : OnePeerEach after := by
  intro region
  rw [filtered region]
  exact KeyedQueue.nodup_filter (once region) _

/-- Parking replaces a waiter of the same cohort only, so it keeps one waiter
for each peer just when the peer does not wait there for another cohort. -/
theorem onePeerEach_upsert {waiters after : WaitList} {region : String} {entry : PendingAdmission}
    {dropped : List PendingAdmission} (run : upsertPendingEntry waiters region entry = (after, dropped))
    (once : OnePeerEach waiters) : OnePeerEach after ↔
      ∀ prior ∈ bucket waiters region, prior.peerId = entry.peerId → prior.cohortId = entry.cohortId := by
  have distinct : ((bucket waiters region).map (Prod.snd ∘ PendingAdmission.key)).Nodup := once region
  have put := KeyedQueue.nodup_put_coarse Prod.snd distinct entry
  have atRegion := bucket_upsert run region
  rw [if_pos rfl] at atRegion
  constructor
  · intro still prior member same
    have here := still region
    rw [atRegion] at here
    exact (Prod.mk.inj (put.mp here prior member same)).1
  · intro apart other
    rw [bucket_upsert run other]
    split
    · exact put.mpr fun prior member same => Prod.ext (apart prior member same) same
    · exact once other

end WaitList

namespace AdmissionGate

theorem membersInRegion_eq (gate : AdmissionGate) (region : String) :
    gate.membersInRegion region = (bucket gate.pending region).map PendingAdmission.peerId := by
  rw [membersInRegion, bucket]
  cases gate.pending.lookup region <;> rfl

/-- The flow count of every region counts each waiting peer at most once. -/
def CountsPeersOnce (gate : AdmissionGate) : Prop :=
  ∀ region, (gate.membersInRegion region).Nodup ∧
    (gate.membersInRegion region).length ≤ ((view gate.pending).peersIn region).ncard

theorem countsPeersOnce_iff {gate : AdmissionGate} : gate.CountsPeersOnce ↔ OnePeerEach gate.pending := by
  constructor
  · intro counts region
    have once := (counts region).1
    rwa [membersInRegion_eq] at once
  · intro once region
    have counted := KeyedQueue.length_eq_ncard (once region) fun _ => mem_peersIn
    rw [membersInRegion_eq, List.length_map]
    exact ⟨once region, counted.le⟩

end AdmissionGate

namespace GateWorld

variable {σ : Type} [DecidableEq σ]

/-- What the flow count really is: the requests that wait in the region, a
peer once for each of its cohorts. -/
theorem after_membersInRegion_length (floor : UInt32) (records : σ → CohortRecord) (calls : List (GateCall σ))
    (region : String) : ((after floor records calls).gate.membersInRegion region).length =
      ((view (after floor records calls).gate.pending).requestsIn region).ncard := by
  have one := (after_waitInvariant floor records calls).one region
  rw [AdmissionGate.membersInRegion_eq, List.length_map]
  exact KeyedQueue.length_eq_ncard one fun _ => mem_requestsIn

omit [DecidableEq σ] in
/-- The call parks its peer in a region where the peer already waits for
another cohort. -/
def ParksBeside (world : GateWorld σ) : GateCall σ → Prop
  | .admitOrBucket slot request _ =>
    (world.records slot).Accepts request.region ∧
    ((world.records slot).joined request.peerId request.region).members.length < world.gate.floor.toNat ∧
    ∃ prior ∈ bucket world.gate.pending request.region,
      prior.peerId = request.peerId ∧ prior.cohortId ≠ request.cohortId
  | .drainReady .. => False
  | .cancelOrphans _ => False

theorem onePeerEach_step {world next : GateWorld σ} {call : GateCall σ} (once : OnePeerEach world.gate.pending)
    (effect : world.Effect call next) : OnePeerEach next.gate.pending ↔ ¬ world.ParksBeside call := by
  cases effect with
  | refused refuses => exact iff_of_true once fun parks => refuses parks.1
  | admitted _ joined reached =>
    subst joined
    exact iff_of_true once fun parks => Nat.not_lt.mpr reached parks.2.1
  | parked accepts joined short parking =>
    subst joined
    rw [onePeerEach_upsert parking once]
    constructor
    · intro apart parks
      obtain ⟨_, _, prior, member, same, differ⟩ := parks
      exact differ (apart prior member same)
    · intro free prior member same
      by_contra differ
      exact free ⟨accepts, short, prior, member, same, differ⟩
  | underFloor => exact iff_of_true once id
  | released _ draining => exact iff_of_true (onePeerEach_filter (bucket_partition draining) once) id
  | cancelled => exact iff_of_true (onePeerEach_filter (bucket_cancel world.gate _) once) id

/-- A run counts every peer once in all its states just when no call of it
parks a peer beside its own request for another cohort of the region. -/
theorem countsPeersOnce_iff_noneBeside (floor : UInt32) (records : σ → CohortRecord) (calls : List (GateCall σ)) :
    (∀ earlier, earlier <+: calls → (after floor records earlier).gate.CountsPeersOnce) ↔
      ∀ earlier call, earlier ++ [call] <+: calls → ¬ (after floor records earlier).ParksBeside call := by
  simp only [AdmissionGate.countsPeersOnce_iff]
  have atStep (earlier : List (GateCall σ)) (call : GateCall σ)
      (once : OnePeerEach (after floor records earlier).gate.pending) :
      OnePeerEach (after floor records (earlier ++ [call])).gate.pending ↔
        ¬ (after floor records earlier).ParksBeside call := by
    have effect := step_effect (after floor records earlier) call
    rw [after, List.foldl_append, List.foldl_cons, List.foldl_nil]
    exact onePeerEach_step once effect
  constructor
  · intro counts earlier call first
    have before := counts earlier ((List.prefix_append ..).trans first)
    exact (atStep earlier call before).mp (counts _ first)
  · intro apart earlier first
    induction earlier using List.reverseRecOn with
    | nil => exact fun region => List.nodup_nil
    | append_singleton earlier call ih =>
      have before := ih ((List.prefix_append ..).trans first)
      exact (atStep earlier call before).mpr (apart earlier call first)

/-- One peer asks for two cohorts of a region, both far below the floor. -/
def twoCohorts : List (GateCall CohortId) :=
  [.admitOrBucket ⟨7⟩ ⟨⟨1⟩, ⟨7⟩, "eu"⟩ fun _ => none, .admitOrBucket ⟨8⟩ ⟨⟨1⟩, ⟨8⟩, "eu"⟩ fun _ => none]

theorem twoCohorts_countedTwice :
    (after 30 (fun _ => CohortRecord.mk [] [] 0 "") twoCohorts).gate.membersInRegion "eu" = [⟨1⟩, ⟨1⟩] ∧
    ((view (after 30 (fun _ => CohortRecord.mk [] [] 0 "") twoCohorts).gate.pending).peersIn "eu").ncard = 1 ∧
    ¬ (after 30 (fun _ => CohortRecord.mk [] [] 0 "") twoCohorts).gate.CountsPeersOnce := by
  have listed : (after 30 (fun _ => CohortRecord.mk [] [] 0 "") twoCohorts).gate.membersInRegion "eu" =
      [⟨1⟩, ⟨1⟩] := by decide
  refine ⟨listed, ?_, fun counts => ?_⟩
  · rw [Set.ncard_eq_one]
    refine ⟨⟨1⟩, Set.ext fun peerId => ?_⟩
    rw [← mem_peersIn, ← AdmissionGate.membersInRegion_eq, listed]
    simp
  · have once := (counts "eu").1
    rw [listed] at once
    exact absurd once (by decide)

end GateWorld

end BiBeam
