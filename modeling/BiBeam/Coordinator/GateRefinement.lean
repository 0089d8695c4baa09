import BiBeam.Coordinator.GateRuns
import BiBeam.Coordinator.WaitMap

namespace BiBeam

open WaitList

/-- An admission on the map: nothing, unless it parks the peer. -/
def AdmitStep.Refines (before : AdmissionGate) (request : AdmitRequest) (cohort : CohortRecord)
    (channel : ChannelId) (step : AdmitStep) : Prop :=
  match step.outcome with
  | .regionMismatch _ _ =>
    step.cohort = cohort ∧ view step.gate.pending = view before.pending ∧ step.superseded = []
  | .admitted _ => view step.gate.pending = view before.pending ∧ step.superseded = []
  | .bucketed responseRx => responseRx = channel ∧
    view step.gate.pending =
      (view before.pending).park (request.region, request.cohortId, request.peerId) channel ∧
    step.superseded.map PendingAdmission.responseTx =
      (view before.pending (request.region, request.cohortId, request.peerId)).toList

/-- A drain on the map: nothing below the floor, and at or above it the
cohort's waiting members of that region leave, one response each. -/
def DrainStep.Refines (before : AdmissionGate) (region : String) (cohortId : CohortId) (cohort : CohortRecord)
    (step : DrainStep) : Prop :=
  (cohort.members.length < before.floor.toNat → step.released = 0 ∧ step.gate = before ∧ step.sent = []) ∧
  (before.floor.toNat ≤ cohort.members.length →
    view step.gate.pending = (view before.pending).remove (drainKeys region cohortId cohort) ∧
    (∀ other, (bucket step.gate.pending other).Sublist (bucket before.pending other)) ∧
    step.released = {key ∈ (view before.pending).keys | drainKeys region cohortId cohort key}.ncard ∧
    step.sent.length = step.released)

/-- A cancellation on the map: the waiters of cohorts that are not live leave. -/
def CancelStep.Refines (before : AdmissionGate) (live : List CohortId) (step : CancelStep) : Prop :=
  view step.gate.pending = (view before.pending).remove (orphanKeys live) ∧
  (∀ region, (bucket step.gate.pending region).Sublist (bucket before.pending region)) ∧
  step.cancelled = {key ∈ (view before.pending).keys | orphanKeys live key}.ncard

namespace AdmissionGate

theorem admitOrBucket_refines {gate : AdmissionGate} (one : OneEach gate.pending) (request : AdmitRequest)
    (cohort : CohortRecord) (exitRegionLookup : ExitRegionLookup) (channel : ChannelId) :
    (gate.admitOrBucket request.peerId request.cohortId request.region cohort exitRegionLookup channel).Refines
      gate request cohort channel := by
  rcases gate.admitOrBucket_cases request.peerId request.cohortId request.region cohort exitRegionLookup channel
    with ⟨_, run⟩ | ⟨_, _, run⟩ | ⟨_, _, run⟩
  · rw [run]
    exact ⟨rfl, rfl, rfl⟩
  · rw [run]
    exact ⟨rfl, rfl⟩
  · rw [run]
    have replaced := KeyedQueue.filter_eq_find (one request.region)
      (PendingAdmission.key ⟨request.peerId, request.cohortId, channel⟩)
    refine ⟨rfl, view_upsert rfl, ?_⟩
    change ((bucket gate.pending request.region).filter fun prior =>
      prior.sameRequest ⟨request.peerId, request.cohortId, channel⟩).map _ = _
    simp only [PendingAdmission.sameRequest_eq]
    rw [replaced]
    exact (Option.toList_map ..).symm

/-- The waiters that a drain takes out are the waiters under its keys. -/
theorem drained_perm {waiters after : WaitList} {region : String} {cohortId : CohortId} {cohort : CohortRecord}
    {ready : List PendingAdmission} (run : partitionWaitersFor waiters region cohortId cohort = (ready, after)) :
    (ready.map fun entry => (region, entry)).Perm
      ((waiting waiters).filter fun waiter => drainKeys region cohortId cohort (waiterKey waiter)) := by
  obtain ⟨isReady, _, whole, _⟩ := partitionWaitersFor_spec run
  have allGo : (ready.map fun entry => (region, entry)).filter (fun waiter =>
      drainKeys region cohortId cohort (waiterKey waiter)) = ready.map fun entry => (region, entry) := by
    refine List.filter_eq_self.mpr fun waiter member => ?_
    obtain ⟨entry, inReady, rfl⟩ := List.mem_map.mp member
    rw [isReady] at inReady
    rw [drainKeys, waiterKey, decide_eq_true rfl, Bool.true_and]
    exact (List.mem_filter.mp inReady).2
  have noneLeft : (waiting after).filter (fun waiter => drainKeys region cohortId cohort (waiterKey waiter)) = [] := by
    refine List.filter_eq_nil_iff.mpr fun waiter member => ?_
    obtain ⟨other, entry⟩ := waiter
    have kept := mem_waiting.mp member
    rw [bucket_partition run other] at kept
    simpa [waiterKey] using (List.mem_filter.mp kept).2
  have split := whole.filter fun waiter => drainKeys region cohortId cohort (waiterKey waiter)
  rw [List.filter_append, allGo, noneLeft, List.append_nil] at split
  exact split.symm

theorem drainReady_refines {gate : AdmissionGate} (one : OneEach gate.pending) (region : String)
    (cohortId : CohortId) (cohort : CohortRecord) (auditLog : Option AuditLog)
    (exitRegionLookup : ExitRegionLookup) :
    (gate.drainReady region cohortId cohort auditLog exitRegionLookup).Refines gate region cohortId cohort := by
  rcases gate.drainReady_cases region cohortId cohort auditLog exitRegionLookup with ⟨short, run⟩ | ⟨reached, run⟩
  · rw [run]
    exact ⟨fun _ => ⟨rfl, rfl, rfl⟩, fun reached => absurd short (Nat.not_lt.mpr reached)⟩
  · rw [run]
    have taken := (Prod.mk.eta (p := partitionWaitersFor gate.pending region cohortId cohort)).symm
    have buckets := bucket_partition taken
    refine ⟨fun short => absurd short (Nat.not_lt.mpr reached), fun _ => ⟨?_, fun other => ?_, ?_, ?_⟩⟩
    · exact view_filter (drainKeys region cohortId cohort) buckets
    · rw [buckets other]
      exact List.filter_sublist
    · have ready := drained_perm taken
      have counted := one.length_chosen (drainKeys region cohortId cohort)
      rw [← counted, ← ready.length_eq, List.length_map]
    · exact List.length_map ..

theorem cancelOrphans_refines {gate : AdmissionGate} (one : OneEach gate.pending) (live : List CohortId) :
    (gate.cancelOrphans live).Refines gate live := by
  refine ⟨view_filter (orphanKeys live) (bucket_cancel gate live), fun region => ?_, ?_⟩
  · rw [bucket_cancel gate live region]
    exact List.filter_sublist
  · have dropped := (gate.cancelOrphans_spec live).2.2.1
    have counted : (gate.cancelOrphans live).cancelled = (gate.cancelOrphans live).dropped.length := rfl
    rw [counted, dropped, List.length_map]
    exact one.length_chosen (orphanKeys live)

end AdmissionGate

namespace GateWorld

variable {σ : Type} [DecidableEq σ]

/-- The channels of the waiters that are parked, that got a response, that
were superseded and that were cancelled. -/
def fates (world : GateWorld σ) : List ChannelId :=
  (waiting world.gate.pending).map (fun waiter => waiter.2.responseTx) ++
    world.sentWaiters.map PendingAdmission.responseTx ++
    world.superseded.map PendingAdmission.responseTx ++
    world.cancelled.map PendingAdmission.responseTx

/-- When a call makes channels and moves waiters, every channel still has one fate. -/
theorem fates_moved {ids parked sent replaced cancelled created : List ChannelId}
    (fresh answered superseded dropped : List ChannelId)
    (moved : (fresh ++ ids).Perm (parked ++ (answered ++ (superseded ++ dropped))))
    (accounted : (ids ++ sent ++ replaced ++ cancelled).Perm created) :
    (parked ++ (sent ++ answered) ++ (replaced ++ superseded) ++ (cancelled ++ dropped)).Perm (created ++ fresh) := by
  rw [List.perm_iff_count] at moved accounted ⊢
  intro id
  have atMove := moved id
  have atAccount := accounted id
  simp only [List.count_append] at atMove atAccount ⊢
  omega

omit [DecidableEq σ] in
theorem sent_waiters (ready : List PendingAdmission) (response : MatchResponse) (cohort : CohortRecord) :
    (ready.map fun waiter => Delivery.sent waiter response cohort).filterMap Delivery.waiter? = ready := by
  rw [List.filterMap_map]
  exact List.filterMap_some

/-- What holds of the wait list and of every waiter's fate in a run. -/
structure WaitInvariant (world : GateWorld σ) : Prop where
  asked : world.ParkedAsAsked
  one : OneEach world.gate.pending
  tidy : NoEmptyBucket world.gate.pending
  arrival : ∀ region, (bucket world.gate.pending region).Pairwise fun first second =>
    first.responseTx < second.responseTx
  accounted : world.fates.Perm (List.range world.channels.length)
  replaced : ∀ waiter ∈ world.superseded, ∃ request, asker? world.channels waiter = some request ∧
    ∃ later, waiter.responseTx < later ∧ world.channels[later]? = some request

omit [DecidableEq σ] in
theorem ParkedAsAsked.issued {world : GateWorld σ} (asked : world.ParkedAsAsked) {region : String}
    {entry : PendingAdmission} (waits : entry ∈ bucket world.gate.pending region) :
    entry.responseTx < world.channels.length :=
  (List.getElem?_eq_some_iff.mp (asked region entry waits)).1

omit [DecidableEq σ] in
/-- A parked call replaces the entries of its own request, which is asked
again on the new channel. -/
theorem ParkedAsAsked.superseded {world : GateWorld σ} (asked : world.ParkedAsAsked) {request : AdmitRequest}
    {pending : WaitList} {dropped : List PendingAdmission}
    (parking : upsertPendingEntry world.gate.pending request.region
      ⟨request.peerId, request.cohortId, world.channels.length⟩ = (pending, dropped)) :
    ∀ waiter ∈ dropped, ∃ before, asker? (world.channels ++ [request]) waiter = some before ∧
      ∃ later, waiter.responseTx < later ∧ (world.channels ++ [request])[later]? = some before := by
  intro waiter new
  obtain ⟨_, isDropped, _, _⟩ := upsertPendingEntry_spec parking
  rw [isDropped, List.mem_filter, PendingAdmission.sameRequest_eq, decide_eq_true_eq] at new
  obtain ⟨waits, same⟩ := new
  have asks := asker?_append (asked request.region waiter waits) request
  refine ⟨_, asks, world.channels.length, asked.issued waits, ?_⟩
  obtain ⟨sameCohort, samePeer⟩ := Prod.mk.inj same
  rw [sameCohort, samePeer]
  exact List.getElem?_concat_length

theorem WaitInvariant.step {world next : GateWorld σ} {call : GateCall σ} (inv : world.WaitInvariant)
    (effect : world.Effect call next) : next.WaitInvariant := by
  have asked := inv.asked.step effect
  have small : ∀ region entry, entry ∈ bucket world.gate.pending region →
      entry.responseTx < world.channels.length := fun region entry member => inv.asked.issued member
  cases effect with
  | refused | underFloor => exact inv
  | @admitted slot request exitRegionLookup cohort _ _ _ =>
    have nobody : [Delivery.returned request (buildResponse request.cohortId cohort exitRegionLookup)
      cohort].filterMap Delivery.waiter? = [] := rfl
    refine ⟨asked, inv.one, inv.tidy, inv.arrival, ?_, inv.replaced⟩
    rw [fates, sentWaiters, List.filterMap_append, nobody, List.append_nil]
    exact inv.accounted
  | @parked slot request _ cohort pending dropped _ _ _ parking =>
    obtain ⟨_, _, whole, tidy⟩ := upsertPendingEntry_spec parking
    refine ⟨asked, oneEach_upsert parking inv.one, tidy inv.tidy, fun region => ?_, ?_, fun waiter member => ?_⟩
    · rw [bucket_upsert parking region]
      split
      · exact KeyedQueue.pairwise_put (inv.arrival request.region) fun prior member =>
          small request.region prior member
      · exact inv.arrival region
    · have ids := whole.map fun waiter => waiter.2.responseTx
      have accounted := inv.accounted
      rw [List.map_cons, List.map_append, List.map_map] at ids
      rw [fates] at accounted ⊢
      rw [List.length_append, List.length_singleton, List.range_succ, List.map_append]
      have moved := fates_moved [world.channels.length] [] (dropped.map PendingAdmission.responseTx) []
        (by rw [List.append_nil]; exact ids) accounted
      rwa [List.append_nil, List.append_nil] at moved
    · rcases List.mem_append.mp member with old | new
      · obtain ⟨before, asks, later, after, again⟩ := inv.replaced waiter old
        have bound := (List.getElem?_eq_some_iff.mp again).1
        refine ⟨before, asker?_append asks request, later, after, ?_⟩
        rw [List.getElem?_append_left bound]
        exact again
      · exact inv.asked.superseded parking waiter new
  | @released slot region cohortId _ _ ready pending _ draining =>
    obtain ⟨_, _, whole, tidy⟩ := partitionWaitersFor_spec draining
    have buckets := bucket_partition draining
    refine ⟨asked, oneEach_filter buckets inv.one, tidy inv.tidy, fun other => ?_, ?_, inv.replaced⟩
    · rw [buckets other]
      exact (inv.arrival other).filter _
    · have ids := whole.map fun waiter => waiter.2.responseTx
      have accounted := inv.accounted
      rw [List.map_append, List.map_map] at ids
      rw [fates] at accounted ⊢
      rw [sentWaiters, List.filterMap_append, sent_waiters, List.map_append]
      have moved := fates_moved [] (ready.map PendingAdmission.responseTx) [] []
        (by rw [List.append_nil, List.append_nil]; exact ids.trans List.perm_append_comm) accounted
      rwa [List.append_nil, List.append_nil, List.append_nil] at moved
  | @cancelled live =>
    have buckets := bucket_cancel world.gate live
    refine ⟨asked, oneEach_filter buckets inv.one, (world.gate.cancelOrphans_spec live).2.2.2,
      fun other => ?_, ?_, inv.replaced⟩
    · rw [buckets other]
      exact (inv.arrival other).filter _
    · have split := List.filter_append_perm (fun waiter : String × PendingAdmission =>
        live.contains waiter.2.cohortId) (waiting world.gate.pending)
      have ids := split.symm.map fun waiter => waiter.2.responseTx
      have accounted := inv.accounted
      obtain ⟨_, kept, dropped, _⟩ := world.gate.cancelOrphans_spec live
      rw [List.map_append] at ids
      rw [fates] at accounted ⊢
      rw [kept, dropped, List.map_append, List.map_map]
      have moved := fates_moved [] [] [] _ ids accounted
      rwa [List.append_nil, List.append_nil, List.append_nil] at moved

theorem after_waitInvariant (floor : UInt32) (records : σ → CohortRecord) (calls : List (GateCall σ)) :
    (after floor records calls).WaitInvariant := by
  refine after_invariant ?_ (fun inv effect => inv.step effect) calls
  refine ⟨after_parkedAsAsked floor records [], fun region => ?_, noEmptyBucket_empty, fun region => ?_, ?_,
    fun _ member => nomatch member⟩
  · exact List.nodup_nil
  · exact List.Pairwise.nil
  · exact List.Perm.nil

/-- The wait list refines the map of at most one waiter for each region,
cohort and peer, every waiter has exactly one fate, and each operation acts
on the map as specified. -/
theorem waitList_refines_waitMap (floor : UInt32) (records : σ → CohortRecord) (calls : List (GateCall σ)) :
    (after floor records calls).WaitInvariant ∧
    (∀ request cohort exitRegionLookup,
      ((after floor records calls).gate.admitOrBucket request.peerId request.cohortId request.region cohort
        exitRegionLookup (after floor records calls).channels.length).Refines
        (after floor records calls).gate request cohort (after floor records calls).channels.length) ∧
    (∀ region cohortId cohort auditLog exitRegionLookup,
      ((after floor records calls).gate.drainReady region cohortId cohort auditLog exitRegionLookup).Refines
        (after floor records calls).gate region cohortId cohort) ∧
    (∀ live, ((after floor records calls).gate.cancelOrphans live).Refines (after floor records calls).gate live) ∧
    (after floor records calls).gate.pendingCount = (view (after floor records calls).gate.pending).keys.ncard ∧
    (after floor records calls).gate.pendingBuckets.Pairwise BucketLe ∧
    (after floor records calls).gate.pendingBuckets.Nodup ∧
    ∀ region cohortId, (region, cohortId) ∈ (after floor records calls).gate.pendingBuckets ↔
      ∃ peerId, (region, cohortId, peerId) ∈ (view (after floor records calls).gate.pending).keys := by
  have inv := after_waitInvariant floor records calls
  generalize after floor records calls = world at inv ⊢
  refine ⟨inv, fun _ _ _ => AdmissionGate.admitOrBucket_refines inv.one .., fun _ _ _ _ _ =>
    AdmissionGate.drainReady_refines inv.one .., fun live => AdmissionGate.cancelOrphans_refines inv.one live, ?_,
    SortDedup.sorted _, SortDedup.nodup _, fun region cohortId => ?_⟩
  · have counted := inv.one.length_chosen fun _ => true
    rw [List.filter_eq_self.mpr fun _ _ => rfl] at counted
    rw [AdmissionGate.pendingCount_eq, counted]
    congr 1
    ext key
    simp
  · rw [AdmissionGate.mem_pendingBuckets]
    constructor
    · rintro ⟨entry, member, rfl⟩
      exact ⟨entry.peerId, mem_keys.mpr ⟨entry, member, rfl⟩⟩
    · rintro ⟨peerId, member⟩
      obtain ⟨entry, inside, same⟩ := mem_keys.mp member
      exact ⟨entry, inside, (Prod.mk.inj same).1⟩

end GateWorld

end BiBeam
