import BiBeam.Coordinator.GateSteps
import BiBeam.Coordinator.Rotation
import BiBeam.Coordinator.WaitMap

namespace BiBeam

open WaitList

/-- The waiters of a gate, without their regions. -/
def AdmissionGate.waiters (gate : AdmissionGate) : List PendingAdmission :=
  (waiting gate.pending).map Prod.snd

theorem AdmissionGate.mem_waiters {gate : AdmissionGate} {entry : PendingAdmission} :
    entry ∈ gate.waiters ↔ ∃ region, entry ∈ bucket gate.pending region := by
  rw [waiters, List.mem_map]
  constructor
  · rintro ⟨⟨region, _⟩, member, rfl⟩
    exact ⟨region, mem_waiting.mp member⟩
  · rintro ⟨region, member⟩
    exact ⟨(region, entry), mem_waiting.mpr member, rfl⟩

/-- A drain moves waiters from the wait list to the sent responses, and only
members of a cohort at the floor; no such member is left behind. -/
structure DrainStep.Accounts (before : AdmissionGate) (region : String) (cohortId : CohortId)
    (cohort : CohortRecord) (step : DrainStep) : Prop where
  floor : step.gate.floor = before.floor
  counted : step.released = step.sent.length
  whole : before.waiters.Perm (step.gate.waiters ++ step.sent.map Sent.waiter)
  fewer : ∀ other entry, entry ∈ bucket step.gate.pending other → entry ∈ bucket before.pending other
  kept : ∀ other entry, entry ∈ bucket before.pending other →
    entry ∈ bucket step.gate.pending other ∨ entry ∈ step.sent.map Sent.waiter
  left : ∀ entry ∈ bucket step.gate.pending region, entry.cohortId = cohortId →
    cohort.members.length < before.floor.toNat ∨ entry.peerId ∉ cohort.members
  answered : ∀ sent ∈ step.sent, sent.waiter ∈ bucket before.pending region ∧
    sent.waiter.cohortId = cohortId ∧ sent.waiter.peerId ∈ cohort.members ∧
    before.floor.toNat ≤ cohort.members.length

theorem AdmissionGate.drainReady_accounts (gate : AdmissionGate) (region : String) (cohortId : CohortId)
    (cohort : CohortRecord) (auditLog : Option AuditLog) (exitRegionLookup : ExitRegionLookup) :
    (gate.drainReady region cohortId cohort auditLog exitRegionLookup).Accounts gate region cohortId cohort := by
  rcases gate.drainReady_cases region cohortId cohort auditLog exitRegionLookup with ⟨short, run⟩ | ⟨reached, run⟩
  · rw [run]
    have none : gate.waiters = gate.waiters ++ ([] : List Sent).map Sent.waiter := (List.append_nil _).symm
    exact ⟨rfl, rfl, List.Perm.of_eq none, fun _ _ member => member, fun _ _ member => Or.inl member,
      fun _ _ _ => Or.inl short, fun _ member => nomatch member⟩
  · rw [run]
    have taken := (Prod.mk.eta (p := partitionWaitersFor gate.pending region cohortId cohort)).symm
    obtain ⟨isReady, buckets, whole, _⟩ := partitionWaitersFor_spec taken
    have moved := whole.map Prod.snd
    rw [List.map_append, List.map_map] at moved
    refine ⟨rfl, (List.length_map ..).symm, ?_, fun other entry member => ?_, fun other entry member => ?_,
      fun entry member same => ?_, fun sent member => ?_⟩
    · rw [List.map_map]
      exact moved.trans List.perm_append_comm
    · rw [buckets other] at member
      split at member
      · rename_i here
        rw [here]
        exact List.mem_of_mem_filter member
      · exact member
    · rw [buckets other]
      split
      · rename_i here
        rw [here] at member
        by_cases taken : (entry.cohortId = cohortId && cohort.members.contains entry.peerId) = true
        · refine Or.inr ?_
          rw [List.map_map, isReady]
          exact List.mem_map.mpr ⟨entry, List.mem_filter.mpr ⟨member, taken⟩, rfl⟩
        · exact Or.inl (List.mem_filter.mpr ⟨member, by rw [Bool.eq_false_of_not_eq_true taken]; rfl⟩)
      · exact Or.inl member
    · rw [buckets region, if_pos rfl] at member
      have stays := (List.mem_filter.mp member).2
      refine Or.inr fun inside => ?_
      rw [same, decide_eq_true rfl, Bool.true_and, Bool.not_eq_true', List.contains_eq_mem,
        decide_eq_false_iff_not] at stays
      exact stays inside
    · obtain ⟨waiter, inReady, rfl⟩ := List.mem_map.mp member
      rw [isReady, List.mem_filter, Bool.and_eq_true, decide_eq_true_eq, List.contains_iff_mem] at inReady
      exact ⟨inReady.1, inReady.2.1, inReady.2.2, reached⟩

theorem AdmissionGate.cancelOrphans_floor (gate : AdmissionGate) (live : List CohortId) :
    (gate.cancelOrphans live).gate.floor = gate.floor := rfl

/-- A cancellation drops the waiters it does not keep, and no others. -/
theorem AdmissionGate.cancelOrphans_accounts (gate : AdmissionGate) (live : List CohortId) :
    gate.waiters.Perm ((gate.cancelOrphans live).gate.waiters ++ (gate.cancelOrphans live).dropped) := by
  obtain ⟨_, left, dropped, _⟩ := gate.cancelOrphans_spec live
  have split := (List.filter_append_perm (fun waiter : String × PendingAdmission =>
    live.contains waiter.2.cohortId) (waiting gate.pending)).map Prod.snd
  rw [List.map_append, ← left, ← dropped] at split
  exact split.symm

namespace RotationScheduler

/-- The stored record of a cohort. -/
def Stores (scheduler : RotationScheduler) (cohortId : CohortId) (record : CohortRecord) : Prop :=
  scheduler.cohorts.cohorts.lookup cohortId = some (.ok record)

/-- What any part of the loop does to its variables. -/
structure Advances (scheduler : RotationScheduler) (before after : Reconciliation) : Prop where
  floor : after.gate.floor = before.gate.floor
  fewer : ∀ region entry, entry ∈ bucket after.gate.pending region → entry ∈ bucket before.gate.pending region
  sends : ∃ sent, after.sent = before.sent ++ sent ∧ after.releasedTotal = before.releasedTotal + sent.length ∧
    before.gate.waiters.Perm (after.gate.waiters ++ sent.map Sent.waiter) ∧
    ∀ response ∈ sent, ∃ record, scheduler.Stores response.waiter.cohortId record ∧
      response.waiter.peerId ∈ record.members ∧ before.gate.floor.toNat ≤ record.members.length

theorem Advances.refl (scheduler : RotationScheduler) (loop : Reconciliation) : scheduler.Advances loop loop := by
  refine ⟨rfl, fun _ _ member => member, [], ?_, rfl, ?_, fun _ member => nomatch member⟩
  · exact (List.append_nil _).symm
  · rw [List.map_nil, List.append_nil]

theorem Advances.trans {scheduler : RotationScheduler} {first second third : Reconciliation}
    (before : scheduler.Advances first second) (after : scheduler.Advances second third) :
    scheduler.Advances first third := by
  obtain ⟨sent, sends, counts, whole, answered⟩ := before.sends
  obtain ⟨sent', sends', counts', whole', answered'⟩ := after.sends
  refine ⟨after.floor.trans before.floor, fun region entry member =>
    before.fewer region entry (after.fewer region entry member), sent ++ sent', ?_, ?_, ?_, ?_⟩
  · rw [sends', sends, List.append_assoc]
  · rw [counts', counts, List.length_append, Nat.add_assoc]
  · rw [List.perm_iff_count] at whole whole' ⊢
    intro entry
    have atFirst := whole entry
    have atSecond := whole' entry
    simp only [List.map_append, List.count_append] at atFirst atSecond ⊢
    omega
  · intro response member
    rcases List.mem_append.mp member with old | new
    · exact answered response old
    · rw [← before.floor]
      exact answered' response new

theorem reconcilePair_advances {scheduler : RotationScheduler} {cohortId : CohortId} {record : CohortRecord}
    (stored : scheduler.Stores cohortId record) (loop : Reconciliation) (region : String) :
    scheduler.Advances loop (scheduler.reconcilePair loop region cohortId record) := by
  have spec := loop.gate.drainReady_accounts region cohortId record loop.auditLog scheduler.exitRegionLookup
  refine ⟨spec.floor, spec.fewer, _, rfl, ?_, spec.whole, fun response member => ?_⟩
  · exact congrArg (loop.releasedTotal + ·) spec.counted
  · obtain ⟨_, same, isMember, reached⟩ := spec.answered response member
    refine ⟨record, ?_, isMember, reached⟩
    rw [same]
    exact stored

/-- The loop's unfinished runs, too, only send what they may. -/
theorem reconcilePairs_advances {scheduler : RotationScheduler} {faults : TickFaults}
    {pairs : List (String × CohortId)} {before after : Reconciliation} {result : Except RotationError Unit}
    (run : scheduler.reconcilePairs faults pairs before = (result, after)) : scheduler.Advances before after := by
  induction pairs generalizing before with
  | nil =>
    cases run
    exact Advances.refl scheduler _
  | cons pair pairs ih =>
    obtain ⟨region, cohortId⟩ := pair
    unfold reconcilePairs at run
    split at run
    · cases run
      exact Advances.refl scheduler _
    · exact ih run
    · rename_i record found
      exact (reconcilePair_advances (readRow_some found) before region).trans (ih run)

theorem mem_pushLive {live : List CohortId} {cohortId other : CohortId} :
    other ∈ pushLive live cohortId ↔ other ∈ live ∨ other = cohortId := by
  unfold pushLive
  split
  · rename_i already
    rw [List.contains_iff_mem] at already
    constructor
    · exact Or.inl
    · rintro (member | rfl)
      · exact member
      · exact already
  · rw [List.mem_append, List.mem_singleton]

/-- What a finished loop has established for each pair of the snapshot. -/
structure Settles (scheduler : RotationScheduler) (pairs : List (String × CohortId))
    (before after : Reconciliation) : Prop where
  live : ∀ cohortId, cohortId ∈ after.liveCohortIds ↔ cohortId ∈ before.liveCohortIds ∨
    (∃ region, (region, cohortId) ∈ pairs) ∧ ∃ record, scheduler.Stores cohortId record
  absent : ∀ pair ∈ pairs, scheduler.cohorts.cohorts.lookup pair.2 = none ∨
    ∃ record, scheduler.Stores pair.2 record
  left : ∀ pair ∈ pairs, ∀ record, scheduler.Stores pair.2 record →
    ∀ entry ∈ bucket after.gate.pending pair.1, entry.cohortId = pair.2 →
      record.members.length < before.gate.floor.toNat ∨ entry.peerId ∉ record.members

/-- A pair whose cohort has no row leaves the loop as it was. -/
theorem Settles.skipped {scheduler : RotationScheduler} {pairs : List (String × CohortId)}
    {before after : Reconciliation} {region : String} {cohortId : CohortId}
    (absent : scheduler.cohorts.cohorts.lookup cohortId = none) (rest : scheduler.Settles pairs before after) :
    scheduler.Settles ((region, cohortId) :: pairs) before after := by
  have never : ∀ record, ¬ scheduler.Stores cohortId record := by
    intro record stored
    rw [Stores, absent] at stored
    exact nomatch stored
  refine ⟨fun other => ?_, fun other member => ?_, fun other member record stored => ?_⟩
  · rw [rest.live other]
    constructor
    · rintro (old | ⟨⟨at', member⟩, stored⟩)
      · exact Or.inl old
      · exact Or.inr ⟨⟨at', List.mem_cons_of_mem _ member⟩, stored⟩
    · rintro (old | ⟨⟨at', member⟩, record, stored⟩)
      · exact Or.inl old
      · rcases List.mem_cons.mp member with same | further
        · obtain ⟨_, rfl⟩ := Prod.mk.inj same
          exact absurd stored (never record)
        · exact Or.inr ⟨⟨at', further⟩, record, stored⟩
  · rcases List.mem_cons.mp member with rfl | further
    · exact Or.inl absent
    · exact rest.absent other further
  · rcases List.mem_cons.mp member with rfl | further
    · exact absurd stored (never record)
    · exact rest.left other further record stored

/-- A pair whose cohort has a row is drained, and nothing later in the loop
puts a waiter back. -/
theorem Settles.drained {scheduler : RotationScheduler} {pairs : List (String × CohortId)}
    {before after : Reconciliation} {region : String} {cohortId : CohortId} {record : CohortRecord}
    (stored : scheduler.Stores cohortId record)
    (advances : scheduler.Advances (scheduler.reconcilePair before region cohortId record) after)
    (rest : scheduler.Settles pairs (scheduler.reconcilePair before region cohortId record) after) :
    scheduler.Settles ((region, cohortId) :: pairs) before after := by
  have spec := before.gate.drainReady_accounts region cohortId record before.auditLog scheduler.exitRegionLookup
  refine ⟨fun other => ?_, fun other member => ?_, fun other member record' stored' entry inside same => ?_⟩
  · rw [rest.live other]
    change other ∈ pushLive before.liveCohortIds cohortId ∨ _ ↔ _
    rw [mem_pushLive, or_assoc]
    refine or_congr_right ⟨?_, ?_⟩
    · rintro (rfl | ⟨⟨at', member⟩, stored'⟩)
      · exact ⟨⟨region, List.mem_cons_self⟩, record, stored⟩
      · exact ⟨⟨at', List.mem_cons_of_mem _ member⟩, stored'⟩
    · rintro ⟨⟨at', member⟩, stored'⟩
      rcases List.mem_cons.mp member with same | further
      · exact Or.inl (Prod.mk.inj same).2
      · exact Or.inr ⟨⟨at', further⟩, stored'⟩
  · rcases List.mem_cons.mp member with rfl | further
    · exact Or.inr ⟨record, stored⟩
    · exact rest.absent other further
  · rcases List.mem_cons.mp member with rfl | further
    · have earlier := advances.fewer region entry inside
      have sameRecord : record' = record := by
        rw [Stores, stored] at stored'
        exact (Except.ok.inj (Option.some.inj stored')).symm
      rw [sameRecord]
      exact spec.left entry earlier same
    · have later := rest.left other further record' stored' entry inside same
      have floor : (scheduler.reconcilePair before region cohortId record).gate.floor = before.gate.floor :=
        spec.floor
      rwa [floor] at later

theorem reconcilePairs_settles {scheduler : RotationScheduler} {faults : TickFaults}
    {pairs : List (String × CohortId)} {before after : Reconciliation}
    (run : scheduler.reconcilePairs faults pairs before = (.ok (), after)) :
    scheduler.Settles pairs before after := by
  induction pairs generalizing before with
  | nil =>
    cases run
    exact ⟨fun _ => by simp, fun _ member => (nomatch member), fun _ member => (nomatch member)⟩
  | cons pair pairs ih =>
    obtain ⟨region, cohortId⟩ := pair
    unfold reconcilePairs at run
    split at run
    · cases run
    · rename_i missing
      exact (ih run).skipped (readRow_none missing)
    · rename_i record found
      exact (ih run).drained (readRow_some found) (reconcilePairs_advances run)

/-- Everything a tick can do, one constructor for each way it ends. -/
inductive Ticks (scheduler : RotationScheduler) (faults : TickFaults) (now : Timestamp) : TickStep → Prop
  | registryFailed {err} :
      scheduler.registry.evictStale faults.stale (now - scheduler.heartbeatSlo) = (.error err, scheduler.registry) →
      Ticks scheduler faults now ⟨.error (.registry err), scheduler, [], []⟩
  | cohortsFailed {err registry peersEvicted} :
      scheduler.registry.evictStale faults.stale (now - scheduler.heartbeatSlo) = (.ok peersEvicted, registry) →
      scheduler.cohorts.evictExpired faults.expired now = (.error err, scheduler.cohorts) →
      Ticks scheduler faults now
        ⟨.error (.cohortStore err), { scheduler with registry := registry }, [], []⟩
  | getFailed {err registry peersEvicted cohorts cohortsEvicted loop} :
      scheduler.registry.evictStale faults.stale (now - scheduler.heartbeatSlo) = (.ok peersEvicted, registry) →
      scheduler.cohorts.evictExpired faults.expired now = (.ok cohortsEvicted, cohorts) →
      { scheduler with registry := registry, cohorts := cohorts : RotationScheduler }.reconcilePairs faults
        scheduler.gate.pendingBuckets ⟨scheduler.gate, scheduler.auditLog, [], 0, []⟩ = (.error err, loop) →
      Ticks scheduler faults now ⟨.error err, { scheduler with
        registry := registry, cohorts := cohorts, gate := loop.gate, auditLog := loop.auditLog }, loop.sent, []⟩
  | completed {registry peersEvicted cohorts cohortsEvicted loop} :
      scheduler.registry.evictStale faults.stale (now - scheduler.heartbeatSlo) = (.ok peersEvicted, registry) →
      scheduler.cohorts.evictExpired faults.expired now = (.ok cohortsEvicted, cohorts) →
      { scheduler with registry := registry, cohorts := cohorts : RotationScheduler }.reconcilePairs faults
        scheduler.gate.pendingBuckets ⟨scheduler.gate, scheduler.auditLog, [], 0, []⟩ = (.ok (), loop) →
      Ticks scheduler faults now
        ⟨.ok ⟨peersEvicted, cohortsEvicted, loop.releasedTotal,
            (loop.gate.cancelOrphans loop.liveCohortIds).cancelled, loop.gate.floor⟩,
          { scheduler with
            registry := registry, cohorts := cohorts, auditLog := loop.auditLog,
            gate := (loop.gate.cancelOrphans loop.liveCohortIds).gate },
          loop.sent, (loop.gate.cancelOrphans loop.liveCohortIds).dropped⟩

theorem evictStale_error {registry after : PeerRegistry} {faults : RedbFaults PeerId} {cutoff : Timestamp}
    {err : StoreError} (run : registry.evictStale faults cutoff = (.error err, after)) : after = registry := by
  obtain ⟨failed, rfl⟩ := Prod.mk.inj run
  have unchanged := evict_error (Prod.ext failed rfl)
  exact congrArg PeerRegistry.mk unchanged

theorem evictExpired_error {cohorts after : CohortStore} {faults : RedbFaults CohortId} {now : Timestamp}
    {err : StoreError} (run : cohorts.evictExpired faults now = (.error err, after)) : after = cohorts := by
  obtain ⟨failed, rfl⟩ := Prod.mk.inj run
  have unchanged := evict_error (Prod.ext failed rfl)
  exact congrArg CohortStore.mk unchanged

theorem tickOnce_ticks (scheduler : RotationScheduler) (faults : TickFaults) (now : Timestamp) :
    scheduler.Ticks faults now (scheduler.tickOnce faults now) := by
  unfold tickOnce
  dsimp only
  split
  · rename_i err registry failed
    obtain rfl := evictStale_error failed
    exact .registryFailed failed
  · rename_i peersEvicted registry swept
    split
    · rename_i err cohorts failed
      obtain rfl := evictExpired_error failed
      exact .cohortsFailed swept failed
    · rename_i cohortsEvicted cohorts expired
      rcases ends : { scheduler with registry := registry, cohorts := cohorts : RotationScheduler }.reconcilePairs
        faults scheduler.gate.pendingBuckets ⟨scheduler.gate, scheduler.auditLog, [], 0, []⟩ with ⟨_ | _, loop⟩
      · simp only [reconcileGateWithCohortStore, ends]
        exact .getFailed swept expired ends
      · simp only [reconcileGateWithCohortStore, ends, (loop.gate.cancelOrphans_floor _)]
        exact .completed swept expired ends

/-- The state after a successful tick, and what its counters mean. -/
structure TickPost (before : RotationScheduler) (now : Timestamp) (stats : RotationStats) (step : TickStep) :
    Prop where
  noStale : ∀ peerId stored, step.scheduler.registry.peers.lookup peerId = some stored →
    before.registry.peers.lookup peerId = some stored ∧
      ∃ record, stored = .ok record ∧ now - before.heartbeatSlo ≤ record.lastSeen
  peersKept : ∀ peerId record, before.registry.peers.lookup peerId = some (.ok record) →
    now - before.heartbeatSlo ≤ record.lastSeen →
      step.scheduler.registry.peers.lookup peerId = some (.ok record)
  noExpired : ∀ cohortId stored, step.scheduler.cohorts.cohorts.lookup cohortId = some stored →
    before.cohorts.cohorts.lookup cohortId = some stored ∧
      ∃ record, stored = .ok record ∧ now ≤ record.rotationDeadline
  cohortsKept : ∀ cohortId record, before.cohorts.cohorts.lookup cohortId = some (.ok record) →
    now ≤ record.rotationDeadline → step.scheduler.cohorts.cohorts.lookup cohortId = some (.ok record)
  parked : ∀ entry ∈ step.scheduler.gate.waiters, ∃ record,
    step.scheduler.cohorts.cohorts.lookup entry.cohortId = some (.ok record) ∧
      (record.members.length < before.gate.floor.toNat ∨ entry.peerId ∉ record.members)
  cancelled : step.dropped.Perm (before.gate.waiters.filter fun entry =>
    (step.scheduler.cohorts.cohorts.lookup entry.cohortId).isNone)
  accounted : before.gate.waiters.Perm
    (step.scheduler.gate.waiters ++ step.sent.map Sent.waiter ++ step.dropped)
  peersEvicted : stats.peersEvicted + step.scheduler.registry.peers.entries.length =
    before.registry.peers.entries.length
  cohortsEvicted : stats.cohortsEvicted + step.scheduler.cohorts.cohorts.entries.length =
    before.cohorts.cohorts.entries.length
  waitersReleased : stats.waitersReleased = step.sent.length
  waitersCancelled : stats.waitersCancelled = step.dropped.length
  pendingCount : stats.waitersReleased + stats.waitersCancelled + step.scheduler.gate.pendingCount =
    before.gate.pendingCount

theorem evictStale_ok {registry after : PeerRegistry} {faults : RedbFaults PeerId} {cutoff : Timestamp}
    {evicted : Nat} (run : registry.evictStale faults cutoff = (.ok evicted, after)) :
    Swept (fun record => record.lastSeen < cutoff) registry.peers after.peers evicted := by
  obtain ⟨swept, rfl⟩ := Prod.mk.inj run
  exact evict_ok (Prod.ext swept rfl)

theorem evictExpired_ok {cohorts after : CohortStore} {faults : RedbFaults CohortId} {now : Timestamp}
    {evicted : Nat} (run : cohorts.evictExpired faults now = (.ok evicted, after)) :
    Swept (fun record => record.rotationDeadline < now) cohorts.cohorts after.cohorts evicted := by
  obtain ⟨swept, rfl⟩ := Prod.mk.inj run
  exact evict_ok (Prod.ext swept rfl)

theorem swept_kept {K V : Type} [DecidableEq K] {expired : V → Bool} {table remaining : Table K (Stored V)}
    {evicted : Nat} (swept : Swept expired table remaining evicted) {key : K} {record : V}
    (atKey : table.lookup key = some (.ok record)) (fresh : expired record = false) :
    remaining.lookup key = some (.ok record) := by
  rw [swept.lookup, atKey, Option.filter_some, Stored.expired, fresh]
  rfl

theorem swept_left {K V : Type} [DecidableEq K] {expired : V → Bool} {table remaining : Table K (Stored V)}
    {evicted : Nat} (swept : Swept expired table remaining evicted) {key : K} {stored : Stored V}
    (atKey : remaining.lookup key = some stored) : table.lookup key = some stored := by
  rw [swept.lookup, Option.filter_eq_some_iff] at atKey
  exact atKey.1

/-- Where a waiter's cohort is absent after the sweeps, the loop neither
answers the waiter nor lists its cohort as live, so the cancellation takes it. -/
theorem orphans_dropped {scheduler : RotationScheduler} {before after : Reconciliation}
    (advances : scheduler.Advances before after)
    (live : ∀ entry ∈ after.gate.waiters, after.liveCohortIds.contains entry.cohortId =
      !(scheduler.cohorts.cohorts.lookup entry.cohortId).isNone) :
    (after.gate.cancelOrphans after.liveCohortIds).dropped.Perm (before.gate.waiters.filter fun entry =>
      (scheduler.cohorts.cohorts.lookup entry.cohortId).isNone) := by
  obtain ⟨news, _, _, whole, answered⟩ := advances.sends
  have dropped := (after.gate.cancelOrphans_spec after.liveCohortIds).2.2.1
  have orphans : (after.gate.cancelOrphans after.liveCohortIds).dropped =
      after.gate.waiters.filter fun entry => (scheduler.cohorts.cohorts.lookup entry.cohortId).isNone := by
    rw [dropped, AdmissionGate.waiters, List.filter_map]
    refine congrArg (List.map Prod.snd) (List.filter_congr fun waiter member => ?_)
    rw [live waiter.2 (List.mem_map_of_mem member), Bool.not_not]
    rfl
  have noneSent : (news.map Sent.waiter).filter (fun entry =>
      (scheduler.cohorts.cohorts.lookup entry.cohortId).isNone) = [] := by
    refine List.filter_eq_nil_iff.mpr fun entry member => ?_
    obtain ⟨response, inNews, rfl⟩ := List.mem_map.mp member
    obtain ⟨record, stored, _⟩ := answered response inNews
    rw [stored]
    simp
  have split := whole.filter fun entry => (scheduler.cohorts.cohorts.lookup entry.cohortId).isNone
  rw [List.filter_append, noneSent, List.append_nil] at split
  rw [orphans]
  exact split.symm

/-- After a finished loop over the gate's own snapshot, the live list holds
exactly the cohorts of parked waiters that the store still has. -/
theorem live_iff {scheduler : RotationScheduler} {before after : Reconciliation}
    (fresh : before.liveCohortIds = []) (advances : scheduler.Advances before after)
    (settles : scheduler.Settles before.gate.pendingBuckets before after) {region : String}
    {entry : PendingAdmission} (waits : entry ∈ bucket after.gate.pending region) :
    (region, entry.cohortId) ∈ before.gate.pendingBuckets ∧
      (entry.cohortId ∈ after.liveCohortIds ↔ ∃ record, scheduler.Stores entry.cohortId record) := by
  have snapshotted : (region, entry.cohortId) ∈ before.gate.pendingBuckets :=
    AdmissionGate.mem_pendingBuckets.mpr ⟨entry, advances.fewer region entry waits, rfl⟩
  refine ⟨snapshotted, ?_⟩
  rw [settles.live, fresh]
  constructor
  · rintro (none | ⟨_, stored⟩)
    · exact nomatch none
    · exact stored
  · exact fun stored => Or.inr ⟨⟨region, snapshotted⟩, stored⟩

theorem live_contains {scheduler : RotationScheduler} {before after : Reconciliation}
    (fresh : before.liveCohortIds = []) (advances : scheduler.Advances before after)
    (settles : scheduler.Settles before.gate.pendingBuckets before after) {entry : PendingAdmission}
    (waits : entry ∈ after.gate.waiters) :
    after.liveCohortIds.contains entry.cohortId = !(scheduler.cohorts.cohorts.lookup entry.cohortId).isNone := by
  obtain ⟨region, inBucket⟩ := AdmissionGate.mem_waiters.mp waits
  obtain ⟨snapshotted, live⟩ := live_iff fresh advances settles inBucket
  rw [List.contains_eq_mem]
  rcases settles.absent _ snapshotted with gone | ⟨record, stored⟩
  · have never : entry.cohortId ∉ after.liveCohortIds := by
      rw [live]
      rintro ⟨record, stored⟩
      rw [Stores, gone] at stored
      cases stored
    rw [gone, decide_eq_false never]
    rfl
  · have kept := live.mpr ⟨record, stored⟩
    rw [Stores] at stored
    rw [stored, decide_eq_true kept]
    rfl

theorem Ticks.post {scheduler : RotationScheduler} {faults : TickFaults} {now : Timestamp} {step : TickStep}
    {stats : RotationStats} (ticks : scheduler.Ticks faults now step) (returns : step.result = .ok stats) :
    scheduler.TickPost now stats step := by
  cases ticks with
  | registryFailed | cohortsFailed | getFailed => exact nomatch returns
  | @completed registry peersEvicted cohorts cohortsEvicted loop stale expired finished =>
    cases Except.ok.inj returns
    have peers := evictStale_ok stale
    have rows := evictExpired_ok expired
    have advances := reconcilePairs_advances finished
    have settles := reconcilePairs_settles finished
    obtain ⟨sent, isSent, counted, whole, _⟩ := advances.sends
    have sentAll : loop.sent = sent := isSent
    have releasedAll : loop.releasedTotal = sent.length := by
      rw [counted, Nat.zero_add]
    have buckets := (loop.gate.cancelOrphans_spec loop.liveCohortIds).1
    have accounted : scheduler.gate.waiters.Perm ((loop.gate.cancelOrphans loop.liveCohortIds).gate.waiters ++
        sent.map Sent.waiter ++ (loop.gate.cancelOrphans loop.liveCohortIds).dropped) := by
      have split := loop.gate.cancelOrphans_accounts loop.liveCohortIds
      rw [List.perm_iff_count] at whole split ⊢
      intro entry
      have atLoop := whole entry
      have atCancel := split entry
      simp only [List.count_append] at atLoop atCancel ⊢
      omega
    refine ⟨fun peerId stored atPeer => ?_, fun peerId record atPeer fresh => ?_,
      fun cohortId stored atCohort => ?_, fun cohortId record atCohort fresh => ?_,
      fun entry member => ?_, ?_, ?_, peers.counted, rows.counted, ?_, rfl, ?_⟩
    · obtain ⟨record, isRecord, fresh⟩ := peers.readable peerId stored atPeer
      rw [decide_eq_false_iff_not, not_lt] at fresh
      exact ⟨swept_left peers atPeer, record, isRecord, fresh⟩
    · exact swept_kept peers atPeer (decide_eq_false (not_lt.mpr fresh))
    · obtain ⟨record, isRecord, fresh⟩ := rows.readable cohortId stored atCohort
      rw [decide_eq_false_iff_not, not_lt] at fresh
      exact ⟨swept_left rows atCohort, record, isRecord, fresh⟩
    · exact swept_kept rows atCohort (decide_eq_false (not_lt.mpr fresh))
    · obtain ⟨region, waits⟩ := AdmissionGate.mem_waiters.mp member
      rw [buckets region, List.mem_filter, List.contains_iff_mem] at waits
      obtain ⟨snapshotted, live⟩ := live_iff rfl advances settles waits.1
      obtain ⟨record, stored⟩ := live.mp waits.2
      exact ⟨record, stored, settles.left _ snapshotted record stored entry waits.1 rfl⟩
    · exact orphans_dropped advances fun entry member => live_contains rfl advances settles member
    · rw [sentAll]
      exact accounted
    · rw [sentAll]
      exact releasedAll
    · have lengths := accounted.length_eq
      rw [List.length_append, List.length_append, List.length_map, AdmissionGate.waiters, AdmissionGate.waiters,
        List.length_map, List.length_map] at lengths
      rw [AdmissionGate.pendingCount_eq, AdmissionGate.pendingCount_eq]
      have cancelledAll : (loop.gate.cancelOrphans loop.liveCohortIds).cancelled =
          (loop.gate.cancelOrphans loop.liveCohortIds).dropped.length := rfl
      dsimp only
      omega

/-- A tick that returns leaves fresh rows only, and every waiter either waits
for an existing cohort that cannot take it yet, was answered, or was cancelled
because its cohort is gone; the counters are exact. -/
theorem tickOnce_post (scheduler : RotationScheduler) (faults : TickFaults) (now : Timestamp)
    (stats : RotationStats) (returns : (scheduler.tickOnce faults now).result = .ok stats) :
    scheduler.TickPost now stats (scheduler.tickOnce faults now) :=
  (scheduler.tickOnce_ticks faults now).post returns

/-- Peer 2 has gone silent and cohort 8 has expired; one waiter can be
answered, one has to wait and one is orphaned. -/
def mixedScheduler : RotationScheduler where
  registry := ⟨((∅ : Table PeerId (Stored PeerRecord)).insert ⟨1⟩
      (.ok ⟨⟨1⟩, .v4 1 1, false, 0, 95, "eu", 0, none⟩)).insert ⟨2⟩
      (.ok ⟨⟨2⟩, .v4 2 2, false, 0, 10, "eu", 0, none⟩)⟩
  cohorts := ⟨(((∅ : Table CohortId (Stored CohortRecord)).insert ⟨7⟩ (.ok ⟨[⟨1⟩, ⟨2⟩], [], 200, "eu"⟩)).insert ⟨8⟩
      (.ok ⟨[⟨3⟩], [], 50, "eu"⟩)).insert ⟨9⟩ (.ok ⟨[⟨4⟩], [], 200, "eu"⟩)⟩
  gate := ⟨2, (∅ : WaitList).insert "eu" [⟨⟨1⟩, ⟨7⟩, 0⟩, ⟨⟨3⟩, ⟨8⟩, 1⟩, ⟨⟨4⟩, ⟨9⟩, 2⟩]⟩
  auditLog := none
  exitRegionLookup := fun _ => none
  heartbeatSlo := 20

theorem tickOnce_post_mixed : mixedScheduler.TickPost 100 ⟨1, 1, 1, 1, 2⟩
    (mixedScheduler.tickOnce ⟨.none PeerId, .none CohortId, fun _ => none⟩ 100) :=
  tickOnce_post mixedScheduler ⟨.none PeerId, .none CohortId, fun _ => none⟩ 100 ⟨1, 1, 1, 1, 2⟩ rfl

end RotationScheduler

end BiBeam
