import BiBeam.Coordinator.RotationPost

namespace BiBeam

open WaitList

/-- The pending count of a refusal row of the region. -/
def AuditEntry.refusalCount? (region : String) (entry : AuditEntry) : Option UInt32 :=
  match entry.kind with
  | .noAnonymousPathAvailable refused pendingCount => if refused = region then some pendingCount else none
  | _ => none

/-- One tick as far as refusals go: the store after the sweeps, the pairs
it looks up before it ends, and whether it gets to the cancellation. -/
structure TickPlan where
  floor : UInt32
  pending : WaitList
  cohorts : Table CohortId (Stored CohortRecord)
  visits : List (String × CohortId)
  cancels : Bool

namespace TickPlan

def stored? (plan : TickPlan) (cohortId : CohortId) : Option CohortRecord :=
  match plan.cohorts.lookup cohortId with
  | some (.ok record) => some record
  | _ => none

def underFloor (plan : TickPlan) (cohortId : CohortId) : Bool :=
  (plan.stored? cohortId).any fun record => record.members.length < plan.floor.toNat

/-- A visit of the waiter's pair answers it. -/
def ready (plan : TickPlan) (entry : PendingAdmission) : Bool :=
  (plan.stored? entry.cohortId).any fun record =>
    plan.floor.toNat ≤ record.members.length && record.members.contains entry.peerId

def orphaned (plan : TickPlan) (entry : PendingAdmission) : Bool :=
  (plan.cohorts.lookup entry.cohortId).isNone

/-- The waiters of a region once the pairs in `visited` have been drained. -/
def waitsAfter (plan : TickPlan) (visited : List (String × CohortId)) (region : String) : List PendingAdmission :=
  (bucket plan.pending region).filter fun entry => !(plan.ready entry && visited.contains (region, entry.cohortId))

/-- The waiters of a region when the tick ends. -/
def left (plan : TickPlan) (region : String) : List PendingAdmission :=
  (plan.waitsAfter plan.visits region).filter fun entry => !(plan.cancels && plan.orphaned entry)

def refuses (plan : TickPlan) (region : String) (pair : String × CohortId) : Bool :=
  pair.1 = region && plan.underFloor pair.2

/-- The waiters that a refusal counts at the visit of a pair. -/
def countedAt (plan : TickPlan) (visited : List (String × CohortId)) (pair : String × CohortId) :
    List PendingAdmission :=
  plan.waitsAfter (visited.takeWhile (· ≠ pair)) pair.1

/-- The counts a region's refusals report, one for each visit below the floor. -/
def refusalCounts (plan : TickPlan) (visited : List (String × CohortId)) (region : String) : List UInt32 :=
  (visited.filter (plan.refuses region)).map fun pair => UInt32.ofNatClamp (plan.countedAt visited pair).length

/-- The tick still answers the waiter of a pair it looks up, or cancels it. -/
def leaves (plan : TickPlan) (region : String) (entry : PendingAdmission) : Bool :=
  plan.ready entry && plan.visits.contains (region, entry.cohortId) || plan.cancels && plan.orphaned entry

/-- A region with waiters below the floor refuses at one visit only, and
nobody counted there leaves, beyond those that a count of 32 bits leaves out. -/
def RefusesOnce (plan : TickPlan) (region : String) : Prop :=
  (∃ entry ∈ bucket plan.pending region, plan.underFloor entry.cohortId) →
    ∃ pair, plan.visits.filter (plan.refuses region) = [pair] ∧
      (plan.countedAt plan.visits pair).countP (plan.leaves region) =
        (plan.countedAt plan.visits pair).length - (UInt32.size - 1)

/-- Where the loop stands after the pairs in `visited`, and what it has logged. -/
structure Visited (plan : TickPlan) (log : AuditLog) (visited : List (String × CohortId))
    (loop : Reconciliation) : Prop where
  floor : loop.gate.floor = plan.floor
  buckets : ∀ region, bucket loop.gate.pending region = plan.waitsAfter visited region
  logged : ∃ after added, loop.auditLog = some after ∧ after.appends = log.appends ∧
    after.rows = log.rows ++ added ∧
    ∀ region, added.filterMap (AuditEntry.refusalCount? region) = plan.refusalCounts visited region

theorem stored?_eq_some {plan : TickPlan} {cohortId : CohortId} {record : CohortRecord} :
    plan.stored? cohortId = some record ↔ plan.cohorts.lookup cohortId = some (.ok record) := by
  unfold stored?
  split
  · rename_i found atCohort
    rw [atCohort, Option.some_inj, Option.some_inj, Except.ok.injEq]
  · rename_i unreadable
    constructor
    · exact fun never => nomatch never
    · exact fun atCohort => absurd atCohort (unreadable record)

theorem underFloor_iff {plan : TickPlan} {cohortId : CohortId} : plan.underFloor cohortId = true ↔
    ∃ record, plan.cohorts.lookup cohortId = some (.ok record) ∧ record.members.length < plan.floor.toNat := by
  rw [underFloor, Option.any_eq_true]
  simp only [stored?_eq_some, decide_eq_true_eq]

theorem ready_iff {plan : TickPlan} {entry : PendingAdmission} : plan.ready entry = true ↔
    ∃ record, plan.cohorts.lookup entry.cohortId = some (.ok record) ∧
      plan.floor.toNat ≤ record.members.length ∧ entry.peerId ∈ record.members := by
  rw [ready, Option.any_eq_true]
  simp only [stored?_eq_some, Bool.and_eq_true, decide_eq_true_eq, List.contains_iff_mem]

/-- Nobody below the floor is answered. -/
theorem not_ready {plan : TickPlan} {entry : PendingAdmission} (short : plan.underFloor entry.cohortId = true) :
    plan.ready entry = false := by
  obtain ⟨record, atCohort, below⟩ := underFloor_iff.mp short
  rw [← Bool.not_eq_true, ready_iff]
  rintro ⟨other, atOther, reached, _⟩
  rw [atCohort] at atOther
  cases atOther
  omega

theorem mem_waitsAfter {plan : TickPlan} {visited : List (String × CohortId)} {region : String}
    {entry : PendingAdmission} (waits : entry ∈ bucket plan.pending region)
    (short : plan.underFloor entry.cohortId = true) : entry ∈ plan.waitsAfter visited region := by
  refine List.mem_filter.mpr ⟨waits, ?_⟩
  rw [not_ready short, Bool.false_and, Bool.not_false]

theorem takeWhile_fresh {visited : List (String × CohortId)} {pair : String × CohortId} (fresh : pair ∉ visited)
    (later : List (String × CohortId)) : (visited ++ pair :: later).takeWhile (· ≠ pair) = visited := by
  have passes : ∀ other ∈ visited, decide (other ≠ pair) = true := by
    intro other member
    rw [decide_eq_true_eq]
    rintro rfl
    exact fresh member
  rw [List.takeWhile_append_of_pos passes, List.takeWhile_cons_of_neg (by simp), List.append_nil]

/-- What has been visited already is counted as it was. -/
theorem takeWhile_visited {visited : List (String × CohortId)} {pair : String × CohortId} (member : pair ∈ visited)
    (later : List (String × CohortId)) :
    (visited ++ later).takeWhile (· ≠ pair) = visited.takeWhile (· ≠ pair) := by
  obtain ⟨front, back, rfl, fresh⟩ := List.eq_append_cons_of_mem member
  rw [List.append_assoc, List.cons_append, takeWhile_fresh fresh, takeWhile_fresh fresh]

theorem refusalCounts_snoc {plan : TickPlan} {visited : List (String × CohortId)} {pair : String × CohortId}
    (fresh : pair ∉ visited) (region : String) : plan.refusalCounts (visited ++ [pair]) region =
      plan.refusalCounts visited region ++
        if plan.refuses region pair then [UInt32.ofNatClamp (plan.waitsAfter visited pair.1).length] else [] := by
  have earlier : (visited.filter (plan.refuses region)).map (fun other =>
      UInt32.ofNatClamp (plan.countedAt (visited ++ [pair]) other).length) = plan.refusalCounts visited region := by
    refine List.map_congr_left fun other member => ?_
    rw [countedAt, takeWhile_visited (List.mem_of_mem_filter member), countedAt]
  have now : plan.countedAt (visited ++ [pair]) pair = plan.waitsAfter visited pair.1 := by
    rw [countedAt, takeWhile_fresh fresh]
  rw [refusalCounts, List.filter_append, List.map_append, earlier, ← now]
  cases refuses : plan.refuses region pair <;> simp [refuses]

theorem waitsAfter_snoc (plan : TickPlan) (visited : List (String × CohortId)) (pair : String × CohortId)
    (region : String) : plan.waitsAfter (visited ++ [pair]) region =
      (plan.waitsAfter visited region).filter fun entry => !(plan.ready entry && (region, entry.cohortId) = pair) := by
  rw [waitsAfter, waitsAfter, List.filter_filter]
  refine List.filter_congr fun entry _ => ?_
  simp only [List.contains_eq_mem, List.mem_append, List.mem_singleton, Bool.decide_or]
  cases plan.ready entry <;> simp [Bool.and_comm]

/-- A visit that answers nobody leaves every region's waiters alone. -/
theorem waitsAfter_quiet {plan : TickPlan} {cohortId : CohortId}
    (quiet : ∀ entry : PendingAdmission, entry.cohortId = cohortId → plan.ready entry = false)
    (visited : List (String × CohortId)) (visit region : String) :
    plan.waitsAfter (visited ++ [(visit, cohortId)]) region = plan.waitsAfter visited region := by
  rw [waitsAfter_snoc]
  refine List.filter_eq_self.mpr fun entry _ => ?_
  rw [Bool.not_eq_true', Bool.and_eq_false_iff, decide_eq_false_iff_not]
  by_cases same : entry.cohortId = cohortId
  · exact Or.inl (quiet entry same)
  · exact Or.inr fun both => same (Prod.mk.inj both).2

end TickPlan

theorem AdmissionGate.pendingCountForRegion_eq (gate : AdmissionGate) (region : String) :
    gate.pendingCountForRegion region = (bucket gate.pending region).length := by
  rw [pendingCountForRegion, bucket]
  cases gate.pending.lookup region <;> rfl

/-- With somebody waiting in the region, a working log gets one more row. -/
theorem AdmissionGate.emit_logs {gate : AdmissionGate} {region : String} {entry : PendingAdmission}
    (waits : entry ∈ bucket gate.pending region) {log : AuditLog} (succeeds : ∀ call, (log.appends call).2 = none) :
    ∃ after added, gate.emitNoAnonymousPathIfPending region (some log) = some after ∧ after.appends = log.appends ∧
      after.rows = log.rows ++ [added] ∧ added.kind =
        .noAnonymousPathAvailable region (UInt32.ofNatClamp (bucket gate.pending region).length) := by
  have waiting : (bucket gate.pending region).length ≠ 0 := (List.length_pos_of_mem waits).ne'
  unfold emitNoAnonymousPathIfPending AuditLog.recordNoAnonymousPath AuditLog.append
  simp only [pendingCountForRegion_eq, if_neg waiting, succeeds]
  exact ⟨_, _, rfl, rfl, rfl, rfl⟩

namespace TickPlan

/-- A visit that is no refusal logs nothing. -/
theorem Visited.unlogged {plan : TickPlan} {log : AuditLog} {visited : List (String × CohortId)}
    {loop next : Reconciliation} {region : String} {cohortId : CohortId} (so : plan.Visited log visited loop)
    (fresh : (region, cohortId) ∉ visited) (silent : ¬ plan.underFloor cohortId = true)
    (floor : next.gate.floor = loop.gate.floor) (logs : next.auditLog = loop.auditLog)
    (buckets : ∀ other, bucket next.gate.pending other = plan.waitsAfter (visited ++ [(region, cohortId)]) other) :
    plan.Visited log (visited ++ [(region, cohortId)]) next := by
  obtain ⟨after, added, isLog, appends, rows, counts⟩ := so.logged
  refine ⟨floor.trans so.floor, buckets, after, added, logs.trans isLog, appends, rows, fun other => ?_⟩
  have refuses : ¬ plan.refuses other (region, cohortId) = true := by
    rw [refuses, Bool.and_eq_true]
    exact fun both => silent both.2
  rw [counts, refusalCounts_snoc fresh, if_neg refuses, List.append_nil]

theorem Visited.skipped {plan : TickPlan} {log : AuditLog} {visited : List (String × CohortId)}
    {loop : Reconciliation} {region : String} {cohortId : CohortId} (so : plan.Visited log visited loop)
    (fresh : (region, cohortId) ∉ visited) (absent : plan.cohorts.lookup cohortId = none) :
    plan.Visited log (visited ++ [(region, cohortId)]) loop := by
  have unstored : plan.stored? cohortId = none := by
    rw [stored?, absent]
  have quiet : ∀ entry : PendingAdmission, entry.cohortId = cohortId → plan.ready entry = false := by
    rintro entry rfl
    rw [ready, unstored, Option.any_none]
  have silent : ¬ plan.underFloor cohortId = true := by
    rw [underFloor, unstored, Option.any_none]
    exact Bool.false_ne_true
  refine so.unlogged fresh silent rfl rfl fun other => ?_
  rw [waitsAfter_quiet quiet, so.buckets]

/-- Below the floor a visit logs one row for the region, with its count of that moment. -/
theorem Visited.refused {plan : TickPlan} {log : AuditLog} {visited : List (String × CohortId)}
    {loop : Reconciliation} {region : String} {cohortId : CohortId} {record : CohortRecord}
    (so : plan.Visited log visited loop) (fresh : (region, cohortId) ∉ visited)
    (succeeds : ∀ call, (log.appends call).2 = none)
    (waits : ∃ entry ∈ bucket plan.pending region, entry.cohortId = cohortId)
    (atCohort : plan.cohorts.lookup cohortId = some (.ok record))
    (below : record.members.length < plan.floor.toNat) {next : Reconciliation} (gate : next.gate = loop.gate)
    (logs : next.auditLog = loop.gate.emitNoAnonymousPathIfPending region loop.auditLog) :
    plan.Visited log (visited ++ [(region, cohortId)]) next := by
  have short : plan.underFloor cohortId = true := underFloor_iff.mpr ⟨record, atCohort, below⟩
  obtain ⟨entry, inBucket, rfl⟩ := waits
  have stillWaits : entry ∈ bucket loop.gate.pending region := by
    rw [so.buckets]
    exact mem_waitsAfter inBucket short
  obtain ⟨after, added, isLog, appends, rows, counts⟩ := so.logged
  have working : ∀ call, (after.appends call).2 = none := by
    rw [appends]
    exact succeeds
  obtain ⟨last, row, emits, sameAppends, oneMore, isRow⟩ := AdmissionGate.emit_logs stillWaits working
  rw [isLog, emits] at logs
  refine ⟨?_, fun other => ?_, last, added ++ [row], logs, sameAppends.trans appends, ?_, fun other => ?_⟩
  · rw [gate, so.floor]
  · have quiet : ∀ waiter : PendingAdmission, waiter.cohortId = entry.cohortId → plan.ready waiter = false := by
      intro waiter same
      rw [← same] at short
      exact not_ready short
    rw [gate, waitsAfter_quiet quiet, so.buckets]
  · rw [oneMore, rows, List.append_assoc]
  · have counted : [row].filterMap (AuditEntry.refusalCount? other) =
        if plan.refuses other (region, entry.cohortId) then
          [UInt32.ofNatClamp (plan.waitsAfter visited region).length] else [] := by
      rw [refuses, short, Bool.and_true, ← so.buckets]
      by_cases here : region = other <;> simp [AuditEntry.refusalCount?, isRow, here]
    rw [List.filterMap_append, counts, counted, refusalCounts_snoc fresh]

/-- At the floor a visit answers its members among the waiters and logs nothing. -/
theorem Visited.drained {plan : TickPlan} {log : AuditLog} {visited : List (String × CohortId)}
    {loop : Reconciliation} {region : String} {cohortId : CohortId} {record : CohortRecord}
    (so : plan.Visited log visited loop) (fresh : (region, cohortId) ∉ visited)
    (atCohort : plan.cohorts.lookup cohortId = some (.ok record))
    (reached : plan.floor.toNat ≤ record.members.length) {next : Reconciliation}
    (gate : next.gate = { loop.gate with
      pending := (partitionWaitersFor loop.gate.pending region cohortId record).2 })
    (logs : next.auditLog = loop.auditLog) : plan.Visited log (visited ++ [(region, cohortId)]) next := by
  have silent : ¬ plan.underFloor cohortId = true := by
    rw [underFloor_iff]
    rintro ⟨found, atFound, below⟩
    rw [atCohort] at atFound
    cases atFound
    omega
  refine so.unlogged fresh silent (by rw [gate]) logs fun other => ?_
  have taken := (Prod.mk.eta (p := partitionWaitersFor loop.gate.pending region cohortId record)).symm
  rw [gate, bucket_partition taken, so.buckets, waitsAfter_snoc]
  refine List.filter_congr fun entry _ => congrArg not ?_
  rw [drainKeys, Bool.eq_iff_iff, PendingAdmission.key]
  simp only [Bool.and_eq_true, decide_eq_true_eq, List.contains_iff_mem, ready_iff, Prod.mk.injEq]
  constructor
  · rintro ⟨rfl, rfl, isMember⟩
    exact ⟨⟨record, atCohort, reached, isMember⟩, rfl, rfl⟩
  · rintro ⟨⟨found, atFound, _, isMember⟩, rfl, rfl⟩
    rw [atCohort] at atFound
    cases atFound
    exact ⟨rfl, rfl, isMember⟩

end TickPlan

/-- What one lookup of the loop can find once every row is readable. -/
theorem CohortStore.get_cases {store : CohortStore}
    (readable : ∀ cohortId stored, store.cohorts.lookup cohortId = some stored → ∃ record, stored = .ok record)
    (fault : Option String) (cohortId : CohortId) :
    (∃ text, fault = some text ∧ store.get fault cohortId = .error (.redb text)) ∨
    (fault = none ∧ store.cohorts.lookup cohortId = none ∧ store.get fault cohortId = .ok none) ∨
    (fault = none ∧ ∃ record, store.cohorts.lookup cohortId = some (.ok record) ∧
      store.get fault cohortId = .ok (some record)) := by
  cases fault with
  | some text => exact Or.inl ⟨text, rfl, rfl⟩
  | none =>
    refine Or.inr ?_
    cases atCohort : store.cohorts.lookup cohortId with
    | none =>
      refine Or.inl ⟨rfl, rfl, ?_⟩
      rw [CohortStore.get, readRow, atCohort]
      rfl
    | some stored =>
      obtain ⟨record, rfl⟩ := readable cohortId stored atCohort
      refine Or.inr ⟨rfl, record, rfl, ?_⟩
      rw [CohortStore.get, readRow, atCohort]
      rfl

namespace RotationScheduler

/-- One turn of the loop for a cohort that has a record. -/
theorem reconcilePair_visited (scheduler : RotationScheduler) {plan : TickPlan} {log : AuditLog}
    {visited : List (String × CohortId)} {loop : Reconciliation} {region : String} {cohortId : CohortId}
    {record : CohortRecord} (so : plan.Visited log visited loop) (fresh : (region, cohortId) ∉ visited)
    (succeeds : ∀ call, (log.appends call).2 = none)
    (waits : ∃ entry ∈ bucket plan.pending region, entry.cohortId = cohortId)
    (atCohort : plan.cohorts.lookup cohortId = some (.ok record)) :
    plan.Visited log (visited ++ [(region, cohortId)]) (scheduler.reconcilePair loop region cohortId record) := by
  rcases loop.gate.drainReady_cases region cohortId record loop.auditLog scheduler.exitRegionLookup with
    ⟨short, run⟩ | ⟨reached, run⟩
  · rw [so.floor] at short
    refine so.refused fresh succeeds waits atCohort short ?_ ?_ <;> rw [reconcilePair, run]
  · rw [so.floor] at reached
    refine so.drained fresh atCohort reached ?_ ?_ <;> rw [reconcilePair, run]

/-- The loop visits its pairs up to the first lookup that fails. -/
theorem reconcilePairs_visited {scheduler : RotationScheduler} {faults : TickFaults} {plan : TickPlan}
    {log : AuditLog} (same : scheduler.cohorts.cohorts = plan.cohorts)
    (readable : ∀ cohortId stored, scheduler.cohorts.cohorts.lookup cohortId = some stored →
      ∃ record, stored = .ok record)
    (succeeds : ∀ call, (log.appends call).2 = none) {pairs visited : List (String × CohortId)}
    {before after : Reconciliation} {result : Except RotationError Unit}
    (waits : ∀ pair ∈ pairs, ∃ entry ∈ bucket plan.pending pair.1, entry.cohortId = pair.2)
    (distinct : (visited ++ pairs).Nodup) (so : plan.Visited log visited before)
    (run : scheduler.reconcilePairs faults pairs before = (result, after)) :
    plan.Visited log (visited ++ pairs.takeWhile fun pair => (faults.get pair).isNone) after ∧
      (result.isOk = true ↔ ∀ pair ∈ pairs, (faults.get pair).isNone = true) := by
  induction pairs generalizing visited before with
  | nil =>
    cases run
    rw [List.takeWhile_nil, List.append_nil]
    exact ⟨so, iff_of_true rfl fun _ never => nomatch never⟩
  | cons pair pairs ih =>
    obtain ⟨region, cohortId⟩ := pair
    obtain ⟨waitsHere, waitsLater⟩ := List.forall_mem_cons.mp waits
    rw [List.append_cons] at distinct
    have fresh : (region, cohortId) ∉ visited := by
      intro member
      have split := (List.nodup_append.mp (List.nodup_append.mp distinct).1).2.2
      exact split _ member _ List.mem_cons_self rfl
    rw [reconcilePairs] at run
    rcases CohortStore.get_cases readable (faults.get (region, cohortId)) cohortId with
      ⟨text, failed, get⟩ | ⟨goes, absent, get⟩ | ⟨goes, record, atCohort, get⟩
    · rw [get] at run
      cases run
      rw [List.takeWhile_cons_of_neg (by simp [failed]), List.append_nil]
      refine ⟨so, iff_of_false (fun never => nomatch never) fun all => ?_⟩
      have here := all _ List.mem_cons_self
      rw [failed] at here
      exact nomatch here
    · rw [get] at run
      rw [same] at absent
      rw [List.takeWhile_cons_of_pos (by simp [goes]), List.append_cons, List.forall_mem_cons, goes]
      obtain ⟨visits, ends⟩ := ih waitsLater distinct (so.skipped fresh absent) run
      exact ⟨visits, ends.trans (and_iff_right rfl).symm⟩
    · rw [get] at run
      rw [same] at atCohort
      rw [List.takeWhile_cons_of_pos (by simp [goes]), List.append_cons, List.forall_mem_cons, goes]
      have turn := scheduler.reconcilePair_visited so fresh succeeds waitsHere atCohort
      obtain ⟨visits, ends⟩ := ih waitsLater distinct turn run
      exact ⟨visits, ends.trans (and_iff_right rfl).symm⟩

/-- The plan of a tick from this state: nothing is looked up unless both
sweeps go through, and nothing is cancelled unless every lookup does. -/
def tickPlan (scheduler : RotationScheduler) (faults : TickFaults) (now : Timestamp) : TickPlan :=
  match (scheduler.registry.evictStale faults.stale (now - scheduler.heartbeatSlo)).1,
      scheduler.cohorts.evictExpired faults.expired now with
  | .ok _, (.ok _, cohorts) =>
    { floor := scheduler.gate.floor
      pending := scheduler.gate.pending
      cohorts := cohorts.cohorts
      visits := scheduler.gate.pendingBuckets.takeWhile fun pair => (faults.get pair).isNone
      cancels := scheduler.gate.pendingBuckets.all fun pair => (faults.get pair).isNone }
  | _, _ =>
    { floor := scheduler.gate.floor
      pending := scheduler.gate.pending
      cohorts := scheduler.cohorts.cohorts
      visits := []
      cancels := false }

end RotationScheduler

namespace TickStep

/-- The region has a parked waiter of a stored cohort below the floor. -/
def StillRefused (step : TickStep) (region : String) : Prop :=
  ∃ entry ∈ bucket step.scheduler.gate.pending region, ∃ record,
    step.scheduler.Stores entry.cohortId record ∧ record.members.length < step.scheduler.gate.floor.toNat

/-- The rows the step added to the log report, for each region still refused,
once and with its final count, and nothing for the other regions. -/
def RefusalsAccurate (log : AuditLog) (step : TickStep) : Prop :=
  ∃ after added, step.scheduler.auditLog = some after ∧ after.rows = log.rows ++ added ∧ ∀ region,
    (step.StillRefused region → (added.filterMap (AuditEntry.refusalCount? region)).map UInt32.toNat =
      [step.scheduler.gate.pendingCountForRegion region]) ∧
    (¬ step.StillRefused region → added.filterMap (AuditEntry.refusalCount? region) = [])

/-- The step went as planned. -/
structure Follows (log : AuditLog) (plan : TickPlan) (step : TickStep) : Prop where
  floor : step.scheduler.gate.floor = plan.floor
  cohorts : step.scheduler.cohorts.cohorts = plan.cohorts
  buckets : ∀ region, bucket step.scheduler.gate.pending region = plan.left region
  logged : ∃ after added, step.scheduler.auditLog = some after ∧ after.rows = log.rows ++ added ∧
    ∀ region, added.filterMap (AuditEntry.refusalCount? region) = plan.refusalCounts plan.visits region

end TickStep

namespace TickPlan

@[simp] theorem waitsAfter_nil (plan : TickPlan) (region : String) :
    plan.waitsAfter [] region = bucket plan.pending region := by
  refine List.filter_eq_self.mpr fun entry _ => ?_
  rw [List.contains_nil, Bool.and_false, Bool.not_false]

theorem left_uncancelled {plan : TickPlan} (stops : plan.cancels = false) (region : String) :
    plan.left region = plan.waitsAfter plan.visits region := by
  refine List.filter_eq_self.mpr fun entry _ => ?_
  rw [stops, Bool.false_and, Bool.not_false]

theorem Visited.start {plan : TickPlan} {log : AuditLog} {loop : Reconciliation}
    (floor : loop.gate.floor = plan.floor) (pending : loop.gate.pending = plan.pending)
    (hasLog : loop.auditLog = some log) : plan.Visited log [] loop := by
  refine ⟨floor, fun region => ?_, log, [], hasLog, rfl, (List.append_nil _).symm, fun _ => rfl⟩
  rw [pending, waitsAfter_nil]

/-- A loop that ends without a cancellation leaves the gate to the step. -/
theorem Visited.follows {plan : TickPlan} {log : AuditLog} {loop : Reconciliation} {step : TickStep}
    (so : plan.Visited log plan.visits loop) (stops : plan.cancels = false)
    (gate : step.scheduler.gate = loop.gate) (logs : step.scheduler.auditLog = loop.auditLog)
    (cohorts : step.scheduler.cohorts.cohorts = plan.cohorts) : step.Follows log plan := by
  obtain ⟨after, added, isLog, _, rows, counts⟩ := so.logged
  refine ⟨?_, cohorts, fun region => ?_, after, added, logs.trans isLog, rows, counts⟩
  · rw [gate, so.floor]
  · rw [gate, so.buckets, left_uncancelled stops]

/-- A finished loop cancels the waiters whose cohort has no row. -/
theorem Visited.follows_cancelled {plan : TickPlan} {log : AuditLog} {loop : Reconciliation} {step : TickStep}
    (so : plan.Visited log plan.visits loop) (cancels : plan.cancels = true)
    (live : ∀ entry ∈ loop.gate.waiters,
      loop.liveCohortIds.contains entry.cohortId = !(plan.cohorts.lookup entry.cohortId).isNone)
    (gate : step.scheduler.gate = (loop.gate.cancelOrphans loop.liveCohortIds).gate)
    (logs : step.scheduler.auditLog = loop.auditLog)
    (cohorts : step.scheduler.cohorts.cohorts = plan.cohorts) : step.Follows log plan := by
  obtain ⟨after, added, isLog, _, rows, counts⟩ := so.logged
  refine ⟨?_, cohorts, fun region => ?_, after, added, logs.trans isLog, rows, counts⟩
  · rw [gate, AdmissionGate.cancelOrphans_floor, so.floor]
  · rw [gate, (loop.gate.cancelOrphans_spec loop.liveCohortIds).1, so.buckets, left]
    refine List.filter_congr fun entry member => ?_
    rw [← so.buckets] at member
    rw [live entry (AdmissionGate.mem_waiters.mpr ⟨region, member⟩), cancels, Bool.true_and, orphaned]

end TickPlan

namespace RotationScheduler

/-- Whatever fails in a tick, it does what its plan says. -/
theorem tickOnce_follows {scheduler : RotationScheduler} {log : AuditLog} (hasLog : scheduler.auditLog = some log)
    (succeeds : ∀ call, (log.appends call).2 = none) (faults : TickFaults) (now : Timestamp) :
    (scheduler.tickOnce faults now).Follows log (scheduler.tickPlan faults now) := by
  have started : ∀ plan : TickPlan, scheduler.gate.floor = plan.floor → scheduler.gate.pending = plan.pending →
      plan.Visited log [] ⟨scheduler.gate, scheduler.auditLog, [], 0, []⟩ :=
    fun _ floor pending => .start floor pending hasLog
  rcases stale : scheduler.registry.evictStale faults.stale (now - scheduler.heartbeatSlo) with ⟨_ | _, registry⟩
  · simp only [tickOnce, tickPlan, stale]
    exact (started _ rfl rfl).follows rfl rfl rfl rfl
  rcases expired : scheduler.cohorts.evictExpired faults.expired now with ⟨_ | _, cohorts⟩
  · simp only [tickOnce, tickPlan, stale, expired]
    have unswept := congrArg CohortStore.cohorts (evictExpired_error expired)
    exact (started _ rfl rfl).follows rfl rfl rfl unswept
  have swept := evictExpired_ok expired
  have readable : ∀ cohortId stored, cohorts.cohorts.lookup cohortId = some stored →
      ∃ record, stored = .ok record := by
    intro cohortId stored atCohort
    obtain ⟨record, isRecord, _⟩ := swept.readable cohortId stored atCohort
    exact ⟨record, isRecord⟩
  have waits : ∀ pair ∈ scheduler.gate.pendingBuckets,
      ∃ entry ∈ bucket scheduler.gate.pending pair.1, entry.cohortId = pair.2 :=
    fun _ member => AdmissionGate.mem_pendingBuckets.mp member
  rcases ends : { scheduler with registry := registry, cohorts := cohorts : RotationScheduler }.reconcilePairs
    faults scheduler.gate.pendingBuckets ⟨scheduler.gate, scheduler.auditLog, [], 0, []⟩ with ⟨result, loop⟩
  have plan : scheduler.tickPlan faults now = ⟨scheduler.gate.floor, scheduler.gate.pending, cohorts.cohorts,
      scheduler.gate.pendingBuckets.takeWhile fun pair => (faults.get pair).isNone,
      scheduler.gate.pendingBuckets.all fun pair => (faults.get pair).isNone⟩ := by
    simp only [tickPlan, stale, expired]
  have start := started (scheduler.tickPlan faults now)
  rw [plan] at start ⊢
  obtain ⟨visits, all⟩ := reconcilePairs_visited rfl readable succeeds waits (SortDedup.nodup _) (start rfl rfl) ends
  rw [← List.all_eq_true] at all
  cases result with
  | error err =>
    simp only [tickOnce, stale, expired, reconcileGateWithCohortStore, ends]
    have stops := Bool.eq_false_iff.mpr (mt all.mpr Bool.false_ne_true)
    exact visits.follows stops rfl rfl rfl
  | ok _ =>
    simp only [tickOnce, stale, expired, reconcileGateWithCohortStore, ends]
    have advances := reconcilePairs_advances ends
    have settles := reconcilePairs_settles ends
    exact visits.follows_cancelled (all.mp rfl) (fun entry member => live_contains rfl advances settles member)
      rfl rfl rfl

end RotationScheduler

namespace TickPlan

theorem left_eq (plan : TickPlan) (region : String) {earlier later : List (String × CohortId)}
    (split : plan.visits = earlier ++ later) :
    plan.left region = (plan.waitsAfter earlier region).filter fun entry => !plan.leaves region entry := by
  rw [left, waitsAfter, waitsAfter, List.filter_filter, List.filter_filter]
  refine List.filter_congr fun entry _ => ?_
  rw [leaves, split, List.contains_append]
  cases plan.ready entry <;> cases earlier.contains (region, entry.cohortId) <;> simp [Bool.and_comm]

theorem region_of_refuses {plan : TickPlan} {region : String} {pair : String × CohortId}
    (only : plan.visits.filter (plan.refuses region) = [pair]) : pair.1 = region := by
  have member : pair ∈ plan.visits.filter (plan.refuses region) := by
    rw [only]
    exact List.mem_singleton_self pair
  have refuses := List.of_mem_filter member
  rw [TickPlan.refuses, Bool.and_eq_true, decide_eq_true_eq] at refuses
  exact refuses.1

/-- A refusal reports the final count when nobody it counted leaves. -/
theorem count_eq_left_iff (plan : TickPlan) (pair : String × CohortId) :
    (UInt32.ofNatClamp (plan.countedAt plan.visits pair).length).toNat = (plan.left pair.1).length ↔
      (plan.countedAt plan.visits pair).countP (plan.leaves pair.1) =
        (plan.countedAt plan.visits pair).length - (UInt32.size - 1) := by
  have stay : plan.left pair.1 = (plan.countedAt plan.visits pair).filter fun entry => !plan.leaves pair.1 entry :=
    plan.left_eq pair.1 List.takeWhile_append_dropWhile.symm
  have split := List.length_eq_countP_add_countP (plan.leaves pair.1) (l := plan.countedAt plan.visits pair)
  simp only [Bool.not_eq_true, Bool.decide_eq_false] at split
  rw [stay, ← List.countP_eq_length_filter]
  by_cases fits : (plan.countedAt plan.visits pair).length < UInt32.size
  · rw [UInt32.toNat_ofNatClamp_of_lt fits]
    omega
  · rw [UInt32.toNat_ofNatClamp_of_le (Nat.le_of_not_lt fits)]
    omega

/-- A single refusal with the final count. -/
theorem refusalCounts_single_iff {plan : TickPlan} {region : String} :
    (plan.refusalCounts plan.visits region).map UInt32.toNat = [(plan.left region).length] ↔
      ∃ pair, plan.visits.filter (plan.refuses region) = [pair] ∧
        (plan.countedAt plan.visits pair).countP (plan.leaves region) =
          (plan.countedAt plan.visits pair).length - (UInt32.size - 1) := by
  rw [refusalCounts, List.map_map, List.map_eq_singleton_iff]
  refine exists_congr fun pair => and_congr_right fun only => ?_
  rw [← region_of_refuses only]
  exact plan.count_eq_left_iff pair

/-- A region without waiters below the floor is never refused. -/
theorem refusalCounts_eq_nil {plan : TickPlan}
    (waits : ∀ pair ∈ plan.visits, ∃ entry ∈ bucket plan.pending pair.1, entry.cohortId = pair.2) {region : String}
    (content : ¬ ∃ entry ∈ bucket plan.pending region, plan.underFloor entry.cohortId) :
    plan.refusalCounts plan.visits region = [] := by
  rw [refusalCounts, List.map_eq_nil_iff, List.filter_eq_nil_iff]
  intro pair visited refuses
  rw [TickPlan.refuses, Bool.and_eq_true, decide_eq_true_eq] at refuses
  obtain ⟨entry, inBucket, same⟩ := waits pair visited
  rw [refuses.1] at inBucket
  rw [← same] at refuses
  exact content ⟨entry, inBucket, refuses.2⟩

/-- As long as the region's waiters can be counted, a refusal is accurate
when it is the only one and everybody it counted stays to the end. -/
theorem refusesOnce_iff {plan : TickPlan} {region : String}
    (fits : (bucket plan.pending region).length < UInt32.size) : plan.RefusesOnce region ↔
      ((∃ entry ∈ bucket plan.pending region, plan.underFloor entry.cohortId) →
        ∃ pair, plan.visits.filter (plan.refuses region) = [pair] ∧
          ∀ entry ∈ plan.countedAt plan.visits pair, ¬ plan.leaves region entry = true) := by
  refine imp_congr_right fun _ => exists_congr fun pair => and_congr_right fun only => ?_
  have counted : (plan.countedAt plan.visits pair).length ≤ UInt32.size - 1 := by
    have few : (plan.countedAt plan.visits pair).length ≤ (bucket plan.pending pair.1).length :=
      List.length_filter_le ..
    rw [region_of_refuses only] at few
    exact Nat.le_sub_one_of_lt (few.trans_lt fits)
  rw [Nat.sub_eq_zero_of_le counted, List.countP_eq_zero]

end TickPlan

namespace TickStep

/-- Nobody who waits below the floor is answered or cancelled. -/
theorem Follows.stillRefused_iff {log : AuditLog} {plan : TickPlan} {step : TickStep} (follows : step.Follows log plan)
    (region : String) :
    step.StillRefused region ↔ ∃ entry ∈ bucket plan.pending region, plan.underFloor entry.cohortId := by
  unfold StillRefused RotationScheduler.Stores
  rw [follows.buckets, follows.cohorts, follows.floor]
  simp only [← TickPlan.underFloor_iff]
  constructor
  · rintro ⟨entry, stays, short⟩
    exact ⟨entry, List.mem_of_mem_filter (List.mem_of_mem_filter stays), short⟩
  · rintro ⟨entry, waits, short⟩
    refine ⟨entry, List.mem_filter.mpr ⟨TickPlan.mem_waitsAfter waits short, ?_⟩, short⟩
    obtain ⟨record, atCohort, _⟩ := TickPlan.underFloor_iff.mp short
    rw [TickPlan.orphaned, atCohort, Option.isNone_some, Bool.and_false, Bool.not_false]

theorem Follows.accurate_iff {log : AuditLog} {plan : TickPlan} {step : TickStep} (follows : step.Follows log plan)
    (waits : ∀ pair ∈ plan.visits, ∃ entry ∈ bucket plan.pending pair.1, entry.cohortId = pair.2) :
    step.RefusalsAccurate log ↔ ∀ region, plan.RefusesOnce region := by
  obtain ⟨after, added, isLog, rows, counts⟩ := follows.logged
  constructor
  · rintro ⟨other, others, isOther, otherRows, accurate⟩ region short
    rw [isLog] at isOther
    cases isOther
    rw [rows, List.append_cancel_left_eq] at otherRows
    have single := (accurate region).1 ((follows.stillRefused_iff region).mpr short)
    rwa [AdmissionGate.pendingCountForRegion_eq, follows.buckets, ← otherRows, counts,
      TickPlan.refusalCounts_single_iff] at single
  · refine fun once => ⟨after, added, isLog, rows, fun region => ⟨fun refused => ?_, fun content => ?_⟩⟩
    · rw [AdmissionGate.pendingCountForRegion_eq, follows.buckets, counts, TickPlan.refusalCounts_single_iff]
      exact once region ((follows.stillRefused_iff region).mp refused)
    · rw [follows.stillRefused_iff] at content
      rw [counts, TickPlan.refusalCounts_eq_nil waits content]

end TickStep

namespace RotationScheduler

theorem tickPlan_waits {scheduler : RotationScheduler} {faults : TickFaults} {now : Timestamp} :
    ∀ pair ∈ (scheduler.tickPlan faults now).visits,
      ∃ entry ∈ bucket (scheduler.tickPlan faults now).pending pair.1, entry.cohortId = pair.2 := by
  intro pair visited
  unfold tickPlan at visited ⊢
  split at visited
  · exact AdmissionGate.mem_pendingBuckets.mp ((List.takeWhile_subset _) visited)
  · exact nomatch visited

/-- A tick's refusal rows are accurate exactly when every region with waiters
below the floor refuses at one visit, with the count that the tick leaves. -/
theorem refusalsAccurate_iff (scheduler : RotationScheduler) (log : AuditLog) (faults : TickFaults) (now : Timestamp)
    (hasLog : scheduler.auditLog = some log) (succeeds : ∀ call, (log.appends call).2 = none) :
    (scheduler.tickOnce faults now).RefusalsAccurate log ↔
      ∀ region, (scheduler.tickPlan faults now).RefusesOnce region :=
  (tickOnce_follows hasLog succeeds faults now).accurate_iff tickPlan_waits

def calmFaults : TickFaults :=
  ⟨.none PeerId, .none CohortId, fun _ => none⟩

def workingLog : AuditLog :=
  ⟨[], 0, fun _ => (100, none)⟩

/-- One region, two cohorts below the floor of two, and a third that is
visited last and can answer its waiter. -/
def twoStalled : RotationScheduler where
  registry := ⟨∅⟩
  cohorts := ⟨(((∅ : Table CohortId (Stored CohortRecord)).insert ⟨7⟩ (.ok ⟨[⟨1⟩], [], 200, "eu"⟩)).insert ⟨8⟩
      (.ok ⟨[⟨2⟩], [], 200, "eu"⟩)).insert ⟨9⟩ (.ok ⟨[⟨3⟩, ⟨4⟩], [], 200, "eu"⟩)⟩
  gate := ⟨2, (∅ : WaitList).insert "eu" [⟨⟨1⟩, ⟨7⟩, 0⟩, ⟨⟨2⟩, ⟨8⟩, 1⟩, ⟨⟨3⟩, ⟨9⟩, 2⟩]⟩
  auditLog := some workingLog
  exitRegionLookup := fun _ => none
  heartbeatSlo := 20

/-- Two waiters are left in the region, and two rows say three. -/
theorem twoStalled_miscounted :
    (∀ call, (workingLog.appends call).2 = none) ∧
    (twoStalled.tickOnce calmFaults 100).scheduler.gate.pendingCountForRegion "eu" = 2 ∧
    (∃ after, (twoStalled.tickOnce calmFaults 100).scheduler.auditLog = some after ∧
      after.rows.filterMap (AuditEntry.refusalCount? "eu") = [3, 3]) ∧
    ¬ (twoStalled.tickOnce calmFaults 100).RefusalsAccurate workingLog := by
  refine ⟨fun _ => rfl, by decide, ⟨_, rfl, by decide⟩, ?_⟩
  rintro ⟨after, added, isLog, rows, accurate⟩
  have refused : (twoStalled.tickOnce calmFaults 100).StillRefused "eu" :=
    ⟨⟨⟨1⟩, ⟨7⟩, 0⟩, by decide, ⟨[⟨1⟩], [], 200, "eu"⟩, rfl, by decide⟩
  have single := congrArg List.length ((accurate "eu").1 refused)
  cases isLog
  rw [show added = _ from rows.symm] at single
  exact absurd single (by decide)

theorem refusalsAccurate_iff_twoStalled :
    (twoStalled.tickOnce calmFaults 100).RefusalsAccurate workingLog ↔
      ∀ region, (twoStalled.tickPlan calmFaults 100).RefusesOnce region :=
  refusalsAccurate_iff twoStalled workingLog calmFaults 100 rfl fun _ => rfl

end RotationScheduler

end BiBeam
