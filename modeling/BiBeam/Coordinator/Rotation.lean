import BiBeam.Coordinator.AdmissionGate
import BiBeam.Coordinator.Registry

namespace BiBeam

inductive RotationError
  | registry (err : StoreError)
  | cohortStore (err : StoreError)
deriving DecidableEq

structure RotationStats where
  peersEvicted : Nat
  cohortsEvicted : Nat
  waitersReleased : Nat
  waitersCancelled : Nat
  floor : UInt32
deriving DecidableEq

structure RotationScheduler where
  registry : PeerRegistry
  cohorts : CohortStore
  gate : AdmissionGate
  auditLog : Option AuditLog
  exitRegionLookup : ExitRegionLookup
  heartbeatSlo : Duration

/-- The store failures of one tick; each pair of the snapshot is looked up once. -/
structure TickFaults where
  stale : RedbFaults PeerId
  expired : RedbFaults CohortId
  get : String × CohortId → Option String

/-- The loop variables of the reconciliation, and what has been sent so far. -/
structure Reconciliation where
  gate : AdmissionGate
  auditLog : Option AuditLog
  liveCohortIds : List CohortId
  releasedTotal : Nat
  sent : List Sent

/-- A tick's result, the scheduler after it, and the waiters it answered and dropped. -/
structure TickStep where
  result : Except RotationError RotationStats
  scheduler : RotationScheduler
  sent : List Sent
  dropped : List PendingAdmission

def pushLive (liveCohortIds : List CohortId) (cohortId : CohortId) : List CohortId :=
  if liveCohortIds.contains cohortId then liveCohortIds else liveCohortIds ++ [cohortId]

namespace RotationScheduler

/-- The cohort's record was found: note the cohort as live and drain its waiters. -/
def reconcilePair (scheduler : RotationScheduler) (loop : Reconciliation) (region : String)
    (cohortId : CohortId) (record : CohortRecord) : Reconciliation :=
  let drained := loop.gate.drainReady region cohortId record loop.auditLog scheduler.exitRegionLookup
  { gate := drained.gate
    auditLog := drained.auditLog
    liveCohortIds := pushLive loop.liveCohortIds cohortId
    releasedTotal := loop.releasedTotal + drained.released
    sent := loop.sent ++ drained.sent }

def reconcilePairs (scheduler : RotationScheduler) (faults : TickFaults) :
    List (String × CohortId) → Reconciliation → Except RotationError Unit × Reconciliation
  | [], loop => (.ok (), loop)
  | (region, cohortId) :: pairs, loop =>
    match scheduler.cohorts.get (faults.get (region, cohortId)) cohortId with
    | .error err => (.error (.cohortStore err), loop)
    | .ok none => scheduler.reconcilePairs faults pairs loop
    | .ok (some record) =>
      scheduler.reconcilePairs faults pairs (scheduler.reconcilePair loop region cohortId record)

def reconcileGateWithCohortStore (scheduler : RotationScheduler) (faults : TickFaults) :
    Except RotationError (Nat × Nat) × RotationScheduler × List Sent × List PendingAdmission :=
  match scheduler.reconcilePairs faults scheduler.gate.pendingBuckets
    ⟨scheduler.gate, scheduler.auditLog, [], 0, []⟩ with
  | (.error err, loop) =>
    (.error err, { scheduler with gate := loop.gate, auditLog := loop.auditLog }, loop.sent, [])
  | (.ok (), loop) =>
    let cancelled := loop.gate.cancelOrphans loop.liveCohortIds
    (.ok (loop.releasedTotal, cancelled.cancelled),
      { scheduler with gate := cancelled.gate, auditLog := loop.auditLog }, loop.sent, cancelled.dropped)

def tickOnce (scheduler : RotationScheduler) (faults : TickFaults) (now : Timestamp) : TickStep :=
  let staleCutoff := now - scheduler.heartbeatSlo
  match scheduler.registry.evictStale faults.stale staleCutoff with
  | (.error err, registry) => ⟨.error (.registry err), { scheduler with registry := registry }, [], []⟩
  | (.ok peersEvicted, registry) =>
    let scheduler := { scheduler with registry := registry }
    match scheduler.cohorts.evictExpired faults.expired now with
    | (.error err, cohorts) => ⟨.error (.cohortStore err), { scheduler with cohorts := cohorts }, [], []⟩
    | (.ok cohortsEvicted, cohorts) =>
      let scheduler := { scheduler with cohorts := cohorts }
      match scheduler.reconcileGateWithCohortStore faults with
      | (.error err, scheduler, sent, dropped) => ⟨.error err, scheduler, sent, dropped⟩
      | (.ok (waitersReleased, waitersCancelled), scheduler, sent, dropped) =>
        ⟨.ok ⟨peersEvicted, cohortsEvicted, waitersReleased, waitersCancelled, scheduler.gate.floor⟩,
          scheduler, sent, dropped⟩

end RotationScheduler

end BiBeam
