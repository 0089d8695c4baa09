import Mathlib.Data.String.Basic
import BiBeam.Lib.SortDedup
import BiBeam.Protocol.Control
import BiBeam.Coordinator.Audit
import BiBeam.Coordinator.Cohorts

namespace BiBeam

abbrev ExitRegionLookup := NodeId → Option String

/-- A oneshot channel, named by its place in the order in which channels are made. -/
abbrev ChannelId := Nat

inductive AdmissionOutcome
  | admitted (response : MatchResponse)
  | bucketed (responseRx : ChannelId)
  | regionMismatch (existingRegion requestedRegion : String)
deriving DecidableEq

structure PendingAdmission where
  peerId : PeerId
  cohortId : CohortId
  responseTx : ChannelId
deriving DecidableEq

/-- Waiters bucketed by region, each bucket in arrival order. -/
abbrev WaitList := Table String (List PendingAdmission)

structure AdmissionGate where
  floor : UInt32
  pending : WaitList

/-- A response handed to a parked waiter's channel. -/
structure Sent where
  waiter : PendingAdmission
  response : MatchResponse
deriving DecidableEq

def buildResponse (cohortId : CohortId) (cohort : CohortRecord) (exitRegionLookup : ExitRegionLookup) :
    MatchResponse :=
  let exitRegions : Table NodeId String := cohort.exits.foldl (fun regions exit =>
    match exitRegionLookup exit with
    | some region => regions.insert exit region
    | none => regions) ∅
  .singleHop ⟨cohortId, cohort.exits, exitRegions, cohort.rotationDeadline⟩

def CohortRecord.stampRegion (cohort : CohortRecord) (region : String) : CohortRecord :=
  if cohort.region = "" then { cohort with region := region } else cohort

def CohortRecord.addMember (cohort : CohortRecord) (peerId : PeerId) : CohortRecord :=
  if peerId ∈ cohort.members then cohort else { cohort with members := cohort.members ++ [peerId] }

def PendingAdmission.sameRequest (prior entry : PendingAdmission) : Bool :=
  prior.cohortId = entry.cohortId && prior.peerId = entry.peerId

/-- Park a waiter, dropping the sender of any earlier one for the same triple. -/
def upsertPendingEntry (waiters : WaitList) (region : String) (pendingEntry : PendingAdmission) :
    WaitList × List PendingAdmission :=
  let bucket := (waiters.lookup region).getD []
  let kept := bucket.filter fun prior => !prior.sameRequest pendingEntry
  let dropped := bucket.filter fun prior => prior.sameRequest pendingEntry
  (waiters.insert region (kept ++ [pendingEntry]), dropped)

def partitionWaitersFor (waiters : WaitList) (region : String) (cohortId : CohortId)
    (cohort : CohortRecord) : List PendingAdmission × WaitList :=
  match waiters.lookup region with
  | none => ([], waiters)
  | some bucket =>
    let (ready, stillWaiting) := bucket.partition fun entry =>
      entry.cohortId = cohortId && cohort.members.contains entry.peerId
    (ready, if stillWaiting.isEmpty then waiters.erase region else waiters.insert region stillWaiting)

def cancelOrphansInBucket (bucket : List PendingAdmission) (live : List CohortId) :
    List PendingAdmission × List PendingAdmission :=
  bucket.partition fun entry => live.contains entry.cohortId

def extendPairsFromBucket (acc : List (String × CohortId)) (region : String)
    (bucket : List PendingAdmission) : List (String × CohortId) :=
  acc ++ bucket.map fun entry => (region, entry.cohortId)

/-- The order of the snapshot: by region, then by the cohort's ULID. -/
def BucketLe (left right : String × CohortId) : Prop :=
  left.1 < right.1 ∨ left.1 = right.1 ∧ left.2.ulid.toNat ≤ right.2.ulid.toNat

instance : DecidableRel BucketLe := fun left right =>
  inferInstanceAs (Decidable (left.1 < right.1 ∨ left.1 = right.1 ∧ left.2.ulid.toNat ≤ right.2.ulid.toNat))

/-- The effects of one admission: the outcome, the caller's updated record,
the gate, and the waiters whose senders were dropped. -/
structure AdmitStep where
  outcome : AdmissionOutcome
  cohort : CohortRecord
  gate : AdmissionGate
  superseded : List PendingAdmission

structure DrainStep where
  released : Nat
  gate : AdmissionGate
  auditLog : Option AuditLog
  sent : List Sent

structure CancelStep where
  cancelled : Nat
  gate : AdmissionGate
  dropped : List PendingAdmission

namespace AdmissionGate

def new (floor : UInt32) : AdmissionGate :=
  ⟨floor, ∅⟩

/-- `channel` is the oneshot the call creates if it parks the peer. -/
def admitOrBucket (gate : AdmissionGate) (peerId : PeerId) (cohortId : CohortId) (region : String)
    (cohort : CohortRecord) (exitRegionLookup : ExitRegionLookup) (channel : ChannelId) : AdmitStep :=
  if cohort.region ≠ "" ∧ cohort.region ≠ region then
    ⟨.regionMismatch cohort.region region, cohort, gate, []⟩
  else
    let cohort := (cohort.stampRegion region).addMember peerId
    let liveCount := UInt32.ofNatClamp cohort.members.length
    if gate.floor ≤ liveCount then
      ⟨.admitted (buildResponse cohortId cohort exitRegionLookup), cohort, gate, []⟩
    else
      let (pending, superseded) := upsertPendingEntry gate.pending region ⟨peerId, cohortId, channel⟩
      ⟨.bucketed channel, cohort, { gate with pending := pending }, superseded⟩

def pendingCountForRegion (gate : AdmissionGate) (region : String) : Nat :=
  ((gate.pending.lookup region).map List.length).getD 0

def emitNoAnonymousPathIfPending (gate : AdmissionGate) (region : String) (auditLog : Option AuditLog) :
    Option AuditLog :=
  match auditLog with
  | none => none
  | some log =>
    let pendingCount := gate.pendingCountForRegion region
    if pendingCount = 0 then
      some log
    else
      some (log.recordNoAnonymousPath region (UInt32.ofNatClamp pendingCount)).2

def drainReady (gate : AdmissionGate) (region : String) (cohortId : CohortId) (cohort : CohortRecord)
    (auditLog : Option AuditLog) (exitRegionLookup : ExitRegionLookup) : DrainStep :=
  let liveCount := UInt32.ofNatClamp cohort.members.length
  if liveCount < gate.floor then
    ⟨0, gate, gate.emitNoAnonymousPathIfPending region auditLog, []⟩
  else
    let response := buildResponse cohortId cohort exitRegionLookup
    let (drained, pending) := partitionWaitersFor gate.pending region cohortId cohort
    ⟨drained.length, { gate with pending := pending }, auditLog, drained.map fun waiter => ⟨waiter, response⟩⟩

def pendingCount (gate : AdmissionGate) : Nat :=
  (gate.pending.entries.map fun row => row.2.length).sum

def membersInRegion (gate : AdmissionGate) (region : String) : List PeerId :=
  ((gate.pending.lookup region).map fun bucket => bucket.map PendingAdmission.peerId).getD []

def snapshotPendingPairsUnderLock (gate : AdmissionGate) : List (String × CohortId) :=
  gate.pending.entries.foldl (fun acc row => extendPairsFromBucket acc row.1 row.2) []

def pendingBuckets (gate : AdmissionGate) : List (String × CohortId) :=
  sortDedup BucketLe gate.snapshotPendingPairsUnderLock

def cancelOrphans (gate : AdmissionGate) (liveCohortIds : List CohortId) : CancelStep :=
  let dropped := gate.pending.entries.flatMap fun row => (cancelOrphansInBucket row.2 liveCohortIds).2
  let surviving := gate.pending.mapVals fun _ bucket => (cancelOrphansInBucket bucket liveCohortIds).1
  let emptyRegions := (surviving.entries.filter fun row => row.2.isEmpty).map Sigma.fst
  ⟨dropped.length, { gate with pending := surviving.eraseAll emptyRegions }, dropped⟩

end AdmissionGate

end BiBeam
