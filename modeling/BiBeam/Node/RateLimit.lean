import BiBeam.Core.Ids
import BiBeam.Lib.Cells

namespace BiBeam

/-- So many cells at once, and the span in which as many come back. -/
structure Quota where
  maxBurst : Nat
  period : Duration
  positive : 0 < maxBurst

structure RateLimitConfig where
  perCohortPps : UInt32
  perPeerPps : UInt32

inductive RateLimitConfigError
  | zeroBudget (field : String)
deriving DecidableEq

structure RateLimited where
  scope : String
deriving DecidableEq

def quotaPerSecond (pps : UInt32) (field : String) : Except RateLimitConfigError Quota :=
  if positive : 0 < pps.toNat then .ok ⟨pps.toNat, 1000000000, positive⟩ else .error (.zeroBudget field)

/-- The cells made so far for cohorts and for peers, and the quotas of new ones. -/
structure NodeRateLimiter (ι σ : Type) where
  perCohort : SharedCells ι CohortId σ
  perPeer : SharedCells ι PeerId σ
  cohortQuota : Quota
  peerQuota : Quota

inductive NodeRateEvent (ι : Type)
  | cohort (event : CellEvent ι CohortId Timestamp)
  | peer (event : CellEvent ι PeerId Timestamp)

namespace NodeRateLimiter

variable {ι σ : Type}

def new (ι σ : Type) (config : RateLimitConfig) : Except RateLimitConfigError (NodeRateLimiter ι σ) := do
  let cohortQuota ← quotaPerSecond config.perCohortPps "per_cohort_pps"
  let peerQuota ← quotaPerSecond config.perPeerPps "per_peer_pps"
  return ⟨.empty ι CohortId σ, .empty ι PeerId σ, cohortQuota, peerQuota⟩

/-- What a check gives back, by the answer of the limiter at its key. -/
def checked (scope : String) (admitted : Bool) : Except RateLimited Unit :=
  if admitted then .ok () else .error ⟨scope⟩

def checkPeer (text : Ulid → String) (peer : PeerId) : Bool → Except RateLimited Unit :=
  checked ("peer:" ++ text peer.ulid)

variable [DecidableEq ι] (directLimiter : Quota → Cell σ Timestamp)

inductive Step : NodeRateLimiter ι σ → NodeRateEvent ι → NodeRateLimiter ι σ → Prop
  | cohort {limiter event perCohort} :
      SharedCells.Step (directLimiter limiter.cohortQuota) limiter.perCohort event perCohort →
      Step limiter (.cohort event) { limiter with perCohort }
  | peer {limiter event perPeer} :
      SharedCells.Step (directLimiter limiter.peerQuota) limiter.perPeer event perPeer →
      Step limiter (.peer event) { limiter with perPeer }

variable {directLimiter} {text : Ulid → String} {config : RateLimitConfig} {events : List (NodeRateEvent ι)}
  {limiter next : NodeRateLimiter ι σ}

/-- The next cell comes back one emission interval after the last that was taken. -/
def emission (quota : Quota) : Cell Timestamp Timestamp where
  fresh := 0
  check arrival now :=
    let interval := quota.period / quota.maxBurst
    if now < arrival - interval * (quota.maxBurst - 1) then (false, arrival) else (true, max arrival now + interval)

end NodeRateLimiter

end BiBeam
