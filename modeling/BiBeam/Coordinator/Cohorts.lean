import BiBeam.Coordinator.Store

namespace BiBeam

/-- A cohort as the coordinator stores it. The empty region means that the
registrant declared none, and doubles as "not tagged yet". -/
structure CohortRecord where
  members : List PeerId
  exits : List NodeId
  rotationDeadline : Timestamp
  region : String
deriving DecidableEq

structure CohortStore where
  cohorts : Table CohortId (Stored CohortRecord)

namespace CohortStore

def upsert (store : CohortStore) (fault : Option StoreError) (cohort : CohortId) (record : CohortRecord) :
    Except StoreError Unit × CohortStore :=
  let (result, cohorts) := insertRow fault cohort record store.cohorts
  (result, ⟨cohorts⟩)

def get (store : CohortStore) (fault : Option String) (cohort : CohortId) :
    Except StoreError (Option CohortRecord) :=
  readRow fault cohort store.cohorts

def evictExpired (store : CohortStore) (faults : RedbFaults CohortId) (now : Timestamp) :
    Except StoreError Nat × CohortStore :=
  let (result, cohorts) := evict faults (fun record => record.rotationDeadline < now) store.cohorts
  (result, ⟨cohorts⟩)

end CohortStore

end BiBeam
