import BiBeam.Coordinator.Store

namespace BiBeam

inductive AuditKind
  | admission
  | rotation
  | tokenIssued
  | inviteRedeemed
  | noAnonymousPathAvailable (region : String) (pendingCount : UInt32)
  | regionMismatch (declared observed : String)
deriving DecidableEq

structure AuditEntry where
  capturedAt : Timestamp
  kind : AuditKind
  peerToken : Option String
  ipToken : Option String
  detailJson : String
deriving DecidableEq

/-- The operator log. The n-th append reads its clock and its store failure,
if any, from `appends n`. -/
structure AuditLog where
  rows : List AuditEntry
  calls : Nat
  appends : Nat → Timestamp × Option StoreError

namespace AuditLog

def append (log : AuditLog) (entry : AuditEntry) : Except StoreError Unit × AuditLog :=
  match (log.appends log.calls).2 with
  | some err => (.error err, { log with calls := log.calls + 1 })
  | none => (.ok (), { log with rows := log.rows ++ [entry], calls := log.calls + 1 })

def recordNoAnonymousPath (log : AuditLog) (region : String) (pendingCount : UInt32) :
    Except StoreError Unit × AuditLog :=
  log.append {
    capturedAt := (log.appends log.calls).1
    kind := .noAnonymousPathAvailable region pendingCount
    peerToken := none
    ipToken := none
    detailJson := "" }

end AuditLog

end BiBeam
