import BiBeam.Discovery.InviteValidator
import BiBeam.Lib.Saturating

namespace BiBeam

structure RedactionKey where
  bytes : Vector UInt8 32
deriving DecidableEq

/-- What admission takes from the hash and address libraries. -/
structure AdmissionLibs extends InviteLibs where
  blake3 : List UInt8 → Vector UInt8 32
  keyedHash : RedactionKey → List UInt8 → Vector UInt8 32
  ipText : IpAddr → String

def inviteHashDomain : String := "bibeam.coord.invite_redemption.v1"

def auditTokenDomain : String := "bibeam.coord.invite_audit_token.v1"

inductive InviteAdmissionError
  | verify (error : DiscoveryError)
  | budgetExhausted
  | redb (text : String)
deriving DecidableEq

def inviteHashKey (libs : AdmissionLibs) (code : InviteCode) : Vector UInt8 32 :=
  libs.blake3 (inviteHashDomain.toUTF8.data.toList ++ code.bytes.toList)

/-- The points at which redb may report a failure inside a ledger transaction. -/
structure LedgerFaults where
  beginWrite : Option String
  openTable : Option String
  get : Option String
  insert : Option String
  commit : Option String

def ledgerTry : Option String → Except InviteAdmissionError Unit
  | none => .ok ()
  | some text => .error (.redb text)

/-- The remaining redemptions under the hash of each invite code. -/
structure RedemptionLedger where
  rows : Table (Vector UInt8 32) UInt32
deriving DecidableEq

namespace RedemptionLedger

/-- A write transaction takes effect when its commit does; otherwise it is
dropped, which leaves every row as it was. -/
def settle {α : Type} (ledger : RedemptionLedger)
    (transaction : Except InviteAdmissionError (α × Table (Vector UInt8 32) UInt32)) :
    Except InviteAdmissionError α × RedemptionLedger :=
  match transaction with
  | .ok (result, rows) => (.ok result, ⟨rows⟩)
  | .error err => (.error err, ledger)

def register (libs : AdmissionLibs) (faults : LedgerFaults) (ledger : RedemptionLedger) (code : InviteCode)
    (startingBudget : UInt32) : Except InviteAdmissionError Unit × RedemptionLedger :=
  let key := inviteHashKey libs code
  ledger.settle do
    ledgerTry faults.beginWrite
    ledgerTry faults.openTable
    ledgerTry faults.insert
    ledgerTry faults.commit
    return ((), ledger.rows.insert key startingBudget)

def debitUnderWriteTxn (faults : LedgerFaults) (rows : Table (Vector UInt8 32) UInt32) (key : Vector UInt8 32) :
    Except InviteAdmissionError (UInt32 × Table (Vector UInt8 32) UInt32) := do
  ledgerTry faults.openTable
  ledgerTry faults.get
  match rows.lookup key with
  | none => .error .budgetExhausted
  | some currentBudget =>
    if currentBudget = 0 then
      .error .budgetExhausted
    else
      let nextBudget := currentBudget.saturatingSub 1
      ledgerTry faults.insert
      return (nextBudget, rows.insert key nextBudget)

def debit (libs : AdmissionLibs) (faults : LedgerFaults) (ledger : RedemptionLedger) (code : InviteCode) :
    Except InviteAdmissionError UInt32 × RedemptionLedger :=
  let key := inviteHashKey libs code
  ledger.settle do
    ledgerTry faults.beginWrite
    let (remaining, rows) ← debitUnderWriteTxn faults ledger.rows key
    ledgerTry faults.commit
    return (remaining, rows)

def get (libs : AdmissionLibs) (fault : Option String) (ledger : RedemptionLedger) (code : InviteCode) :
    Except InviteAdmissionError (Option UInt32) := do
  ledgerTry fault
  return ledger.rows.lookup (inviteHashKey libs code)

end RedemptionLedger

def hexDigit (nibble : Nat) : Char :=
  if nibble < 10 then Char.ofNat (48 + nibble) else Char.ofNat (87 + nibble)

def toHex (bytes : List UInt8) : String :=
  String.ofList (bytes.flatMap fun byte => [hexDigit (byte.toNat / 16), hexDigit (byte.toNat % 16)])

def redactBytes (libs : AdmissionLibs) (key : RedactionKey) (input : List UInt8) : String :=
  toHex ((libs.keyedHash key input).toList.take 8)

def redactIp (libs : AdmissionLibs) (key : RedactionKey) (ip : IpAddr) : String :=
  redactBytes libs key (libs.ipText ip).toUTF8.data.toList

/-- Sixteen hex digits of the hash of a code under a domain of its own. -/
def inviteAuditToken (libs : AdmissionLibs) (code : InviteCode) : String :=
  toHex ((libs.blake3 (auditTokenDomain.toUTF8.data.toList ++ code.bytes.toList)).toList.take 8)

structure RedemptionBreadcrumb where
  auditTag : String
  remaining : UInt32
deriving DecidableEq

structure InviteAdmissioner where
  trustedIssuer : IdentityPublicKey
  ledger : RedemptionLedger
  redactionKey : RedactionKey

namespace InviteAdmissioner

def computeAuditBreadcrumb (libs : AdmissionLibs) (admissioner : InviteAdmissioner) (code : InviteCode)
    (sourceIp : IpAddr) : String :=
  let inviteToken := inviteAuditToken libs code
  let ipToken := redactIp libs admissioner.redactionKey sourceIp
  s!"invite={inviteToken} ip={ipToken}"

/-- Nothing is debited before the invite verifies. -/
def redeem (libs : AdmissionLibs) (faults : LedgerFaults) (now : Timestamp) (admissioner : InviteAdmissioner)
    (signed : SignedInvite) (sourceIp : IpAddr) :
    Except InviteAdmissionError RedemptionBreadcrumb × InviteAdmissioner :=
  match verifyInvite libs.toInviteLibs now signed admissioner.trustedIssuer with
  | .error err => (.error (.verify err), admissioner)
  | .ok () =>
    match admissioner.ledger.debit libs faults signed.code with
    | (.error err, ledger) => (.error err, { admissioner with ledger := ledger })
    | (.ok remaining, ledger) =>
      let breadcrumb := admissioner.computeAuditBreadcrumb libs signed.code sourceIp
      (.ok ⟨breadcrumb, remaining⟩, { admissioner with ledger := ledger })

end InviteAdmissioner

end BiBeam
