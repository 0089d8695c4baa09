import BiBeam.Discovery.Failover
import BiBeam.Protocol.Codec

namespace BiBeam

structure InviteCode where
  bytes : Vector UInt8 16
deriving DecidableEq

structure IdentityPublicKey where
  bytes : Vector UInt8 32
deriving DecidableEq

structure Signature where
  bytes : Vector UInt8 64
deriving DecidableEq

/-- An instant with the offset from UTC, in seconds, in which it is written. -/
structure OffsetDateTime where
  instant : Timestamp
  offset : Int
deriving DecidableEq

def OffsetDateTime.utc (instant : Timestamp) : OffsetDateTime :=
  ⟨instant, 0⟩

def OffsetDateTime.unixEpoch : OffsetDateTime :=
  .utc 0

/-- The text form of the Unix epoch in UTC alone. -/
def unixEpochText : TextForm OffsetDateTime :=
  TextForm.only .unixEpoch "1970-01-01T00:00:00Z" (Nat.le_of_ble_eq_true rfl)

/-- The issuer is a hint: it is not among what is signed. The times keep their
offsets, which are printed into what is signed. -/
structure SignedInvite where
  code : InviteCode
  issuer : IdentityPublicKey
  issuedAt : OffsetDateTime
  expiresAt : Option OffsetDateTime
  signature : List UInt8
deriving DecidableEq

/-- What the validator takes from the signature and time libraries. -/
structure InviteLibs where
  verifies : IdentityPublicKey → List UInt8 → Signature → Bool
  rfc3339 : TextForm OffsetDateTime
  debugTimestamp : OffsetDateTime → String

/-- The Unix epoch stands for "never" in what is signed. -/
def neverExpiresPayloadMarker : OffsetDateTime := .unixEpoch

def inviteSigningDomain : String := "bibeam.invite.v1"

/-- Domain, code, time of issue and expiry, in this order. -/
def payloadWire (rfc3339 : TextForm OffsetDateTime) :
    Wire PostcardError (String × Vector UInt8 16 × OffsetDateTime × OffsetDateTime) :=
  postcard.text.pair ((postcard.byteArray 16).pair ((postcard.printed rfc3339).pair (postcard.printed rfc3339)))

/-- A tuple that does not encode leaves an empty payload. -/
def signingPayload (rfc3339 : TextForm OffsetDateTime) (code : InviteCode) (issuedAt : OffsetDateTime)
    (expiresAt : Option OffsetDateTime) : List UInt8 :=
  let expiresAtOrEpoch := expiresAt.getD neverExpiresPayloadMarker
  ((payloadWire rfc3339).write (inviteSigningDomain, code.bytes, issuedAt, expiresAtOrEpoch)).toOption.getD []

def decodeSignatureBytes (bytes : List UInt8) : Except DiscoveryError Signature :=
  if length : bytes.length = 64 then
    .ok ⟨bytes.toArray, length⟩
  else
    .error (.url s!"invite signature decode: expected 64 bytes, got {bytes.length}")

def identityVerify (libs : InviteLibs) (key : IdentityPublicKey) (message : List UInt8) (signature : Signature) :
    Except String Unit :=
  if libs.verifies key message signature then .ok () else .error "Ed25519 signature did not verify"

def inviteExpired (libs : InviteLibs) (expiresAt now : OffsetDateTime) : DiscoveryError :=
  .url s!"invite expired: expired_at={libs.debugTimestamp expiresAt} now={libs.debugTimestamp now}"

def verifyInvite (libs : InviteLibs) (now : Timestamp) (signed : SignedInvite) (coordPubkey : IdentityPublicKey) :
    Except DiscoveryError Unit := do
  if signed.issuer ≠ coordPubkey then
    .error (.url "invite issuer: claimed issuer does not match trusted coordinator key")
  let signature ← decodeSignatureBytes signed.signature
  let payload := signingPayload libs.rfc3339 signed.code signed.issuedAt signed.expiresAt
  match identityVerify libs coordPubkey payload signature with
  | .error text => .error (.url s!"invite signature: {text}")
  | .ok () =>
    match signed.expiresAt with
    | none => return ()
    | some expiresAt =>
      -- Times are compared by their instants.
      if expiresAt.instant ≤ now then .error (inviteExpired libs expiresAt (.utc now)) else return ()

end BiBeam
