import BiBeam.Discovery.InviteValidator
import BiBeam.Protocol.Frame

namespace BiBeam

structure SessionClaims where
  sub : PeerId
  cohort : CohortId
  exp : Timestamp
  exitSet : List NodeId
  path : List NodeId
deriving DecidableEq

/-- A verifier of session tokens: the claims sealed in one, or why it refuses. -/
abbrev PasetoVerifier := String → Except String SessionClaims

/-- What the bootstrap takes from the libraries: error texts, besides the validator's. -/
structure BootstrapLibs extends InviteLibs where
  utf8Error : List UInt8 → String
  debugPeerId : PeerId → String

/-- How the coordinators behind the clients of a pool answer. -/
structure CoordinatorClient (C : Type) where
  register : C → Register → Except DiscoveryError RegisterAck
  match_ : C → MatchRequest → String → Except DiscoveryError MatchResponse

structure PeerProfile where
  peerId : PeerId
  addrHint : SocketAddr
  canExit : Bool
  capacityHint : UInt32
deriving DecidableEq

structure BootstrappedSession where
  sessionToken : String
  claims : SessionClaims
  cohortLive : CohortLive
deriving DecidableEq

structure SessionBootstrap (C : Type) where
  pool : CoordinatorPool C
  coordPubkey : IdentityPublicKey

/-- The readings of the clock during one bootstrap. -/
structure BootstrapClock where
  verify : Timestamp
  register : Timestamp
  match_ : Timestamp
  live : Timestamp

/-- A request to a coordinator with its answer. -/
inductive CoordinatorCall (C : Type)
  | register (client : C) (request : Register) (answer : Except DiscoveryError RegisterAck)
  | match_ (client : C) (request : MatchRequest) (token : String) (answer : Except DiscoveryError MatchResponse)

/-- One bootstrap: the requests sent, the result and the pool it leaves. -/
structure BootstrapRun (C : Type) where
  calls : List (CoordinatorCall C)
  result : Except DiscoveryError BootstrappedSession
  pool : CoordinatorPool C

def parseSessionToken (libs : BootstrapLibs) (bytes : List UInt8) : Except DiscoveryError String :=
  match String.fromUTF8? bytes.toByteArray with
  | some view => .ok view
  | none => .error (.url s!"session token not utf-8: {libs.utf8Error bytes}")

/-- The session that a single-hop match makes; no other match makes one. -/
def sessionOf (live : Timestamp) (sessionToken : String) (claims : SessionClaims) :
    MatchResponse → Except DiscoveryError BootstrappedSession
  | .singleHop single =>
    let cohortLive : CohortLive := ⟨single.cohort, [], single.exitSet, single.exitRegions, live⟩
    .ok ⟨sessionToken, claims, cohortLive⟩
  | .multiHopAssignment _ =>
    .error (.url ("coordinator returned a multi-hop assignment; client-side multi-hop bootstrap is not yet wired " ++
      "(R-MULTIHOP-CLI)"))

namespace SessionBootstrap

variable {C : Type}

/-- The token a registration answered with, once it is verified to be the peer's own. -/
def verifiedToken (libs : BootstrapLibs) (verifier : PasetoVerifier) (peerId : PeerId) (ack : RegisterAck) :
    Except DiscoveryError (String × SessionClaims) := do
  let sessionToken ← parseSessionToken libs ack.sessionToken
  match verifier sessionToken with
  | .error text => .error (.url s!"session token verify: {text}")
  | .ok claims =>
    if claims.sub ≠ peerId then
      let tokenSub := libs.debugPeerId claims.sub
      let requested := libs.debugPeerId peerId
      .error (.url s!"session token subject mismatch: token.sub={tokenSub} requested_peer={requested}")
    else
      return (sessionToken, claims)

def bootstrap (libs : BootstrapLibs) (clock : BootstrapClock) (coordinators : CoordinatorClient C)
    (self : SessionBootstrap C) (signedInvite : SignedInvite) (profile : PeerProfile) (verifier : PasetoVerifier) :
    BootstrapRun C :=
  match verifyInvite libs.toInviteLibs clock.verify signedInvite self.coordPubkey with
  | .error err => ⟨[], .error err, self.pool⟩
  | .ok () =>
    let register : Register := ⟨profile.peerId, profile.addrHint, profile.canExit, profile.capacityHint, clock.register⟩
    let attempt := self.pool.tryEach fun client => do
      let ack ← coordinators.register client register
      return (client, ack)
    let registered := attempt.calls.map fun client => .register client register (coordinators.register client register)
    match attempt.result with
    | .error err => ⟨registered, .error err, attempt.pool⟩
    | .ok (chosenClient, ack) =>
      match verifiedToken libs verifier profile.peerId ack with
      | .error err => ⟨registered, .error err, attempt.pool⟩
      | .ok (sessionToken, claims) =>
        let matchRequest : MatchRequest := ⟨profile.peerId, clock.match_⟩
        let matchResponse := coordinators.match_ chosenClient matchRequest sessionToken
        ⟨registered ++ [.match_ chosenClient matchRequest sessionToken matchResponse],
          matchResponse.bind (sessionOf clock.live sessionToken claims), attempt.pool⟩

end SessionBootstrap

end BiBeam
