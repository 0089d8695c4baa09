import BiBeam.Protocol.Control

namespace BiBeam

/-- The coordinator's own form of a public key. -/
structure CryptoWgPublicKey where
  bytes : Vector UInt8 32
deriving DecidableEq

structure ExitCandidate where
  nodeId : NodeId
  wgPublicKey : CryptoWgPublicKey
  addr : SocketAddr
  cohortSize : Nat
deriving DecidableEq

structure ForwarderCandidate where
  nodeId : NodeId
  addr : SocketAddr
  cohortSize : Nat
deriving DecidableEq

structure ClientHandle where
  wgPublicKey : CryptoWgPublicKey
  addr : SocketAddr
deriving DecidableEq

namespace MultiHopBuilder

def defaultKeepaliveSecs : BitVec 16 := 25

def leaseDuration : Duration := .minutes 15

def leaseDeadlineNow (now : Timestamp) : Timestamp :=
  now + leaseDuration

def protocolWgKey (rich : CryptoWgPublicKey) : WgPublicKey :=
  ⟨rich.bytes⟩

def defaultClientAllowedIps : List IpNet :=
  [.v4 0 0, .v6 0 0]

/-- The leases from the forwarder at `index` on; the n-th fresh chain id is `mint n`. -/
def leasesFrom (mint : Nat → ChainId) (exitAddr : SocketAddr) (leaseExpiresAt : Timestamp) :
    Nat → SocketAddr → List ForwarderCandidate → List ForwarderLease
  | _, _, [] => []
  | index, upstream, forwarder :: rest =>
    let downstream := rest.head?.elim exitAddr ForwarderCandidate.addr
    ⟨forwarder.nodeId, mint index, upstream, downstream, leaseExpiresAt⟩ ::
      leasesFrom mint exitAddr leaseExpiresAt (index + 1) forwarder.addr rest

def buildLeaseChain (mint : Nat → ChainId) (clientAddr : SocketAddr) (forwarders : List ForwarderCandidate)
    (exitAddr : SocketAddr) (leaseExpiresAt : Timestamp) : List ForwarderLease :=
  leasesFrom mint exitAddr leaseExpiresAt 0 clientAddr forwarders

def buildClientWgConfig (client : ClientHandle) (exit : ExitCandidate) (forwarders : List ForwarderCandidate) :
    WgPeerConfig where
  localStaticPublic := protocolWgKey client.wgPublicKey
  peerStaticPublic := protocolWgKey exit.wgPublicKey
  peerEndpoint := forwarders.head?.elim exit.addr ForwarderCandidate.addr
  allowedIps := defaultClientAllowedIps
  persistentKeepaliveSecs := defaultKeepaliveSecs

def buildMultiHop (now : Timestamp) (mint : Nat → ChainId) (client : ClientHandle)
    (forwarders : List ForwarderCandidate) (exit : ExitCandidate) : MultiHopAssignment where
  exit := exit.nodeId
  forwarderChain := buildLeaseChain mint client.addr forwarders exit.addr (leaseDeadlineNow now)
  clientWgConfig := buildClientWgConfig client exit forwarders

end MultiHopBuilder

end BiBeam
