import BiBeam.Coordinator.Store

namespace BiBeam

structure PeerRecord where
  peerId : PeerId
  addrHint : SocketAddr
  canExit : Bool
  capacityHint : UInt32
  lastSeen : Timestamp
  region : String
  regionLastVerifiedAt : Timestamp
  wgPublicKey : Option WgPublicKey
deriving DecidableEq

structure PeerRegistry where
  peers : Table PeerId (Stored PeerRecord)

namespace PeerRegistry

def upsert (registry : PeerRegistry) (fault : Option StoreError) (record : PeerRecord) :
    Except StoreError Unit × PeerRegistry :=
  let (result, peers) := insertRow fault record.peerId record registry.peers
  (result, ⟨peers⟩)

def get (registry : PeerRegistry) (fault : Option String) (peerId : PeerId) :
    Except StoreError (Option PeerRecord) :=
  readRow fault peerId registry.peers

def evictStale (registry : PeerRegistry) (faults : RedbFaults PeerId) (olderThan : Timestamp) :
    Except StoreError Nat × PeerRegistry :=
  let (result, peers) := evict faults (fun record => record.lastSeen < olderThan) registry.peers
  (result, ⟨peers⟩)

end PeerRegistry

end BiBeam
