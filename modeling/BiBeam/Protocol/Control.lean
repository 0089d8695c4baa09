import BiBeam.Lib.Table
import BiBeam.Protocol.Multihop

namespace BiBeam

structure Register where
  peerId : PeerId
  addrHint : SocketAddr
  canExit : Bool
  capacityHint : UInt32
  at_ : Timestamp
deriving DecidableEq

structure RegisterAck where
  sessionToken : List UInt8
  expiresAt : Timestamp
deriving DecidableEq

structure MatchRequest where
  peerId : PeerId
  at_ : Timestamp
deriving DecidableEq

structure SingleHopMatch where
  cohort : CohortId
  exitSet : List NodeId
  exitRegions : Table NodeId String
  rotationDeadline : Timestamp
deriving DecidableEq

structure MultiHopAssignment where
  exit : NodeId
  forwarderChain : List ForwarderLease
  clientWgConfig : WgPeerConfig
deriving DecidableEq

/-- The wire-shape twin of an assignment, which may hold an empty chain. -/
structure MultiHopAssignmentWire where
  exit : NodeId
  forwarderChain : List ForwarderLease
  clientWgConfig : WgPeerConfig
deriving DecidableEq

def MultiHopAssignment.tryFrom (wire : MultiHopAssignmentWire) :
    Except MultiHopAssignmentError MultiHopAssignment :=
  if wire.forwarderChain.isEmpty then
    .error .emptyChain
  else
    .ok ⟨wire.exit, wire.forwarderChain, wire.clientWgConfig⟩

inductive MatchResponse
  | singleHop (single : SingleHopMatch)
  | multiHopAssignment (assignment : MultiHopAssignment)
deriving DecidableEq

/-- The cohort a response puts its receiver into; a multi-hop assignment names none. -/
def MatchResponse.cohort? : MatchResponse → Option CohortId
  | .singleHop single => some single.cohort
  | .multiHopAssignment _ => none

structure Heartbeat where
  peerId : PeerId
  at_ : Timestamp
deriving DecidableEq

structure Disconnect where
  peerId : PeerId
  reason : String
  at_ : Timestamp
deriving DecidableEq

inductive ControlMessage
  | register (register : Register)
  | registerAck (ack : RegisterAck)
  | matchRequest (request : MatchRequest)
  | matchResponse (response : MatchResponse)
  | heartbeat (heartbeat : Heartbeat)
  | disconnect (disconnect : Disconnect)
deriving DecidableEq

end BiBeam
