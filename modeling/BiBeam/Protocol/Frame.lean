import BiBeam.Protocol.Control

namespace BiBeam

structure CohortAdmit where
  cohort : CohortId
  member : PeerId
  at_ : Timestamp
deriving DecidableEq

structure CohortLive where
  cohort : CohortId
  members : List PeerId
  exits : List NodeId
  exitRegions : Table NodeId String
  at_ : Timestamp
deriving DecidableEq

structure CohortRotate where
  old : CohortId
  new : CohortId
  at_ : Timestamp
deriving DecidableEq

inductive CohortMessage
  | admit_ (admitted : CohortAdmit)
  | live (live : CohortLive)
  | rotate (rotation : CohortRotate)
deriving DecidableEq

structure Tunnel where
  peerId : PeerId
  payload : List UInt8
deriving DecidableEq

inductive Frame
  | control (message : ControlMessage)
  | tunnel (tunnel : Tunnel)
  | cohort (message : CohortMessage)
deriving DecidableEq

/-- The four bytes `BIBM` in front of every frame. -/
def magic : List UInt8 := [0x42, 0x49, 0x42, 0x4D]

def version : UInt8 := 1

inductive ProtocolError
  | codec (error : PostcardError)
  | badMagic
  | badVersion (got expected : UInt8)
deriving DecidableEq

end BiBeam
