import BiBeam.Core.Ids

namespace BiBeam

/-- The decode failures of the postcard wire format that the program tells apart. -/
inductive PostcardError
  | deserializeUnexpectedEnd
  | other (code : String)
deriving DecidableEq

inductive MultiHopAssignmentError
  | emptyChain
deriving DecidableEq

/-- A 32-byte X25519 public key as it travels on the wire. -/
structure WgPublicKey where
  bytes : Vector UInt8 32
deriving DecidableEq

/-- An address block; its prefix is no longer than an address. -/
inductive IpNet
  | v4 (addr : BitVec 32) (prefixLen : Fin 33)
  | v6 (addr : BitVec 128) (prefixLen : Fin 129)
deriving DecidableEq

structure WgPeerConfig where
  localStaticPublic : WgPublicKey
  peerStaticPublic : WgPublicKey
  peerEndpoint : SocketAddr
  allowedIps : List IpNet
  persistentKeepaliveSecs : BitVec 16
deriving DecidableEq

/-- One forwarder's authorisation to relay between two sockets until it expires. -/
structure ForwarderLease where
  forwarder : NodeId
  chainId : ChainId
  allowedSrc : SocketAddr
  allowedDst : SocketAddr
  leaseExpiresAt : Timestamp
deriving DecidableEq

/-- A relayed datagram: the chain it belongs to and an opaque payload. -/
structure RelayFrame where
  chainId : ChainId
  wgPayload : List UInt8
deriving DecidableEq

def relayFramePrefixLen : Nat := 16

namespace RelayFrame

def encode (frame : RelayFrame) : List UInt8 :=
  frame.chainId.ulid.toBytes ++ frame.wgPayload

def decode (buf : List UInt8) : Except PostcardError RelayFrame :=
  if buf.length < relayFramePrefixLen then
    .error .deserializeUnexpectedEnd
  else
    .ok ⟨⟨Ulid.fromBytes (buf.take relayFramePrefixLen)⟩, buf.drop relayFramePrefixLen⟩

theorem length_encode (frame : RelayFrame) : frame.encode.length = 16 + frame.wgPayload.length := by
  simp [encode]

theorem take_encode (frame : RelayFrame) :
    frame.encode.take relayFramePrefixLen = frame.chainId.ulid.toBytes :=
  List.take_left' (Ulid.length_toBytes _)

theorem decode_encode (frame : RelayFrame) : decode frame.encode = .ok frame := by
  have long : ¬ frame.encode.length < relayFramePrefixLen := by
    rw [length_encode, relayFramePrefixLen]
    omega
  have rest : frame.encode.drop relayFramePrefixLen = frame.wgPayload :=
    List.drop_left' (Ulid.length_toBytes _)
  rw [decode, if_neg long, take_encode, rest, Ulid.fromBytes_toBytes]

end RelayFrame

end BiBeam
