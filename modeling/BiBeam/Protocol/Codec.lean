import BiBeam.Lib.Postcard
import BiBeam.Protocol.Frame

namespace BiBeam

def postcard : Postcard PostcardError where
  unexpectedEnd := .deserializeUnexpectedEnd
  badVarint := .other "DeserializeBadVarint"
  badBool := .other "DeserializeBadBool"
  badUtf8 := .other "DeserializeBadUtf8"
  serCustom := .other "SerdeSerCustom"
  deCustom := .other "SerdeDeCustom"

def uint32Wire : Wire PostcardError UInt32 :=
  (postcard.unsigned .u32).lossless (postcard.unsigned_keeps _) (fun value => .ok value.toNat)
    (fun n => .ok (UInt32.ofNat n))
    (by
      intro value n same
      cases Except.ok.inj same
      rw [UInt32.ofNat_toNat])

def port : Wire PostcardError (BitVec 16) :=
  postcard.word .u16 16

def ipv4Addr : Wire PostcardError (BitVec 32) :=
  postcard.octets 4

def ipv6Addr : Wire PostcardError (BitVec 128) :=
  postcard.octets 16

/-- Address and port travel; the flow information and the scope of a V6
socket address do not, and are read back as zero. -/
def socketAddr : Wire PostcardError SocketAddr :=
  postcard.enumeration [
    { wire := ipv4Addr.pair port
      make := fun addr => .v4 addr.1 addr.2
      take? := fun | .v4 ip port => some (ip, port) | .v6 .. => none },
    { wire := ipv6Addr.pair port
      make := fun addr => .v6 addr.1 addr.2 0 0
      take? := fun | .v6 ip port _ _ => some (ip, port) | .v4 .. => none }]

/-- The length of a prefix in one byte, no longer than the address. -/
def prefixLen (bits : Nat) (small : bits < 256) : Wire PostcardError (Fin (bits + 1)) :=
  (postcard.raw 1).lossless (fun _ => rfl) (fun length => .ok [UInt8.ofNat length])
    (fun bytes =>
      if fits : BigEndian.value bytes < bits + 1 then .ok ⟨BigEndian.value bytes, fits⟩ else .error postcard.deCustom)
    (by
      intro length bytes same
      cases Except.ok.inj same
      have bound := length.isLt
      have byte : BigEndian.value [UInt8.ofNat length] = length := by
        change 256 * 0 + (UInt8.ofNat length.val).toNat = length
        rw [UInt8.toNat_ofNat']
        omega
      simp only [byte, bound, dite_true])

def ipNet : Wire PostcardError IpNet :=
  postcard.enumeration [
    { wire := ipv4Addr.pair (prefixLen 32 (by decide))
      make := fun block => .v4 block.1 block.2
      take? := fun | .v4 addr length => some (addr, length) | .v6 .. => none },
    { wire := ipv6Addr.pair (prefixLen 128 (by decide))
      make := fun block => .v6 block.1 block.2
      take? := fun | .v6 addr length => some (addr, length) | .v4 .. => none }]

def wgPublicKey : Wire PostcardError WgPublicKey :=
  (postcard.byteArray 32).as WgPublicKey.bytes WgPublicKey.mk

def wgPeerConfig : Wire PostcardError WgPeerConfig :=
  (wgPublicKey.pair (wgPublicKey.pair (socketAddr.pair ((postcard.sequence ipNet).pair (postcard.word .u16 16))))).as
    (fun config => (config.localStaticPublic, config.peerStaticPublic, config.peerEndpoint, config.allowedIps,
      config.persistentKeepaliveSecs))
    fun (localKey, peerKey, endpoint, allowed, keepalive) => ⟨localKey, peerKey, endpoint, allowed, keepalive⟩

/-- The text forms in which the identifier and time libraries write values. -/
structure WireTexts where
  ulid : TextForm Ulid
  rfc3339 : TextForm Timestamp

/-- The text form of the Unix epoch alone. -/
def epochText : TextForm Timestamp :=
  TextForm.only 0 "1970-01-01T00:00:00Z" (by decide)

namespace WireTexts

variable (texts : WireTexts)

def ulidWire : Wire PostcardError Ulid :=
  postcard.printed texts.ulid

def peerId : Wire PostcardError PeerId :=
  texts.ulidWire.as PeerId.ulid PeerId.mk

def nodeId : Wire PostcardError NodeId :=
  texts.ulidWire.as NodeId.ulid NodeId.mk

def cohortId : Wire PostcardError CohortId :=
  texts.ulidWire.as CohortId.ulid CohortId.mk

def chainId : Wire PostcardError ChainId :=
  texts.ulidWire.as ChainId.ulid ChainId.mk

def timestamp : Wire PostcardError Timestamp :=
  postcard.printed texts.rfc3339

def forwarderLease : Wire PostcardError ForwarderLease :=
  (texts.nodeId.pair (texts.chainId.pair (socketAddr.pair (socketAddr.pair texts.timestamp)))).as
    (fun lease => (lease.forwarder, lease.chainId, lease.allowedSrc, lease.allowedDst, lease.leaseExpiresAt))
    fun (forwarder, chain, src, dst, expiry) => ⟨forwarder, chain, src, dst, expiry⟩

def exitRegions : Wire PostcardError (Table NodeId String) :=
  postcard.map texts.nodeId postcard.text fun _ => rfl

def register : Wire PostcardError Register :=
  (texts.peerId.pair (socketAddr.pair (postcard.bool.pair (uint32Wire.pair texts.timestamp)))).as
    (fun register => (register.peerId, register.addrHint, register.canExit, register.capacityHint, register.at_))
    fun (peer, addr, exits, capacity, time) => ⟨peer, addr, exits, capacity, time⟩

def registerAck : Wire PostcardError RegisterAck :=
  (postcard.byteString.pair texts.timestamp).as (fun ack => (ack.sessionToken, ack.expiresAt))
    fun (token, expiry) => ⟨token, expiry⟩

def matchRequest : Wire PostcardError MatchRequest :=
  (texts.peerId.pair texts.timestamp).as (fun request => (request.peerId, request.at_)) fun (peer, time) => ⟨peer, time⟩

def singleHopMatch : Wire PostcardError SingleHopMatch :=
  (texts.cohortId.pair ((postcard.sequence texts.nodeId).pair (texts.exitRegions.pair texts.timestamp))).as
    (fun single => (single.cohort, single.exitSet, single.exitRegions, single.rotationDeadline))
    fun (cohort, exits, regions, deadline) => ⟨cohort, exits, regions, deadline⟩

def multiHopAssignmentWire : Wire PostcardError MultiHopAssignmentWire :=
  (texts.nodeId.pair ((postcard.sequence texts.forwarderLease).pair wgPeerConfig)).as
    (fun wire => (wire.exit, wire.forwarderChain, wire.clientWgConfig)) fun (exit, chain, config) => ⟨exit, chain, config⟩

/-- Written field by field; read through the twin type, whose conversion refuses an empty chain. -/
def multiHopAssignment : Wire PostcardError MultiHopAssignment :=
  texts.multiHopAssignmentWire.through
    (fun assignment => .ok ⟨assignment.exit, assignment.forwarderChain, assignment.clientWgConfig⟩)
    fun wire => (MultiHopAssignment.tryFrom wire).mapError fun _ => postcard.deCustom

def matchResponse : Wire PostcardError MatchResponse :=
  postcard.enumeration [
    { wire := texts.singleHopMatch
      make := .singleHop
      take? := fun | .singleHop single => some single | _ => none },
    { wire := texts.multiHopAssignment
      make := .multiHopAssignment
      take? := fun | .multiHopAssignment assignment => some assignment | _ => none }]

def heartbeat : Wire PostcardError Heartbeat :=
  (texts.peerId.pair texts.timestamp).as (fun beat => (beat.peerId, beat.at_)) fun (peer, time) => ⟨peer, time⟩

def disconnect : Wire PostcardError Disconnect :=
  (texts.peerId.pair (postcard.text.pair texts.timestamp)).as (fun leave => (leave.peerId, leave.reason, leave.at_))
    fun (peer, reason, time) => ⟨peer, reason, time⟩

def controlMessage : Wire PostcardError ControlMessage :=
  postcard.enumeration [
    { wire := texts.register
      make := .register
      take? := fun | .register register => some register | _ => none },
    { wire := texts.registerAck
      make := .registerAck
      take? := fun | .registerAck ack => some ack | _ => none },
    { wire := texts.matchRequest
      make := .matchRequest
      take? := fun | .matchRequest request => some request | _ => none },
    { wire := texts.matchResponse
      make := .matchResponse
      take? := fun | .matchResponse response => some response | _ => none },
    { wire := texts.heartbeat
      make := .heartbeat
      take? := fun | .heartbeat beat => some beat | _ => none },
    { wire := texts.disconnect
      make := .disconnect
      take? := fun | .disconnect leave => some leave | _ => none }]

def tunnel : Wire PostcardError Tunnel :=
  (texts.peerId.pair postcard.byteString).as (fun tunnel => (tunnel.peerId, tunnel.payload))
    fun (peer, payload) => ⟨peer, payload⟩

def cohortAdmit : Wire PostcardError CohortAdmit :=
  (texts.cohortId.pair (texts.peerId.pair texts.timestamp)).as
    (fun admitted => (admitted.cohort, admitted.member, admitted.at_)) fun (cohort, peer, time) => ⟨cohort, peer, time⟩

def cohortLive : Wire PostcardError CohortLive :=
  (texts.cohortId.pair ((postcard.sequence texts.peerId).pair
    ((postcard.sequence texts.nodeId).pair (texts.exitRegions.pair texts.timestamp)))).as
    (fun live => (live.cohort, live.members, live.exits, live.exitRegions, live.at_))
    fun (cohort, peers, exits, regions, time) => ⟨cohort, peers, exits, regions, time⟩

def cohortRotate : Wire PostcardError CohortRotate :=
  (texts.cohortId.pair (texts.cohortId.pair texts.timestamp)).as
    (fun rotation => (rotation.old, rotation.new, rotation.at_)) fun (old, new, time) => ⟨old, new, time⟩

def cohortMessage : Wire PostcardError CohortMessage :=
  postcard.enumeration [
    { wire := texts.cohortAdmit
      make := .admit_
      take? := fun | .admit_ admitted => some admitted | _ => none },
    { wire := texts.cohortLive
      make := .live
      take? := fun | .live live => some live | _ => none },
    { wire := texts.cohortRotate
      make := .rotate
      take? := fun | .rotate rotation => some rotation | _ => none }]

def frame : Wire PostcardError Frame :=
  postcard.enumeration [
    { wire := texts.controlMessage
      make := .control
      take? := fun | .control message => some message | _ => none },
    { wire := texts.tunnel
      make := .tunnel
      take? := fun | .tunnel tunnel => some tunnel | _ => none },
    { wire := texts.cohortMessage
      make := .cohort
      take? := fun | .cohort message => some message | _ => none }]

end WireTexts

def prefixLength : Nat := magic.length + 1

def encode (texts : WireTexts) (frame : Frame) : Except PostcardError (List UInt8) := do
  let payload ← texts.frame.write frame
  return magic ++ version :: payload

/-- The bytes that the frame leaves unread are dropped. -/
def decode (texts : WireTexts) (buf : List UInt8) : Except ProtocolError Frame :=
  if buf.length < prefixLength then
    .error (.codec .deserializeUnexpectedEnd)
  else if buf.take magic.length ≠ magic then
    .error .badMagic
  else
    let got := buf.getD magic.length 0
    if got ≠ version then
      .error (.badVersion got version)
    else
      match texts.frame.read (buf.drop prefixLength) with
      | .ok (frame, _) => .ok frame
      | .error error => .error (.codec error)

end BiBeam
