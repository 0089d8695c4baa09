import BiBeam.Coordinator.Registry
import BiBeam.Crypto.WgKeys
import BiBeam.Protocol.CodecRoundTrip

namespace BiBeam

/-- The address as its wire form holds it, without flow information and scope. -/
def SocketAddr.unscoped : SocketAddr → SocketAddr
  | .v4 ip port => .v4 ip port
  | .v6 ip port _ _ => .v6 ip port 0 0

theorem socketAddr_back_unscoped (addr : SocketAddr) : socketAddr.back addr = .ok addr.unscoped := by
  cases addr <;> rfl

theorem SocketAddr.unscoped_eq_iff (addr : SocketAddr) : addr.unscoped = addr ↔ addr.Plain := by
  rw [← socketAddr_keeps_iff, Wire.Keeps, socketAddr_back_unscoped, Except.ok.injEq]

namespace WireTexts

variable (texts : WireTexts) (base64 : Base64)

def wgPublicKeyOption : Wire PostcardError (Option WgPublicKey) :=
  postcard.option (.other "DeserializeBadOption") (postcard.printed (WgPublicKey.wgText base64))

def peerRecord : Wire PostcardError PeerRecord :=
  (texts.peerId.pair (socketAddr.pair (postcard.bool.pair (uint32Wire.pair (texts.timestamp.pair
    (postcard.text.pair (texts.timestamp.pair (wgPublicKeyOption base64)))))))).as
    (fun record => (record.peerId, record.addrHint, record.canExit, record.capacityHint, record.lastSeen,
      record.region, record.regionLastVerifiedAt, record.wgPublicKey))
    fun (peer, addr, exits, capacity, seen, region, verified, key) =>
      ⟨peer, addr, exits, capacity, seen, region, verified, key⟩

/-- A record comes back without the scope of its address hint. -/
theorem peerRecord_back (record : PeerRecord) : (texts.peerRecord base64).back record =
    .ok { record with addrHint := record.addrHint.unscoped } := by
  have printed (key : WgPublicKey) : (postcard.printed (WgPublicKey.wgText base64)).Keeps key := rfl
  have key : (wgPublicKeyOption base64).back record.wgPublicKey = .ok record.wgPublicKey :=
    postcard.option_keeps printed record.wgPublicKey
  exact Wire.as_back (Wire.pair_back rfl (Wire.pair_back (socketAddr_back_unscoped record.addrHint)
    (Wire.pair_back rfl (Wire.pair_back rfl (Wire.pair_back rfl (Wire.pair_back rfl (Wire.pair_back rfl key)))))))

/-- A written record is not empty. -/
theorem peerRecord_ne_nil {record : PeerRecord} {bytes : List UInt8}
    (written : (texts.peerRecord base64).write record = .ok bytes) : bytes ≠ [] := by
  rintro rfl
  have back := (texts.peerRecord base64).returns written []
  rw [peerRecord_back] at back
  have nothing : (texts.peerRecord base64).read [] = .error .deserializeUnexpectedEnd := rfl
  rw [List.append_nil, nothing] at back
  cases back

end WireTexts

end BiBeam
