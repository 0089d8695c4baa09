import BiBeam.Cli.ClientSession
import BiBeam.Node.Forwarder

namespace BiBeam

namespace RelayFrame

variable {buf : List UInt8} {frame : RelayFrame}

theorem encode_of_decode (decoded : decode buf = .ok frame) : frame.encode = buf := by
  unfold decode at decoded
  split at decoded
  · cases decoded
  · rename_i long
    have size : (buf.take relayFramePrefixLen).length = 16 := by
      rw [List.length_take, relayFramePrefixLen] at *
      omega
    cases decoded
    rw [encode, Ulid.toBytes_fromBytes size, List.take_append_drop]

theorem decode_eq_error_iff : (∃ error, decode buf = .error error) ↔ buf.length < relayFramePrefixLen := by
  unfold decode
  split
  · rename_i short
    exact ⟨fun _ => short, fun _ => ⟨_, rfl⟩⟩
  · rename_i long
    exact ⟨fun ⟨_, failed⟩ => (nomatch failed), fun short => absurd short long⟩

theorem exists_decode (long : relayFramePrefixLen ≤ buf.length) : ∃ frame, decode buf = .ok frame := by
  cases decoded : decode buf with
  | ok frame => exact ⟨frame, rfl⟩
  | error error => exact absurd (decode_eq_error_iff.mp ⟨error, decoded⟩) (Nat.not_lt.mpr long)

end RelayFrame

/-- The forwarder and the codec read one header. -/
theorem peekChainId_eq_decode (buf : List UInt8) :
    peekChainId buf = (RelayFrame.decode buf).toOption.map (·.chainId) := by
  unfold peekChainId RelayFrame.decode
  by_cases short : buf.length < relayFramePrefixLen
  · rw [if_pos short, if_pos short]
    rfl
  · rw [if_neg short, if_neg short]
    rfl

/-- What a forwarder decides about a datagram whose chain has this row. -/
def Forwarder.judge (row : Option RoutingEntry) (src : SocketAddr) (now : Timestamp) : ForwardDecision :=
  match row with
  | none => .drop .unknownChain
  | some entry =>
    match classifyDirection src entry with
    | none => .drop .srcMismatch
    | some direction =>
      if entry.leaseExpiresAt < now then
        .drop .expiredLease
      else
        match direction with
        | .upstream => .forward entry.allowedDst direction
        | .downstream => .forward entry.allowedSrc direction

theorem Forwarder.evaluate_eq_judge {payload : List UInt8} {chainId : ChainId}
    (peeked : peekChainId payload = some chainId) (forwarder : Forwarder) (src : SocketAddr) (now : Timestamp) :
    forwarder.evaluate payload src now = judge (forwarder.routing.lookup chainId) src now := by
  unfold evaluate
  rw [peeked]
  rfl

/-- The outcome of a datagram that a session of a chain took for its own. -/
def ClientSession.TakenForOwn {E : Type} (outcome : Except (ClientSessionError E) (Option (List UInt8))) : Prop :=
  outcome ≠ .error .relayFrameTooShort ∧ outcome ≠ .error .chainIdMismatch

theorem ClientSession.surfaced_takenForOwn {E : Type} (result : TunnResult E) : TakenForOwn (surfaced result) := by
  cases result <;> exact ⟨nofun, nofun⟩

/-- A datagram of a chain: every forwarder looks it up under the chain, and a
client session of a chain takes it for its own exactly when that is this chain,
and then drives its cipher with this payload. -/
structure CarriedFor (chainId : ChainId) (wgPayload datagram : List UInt8) : Prop where
  peeked : peekChainId datagram = some chainId
  routed : ∀ (forwarder : Forwarder) (src : SocketAddr) (now : Timestamp),
    forwarder.evaluate datagram src now = Forwarder.judge (forwarder.routing.lookup chainId) src now
  taken : ∀ (S E : Type) (engine : Tunn S E) (session : ClientSession S) (own : ChainId),
    session.mode = .multiHop own → (ClientSession.TakenForOwn (session.decodeInbound engine datagram).1 ↔ own = chainId)
  deciphered : ∀ (S E : Type) (engine : Tunn S E) (session : ClientSession S), session.mode = .multiHop chainId →
    session.decodeInbound engine datagram =
      let step := engine.decapsulate session.tunnel.inner (some session.tunnel.peerAddr.ip) wgPayload
      (ClientSession.surfaced step.1, { session with tunnel := { session.tunnel with inner := step.2 } })

theorem RelayFrame.carriedFor (frame : RelayFrame) : CarriedFor frame.chainId frame.wgPayload frame.encode where
  peeked := peekChainId_encode frame
  routed := Forwarder.evaluate_eq_judge (peekChainId_encode frame)
  taken := by
    intro S E engine session own multiHop
    rw [ClientSession.decodeInbound_encode engine multiHop]
    by_cases same : frame.chainId = own
    · rw [if_pos same, ClientSession.decapsulateOwned_eq]
      exact ⟨fun _ => same.symm, fun _ => ClientSession.surfaced_takenForOwn _⟩
    · rw [if_neg same]
      exact ⟨fun taken => absurd rfl taken.2, fun other => absurd other.symm same⟩
  deciphered := by
    intro S E engine session multiHop
    rw [ClientSession.decodeInbound_encode engine multiHop, if_pos rfl, ClientSession.decapsulateOwned_eq]

theorem relayHeader_agrees :
    (∀ frame : RelayFrame, RelayFrame.decode frame.encode = .ok frame) ∧
    (∀ buf, relayFramePrefixLen ≤ buf.length → ∃ frame, RelayFrame.decode buf = .ok frame ∧ frame.encode = buf) ∧
    (∀ buf, (∃ error, RelayFrame.decode buf = .error error) ↔ buf.length < relayFramePrefixLen) ∧
    (∀ buf, peekChainId buf = (RelayFrame.decode buf).toOption.map (·.chainId)) ∧
    ∀ (S E : Type) (engine : Tunn S E) (session : ClientSession S) (chainId : ChainId) (plain datagram : List UInt8),
      session.mode = .multiHop chainId → (session.encodeOutbound engine plain).1 = .ok datagram → datagram ≠ [] →
      ∃ wgPayload, (session.encapsulateToBytes engine plain).1 = .ok wgPayload ∧
        CarriedFor chainId wgPayload datagram := by
  refine ⟨RelayFrame.decode_encode, fun buf long => ?_, fun buf => RelayFrame.decode_eq_error_iff,
    peekChainId_eq_decode, ?_⟩
  · obtain ⟨frame, decoded⟩ := RelayFrame.exists_decode long
    exact ⟨frame, decoded, RelayFrame.encode_of_decode decoded⟩
  · intro S E engine session chainId plain datagram multiHop encoded sent
    obtain ⟨wgPayload, encapsulated, framed⟩ := ClientSession.encodeOutbound_framed multiHop encoded sent
    rw [framed]
    exact ⟨wgPayload, encapsulated, RelayFrame.carriedFor ⟨chainId, wgPayload⟩⟩

end BiBeam
