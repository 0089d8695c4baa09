import BiBeam.Cli.ClientSession
import BiBeam.Transport.WgPump

namespace BiBeam

namespace ClientSession

variable {S E : Type}

/-- A WireGuard payload in the framing of the session. -/
def framed (session : ClientSession S) (wgPayload : List UInt8) : List UInt8 :=
  match session.mode with
  | .singleHop => wgPayload
  | .multiHop chainId => wrapInRelayFrame chainId wgPayload

/-- The datagram carries the payload to the session: a multi-hop session takes
relay frames of its chain, a single-hop session the payload itself. -/
def Carries (session : ClientSession S) (wgPayload datagram : List UInt8) : Prop :=
  match session.mode with
  | .singleHop => datagram = wgPayload
  | .multiHop chainId => RelayFrame.decode datagram = .ok ⟨chainId, wgPayload⟩

/-- What comes out of an inbound datagram: a plaintext frame or an error, and
packets for the network in the session's framing. -/
structure Inbound (E : Type) where
  frame : Except (ClientSessionError E) (Option (List UInt8))
  network : List (List UInt8)

/-- What the session's decoder gives its caller, who gets no packet to send. -/
def decoded (engine : Tunn S E) (session : ClientSession S) (datagram : List UInt8) : Inbound E :=
  ⟨(session.decodeInbound engine datagram).1, []⟩

def ofPump (session : ClientSession S) (pumped : Pumped S E) : Inbound E :=
  ⟨pumped.returned.mapError .wireGuard, pumped.sent.map fun sent => session.framed sent.1⟩

/-- The decoder and a round of the pump on the same payload give the same, and
the decoder neither drops a packet of the engine nor leaves one queued in it. -/
structure InboundComplete (engine : Tunn S E) (session : ClientSession S) (wgPayload datagram : List UInt8) : Prop where
  agrees : ∃ enough, ∀ fuel ≥ enough, ∃ pumped,
    session.tunnel.pumpSocketToPeer engine fuel wgPayload session.tunnel.peerAddr = some pumped ∧
      session.decoded engine datagram = session.ofPump pumped
  kept : ∀ bytes, (engine.decapsulate session.tunnel.inner (some session.tunnel.peerAddr.ip) wgPayload).1 =
    .writeToNetwork bytes → session.framed bytes ∈ (session.decoded engine datagram).network
  drained : (engine.decapsulate (session.decodeInbound engine datagram).2.tunnel.inner none []).1 = .done

/-- On what the pump's receive buffer holds of the payload the engine ends as its
first step on the whole payload does, with nothing to be sent unless it fails. -/
def EndsAlike (engine : Tunn S E) (session : ClientSession S) (wgPayload : List UInt8) : Prop :=
  let src := some session.tunnel.peerAddr.ip
  let outcome := (engine.decapsulate session.tunnel.inner src wgPayload).1.outcome
  ∃ packets, engine.Yields session.tunnel.inner src (wgPayload.take wgMaxDatagram) packets outcome ∧
    (outcome.isOk = true → packets = [])

variable {engine : Tunn S E} {session : ClientSession S} {wgPayload datagram : List UInt8}

theorem carries_encode (inner : S) (addr : SocketAddr) (frame : RelayFrame) :
    (newMultiHop inner addr frame.chainId).Carries frame.wgPayload frame.encode :=
  RelayFrame.decode_encode frame

theorem decodeInbound_carries (carries : session.Carries wgPayload datagram) :
    session.decodeInbound engine datagram = session.decapsulateOwned engine wgPayload := by
  unfold Carries at carries
  unfold decodeInbound
  cases mode : session.mode with
  | singleHop =>
    rw [mode] at carries
    rw [carries]
  | multiHop chainId =>
    rw [mode] at carries
    dsimp only at carries ⊢
    rw [carries]
    dsimp only
    rw [if_neg (not_not.mpr rfl)]

theorem decoded_carries (carries : session.Carries wgPayload datagram) :
    session.decoded engine datagram =
      ⟨surfaced (engine.decapsulate session.tunnel.inner (some session.tunnel.peerAddr.ip) wgPayload).1, []⟩ := by
  rw [decoded, decodeInbound_carries carries, decapsulateOwned_eq]

/-- The decoder's one step and a round of the pump give the same exactly when
they end alike and the round sends nothing. -/
theorem decoded_eq_ofPump_iff {first : TunnResult E} {after : WgTunnel S} {packets : List (List UInt8)}
    {outcome : Except E (Option (List UInt8))} :
    (⟨surfaced first, []⟩ : Inbound E) =
        session.ofPump (.ofCollected session.tunnel.peerAddr after (WgTunnel.collectedOf packets outcome)) ↔
      first.outcome = outcome ∧ (outcome.isOk = true → packets = []) := by
  have framed : [] = (packets.map fun chunk => (chunk, session.tunnel.peerAddr)).map (fun sent => session.framed sent.1) ↔
      packets = [] := by
    rw [eq_comm, List.map_eq_nil_iff, List.map_eq_nil_iff]
  have seen : surfaced first = first.outcome.mapError fun error => .wireGuard (.wireGuard error) := by cases first <;> rfl
  rw [seen]
  cases outcome with
  | ok frame =>
    rw [ofPump, WgTunnel.collectedOf, Pumped.ofCollected, Inbound.mk.injEq, framed]
    cases first.outcome <;> simp [Except.mapError, Except.isOk, Except.toBool]
  | error error =>
    rw [ofPump, WgTunnel.collectedOf, Pumped.ofCollected, Inbound.mk.injEq]
    cases first.outcome <;> simp [Except.mapError, Except.isOk, Except.toBool]

/-- A round of the pump gives what the decoder gives when the engine ends alike. -/
theorem agrees_iff (carries : session.Carries wgPayload datagram) :
    (∃ enough, ∀ fuel ≥ enough, ∃ pumped,
      session.tunnel.pumpSocketToPeer engine fuel wgPayload session.tunnel.peerAddr = some pumped ∧
        session.decoded engine datagram = session.ofPump pumped) ↔ session.EndsAlike engine wgPayload := by
  rw [decoded_carries carries]
  constructor
  · rintro ⟨enough, agrees⟩
    obtain ⟨pumped, pump, same⟩ := agrees enough (Nat.le_refl enough)
    obtain ⟨packets, outcome, after, yields, rfl⟩ := WgTunnel.yields_of_pumpSocketToPeer pump
    obtain ⟨rfl, nothing⟩ := decoded_eq_ofPump_iff.mp same
    exact ⟨packets, yields, nothing⟩
  · rintro ⟨packets, yields, nothing⟩
    obtain ⟨enough, round⟩ := WgTunnel.pumpSocketToPeer_of_yields yields
    refine ⟨enough, fun fuel more => ?_⟩
    obtain ⟨after, pump⟩ := round fuel more
    exact ⟨_, pump, decoded_eq_ofPump_iff.mpr ⟨rfl, nothing⟩⟩

/-- A payload that the receive buffer holds is driven into the engine by both. -/
theorem endsAlike_of_fits (fits : wgPayload.length ≤ wgMaxDatagram)
    (apart : ∀ bytes, (engine.decapsulate session.tunnel.inner (some session.tunnel.peerAddr.ip) wgPayload).1 ≠
      .writeToNetwork bytes)
    (drained : (engine.decapsulate (engine.decapsulate session.tunnel.inner (some session.tunnel.peerAddr.ip)
      wgPayload).2 none []).1 = .done) : session.EndsAlike engine wgPayload := by
  rw [EndsAlike, List.take_of_length_le fits]
  rcases stepped : engine.decapsulate session.tunnel.inner (some session.tunnel.peerAddr.ip) wgPayload with ⟨step, next⟩
  rw [stepped] at apart drained
  have rest (frame : Option (List UInt8)) : engine.DrainsTo next frame [] (.ok frame) :=
    .done (Prod.ext drained rfl)
  cases step with
  | err error => exact ⟨[], .err stepped, fun _ => rfl⟩
  | writeToNetwork bytes => exact absurd rfl (apart bytes)
  | done => exact ⟨[], .drained stepped rfl (rest none), fun _ => rfl⟩
  | writeToTunnelV4 bytes addr => exact ⟨[], .drained stepped rfl (rest (some bytes)), fun _ => rfl⟩
  | writeToTunnelV6 bytes addr => exact ⟨[], .drained stepped rfl (rest (some bytes)), fun _ => rfl⟩

/-- The decoder does what the pump does exactly when the engine's one answer is
not for the network and has nothing queued behind it, and a payload that the
pump cuts ends alike. -/
theorem inboundComplete_iff (carries : session.Carries wgPayload datagram) :
    InboundComplete engine session wgPayload datagram ↔
      let step := engine.decapsulate session.tunnel.inner (some session.tunnel.peerAddr.ip) wgPayload
      (∀ bytes, step.1 ≠ .writeToNetwork bytes) ∧ (engine.decapsulate step.2 none []).1 = .done ∧
        (wgMaxDatagram < wgPayload.length → session.EndsAlike engine wgPayload) := by
  have left : (session.decodeInbound engine datagram).2.tunnel.inner =
      (engine.decapsulate session.tunnel.inner (some session.tunnel.peerAddr.ip) wgPayload).2 := by
    rw [decodeInbound_carries carries, decapsulateOwned_eq]
  constructor
  · rintro ⟨agrees, kept, drained⟩
    rw [left] at drained
    refine ⟨fun bytes asks => ?_, drained, fun _ => (agrees_iff carries).mp agrees⟩
    have given := kept bytes asks
    rw [decoded_carries carries] at given
    exact absurd given List.not_mem_nil
  · rintro ⟨apart, drained, cut⟩
    refine ⟨(agrees_iff carries).mpr ?_, fun bytes asks => absurd asks (apart bytes), by rwa [left]⟩
    rcases Nat.lt_or_ge wgMaxDatagram wgPayload.length with long | fits
    · exact cut long
    · exact endsAlike_of_fits fits apart drained

/-- A payload that the engine takes as a whole but not when the pump has cut it
is decoded as the pump would not. -/
theorem not_inboundComplete_of_cut {error : E} {next : S} (carries : session.Carries wgPayload datagram)
    (taken : (engine.decapsulate session.tunnel.inner (some session.tunnel.peerAddr.ip) wgPayload).1.error? = none)
    (cut : engine.decapsulate session.tunnel.inner (some session.tunnel.peerAddr.ip) (wgPayload.take wgMaxDatagram) =
      (.err error, next)) : ¬ InboundComplete engine session wgPayload datagram := by
  intro complete
  obtain ⟨packets, yields, _⟩ := (agrees_iff carries).mp complete.agrees
  rw [TunnResult.outcome, taken] at yields
  cases yields with
  | drained stepped fine =>
    rw [cut] at stepped
    cases stepped
    cases fine

/-- An engine that answers handshake initiations and hands data packets up. -/
def responder : Tunn Bool Unit where
  encapsulate established _ := (.done, established)
  decapsulate
    | established, _, [] => (.done, established)
    | _, _, 1 :: _ => (.writeToNetwork (2 :: List.replicate 91 0), true)
    | true, _, 4 :: plain => (.writeToTunnelV4 plain 0, true)
    | established, _, _ => (.err (), established)

/-- A data packet of an established session is decoded as the pump would. -/
theorem inboundComplete_iff_data :
    InboundComplete responder (newMultiHop true (.v4 0 51820) ⟨7⟩) [4, 69] (RelayFrame.mk ⟨7⟩ [4, 69]).encode :=
  (inboundComplete_iff (carries_encode true (.v4 0 51820) ⟨⟨7⟩, [4, 69]⟩)).mpr ⟨nofun, rfl, fun long =>
    absurd long (by decide)⟩

/-- The answer to a handshake initiation is lost. -/
theorem initiation_unanswered :
    let initiation : List UInt8 := 1 :: List.replicate 147 0
    let session := newMultiHop false (.v4 0 51820) ⟨7⟩
    session.Carries initiation (RelayFrame.mk ⟨7⟩ initiation).encode ∧
      ¬InboundComplete responder session initiation (RelayFrame.mk ⟨7⟩ initiation).encode := by
  intro initiation session
  have carries : session.Carries initiation (RelayFrame.mk ⟨7⟩ initiation).encode :=
    carries_encode false (.v4 0 51820) ⟨⟨7⟩, initiation⟩
  refine ⟨carries, fun complete => ?_⟩
  have given := complete.kept _ rfl
  rw [decoded_carries carries] at given
  exact absurd given List.not_mem_nil

end ClientSession

end BiBeam
