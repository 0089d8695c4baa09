import Mathlib.Order.Defs.PartialOrder
import BiBeam.Protocol.Multihop
import BiBeam.Transport.WgTunnel

namespace BiBeam

inductive ClientSessionError (E : Type)
  | wireGuard (error : WgTunnelError E)
  | relayFrameTooShort
  | chainIdMismatch
deriving DecidableEq

inductive AssignmentMode
  | singleHop
  | multiHop (chainId : ChainId)
deriving DecidableEq

/-- The client's one cipher session to the exit and the way its packets take there. -/
structure ClientSession (S : Type) where
  tunnel : WgTunnel S
  nextHopAddr : SocketAddr
  mode : AssignmentMode

def encapBufferFloor (plainLen : Nat) : Nat :=
  max (plainLen + 32) 148

def wrapInRelayFrame (chainId : ChainId) (wgPayload : List UInt8) : List UInt8 :=
  (RelayFrame.mk chainId wgPayload).encode

namespace ClientSession

variable {S E : Type}

def newSingleHop (inner : S) (exitEndpoint : SocketAddr) : ClientSession S :=
  ⟨⟨inner, exitEndpoint⟩, exitEndpoint, .singleHop⟩

def newMultiHop (inner : S) (firstForwarderAddr : SocketAddr) (chainId : ChainId) : ClientSession S :=
  ⟨⟨inner, firstForwarderAddr⟩, firstForwarderAddr, .multiHop chainId⟩

def encapsulateToBytes (engine : Tunn S E) (session : ClientSession S) (plain : List UInt8) :
    Except (ClientSessionError E) (List UInt8) × ClientSession S :=
  let (written, tunnel) := session.tunnel.encapsulate engine plain (encapBufferFloor plain.length)
  (written.mapError .wireGuard, { session with tunnel })

def decapsulateOwned (engine : Tunn S E) (session : ClientSession S) (wgPayload : List UInt8) :
    Except (ClientSessionError E) (Option (List UInt8)) × ClientSession S :=
  let (outcome, tunnel) := session.tunnel.decapsulate engine wgPayload (max wgPayload.length 1)
  (outcome.mapError .wireGuard, { session with tunnel })

/-- The body of the datagram for a plaintext frame; an empty body is not sent. -/
def encodeOutbound (engine : Tunn S E) (session : ClientSession S) (plain : List UInt8) :
    Except (ClientSessionError E) (List UInt8) × ClientSession S :=
  let (encapsulated, after) := session.encapsulateToBytes engine plain
  let body := encapsulated.map fun wgPayload =>
    if wgPayload = [] then
      []
    else
      match session.mode with
      | .singleHop => wgPayload
      | .multiHop chainId => wrapInRelayFrame chainId wgPayload
  (body, after)

def decodeInbound (engine : Tunn S E) (session : ClientSession S) (udpBytes : List UInt8) :
    Except (ClientSessionError E) (Option (List UInt8)) × ClientSession S :=
  match session.mode with
  | .singleHop => session.decapsulateOwned engine udpBytes
  | .multiHop chainId =>
    match RelayFrame.decode udpBytes with
    | .error _ => (.error .relayFrameTooShort, session)
    | .ok frame =>
      if frame.chainId ≠ chainId then
        (.error .chainIdMismatch, session)
      else
        session.decapsulateOwned engine frame.wgPayload

/-- What a multi-hop session sends is what the engine wrote, framed for its chain. -/
theorem encodeOutbound_framed {engine : Tunn S E} {session : ClientSession S} {chainId : ChainId}
    {plain bytes : List UInt8} (multiHop : session.mode = .multiHop chainId)
    (encoded : (session.encodeOutbound engine plain).1 = .ok bytes) (sent : bytes ≠ []) :
    ∃ wgPayload, (session.encapsulateToBytes engine plain).1 = .ok wgPayload ∧
      bytes = (RelayFrame.mk chainId wgPayload).encode := by
  change (session.encapsulateToBytes engine plain).1.map _ = _ at encoded
  cases encapsulated : (session.encapsulateToBytes engine plain).1 with
  | error error =>
    rw [encapsulated] at encoded
    exact absurd encoded nofun
  | ok wgPayload =>
    rw [encapsulated, multiHop] at encoded
    have body : (if wgPayload = [] then [] else wrapInRelayFrame chainId wgPayload) = bytes :=
      Except.ok.inj encoded
    by_cases nothing : wgPayload = []
    · rw [if_pos nothing] at body
      exact absurd body.symm sent
    · rw [if_neg nothing] at body
      exact ⟨wgPayload, rfl, body.symm⟩

/-- A multi-hop session only sends relay frames of its chain. -/
theorem encodeOutbound_multiHop {engine : Tunn S E} {session : ClientSession S} {chainId : ChainId}
    {plain bytes : List UInt8} (multiHop : session.mode = .multiHop chainId)
    (encoded : (session.encodeOutbound engine plain).1 = .ok bytes) (sent : bytes ≠ []) :
    ∃ wgPayload, bytes = (RelayFrame.mk chainId wgPayload).encode := by
  obtain ⟨wgPayload, _, framed⟩ := encodeOutbound_framed multiHop encoded sent
  exact ⟨wgPayload, framed⟩

/-- What the engine writes to the network leaves a multi-hop session framed for its chain. -/
theorem encodeOutbound_writeToNetwork {engine : Tunn S E} {inner : S} {addr : SocketAddr} {chainId : ChainId}
    {plain wgPayload : List UInt8} (writes : (engine.encapsulate inner plain).1 = .writeToNetwork wgPayload)
    (something : wgPayload ≠ []) :
    ((newMultiHop inner addr chainId).encodeOutbound engine plain).1 =
      .ok (RelayFrame.mk chainId wgPayload).encode := by
  have roomy : ¬ encapBufferFloor plain.length < max (plain.length + 32) 148 := lt_irrefl _
  simp only [encodeOutbound, encapsulateToBytes, newMultiHop, WgTunnel.encapsulate, if_neg roomy, writes,
    Except.mapError, Except.map, if_neg something, wrapInRelayFrame]

/-- What the client's caller sees of the engine's answer to a datagram. -/
def surfaced : TunnResult E → Except (ClientSessionError E) (Option (List UInt8))
  | .done => .ok none
  | .err error => .error (.wireGuard (.wireGuard error))
  | .writeToNetwork _ => .ok none
  | .writeToTunnelV4 bytes _ => .ok (some bytes)
  | .writeToTunnelV6 bytes _ => .ok (some bytes)

/-- The engine is driven once, with the payload as it is. -/
theorem decapsulateOwned_eq (engine : Tunn S E) (session : ClientSession S) (wgPayload : List UInt8) :
    session.decapsulateOwned engine wgPayload =
      let step := engine.decapsulate session.tunnel.inner (some session.tunnel.peerAddr.ip) wgPayload
      (surfaced step.1, { session with tunnel := { session.tunnel with inner := step.2 } }) := by
  have roomy : ¬max wgPayload.length 1 < wgPayload.length := not_lt.mpr (le_max_left _ _)
  unfold decapsulateOwned WgTunnel.decapsulate
  rw [if_neg roomy]
  dsimp only
  cases (engine.decapsulate session.tunnel.inner (some session.tunnel.peerAddr.ip) wgPayload).1 <;> rfl

/-- A relay frame reaches the cipher of the session of its chain and of no other. -/
theorem decodeInbound_encode {session : ClientSession S} {chainId : ChainId} (engine : Tunn S E)
    (multiHop : session.mode = .multiHop chainId) (frame : RelayFrame) :
    session.decodeInbound engine frame.encode =
      if frame.chainId = chainId then session.decapsulateOwned engine frame.wgPayload
      else (.error .chainIdMismatch, session) := by
  rw [decodeInbound, multiHop]
  dsimp only
  rw [RelayFrame.decode_encode]
  by_cases same : frame.chainId = chainId
  · simp [same]
  · simp [same]

end ClientSession

end BiBeam
