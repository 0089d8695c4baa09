import BiBeam.Transport.WgTunnel

namespace BiBeam

/-- The bytes that the pump's receive buffer holds. -/
def wgMaxDatagram : Nat := 4096

/-- What a round of the engine produced: datagrams for the peer, and the last
plaintext frame. -/
structure DecapOutcome where
  networkWrites : List (List UInt8)
  tunnelFrame : Option (List UInt8)
deriving DecidableEq

def DecapOutcome.default : DecapOutcome :=
  ⟨[], none⟩

/-- A round of the pump: what it returns, and the datagrams it hands to the socket. -/
structure Pumped (S E : Type) where
  returned : Except (WgTunnelError E) (Option (List UInt8))
  sent : List (List UInt8 × SocketAddr)
  tunnel : WgTunnel S

/-- The collected datagrams are sent only when the round did not fail. -/
def Pumped.ofCollected {S E : Type} (peerAddr : SocketAddr) (after : WgTunnel S) :
    Except (WgTunnelError E) DecapOutcome → Pumped S E
  | .error error => ⟨.error error, [], after⟩
  | .ok outcome => ⟨.ok outcome.tunnelFrame, outcome.networkWrites.map fun chunk => (chunk, peerAddr), after⟩

namespace WgTunnel

variable {S E : Type}

def classifyStep (step : TunnResult E) (outcome : DecapOutcome) : Except (WgTunnelError E) DecapOutcome :=
  match step with
  | .done => .ok outcome
  | .writeToNetwork bytes => .ok { outcome with networkWrites := outcome.networkWrites ++ [bytes] }
  | .writeToTunnelV4 bytes _ => .ok { outcome with tunnelFrame := some bytes }
  | .writeToTunnelV6 bytes _ => .ok { outcome with tunnelFrame := some bytes }
  | .err error => .error (.wireGuard error)

def keepDraining : TunnResult E → Bool
  | .writeToNetwork _ => true
  | .writeToTunnelV4 _ _ => true
  | .writeToTunnelV6 _ _ => true
  | .done => false
  | .err _ => false

/-- The drain loop; nothing when the fuel runs out before the engine is done. -/
def drainPending (engine : Tunn S E) : Nat → S → DecapOutcome → Option (Except (WgTunnelError E) DecapOutcome × S)
  | 0, _, _ => none
  | fuel + 1, inner, outcome =>
    let (step, inner) := engine.decapsulate inner none []
    match classifyStep step outcome with
    | .error error => some (.error error, inner)
    | .ok outcome => if keepDraining step then drainPending engine fuel inner outcome else some (.ok outcome, inner)

def decapAndCollectNetwork (engine : Tunn S E) (fuel : Nat) (tunnel : WgTunnel S) (incoming : List UInt8) :
    Option (Except (WgTunnelError E) DecapOutcome × WgTunnel S) :=
  let (first, inner) := engine.decapsulate tunnel.inner (some tunnel.peerAddr.ip) incoming
  match classifyStep first .default with
  | .error error => some (.error error, { tunnel with inner })
  | .ok outcome => do
    let (drained, inner) ← drainPending engine fuel inner outcome
    some (drained, { tunnel with inner })

/-- One round on a datagram from a source, with a socket that sends what it is
given. What of the datagram the receive buffer does not hold is lost. -/
def pumpSocketToPeer (engine : Tunn S E) (fuel : Nat) (tunnel : WgTunnel S) (datagram : List UInt8)
    (src : SocketAddr) : Option (Pumped S E) :=
  let received := datagram.take wgMaxDatagram
  if src ≠ tunnel.peerAddr then
    some ⟨.ok none, [], tunnel⟩
  else do
    let (collected, after) ← tunnel.decapAndCollectNetwork engine fuel received
    some (.ofCollected tunnel.peerAddr after collected)

end WgTunnel

variable {S E : Type}

namespace TunnResult

def packets : TunnResult E → List (List UInt8)
  | .writeToNetwork bytes => [bytes]
  | _ => []

/-- The last frame surfaced after a step, by the last one before it. -/
def frameAfter (step : TunnResult E) (frame : Option (List UInt8)) : Option (List UInt8) :=
  match step with
  | .writeToTunnelV4 bytes _ => some bytes
  | .writeToTunnelV6 bytes _ => some bytes
  | _ => frame

def error? : TunnResult E → Option E
  | .err error => some error
  | _ => none

/-- A step on its own, apart from what it asks to be sent. -/
def outcome (step : TunnResult E) : Except E (Option (List UInt8)) :=
  match step.error? with
  | some error => .error error
  | none => .ok (step.frameAfter none)

end TunnResult

namespace Tunn

variable (engine : Tunn S E)

/-- Re-driven with empty datagrams until it is done or fails: the packets for
the network, and the frame surfaced last or the failure. -/
inductive DrainsTo : S → Option (List UInt8) → List (List UInt8) → Except E (Option (List UInt8)) → Prop
  | done {inner next frame} : engine.decapsulate inner none [] = (.done, next) → DrainsTo inner frame [] (.ok frame)
  | err {inner next frame error} : engine.decapsulate inner none [] = (.err error, next) →
      DrainsTo inner frame [] (.error error)
  | again {inner step next frame packets outcome} : engine.decapsulate inner none [] = (step, next) →
      WgTunnel.keepDraining step = true → DrainsTo next (step.frameAfter frame) packets outcome →
      DrainsTo inner frame (step.packets ++ packets) outcome

/-- Driven with a datagram and then until it is done or fails. -/
inductive Yields (inner : S) (src : Option IpAddr) (datagram : List UInt8) :
    List (List UInt8) → Except E (Option (List UInt8)) → Prop
  | err {next error} : engine.decapsulate inner src datagram = (.err error, next) → Yields inner src datagram [] (.error error)
  | drained {step next packets outcome} : engine.decapsulate inner src datagram = (step, next) → step.error? = none →
      DrainsTo engine next (step.frameAfter none) packets outcome →
      Yields inner src datagram (step.packets ++ packets) outcome

end Tunn

namespace WgTunnel

/-- What is collected from an engine that yields these packets and ends so. -/
def collectedOf (packets : List (List UInt8)) (outcome : Except E (Option (List UInt8))) :
    Except (WgTunnelError E) DecapOutcome :=
  match outcome with
  | .ok frame => .ok ⟨packets, frame⟩
  | .error error => .error (.wireGuard error)

variable {engine : Tunn S E} {tunnel : WgTunnel S} {inner : S} {step : TunnResult E} {frame : Option (List UInt8)}
  {packets : List (List UInt8)} {outcome : Except E (Option (List UInt8))} {datagram : List UInt8}

theorem classifyStep_of_error {error : E} (failed : step.error? = some error) (before : DecapOutcome) :
    classifyStep step before = .error (.wireGuard error) := by
  cases step <;> cases failed
  rfl

theorem classifyStep_of_none (fine : step.error? = none) (before : DecapOutcome) :
    classifyStep step before =
      .ok ⟨before.networkWrites ++ step.packets, step.frameAfter before.tunnelFrame⟩ := by
  cases step with
  | err error => cases fine
  | _ => simp [classifyStep, TunnResult.packets, TunnResult.frameAfter]

/-- The drain loop finds what the engine yields, given the fuel. -/
theorem drainPending_of_drainsTo (drains : engine.DrainsTo inner frame packets outcome) (earlier : List (List UInt8)) :
    ∃ enough, ∀ fuel ≥ enough, ∃ after, drainPending engine fuel inner ⟨earlier, frame⟩ =
      some (collectedOf (earlier ++ packets) outcome, after) := by
  induction drains generalizing earlier with
  | @done inner next frame stepped =>
    refine ⟨1, fun fuel enough => ⟨next, ?_⟩⟩
    obtain ⟨less, rfl⟩ := Nat.exists_eq_add_of_le' enough
    rw [drainPending, stepped, List.append_nil]
    rfl
  | @err inner next frame error stepped =>
    refine ⟨1, fun fuel enough => ⟨next, ?_⟩⟩
    obtain ⟨less, rfl⟩ := Nat.exists_eq_add_of_le' enough
    rw [drainPending, stepped]
    rfl
  | @again inner step next frame packets outcome stepped goesOn _ ih =>
    obtain ⟨enough, rest⟩ := ih (earlier ++ step.packets)
    refine ⟨enough + 1, fun fuel more => ?_⟩
    obtain ⟨less, rfl⟩ := Nat.exists_eq_add_of_le' (Nat.le_of_add_left_le more)
    obtain ⟨after, drained⟩ := rest less (Nat.le_of_succ_le_succ more)
    have fine : step.error? = none := by cases step <;> first | rfl | cases goesOn
    refine ⟨after, ?_⟩
    rw [drainPending, stepped]
    dsimp only
    rw [classifyStep_of_none fine]
    dsimp only
    rw [if_pos goesOn, drained, List.append_assoc]

/-- What the drain loop returns, the engine yields. -/
theorem drainsTo_of_drainPending {fuel : Nat} {earlier : List (List UInt8)}
    {result : Except (WgTunnelError E) DecapOutcome} {after : S}
    (drained : drainPending engine fuel inner ⟨earlier, frame⟩ = some (result, after)) :
    ∃ packets outcome, engine.DrainsTo inner frame packets outcome ∧ result = collectedOf (earlier ++ packets) outcome := by
  induction fuel generalizing inner frame earlier with
  | zero => cases drained
  | succ fuel ih =>
    rcases stepped : engine.decapsulate inner none [] with ⟨step, next⟩
    rw [drainPending, stepped] at drained
    dsimp only at drained
    cases failed : step.error? with
    | some error =>
      rw [classifyStep_of_error failed] at drained
      cases drained
      cases step <;> cases failed
      exact ⟨[], _, .err stepped, rfl⟩
    | none =>
      rw [classifyStep_of_none failed] at drained
      dsimp only at drained
      split at drained
      · rename_i goesOn
        obtain ⟨packets, outcome, drains, same⟩ := ih drained
        exact ⟨_, outcome, .again stepped goesOn drains, by rw [same, List.append_assoc]⟩
      · rename_i last
        cases drained
        have isDone : step = .done := by cases step <;> first | rfl | exact absurd rfl last | cases failed
        subst isDone
        exact ⟨[], _, .done stepped, rfl⟩

/-- A round of the pump is a run of the engine on what the receive buffer holds. -/
theorem pumpSocketToPeer_of_yields
    (yields : engine.Yields tunnel.inner (some tunnel.peerAddr.ip) (datagram.take wgMaxDatagram) packets outcome) :
    ∃ enough, ∀ fuel ≥ enough, ∃ after, tunnel.pumpSocketToPeer engine fuel datagram tunnel.peerAddr =
      some (.ofCollected tunnel.peerAddr after (collectedOf packets outcome)) := by
  cases yields with
  | @err next error stepped =>
    refine ⟨0, fun fuel _ => ⟨{ tunnel with inner := next }, ?_⟩⟩
    rw [pumpSocketToPeer]
    dsimp only
    rw [if_neg (not_not.mpr rfl), decapAndCollectNetwork, stepped]
    rfl
  | @drained step next packets outcome stepped fine drains =>
    obtain ⟨enough, rest⟩ := drainPending_of_drainsTo drains step.packets
    refine ⟨enough, fun fuel more => ?_⟩
    obtain ⟨after, drained⟩ := rest fuel more
    refine ⟨{ tunnel with inner := after }, ?_⟩
    rw [pumpSocketToPeer]
    dsimp only
    rw [if_neg (not_not.mpr rfl), decapAndCollectNetwork, stepped]
    dsimp only
    rw [classifyStep_of_none fine]
    dsimp only [DecapOutcome.default]
    rw [List.nil_append, drained]
    rfl

theorem yields_of_pumpSocketToPeer {fuel : Nat} {pumped : Pumped S E}
    (pump : tunnel.pumpSocketToPeer engine fuel datagram tunnel.peerAddr = some pumped) :
    ∃ packets outcome after, engine.Yields tunnel.inner (some tunnel.peerAddr.ip) (datagram.take wgMaxDatagram) packets outcome ∧
      pumped = .ofCollected tunnel.peerAddr after (collectedOf packets outcome) := by
  rw [pumpSocketToPeer] at pump
  dsimp only at pump
  rw [if_neg (not_not.mpr rfl), decapAndCollectNetwork] at pump
  rcases stepped : engine.decapsulate tunnel.inner (some tunnel.peerAddr.ip) (datagram.take wgMaxDatagram) with ⟨step, next⟩
  rw [stepped] at pump
  dsimp only at pump
  cases failed : step.error? with
  | some error =>
    rw [classifyStep_of_error failed] at pump
    cases pump
    cases step <;> cases failed
    exact ⟨[], _, _, .err stepped, rfl⟩
  | none =>
    rw [classifyStep_of_none failed] at pump
    dsimp only [DecapOutcome.default] at pump
    rw [List.nil_append] at pump
    cases drained : drainPending engine fuel next ⟨step.packets, step.frameAfter none⟩ with
    | none =>
      rw [drained] at pump
      cases pump
    | some result =>
      obtain ⟨collected, after⟩ := result
      obtain ⟨packets, outcome, drains, rfl⟩ := drainsTo_of_drainPending drained
      rw [drained] at pump
      cases pump
      exact ⟨_, outcome, _, .drained stepped failed drains, rfl⟩

end WgTunnel

end BiBeam
