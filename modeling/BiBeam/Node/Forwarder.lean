import BiBeam.Lib.Table
import BiBeam.Protocol.Multihop

namespace BiBeam

structure RoutingEntry where
  allowedSrc : SocketAddr
  allowedDst : SocketAddr
  leaseExpiresAt : Timestamp
deriving DecidableEq

def RoutingEntry.fromLease (lease : ForwarderLease) : RoutingEntry :=
  ⟨lease.allowedSrc, lease.allowedDst, lease.leaseExpiresAt⟩

inductive Direction
  | upstream
  | downstream
deriving DecidableEq

inductive DropReason
  | unknownChain
  | srcMismatch
  | expiredLease
  | other
deriving DecidableEq

inductive ForwardDecision
  | forward (target : SocketAddr) (direction : Direction)
  | drop (reason : DropReason)
deriving DecidableEq

/-- A datagram on its way to an address. -/
structure Outgoing where
  payload : List UInt8
  target : SocketAddr
deriving DecidableEq

structure Forwarder where
  routing : Table ChainId RoutingEntry

/-- Peek the first sixteen bytes as a chain id. -/
def peekChainId (payload : List UInt8) : Option ChainId :=
  if payload.length < relayFramePrefixLen then
    none
  else
    some ⟨Ulid.fromBytes (payload.take relayFramePrefixLen)⟩

def classifyDirection (src : SocketAddr) (entry : RoutingEntry) : Option Direction :=
  if src = entry.allowedSrc then
    some .upstream
  else if src = entry.allowedDst then
    some .downstream
  else
    none

/-- The swept table and the numbers of evicted and remaining rows. -/
def sweepUnderLock (routing : Table ChainId RoutingEntry) (now : Timestamp) :
    Table ChainId RoutingEntry × Nat × Nat :=
  let remaining := routing.retain fun _ entry => decide (now ≤ entry.leaseExpiresAt)
  (remaining, routing.entries.length - remaining.entries.length, remaining.entries.length)

namespace Forwarder

def bind : Forwarder :=
  ⟨∅⟩

def insertLease (forwarder : Forwarder) (lease : ForwarderLease) : Forwarder :=
  ⟨forwarder.routing.insert lease.chainId (.fromLease lease)⟩

def sweepExpired (forwarder : Forwarder) (now : Timestamp) : Nat × Forwarder :=
  let (remaining, evicted, _) := sweepUnderLock forwarder.routing now
  (evicted, ⟨remaining⟩)

def evaluate (forwarder : Forwarder) (payload : List UInt8) (src : SocketAddr) (now : Timestamp) :
    ForwardDecision :=
  match peekChainId payload with
  | none => .drop .other
  | some chainId =>
    match forwarder.routing.lookup chainId with
    | none => .drop .unknownChain
    | some entry =>
      match classifyDirection src entry with
      | none => .drop .srcMismatch
      | some direction =>
        if entry.leaseExpiresAt < now then
          .drop .expiredLease
        else
          match direction with
          | .upstream => .forward entry.allowedDst direction
          | .downstream => .forward entry.allowedSrc direction

/-- The datagram handed to the socket, if any: the received bytes as they came. -/
def actOnDecision (payload : List UInt8) : ForwardDecision → Option Outgoing
  | .forward target _ => some ⟨payload, target⟩
  | .drop _ => none

def handleInbound (forwarder : Forwarder) (payload : List UInt8) (src : SocketAddr) (now : Timestamp) :
    Option Outgoing :=
  actOnDecision payload (forwarder.evaluate payload src now)

end Forwarder

theorem peekChainId_eq_some {payload : List UInt8} {chainId : ChainId} :
    peekChainId payload = some chainId ↔
      relayFramePrefixLen ≤ payload.length ∧ payload.take relayFramePrefixLen = chainId.ulid.toBytes := by
  unfold peekChainId
  split
  · rename_i short
    constructor
    · exact fun never => nomatch never
    · exact fun long => absurd short (Nat.not_lt.mpr long.1)
  · rename_i long
    have length : (payload.take relayFramePrefixLen).length = 16 := by
      rw [List.length_take, relayFramePrefixLen] at *
      omega
    constructor
    · intro same
      rw [← Option.some.inj same]
      exact ⟨Nat.not_lt.mp long, (Ulid.toBytes_fromBytes length).symm⟩
    · rintro ⟨_, prefixed⟩
      rw [prefixed, Ulid.fromBytes_toBytes]

theorem peekChainId_encode (frame : RelayFrame) : peekChainId frame.encode = some frame.chainId := by
  have length := frame.length_encode
  refine peekChainId_eq_some.mpr ⟨?_, frame.take_encode⟩
  rw [relayFramePrefixLen]
  omega

/-- The endpoint of a row across from a source. -/
def RoutingEntry.otherEnd (entry : RoutingEntry) (src : SocketAddr) : SocketAddr :=
  if src = entry.allowedSrc then entry.allowedDst else entry.allowedSrc

namespace Forwarder

theorem evaluate_forward_iff {forwarder : Forwarder} {payload : List UInt8} {src target : SocketAddr}
    {now : Timestamp} :
    (∃ direction, forwarder.evaluate payload src now = .forward target direction) ↔
      ∃ chainId entry, peekChainId payload = some chainId ∧ forwarder.routing.lookup chainId = some entry ∧
        now ≤ entry.leaseExpiresAt ∧ (src = entry.allowedSrc ∨ src = entry.allowedDst) ∧
        target = entry.otherEnd src := by
  unfold evaluate
  cases peeked : peekChainId payload with
  | none => simp
  | some chainId =>
    dsimp only
    cases atChain : forwarder.routing.lookup chainId with
    | none => simp [atChain]
    | some entry =>
      have alone (goal : RoutingEntry → Prop) : (∃ chain row, some chainId = some chain ∧
          forwarder.routing.lookup chain = some row ∧ goal row) ↔ goal entry := by
        constructor
        · rintro ⟨chain, row, same, atRow, holds⟩
          cases same
          rw [atChain] at atRow
          cases atRow
          exact holds
        · exact fun holds => ⟨chainId, entry, rfl, atChain, holds⟩
      rw [alone fun row => now ≤ row.leaseExpiresAt ∧ (src = row.allowedSrc ∨ src = row.allowedDst) ∧
        target = row.otherEnd src]
      unfold classifyDirection RoutingEntry.otherEnd
      dsimp only
      by_cases expired : entry.leaseExpiresAt < now
      · have late : ¬ now ≤ entry.leaseExpiresAt := not_le.mpr expired
        by_cases isSrc : src = entry.allowedSrc
        · simp [isSrc, expired, late]
        · by_cases isDst : src = entry.allowedDst
          · rw [isDst] at isSrc ⊢
            simp [isSrc, expired, late]
          · simp [isSrc, isDst]
      · have fresh : now ≤ entry.leaseExpiresAt := not_lt.mp expired
        by_cases isSrc : src = entry.allowedSrc
        · simpa [isSrc, expired, fresh] using eq_comm
        · by_cases isDst : src = entry.allowedDst
          · rw [isDst] at isSrc ⊢
            simpa [isSrc, expired, fresh] using eq_comm
          · simp [isSrc, isDst]

/-- A forwarder sends the received bytes, to the other end of its unexpired
row for the datagram's chain, and sends nothing else. -/
theorem handleInbound_iff {forwarder : Forwarder} {payload : List UInt8} {src : SocketAddr} {now : Timestamp}
    {outgoing : Outgoing} :
    forwarder.handleInbound payload src now = some outgoing ↔
      outgoing.payload = payload ∧
      ∃ chainId entry, peekChainId payload = some chainId ∧ forwarder.routing.lookup chainId = some entry ∧
        now ≤ entry.leaseExpiresAt ∧ (src = entry.allowedSrc ∨ src = entry.allowedDst) ∧
        outgoing.target = entry.otherEnd src := by
  rw [← evaluate_forward_iff, handleInbound]
  cases decision : forwarder.evaluate payload src now with
  | forward target direction =>
    obtain ⟨bytes, address⟩ := outgoing
    simp only [actOnDecision, Option.some.injEq, Outgoing.mk.injEq, ForwardDecision.forward.injEq]
    constructor
    · rintro ⟨rfl, rfl⟩
      exact ⟨rfl, direction, rfl, rfl⟩
    · rintro ⟨rfl, _, rfl, _⟩
      exact ⟨rfl, rfl⟩
  | drop reason => simp [actOnDecision]

end Forwarder

end BiBeam
