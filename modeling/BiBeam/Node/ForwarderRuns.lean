import Mathlib.Data.List.Induction
import BiBeam.Node.Forwarder

namespace BiBeam

/-- What happens at a forwarder, each event at its own time. -/
inductive ForwarderEvent
  | insertLease (lease : ForwarderLease)
  | sweepExpired (now : Timestamp)
  | datagram (payload : List UInt8) (src : SocketAddr) (now : Timestamp)

namespace ForwarderEvent

def time? : ForwarderEvent → Option Timestamp
  | insertLease _ => none
  | sweepExpired now => some now
  | datagram _ _ now => some now

/-- The lease an event inserts for a chain. -/
def leaseFor? (chainId : ChainId) : ForwarderEvent → Option ForwarderLease
  | insertLease lease => if lease.chainId = chainId then some lease else none
  | sweepExpired _ => none
  | datagram _ _ _ => none

def isInsert : ForwarderEvent → Bool
  | insertLease _ => true
  | sweepExpired _ => false
  | datagram _ _ _ => false

/-- Anything but a lease of another chain. -/
def spares (chainId : ChainId) : ForwarderEvent → Bool
  | insertLease lease => decide (lease.chainId = chainId)
  | sweepExpired _ => true
  | datagram _ _ _ => true

theorem isInsert_of_leaseFor {chainId : ChainId} {lease : ForwarderLease} {event : ForwarderEvent}
    (inserts : event.leaseFor? chainId = some lease) : event.isInsert = true := by
  cases event with
  | insertLease => rfl
  | sweepExpired => exact absurd inserts nofun
  | datagram => exact absurd inserts nofun

theorem spares_of_leaseFor {chainId : ChainId} {lease : ForwarderLease} {event : ForwarderEvent}
    (inserts : event.leaseFor? chainId = some lease) : event.spares chainId = true := by
  cases event with
  | insertLease inserted =>
    by_cases same : inserted.chainId = chainId
    · exact decide_eq_true same
    · rw [leaseFor?, if_neg same] at inserts
      exact absurd inserts nofun
  | sweepExpired => rfl
  | datagram => rfl

end ForwarderEvent

/-- The times of the events do not decrease. -/
def TimesOrdered (events : List ForwarderEvent) : Prop :=
  (events.filterMap ForwarderEvent.time?).Pairwise (· ≤ ·)

/-- The most recent lease inserted for a chain. -/
def latestLease (chainId : ChainId) (events : List ForwarderEvent) : Option ForwarderLease :=
  (events.filterMap (ForwarderEvent.leaseFor? chainId)).getLast?

/-- Where a datagram must go according to the leases inserted so far. -/
def RoutedTo (events : List ForwarderEvent) (payload : List UInt8) (src : SocketAddr) (now : Timestamp)
    (target : SocketAddr) : Prop :=
  ∃ chainId lease, relayFramePrefixLen ≤ payload.length ∧
    payload.take relayFramePrefixLen = chainId.ulid.toBytes ∧ latestLease chainId events = some lease ∧
    now ≤ lease.leaseExpiresAt ∧ (src = lease.allowedSrc ∨ src = lease.allowedDst) ∧
    target = if src = lease.allowedSrc then lease.allowedDst else lease.allowedSrc

/-- Events that insert no lease for the chain can be left out. -/
theorem latestLease_filter {chainId : ChainId} {keep : ForwarderEvent → Bool} {events : List ForwarderEvent}
    (kept : ∀ event lease, event.leaseFor? chainId = some lease → keep event = true) :
    latestLease chainId (events.filter keep) = latestLease chainId events := by
  rw [latestLease, List.filterMap_filter, latestLease]
  refine congrArg List.getLast? (List.filterMap_congr fun event _ => ?_)
  cases inserts : event.leaseFor? chainId with
  | none => exact ite_self none
  | some lease => exact if_pos (kept event lease inserts)

theorem TimesOrdered.past {events : List ForwarderEvent} {payload : List UInt8} {src : SocketAddr}
    {now : Timestamp} (ordered : TimesOrdered (events ++ [.datagram payload src now])) :
    ∀ time ∈ events.filterMap ForwarderEvent.time?, time ≤ now := by
  rw [TimesOrdered, List.filterMap_append] at ordered
  intro time member
  exact (List.pairwise_append.mp ordered).2.2 time member now (List.mem_singleton_self now)

namespace Forwarder

def step (forwarder : Forwarder) : ForwarderEvent → Forwarder
  | .insertLease lease => forwarder.insertLease lease
  | .sweepExpired now => (forwarder.sweepExpired now).2
  | .datagram _ _ _ => forwarder

def run (events : List ForwarderEvent) : Forwarder :=
  events.foldl step bind

theorem run_append (events : List ForwarderEvent) (event : ForwarderEvent) :
    run (events ++ [event]) = (run events).step event := by
  rw [run, List.foldl_append, List.foldl_cons, List.foldl_nil]
  rfl

theorem latestLease_append (chainId : ChainId) (events : List ForwarderEvent) (event : ForwarderEvent) :
    latestLease chainId (events ++ [event]) = (event.leaseFor? chainId).or (latestLease chainId events) := by
  rw [latestLease, List.filterMap_append, List.getLast?_append]
  have single : ([event].filterMap (ForwarderEvent.leaseFor? chainId)).getLast? = event.leaseFor? chainId := by
    cases inserts : event.leaseFor? chainId <;> simp [inserts]
  rw [single]
  rfl

/-- Up to rows that have expired by `now`, the routing table holds the most
recent lease of every chain, whatever was swept before `now`. -/
theorem run_lookup (events : List ForwarderEvent) (now : Timestamp)
    (past : ∀ time ∈ events.filterMap ForwarderEvent.time?, time ≤ now) (chainId : ChainId) :
    ((run events).routing.lookup chainId).filter (fun entry => decide (now ≤ entry.leaseExpiresAt)) =
      ((latestLease chainId events).map RoutingEntry.fromLease).filter
        fun entry => decide (now ≤ entry.leaseExpiresAt) := by
  induction events using List.reverseRecOn with
  | nil => rfl
  | append_singleton events event ih =>
    rw [List.filterMap_append] at past
    have before := ih fun time member => past time (List.mem_append_left _ member)
    rw [run_append, latestLease_append]
    cases event with
    | insertLease lease =>
      by_cases same : lease.chainId = chainId
      · have inserted : ((run events).step (.insertLease lease)).routing.lookup chainId =
            some (.fromLease lease) := by
          rw [← same]
          exact AList.lookup_insert _
        rw [inserted, ForwarderEvent.leaseFor?, if_pos same]
        rfl
      · have other : ((run events).step (.insertLease lease)).routing.lookup chainId =
            (run events).routing.lookup chainId := AList.lookup_insert_ne (Ne.symm same)
        rw [other, ForwarderEvent.leaseFor?, if_neg same]
        exact before
    | sweepExpired time =>
      have earlier : time ≤ now := past time (List.mem_append_right _ (List.mem_singleton_self _))
      have swept : ((run events).step (.sweepExpired time)).routing.lookup chainId =
          ((run events).routing.lookup chainId).filter fun entry => decide (time ≤ entry.leaseExpiresAt) :=
        AList.lookup_retain ..
      rw [swept, ForwarderEvent.leaseFor?, Option.none_or, ← before, Option.filter_filter]
      refine congrArg (Option.filter · _) (funext fun entry => ?_)
      by_cases fresh : now ≤ entry.leaseExpiresAt
      · simp [fresh, earlier.trans fresh]
      · simp [fresh]
    | datagram => exact before

/-- A run's forwarder sends a datagram on exactly to where the leases route it. -/
theorem run_handleInbound (events : List ForwarderEvent) (payload : List UInt8) (src : SocketAddr)
    (now : Timestamp) (past : ∀ time ∈ events.filterMap ForwarderEvent.time?, time ≤ now) (outgoing : Outgoing) :
    (run events).handleInbound payload src now = some outgoing ↔
      outgoing.payload = payload ∧ RoutedTo events payload src now outgoing.target := by
  rw [handleInbound_iff]
  refine and_congr_right fun _ => ?_
  constructor
  · rintro ⟨chainId, entry, peeked, atChain, fresh, isEnd, toEnd⟩
    obtain ⟨long, prefixed⟩ := peekChainId_eq_some.mp peeked
    have row := run_lookup events now past chainId
    rw [atChain, Option.filter_some, if_pos (decide_eq_true fresh), eq_comm, Option.filter_eq_some_iff,
      Option.map_eq_some_iff] at row
    obtain ⟨⟨lease, latest, rfl⟩, _⟩ := row
    exact ⟨chainId, lease, long, prefixed, latest, fresh, isEnd, toEnd⟩
  · rintro ⟨chainId, lease, long, prefixed, latest, fresh, isEnd, toEnd⟩
    have row := run_lookup events now past chainId
    have kept : decide (now ≤ (RoutingEntry.fromLease lease).leaseExpiresAt) = true := decide_eq_true fresh
    rw [latest, Option.map_some, Option.filter_some, if_pos kept, Option.filter_eq_some_iff] at row
    exact ⟨chainId, .fromLease lease, peekChainId_eq_some.mpr ⟨long, prefixed⟩, row.1, fresh, isEnd, toEnd⟩

/-- Two runs send a datagram on alike if they hold the same latest lease for its chain. -/
theorem run_handleInbound_congr {events others : List ForwarderEvent} {payload : List UInt8} {src : SocketAddr}
    {now : Timestamp} (past : ∀ time ∈ events.filterMap ForwarderEvent.time?, time ≤ now)
    (otherPast : ∀ time ∈ others.filterMap ForwarderEvent.time?, time ≤ now)
    (same : ∀ chainId, peekChainId payload = some chainId → latestLease chainId others = latestLease chainId events) :
    (run others).handleInbound payload src now = (run events).handleInbound payload src now := by
  apply Option.ext
  intro outgoing
  rw [run_handleInbound others payload src now otherPast, run_handleInbound events payload src now past]
  refine and_congr_right fun _ => ?_
  refine exists_congr fun chainId => exists_congr fun lease => and_congr_right fun long =>
    and_congr_right fun prefixed => ?_
  rw [same chainId (peekChainId_eq_some.mpr ⟨long, prefixed⟩)]

/-- Routing safety: a forwarder sends each datagram on exactly as the latest
leases route it; sweeps in the past and leases of other chains change nothing. -/
theorem run_routes (events : List ForwarderEvent) (payload : List UInt8) (src : SocketAddr) (now : Timestamp)
    (ordered : TimesOrdered (events ++ [.datagram payload src now])) :
    (∀ outgoing, (run events).handleInbound payload src now = some outgoing ↔
      outgoing.payload = payload ∧ RoutedTo events payload src now outgoing.target) ∧
    (∀ others : List ForwarderEvent, (∀ time ∈ others.filterMap ForwarderEvent.time?, time ≤ now) →
      others.filter ForwarderEvent.isInsert = events.filter ForwarderEvent.isInsert →
      (run others).handleInbound payload src now = (run events).handleInbound payload src now) ∧
    ∀ chainId, peekChainId payload = some chainId →
      (run (events.filter (ForwarderEvent.spares chainId))).handleInbound payload src now =
        (run events).handleInbound payload src now := by
  have past := ordered.past
  refine ⟨run_handleInbound events payload src now past, ?_, ?_⟩
  · intro others otherPast sameInserts
    refine run_handleInbound_congr past otherPast fun chainId _ => ?_
    have kept : ∀ (event : ForwarderEvent) (lease : ForwarderLease),
        event.leaseFor? chainId = some lease → event.isInsert = true :=
      fun _ _ => ForwarderEvent.isInsert_of_leaseFor
    calc latestLease chainId others
      _ = latestLease chainId (others.filter ForwarderEvent.isInsert) := (latestLease_filter kept).symm
      _ = latestLease chainId (events.filter ForwarderEvent.isInsert) := by rw [sameInserts]
      _ = latestLease chainId events := latestLease_filter kept
  · intro chainId peeked
    have fewer : ∀ time ∈ (events.filter (ForwarderEvent.spares chainId)).filterMap ForwarderEvent.time?,
        time ≤ now :=
      fun time member => past time ((List.filter_sublist.filterMap _).subset member)
    refine run_handleInbound_congr past fewer fun other otherPeeked => ?_
    have sameChain : chainId = other := Option.some.inj (peeked.symm.trans otherPeeked)
    rw [← sameChain]
    exact latestLease_filter fun _ _ => ForwarderEvent.spares_of_leaseFor

/-- A renewed lease, a sweep between and a lease of another chain. -/
theorem run_routes_renewed :
    let chain : ChainId := ⟨1⟩
    let near : SocketAddr := .v4 10 1
    let far : SocketAddr := .v4 11 1
    let events : List ForwarderEvent :=
      [.insertLease ⟨⟨7⟩, chain, near, near, 5⟩, .insertLease ⟨⟨7⟩, chain, near, far, 9⟩,
        .sweepExpired 6, .insertLease ⟨⟨7⟩, ⟨2⟩, far, far, 5⟩]
    TimesOrdered (events ++ [.datagram chain.ulid.toBytes near 9]) ∧
      (run events).handleInbound chain.ulid.toBytes near 9 = some ⟨chain.ulid.toBytes, far⟩ := by
  intro chain near far events
  have ordered : TimesOrdered (events ++ [.datagram chain.ulid.toBytes near 9]) := by
    change List.Pairwise (· ≤ ·) [6, 9]
    decide
  refine ⟨ordered, ((run_routes events _ _ _ ordered).1 _).mpr ⟨rfl, ?_⟩⟩
  exact ⟨chain, ⟨⟨7⟩, chain, near, far, 9⟩, by decide, by decide, by decide, by decide, by decide, by decide⟩

end Forwarder

end BiBeam
