import BiBeam.Coordinator.Multihop

namespace BiBeam

namespace MultiHopBuilder

/-- The sockets that a packet passes through, the client's first and the exit's last. -/
def route (clientAddr : SocketAddr) (forwarders : List ForwarderCandidate) (exitAddr : SocketAddr) :
    List SocketAddr :=
  clientAddr :: (forwarders.map ForwarderCandidate.addr ++ [exitAddr])

/-- A chain of leases, one for each forwarder, that takes a packet from the
client's socket to the exit's. -/
structure LeaseChain (clientAddr : SocketAddr) (forwarders : List ForwarderCandidate) (exitAddr : SocketAddr)
    (leaseExpiresAt : Timestamp) (leases : List ForwarderLease) : Prop where
  length : leases.length = forwarders.length
  holder : ∀ i (inside : i < forwarders.length), leases[i].forwarder = forwarders[i].nodeId
  expiry : ∀ i (inside : i < forwarders.length), leases[i].leaseExpiresAt = leaseExpiresAt
  first : ∀ inside : 0 < forwarders.length, leases[0].allowedSrc = clientAddr
  last : ∀ inside : 0 < forwarders.length, leases[forwarders.length - 1].allowedDst = exitAddr
  downstream : ∀ i (inside : i + 1 < forwarders.length), leases[i].allowedDst = forwarders[i + 1].addr
  upstream : ∀ i (inside : i + 1 < forwarders.length), leases[i + 1].allowedSrc = forwarders[i].addr

section

variable {mint : Nat → ChainId} {exitAddr : SocketAddr} {leaseExpiresAt : Timestamp}

theorem length_leasesFrom (index : Nat) (upstream : SocketAddr) (forwarders : List ForwarderCandidate) :
    (leasesFrom mint exitAddr leaseExpiresAt index upstream forwarders).length = forwarders.length := by
  induction forwarders generalizing index upstream with
  | nil => rfl
  | cons forwarder rest ih => rw [leasesFrom, List.length_cons, List.length_cons, ih]

theorem route_next (upstream : SocketAddr) (forwarder : ForwarderCandidate) (rest : List ForwarderCandidate) :
    (route upstream (forwarder :: rest) exitAddr)[2]? =
      some (rest.head?.elim exitAddr ForwarderCandidate.addr) := by
  cases rest with
  | nil => rfl
  | cons next more => rfl

theorem route_forwarder {clientAddr : SocketAddr} {forwarders : List ForwarderCandidate} {i : Nat}
    (inside : i < forwarders.length) :
    (route clientAddr forwarders exitAddr)[i + 1]? = some forwarders[i].addr := by
  have before : i < (forwarders.map ForwarderCandidate.addr).length := by rwa [List.length_map]
  rw [route, List.getElem?_cons_succ, List.getElem?_append_left before, List.getElem?_map,
    List.getElem?_eq_getElem inside, Option.map_some]

theorem route_exit {clientAddr : SocketAddr} {forwarders : List ForwarderCandidate} :
    (route clientAddr forwarders exitAddr)[forwarders.length + 1]? = some exitAddr := by
  have past : (forwarders.map ForwarderCandidate.addr).length ≤ forwarders.length := by rw [List.length_map]
  rw [route, List.getElem?_cons_succ, List.getElem?_append_right past, List.length_map, Nat.sub_self]
  rfl

/-- The invariant of the loop: what it pushes at step `i` leads from hop `i` of
the route over its own forwarder to hop `i + 2`. -/
theorem leasesFrom_spans {index : Nat} {upstream : SocketAddr} {forwarders : List ForwarderCandidate}
    {i : Nat} {lease : ForwarderLease}
    (pushed : (leasesFrom mint exitAddr leaseExpiresAt index upstream forwarders)[i]? = some lease) :
    forwarders[i]?.map ForwarderCandidate.nodeId = some lease.forwarder ∧
      (route upstream forwarders exitAddr)[i]? = some lease.allowedSrc ∧
      (route upstream forwarders exitAddr)[i + 2]? = some lease.allowedDst ∧
      lease.leaseExpiresAt = leaseExpiresAt := by
  induction forwarders generalizing index upstream i with
  | nil => cases pushed
  | cons forwarder rest ih =>
    cases i with
    | zero =>
      cases pushed
      exact ⟨rfl, rfl, route_next upstream forwarder rest, rfl⟩
    | succ i => exact ih pushed

theorem buildLeaseChain_leaseChain (clientAddr : SocketAddr) (forwarders : List ForwarderCandidate) :
    LeaseChain clientAddr forwarders exitAddr leaseExpiresAt
      (buildLeaseChain mint clientAddr forwarders exitAddr leaseExpiresAt) := by
  have length : (buildLeaseChain mint clientAddr forwarders exitAddr leaseExpiresAt).length =
      forwarders.length := length_leasesFrom 0 clientAddr forwarders
  have spans (i : Nat) (inside : i < forwarders.length) :=
    leasesFrom_spans (List.getElem?_eq_getElem (length.symm ▸ inside))
  constructor
  case length => exact length
  case holder =>
    intro i inside
    obtain ⟨holder, _, _, _⟩ := spans i inside
    rw [List.getElem?_eq_getElem inside] at holder
    exact (Option.some.inj holder).symm
  case expiry =>
    intro i inside
    exact (spans i inside).2.2.2
  case first =>
    intro inside
    obtain ⟨_, source, _, _⟩ := spans 0 inside
    exact (Option.some.inj source).symm
  case last =>
    intro inside
    obtain ⟨_, _, destination, _⟩ := spans (forwarders.length - 1) (by omega)
    have place : forwarders.length - 1 + 2 = forwarders.length + 1 := by omega
    rw [place, route_exit] at destination
    exact (Option.some.inj destination).symm
  case downstream =>
    intro i inside
    obtain ⟨_, _, destination, _⟩ := spans i (by omega)
    rw [route_forwarder inside] at destination
    exact (Option.some.inj destination).symm
  case upstream =>
    intro i inside
    obtain ⟨_, source, _, _⟩ := spans (i + 1) inside
    rw [route_forwarder (by omega)] at source
    exact (Option.some.inj source).symm

/-- The leases of an assignment take a packet from the client over every
forwarder in turn to the exit, and the client starts it at the first one. -/
theorem buildMultiHop_leaseChain (now : Timestamp) (mint : Nat → ChainId) (client : ClientHandle)
    (first : ForwarderCandidate) (rest : List ForwarderCandidate) (exit : ExitCandidate) :
    LeaseChain client.addr (first :: rest) exit.addr (leaseDeadlineNow now)
        (buildMultiHop now mint client (first :: rest) exit).forwarderChain ∧
      (buildMultiHop now mint client (first :: rest) exit).clientWgConfig.peerEndpoint = first.addr :=
  ⟨buildLeaseChain_leaseChain client.addr (first :: rest), rfl⟩

end

end MultiHopBuilder

end BiBeam
