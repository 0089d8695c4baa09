import BiBeam.Lib.PacketNetwork
import BiBeam.Cli.ClientSession
import BiBeam.Coordinator.Multihop
import BiBeam.Node.Forwarder

namespace BiBeam

open PacketNetwork MultiHopBuilder

/-- A forwarder bound at an address, at one reading of its clock. -/
def Forwarder.station (forwarder : Forwarder) (addr : SocketAddr) (now : Timestamp) :
    Station SocketAddr (List UInt8) where
  addr := addr
  relay payload src := (forwarder.handleInbound payload src now).map fun outgoing => (outgoing.payload, outgoing.target)

theorem Forwarder.station_relay_iff {forwarder : Forwarder} {addr src target : SocketAddr} {now : Timestamp}
    {payload sent : List UInt8} :
    (forwarder.station addr now).relay payload src = some (sent, target) ↔
      forwarder.handleInbound payload src now = some ⟨sent, target⟩ := by
  simp only [station, Option.map_eq_some_iff, Prod.mk.injEq]
  constructor
  · rintro ⟨outgoing, handled, rfl, rfl⟩
    exact handled
  · exact fun handled => ⟨_, handled, rfl, rfl⟩

/-- The forwarders of a chain, each with its own lease added to its table. -/
def leasedStations (tables : ForwarderCandidate → Forwarder) (clock : ForwarderCandidate → Timestamp)
    (forwarders : List ForwarderCandidate) (leases : List ForwarderLease) : List (Station SocketAddr (List UInt8)) :=
  List.zipWith (fun forwarder lease => ((tables forwarder).insertLease lease).station forwarder.addr (clock forwarder))
    forwarders leases

/-- Everything the client's session sends reaches the exit through the whole
chain, and every reply in the framing that arrived comes back to the client. -/
def DeliversBothWays (net : List (Station SocketAddr (List UInt8))) (client : ClientHandle)
    (forwarders : List ForwarderCandidate) (exit : ExitCandidate) (assignment : MultiHopAssignment) : Prop :=
  ∀ first, assignment.forwarderChain.head? = some first →
  ∀ (S E : Type) (engine : Tunn S E) (inner : S) (plain body : List UInt8),
    let session := ClientSession.newMultiHop inner assignment.clientWgConfig.peerEndpoint first.chainId
    (session.encodeOutbound engine plain).1 = .ok body → body ≠ [] →
    ∃ arrived, Travels net ⟨body, client.addr, session.nextHopAddr⟩ (forwarders.map (·.addr)) arrived ∧
      arrived.payload = body ∧ arrived.dst = exit.addr ∧
      ∀ frame reply, RelayFrame.decode arrived.payload = .ok frame →
        ∃ returned, Travels net ⟨(RelayFrame.mk frame.chainId reply).encode, exit.addr, arrived.src⟩
            (forwarders.map (·.addr)).reverse returned ∧
          returned.payload = (RelayFrame.mk frame.chainId reply).encode ∧ returned.dst = client.addr

section Chain

variable {tables : ForwarderCandidate → Forwarder} {clock : ForwarderCandidate → Timestamp}
  {mint : Nat → ChainId} {exitAddr : SocketAddr} {expires : Timestamp}

/-- A station with a fresh lease for the frame's chain relays between its two ends. -/
theorem Forwarder.leased_relays (forwarder : Forwarder) {lease : ForwarderLease} {frame : RelayFrame}
    {addr src : SocketAddr} {now : Timestamp} (sameChain : lease.chainId = frame.chainId)
    (fresh : now ≤ lease.leaseExpiresAt) (isEnd : src = lease.allowedSrc ∨ src = lease.allowedDst) :
    ((forwarder.insertLease lease).station addr now).relay frame.encode src =
      some (frame.encode, (RoutingEntry.fromLease lease).otherEnd src) := by
  have row : (forwarder.insertLease lease).routing.lookup frame.chainId = some (.fromLease lease) := by
    rw [← sameChain]
    exact AList.lookup_insert _
  exact station_relay_iff.mpr (handleInbound_iff.mpr
    ⟨rfl, frame.chainId, .fromLease lease, peekChainId_encode frame, row, fresh, isEnd, rfl⟩)

theorem getLast_elim_cons (forwarder : ForwarderCandidate) (rest : List ForwarderCandidate) (upstream : SocketAddr) :
    (forwarder :: rest).getLast?.elim upstream (·.addr) = rest.getLast?.elim forwarder.addr (·.addr) := by
  cases rest with
  | nil => rfl
  | cons next others =>
    rw [List.getLast?_cons_cons, List.getLast?_eq_some_getLast (List.cons_ne_nil next others)]
    rfl

theorem sameChain_rest {chainId : ChainId} {index : Nat} {forwarder : ForwarderCandidate}
    {rest : List ForwarderCandidate} (sameChain : ∀ step < (forwarder :: rest).length, mint (index + step) = chainId) :
    ∀ step < rest.length, mint (index + 1 + step) = chainId := by
  intro step within
  have later := sameChain (step + 1) (Nat.succ_lt_succ within)
  rwa [← Nat.add_assoc, Nat.add_right_comm] at later

variable (tables exitAddr) in
/-- The first forwarder of a chain relays between the client's side and the next hop. -/
theorem relayed_by_first (frame : RelayFrame) (forwarder : ForwarderCandidate) (rest : List ForwarderCandidate)
    (index : Nat) (upstream src : SocketAddr) (minted : mint index = frame.chainId)
    (early : clock forwarder ≤ expires)
    (isEnd : src = upstream ∨ src = rest.head?.elim exitAddr (·.addr)) :
    Relayed (leasedStations tables clock (forwarder :: rest)
        (leasesFrom mint exitAddr expires index upstream (forwarder :: rest)))
      ⟨frame.encode, src, forwarder.addr⟩ forwarder.addr
      ⟨frame.encode, forwarder.addr, if src = upstream then rest.head?.elim exitAddr (·.addr) else upstream⟩ := by
  let lease : ForwarderLease :=
    ⟨forwarder.nodeId, mint index, upstream, rest.head?.elim exitAddr (·.addr), expires⟩
  have relays : (((tables forwarder).insertLease lease).station forwarder.addr (clock forwarder)).relay
      frame.encode src = some (frame.encode, (RoutingEntry.fromLease lease).otherEnd src) :=
    (tables forwarder).leased_relays minted early isEnd
  exact .via List.mem_cons_self relays

/-- Upstream to downstream, by induction along the chain. -/
theorem travels_outward (frame : RelayFrame) (forwarders : List ForwarderCandidate) :
    ∀ (index : Nat) (upstream : SocketAddr),
    (∀ step < forwarders.length, mint (index + step) = frame.chainId) →
    (∀ forwarder ∈ forwarders, clock forwarder ≤ expires) →
    Travels (leasedStations tables clock forwarders (leasesFrom mint exitAddr expires index upstream forwarders))
      ⟨frame.encode, upstream, forwarders.head?.elim exitAddr (·.addr)⟩ (forwarders.map (·.addr))
      ⟨frame.encode, forwarders.getLast?.elim upstream (·.addr), exitAddr⟩ := by
  induction forwarders with
  | nil => exact fun _ _ _ _ => .start
  | cons forwarder rest ih =>
    intro index upstream sameChain early
    have onward := ih (index + 1) forwarder.addr (sameChain_rest sameChain)
      fun other member => early other (List.mem_cons_of_mem _ member)
    have hop := relayed_by_first tables exitAddr frame forwarder rest index upstream upstream
      (sameChain 0 (Nat.succ_pos _)) (early forwarder List.mem_cons_self) (Or.inl rfl)
    rw [if_pos rfl] at hop
    rw [getLast_elim_cons]
    exact (Reach.single hop).trans (onward.mono fun _ member => List.mem_cons_of_mem _ member)

/-- Downstream to upstream; a row whose ends differ sends what came from one
end to the other. -/
theorem travels_homeward (frame : RelayFrame) (forwarders : List ForwarderCandidate) :
    ∀ (index : Nat) (upstream : SocketAddr),
    (∀ step < forwarders.length, mint (index + step) = frame.chainId) →
    (∀ forwarder ∈ forwarders, clock forwarder ≤ expires) →
    (upstream :: (forwarders.map (·.addr) ++ [exitAddr])).Nodup →
    Travels (leasedStations tables clock forwarders (leasesFrom mint exitAddr expires index upstream forwarders))
      ⟨frame.encode, exitAddr, forwarders.getLast?.elim upstream (·.addr)⟩ (forwarders.map (·.addr)).reverse
      ⟨frame.encode, forwarders.head?.elim exitAddr (·.addr), upstream⟩ := by
  induction forwarders with
  | nil => exact fun _ _ _ _ _ => .start
  | cons forwarder rest ih =>
    intro index upstream sameChain early distinct
    obtain ⟨apart, distinctRest⟩ := List.nodup_cons.mp distinct
    have onward := ih (index + 1) forwarder.addr (sameChain_rest sameChain)
      (fun other member => early other (List.mem_cons_of_mem _ member)) distinctRest
    have nextMember : rest.head?.elim exitAddr (·.addr) ∈ rest.map (·.addr) ++ [exitAddr] := by
      cases rest <;> simp
    have nextApart : rest.head?.elim exitAddr (·.addr) ≠ upstream := by
      intro same
      rw [same] at nextMember
      exact apart (List.mem_cons_of_mem _ nextMember)
    have hop := relayed_by_first tables exitAddr frame forwarder rest index upstream _
      (sameChain 0 (Nat.succ_pos _)) (early forwarder List.mem_cons_self) (Or.inr rfl)
    rw [if_neg nextApart] at hop
    rw [getLast_elim_cons, List.map_cons, List.reverse_cons]
    exact (onward.mono fun _ member => List.mem_cons_of_mem _ member).trans (Reach.single hop)

/-- Each station on the chain is some forwarder with the lease minted for its place. -/
theorem mem_leasedStations {station : Station SocketAddr (List UInt8)} (forwarders : List ForwarderCandidate) :
    ∀ (index : Nat) (upstream : SocketAddr),
    station ∈ leasedStations tables clock forwarders (leasesFrom mint exitAddr expires index upstream forwarders) →
    ∃ place, ∃ within : place < forwarders.length, ∃ lease : ForwarderLease,
      lease.chainId = mint (index + place) ∧
      station = ((tables forwarders[place]).insertLease lease).station forwarders[place].addr
        (clock forwarders[place]) := by
  induction forwarders with
  | nil => exact fun _ _ member => absurd member List.not_mem_nil
  | cons forwarder rest ih =>
    intro index upstream member
    rcases List.mem_cons.mp member with here | there
    · exact ⟨0, Nat.succ_pos _, _, rfl, here⟩
    · obtain ⟨place, within, lease, minted, same⟩ := ih (index + 1) forwarder.addr there
      refine ⟨place + 1, Nat.succ_lt_succ within, lease, ?_, same⟩
      rw [minted, Nat.add_right_comm, Nat.add_assoc]

/-- A frame that went through the whole chain carries the id of every lease on it. -/
theorem sameChain_of_travels {forwarders : List ForwarderCandidate} {upstream src dst : SocketAddr}
    {frame : RelayFrame} {arrived : Datagram SocketAddr (List UInt8)}
    (unused : ∀ forwarder ∈ forwarders, (tables forwarder).routing.lookup frame.chainId = none)
    (distinct : (forwarders.map (·.addr)).Nodup)
    (travels : Travels (leasedStations tables clock forwarders
      (leasesFrom mint exitAddr expires 0 upstream forwarders)) ⟨frame.encode, src, dst⟩
      (forwarders.map (·.addr)) arrived) :
    ∀ place < forwarders.length, mint place = frame.chainId := by
  intro place within
  have verbatim : ∀ station ∈ leasedStations tables clock forwarders
      (leasesFrom mint exitAddr expires 0 upstream forwarders), ∀ payload src forwarded target,
      station.relay payload src = some (forwarded, target) → forwarded = payload := by
    intro station member payload src forwarded target relays
    obtain ⟨_, _, _, _, rfl⟩ := mem_leasedStations forwarders 0 upstream member
    exact (Forwarder.handleInbound_iff.mp (Forwarder.station_relay_iff.mp relays)).1
  have onPath : forwarders[place].addr ∈ forwarders.map (·.addr) :=
    List.mem_map_of_mem (List.getElem_mem within)
  obtain ⟨station, member, atAddr, src, accepts⟩ := (travels.unchanged verbatim).2 _ onPath
  obtain ⟨other, otherWithin, lease, minted, rfl⟩ := mem_leasedStations forwarders 0 upstream member
  -- addresses are distinct, so the station is the one at this place
  have samePlace : other = place := by
    have otherBound : other < (forwarders.map (·.addr)).length := by rwa [List.length_map]
    have placeBound : place < (forwarders.map (·.addr)).length := by rwa [List.length_map]
    have sameAddr : (forwarders.map (·.addr))[other] = (forwarders.map (·.addr))[place] := by
      rw [List.getElem_map, List.getElem_map]
      exact atAddr
    exact distinct.getElem_inj_iff.mp sameAddr
  subst samePlace
  obtain ⟨⟨forwarded, target⟩, relays⟩ := Option.ne_none_iff_exists'.mp accepts
  obtain ⟨_, chainId, entry, peeked, row, _⟩ :=
    Forwarder.handleInbound_iff.mp (Forwarder.station_relay_iff.mp relays)
  rw [peekChainId_encode] at peeked
  cases peeked
  by_contra otherChain
  have foreign : frame.chainId ≠ lease.chainId := by
    rw [minted, Nat.zero_add]
    exact Ne.symm otherChain
  have kept : ((tables forwarders[other]).insertLease lease).routing.lookup frame.chainId =
      (tables forwarders[other]).routing.lookup frame.chainId := AList.lookup_insert_ne foreign
  rw [kept, unused _ (List.getElem_mem _)] at row
  exact absurd row nofun

end Chain

section Assignment

variable {now : Timestamp} {mint : Nat → ChainId} {client : ClientHandle} {forwarders : List ForwarderCandidate}
  {exit : ExitCandidate} {tables : ForwarderCandidate → Forwarder} {clock : ForwarderCandidate → Timestamp}

theorem delivers_of_sameChain (distinct : (client.addr :: (forwarders.map (·.addr) ++ [exit.addr])).Nodup)
    (early : ∀ forwarder ∈ forwarders, clock forwarder ≤ leaseDeadlineNow now)
    (sameChain : ∀ place < forwarders.length, mint place = mint 0) :
    DeliversBothWays (leasedStations tables clock forwarders (buildMultiHop now mint client forwarders exit).forwarderChain)
      client forwarders exit (buildMultiHop now mint client forwarders exit) := by
  intro first atHead S E engine inner plain body session encoded sent
  have keyed : first.chainId = mint 0 := by
    cases forwarders with
    | nil => exact absurd atHead nofun
    | cons forwarder rest =>
      cases atHead
      rfl
  have multiHop : session.mode = .multiHop first.chainId := rfl
  obtain ⟨wgPayload, framed⟩ := ClientSession.encodeOutbound_multiHop multiHop encoded sent
  rw [framed]
  have minted : ∀ place < forwarders.length, mint (0 + place) = first.chainId := by
    intro place within
    rw [Nat.zero_add, sameChain place within, keyed]
  let frame : RelayFrame := ⟨first.chainId, wgPayload⟩
  refine ⟨_, travels_outward frame forwarders 0 client.addr minted early, rfl, rfl, ?_⟩
  intro received reply decoded
  have sameFrame : frame = received := Except.ok.inj ((RelayFrame.decode_encode frame).symm.trans decoded)
  rw [← sameFrame]
  exact ⟨_, travels_homeward ⟨first.chainId, reply⟩ forwarders 0 client.addr minted early distinct, rfl, rfl⟩

theorem sameChain_of_delivers (nonempty : forwarders ≠ []) (distinct : (forwarders.map (·.addr)).Nodup)
    (unused : ∀ forwarder ∈ forwarders, (tables forwarder).routing.lookup (mint 0) = none)
    (delivers : DeliversBothWays
      (leasedStations tables clock forwarders (buildMultiHop now mint client forwarders exit).forwarderChain)
      client forwarders exit (buildMultiHop now mint client forwarders exit)) :
    ∀ place < forwarders.length, mint place = mint 0 := by
  obtain ⟨forwarder, rest, rfl⟩ := List.exists_cons_of_ne_nil nonempty
  -- any engine that puts something on the wire shows where a frame can go
  let engine : Tunn Unit Unit := ⟨fun _ _ => (.writeToNetwork [0], ()), fun _ _ _ => (.done, ())⟩
  have encoded : ((ClientSession.newMultiHop () forwarder.addr (mint 0)).encodeOutbound engine []).1 =
      .ok (RelayFrame.mk (mint 0) [0]).encode :=
    ClientSession.encodeOutbound_writeToNetwork rfl (List.cons_ne_nil 0 [])
  obtain ⟨frame, keyed, same⟩ : ∃ frame : RelayFrame, frame.chainId = mint 0 ∧ RelayFrame.mk (mint 0) [0] = frame :=
    ⟨⟨mint 0, [0]⟩, rfl, rfl⟩
  rw [same] at encoded
  have framed : frame.encode ≠ [] := by
    rw [← List.length_pos_iff, RelayFrame.length_encode]
    omega
  have carried := delivers _ rfl Unit Unit engine () [] frame.encode encoded framed
  rw [← keyed] at unused ⊢
  exact carried.elim fun _ arrives => sameChain_of_travels unused distinct arrives.1

end Assignment

/-- The chain of an assignment delivers both ways exactly when one chain id
was minted for all its leases; ids that do not repeat leave only the chains
of one forwarder. -/
theorem buildMultiHop_delivers_iff (now : Timestamp) (mint : Nat → ChainId) (client : ClientHandle)
    (forwarders : List ForwarderCandidate) (exit : ExitCandidate) (tables : ForwarderCandidate → Forwarder)
    (clock : ForwarderCandidate → Timestamp) (nonempty : forwarders ≠ [])
    (distinct : (client.addr :: (forwarders.map (·.addr) ++ [exit.addr])).Nodup)
    (unused : ∀ forwarder ∈ forwarders, (tables forwarder).routing.lookup (mint 0) = none)
    (early : ∀ forwarder ∈ forwarders, clock forwarder ≤ leaseDeadlineNow now) :
    let assignment := buildMultiHop now mint client forwarders exit
    let net := leasedStations tables clock forwarders assignment.forwarderChain
    (DeliversBothWays net client forwarders exit assignment ↔ ∀ place < forwarders.length, mint place = mint 0) ∧
    ((∀ place < forwarders.length, ∀ other < forwarders.length, mint place = mint other → place = other) →
      (DeliversBothWays net client forwarders exit assignment ↔ forwarders.length = 1)) := by
  intro assignment net
  have whole : DeliversBothWays net client forwarders exit assignment ↔
      ∀ place < forwarders.length, mint place = mint 0 := by
    have middle : (forwarders.map (·.addr)).Nodup := (List.nodup_append.mp (List.nodup_cons.mp distinct).2).1
    exact ⟨sameChain_of_delivers nonempty middle unused, delivers_of_sameChain distinct early⟩
  have positive : 0 < forwarders.length := List.length_pos_iff.mpr nonempty
  refine ⟨whole, fun fresh => whole.trans ⟨fun sameChain => ?_, fun single place within => ?_⟩⟩
  · by_contra several
    have second : 1 < forwarders.length := by omega
    have repeated := fresh 1 second 0 positive (sameChain 1 second)
    omega
  · have first : place = 0 := by omega
    rw [first]

theorem buildMultiHop_delivers_iff_oneForwarder :
    let client : ClientHandle := ⟨⟨.replicate 32 1⟩, .v4 1 51820⟩
    let exit : ExitCandidate := ⟨⟨2⟩, ⟨.replicate 32 2⟩, .v4 2 51820, 30⟩
    let forwarder : ForwarderCandidate := ⟨⟨3⟩, .v4 3 51820, 30⟩
    let assignment := buildMultiHop 0 (fun index => ⟨.ofNat 128 index⟩) client [forwarder] exit
    DeliversBothWays (leasedStations (fun _ => .bind) (fun _ => 5) [forwarder] assignment.forwarderChain)
      client [forwarder] exit assignment := by
  intro client exit forwarder assignment
  refine (buildMultiHop_delivers_iff 0 _ client [forwarder] exit (fun _ => .bind) (fun _ => 5)
    (List.cons_ne_nil _ _) (by decide) (fun _ _ => rfl) (by decide)).1.mpr ?_
  intro place within
  have first : place = 0 := by simpa using within
  rw [first]

/-- Two forwarders: the second knows no row for the id the client frames with. -/
theorem twoForwarders_undelivered :
    let client : ClientHandle := ⟨⟨.replicate 32 1⟩, .v4 1 51820⟩
    let exit : ExitCandidate := ⟨⟨2⟩, ⟨.replicate 32 2⟩, .v4 2 51820, 30⟩
    let forwarders : List ForwarderCandidate := [⟨⟨3⟩, .v4 3 51820, 30⟩, ⟨⟨4⟩, .v4 4 51820, 30⟩]
    let assignment := buildMultiHop 0 (fun index => ⟨.ofNat 128 index⟩) client forwarders exit
    (client.addr :: (forwarders.map (·.addr) ++ [exit.addr])).Nodup ∧
      ¬ DeliversBothWays (leasedStations (fun _ => .bind) (fun _ => 5) forwarders assignment.forwarderChain)
        client forwarders exit assignment := by
  intro client exit forwarders assignment
  refine ⟨by decide, fun delivers => ?_⟩
  have sameChain := sameChain_of_delivers (List.cons_ne_nil _ _) (by decide) (fun _ _ => rfl) delivers 1 (by decide)
  exact absurd sameChain (by decide)

end BiBeam
