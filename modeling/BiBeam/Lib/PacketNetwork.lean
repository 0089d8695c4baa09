import BiBeam.Lib.Reach

universe u v

namespace PacketNetwork

variable {A : Type u} {P : Type v}

/-- A packet on its way from one bound address to another. -/
structure Datagram (A : Type u) (P : Type v) where
  payload : P
  src : A
  dst : A

/-- A socket that answers a payload and its source with at most one packet of its own. -/
structure Station (A : Type u) (P : Type v) where
  addr : A
  relay : P → A → Option (P × A)

/-- A station at the destination takes the datagram in and sends the next one out. -/
inductive Relayed (net : List (Station A P)) : Datagram A P → A → Datagram A P → Prop
  | via {station : Station A P} {payload sent : P} {src target : A} : station ∈ net →
      station.relay payload src = some (sent, target) →
      Relayed net ⟨payload, src, station.addr⟩ station.addr ⟨sent, station.addr, target⟩

/-- A datagram travels through stations at the given addresses, in that order. -/
def Travels (net : List (Station A P)) : Datagram A P → List A → Datagram A P → Prop :=
  Reach (Relayed net)

variable {net : List (Station A P)}

theorem Relayed.mono {larger : List (Station A P)} (within : ∀ station ∈ net, station ∈ larger)
    {before after : Datagram A P} {addr : A} (relayed : Relayed net before addr after) :
    Relayed larger before addr after := by
  cases relayed with
  | via member sent => exact .via (within _ member) sent

theorem Travels.mono {larger : List (Station A P)} (within : ∀ station ∈ net, station ∈ larger)
    {sent arrived : Datagram A P} {addrs : List A} (travels : Travels net sent addrs arrived) :
    Travels larger sent addrs arrived :=
  Reach.mono travels fun _ _ _ relayed => relayed.mono within

/-- Where no station rewrites payloads, the payload that was sent arrives, and
every station on the way accepts it. -/
theorem Travels.unchanged
    (verbatim : ∀ station ∈ net, ∀ payload src sent target,
      station.relay payload src = some (sent, target) → sent = payload)
    {sent arrived : Datagram A P} {addrs : List A} (travels : Travels net sent addrs arrived) :
    arrived.payload = sent.payload ∧
      ∀ addr ∈ addrs, ∃ station ∈ net, station.addr = addr ∧ ∃ src, station.relay sent.payload src ≠ none := by
  refine Reach.invariant (I := fun datagram => datagram.payload = sent.payload) travels rfl ?_
  intro before addr after carried relayed
  cases relayed with
  | @via station payload forwarded src target member relays =>
    have same : payload = sent.payload := carried
    refine ⟨(verbatim station member _ _ _ _ relays).trans same, station, member, rfl, src, ?_⟩
    rw [← same, relays]
    exact Option.some_ne_none _

end PacketNetwork
