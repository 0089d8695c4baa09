import BiBeam.Tun.Flow

namespace BiBeam

/-- The extension headers that stand between an IP header and its transport. -/
inductive ExtensionKind
  | hopByHop
  | routing
  | fragment
  | authentication
  | destinationOptions
deriving DecidableEq

def ExtensionKind.number : ExtensionKind → UInt8
  | .hopByHop => 0
  | .routing => 43
  | .fragment => 44
  | .authentication => 51
  | .destinationOptions => 60

/-- An extension header and the protocol number it gives for what follows it. -/
structure ExtensionHeader where
  kind : ExtensionKind
  nextHeader : UInt8
deriving DecidableEq

inductive NetHeaders
  | ipv4 (source destination : BitVec 32) (protocol : UInt8) (exts : List ExtensionHeader)
  | ipv6 (source destination : BitVec 128) (nextHeader : UInt8) (exts : List ExtensionHeader)
  | arp
deriving DecidableEq

inductive TransportHeader
  | tcp (sourcePort destinationPort : UInt16)
  | udp (sourcePort destinationPort : UInt16)
  | icmpv4
  | icmpv6
deriving DecidableEq

/-- What the IP slicer makes of a packet. -/
structure PacketHeaders where
  net : Option NetHeaders
  transport : Option TransportHeader
  payload : List UInt8
deriving DecidableEq

inductive ParseError (E : Type)
  | slice (error : E)
  | tooShort
  | notIp
deriving DecidableEq

structure ParsedPacket where
  src : IpAddr
  dst : IpAddr
  proto : UInt8
  srcPort : Option UInt16
  dstPort : Option UInt16
  payload : List UInt8
deriving DecidableEq

/-- Source, destination and protocol number of the network header. -/
def NetHeaders.endpoints : NetHeaders → Option (IpAddr × IpAddr × UInt8)
  | .ipv4 source destination protocol _ => some (.v4 source, .v4 destination, protocol)
  | .ipv6 source destination nextHeader _ => some (.v6 source, .v6 destination, nextHeader)
  | .arp => none

def NetHeaders.extensions : NetHeaders → List ExtensionHeader
  | .ipv4 _ _ _ exts => exts
  | .ipv6 _ _ _ exts => exts
  | .arp => []

def PacketHeaders.ports (headers : PacketHeaders) : Option UInt16 × Option UInt16 :=
  match headers.transport with
  | some (.tcp sourcePort destinationPort) => (some sourcePort, some destinationPort)
  | some (.udp sourcePort destinationPort) => (some sourcePort, some destinationPort)
  | some .icmpv4 => (none, none)
  | some .icmpv6 => (none, none)
  | none => (none, none)

variable {E : Type}

def parse (fromIpSlice : List UInt8 → Except E PacketHeaders) (buf : List UInt8) :
    Except (ParseError E) ParsedPacket :=
  if buf = [] then
    .error .tooShort
  else
    match fromIpSlice buf with
    | .error error => .error (.slice error)
    | .ok headers =>
      match headers.net with
      | none => .error .notIp
      | some net =>
        match net.endpoints with
        | none => .error .notIp
        | some (src, dst, proto) =>
          let (srcPort, dstPort) := headers.ports
          .ok ⟨src, dst, proto, srcPort, dstPort, headers.payload⟩

/-- The protocol number of a transport header. -/
def TransportHeader.number : TransportHeader → UInt8
  | .tcp _ _ => 6
  | .udp _ _ => 17
  | .icmpv4 => 1
  | .icmpv6 => 58

/-- The numbers of a packet's headers follow one another: each extension header
is what the number before it announces, and the last number is left. -/
def Walks : UInt8 → List ExtensionHeader → UInt8 → Prop
  | base, [], last => base = last
  | base, ext :: rest, last => base = ext.kind.number ∧ Walks ext.nextHeader rest last

/-- The slicer walks the extension headers to the transport header, and keeps
the number of the base header. -/
def WalksExtensions (fromIpSlice : List UInt8 → Except E PacketHeaders) : Prop :=
  ∀ buf headers net src dst proto, fromIpSlice buf = .ok headers → headers.net = some net →
    net.endpoints = some (src, dst, proto) → ∃ last, Walks proto net.extensions last ∧
      ∀ transport, headers.transport = some transport → transport.number = last

/-- The flow of a packet by its own fields. -/
def ParsedPacket.flowKey (packet : ParsedPacket) : Option FlowKey := do
  let srcPort ← packet.srcPort
  let dstPort ← packet.dstPort
  some ⟨packet.proto, packet.src, srcPort, packet.dst, dstPort⟩

/-- The flow a transport header belongs to, whatever stands in front of it. -/
def TransportHeader.flowKey (src dst : IpAddr) : TransportHeader → Option FlowKey
  | .tcp sourcePort destinationPort => some ⟨6, src, sourcePort, dst, destinationPort⟩
  | .udp sourcePort destinationPort => some ⟨17, src, sourcePort, dst, destinationPort⟩
  | .icmpv4 => none
  | .icmpv6 => none

/-- The protocol number of a packet goes with its transport header. -/
structure ProtocolAgrees (headers : PacketHeaders) (packet : ParsedPacket) : Prop where
  srcPort : packet.srcPort.isSome ↔ (packet.proto = 6 ∨ packet.proto = 17) ∧ headers.transport.isSome
  dstPort : packet.dstPort.isSome ↔ (packet.proto = 6 ∨ packet.proto = 17) ∧ headers.transport.isSome
  flow : packet.flowKey = headers.transport.bind (TransportHeader.flowKey packet.src packet.dst)

/-- An extension header stands in front of a transport header with ports. -/
def PacketHeaders.PortsBehindExtensions (headers : PacketHeaders) : Prop :=
  headers.ports.1.isSome ∧ ∃ net, headers.net = some net ∧ net.extensions ≠ []

variable {fromIpSlice : List UInt8 → Except E PacketHeaders} {buf : List UInt8} {headers : PacketHeaders}
  {packet : ParsedPacket}

/-- An accepted packet is read off the headers. -/
theorem parse_ok (sliced : fromIpSlice buf = .ok headers) (parsed : parse fromIpSlice buf = .ok packet) :
    ∃ net src dst proto, headers.net = some net ∧ net.endpoints = some (src, dst, proto) ∧
      packet = ⟨src, dst, proto, headers.ports.1, headers.ports.2, headers.payload⟩ := by
  unfold parse at parsed
  rw [sliced] at parsed
  by_cases empty : buf = []
  · rw [if_pos empty] at parsed
    cases parsed
  rw [if_neg empty] at parsed
  dsimp only at parsed
  cases net : headers.net with
  | none =>
    rw [net] at parsed
    cases parsed
  | some net' =>
    rw [net] at parsed
    dsimp only at parsed
    cases ends : net'.endpoints with
    | none =>
      rw [ends] at parsed
      cases parsed
    | some ends' =>
      obtain ⟨src, dst, proto⟩ := ends'
      rw [ends] at parsed
      exact ⟨net', src, dst, proto, rfl, ends, (Except.ok.inj parsed).symm⟩

theorem ExtensionKind.number_ne (kind : ExtensionKind) : kind.number ≠ 6 ∧ kind.number ≠ 17 := by
  cases kind <;> decide

section Accepted

variable {src dst : IpAddr} {proto : UInt8}

/-- The number of the transport header itself goes with it. -/
theorem ProtocolAgrees.of_number (same : ∀ transport, headers.transport = some transport → transport.number = proto) :
    ProtocolAgrees headers ⟨src, dst, proto, headers.ports.1, headers.ports.2, headers.payload⟩ := by
  cases atTransport : headers.transport with
  | none => constructor <;> simp [PacketHeaders.ports, atTransport, ParsedPacket.flowKey]
  | some transport =>
    have number := same transport atTransport
    subst number
    cases transport <;> constructor <;>
      simp [PacketHeaders.ports, atTransport, ParsedPacket.flowKey, TransportHeader.flowKey, TransportHeader.number]

/-- So does any other number, in front of a transport header without ports. -/
theorem ProtocolAgrees.of_portless (apart : proto ≠ 6 ∧ proto ≠ 17) (portless : ¬headers.ports.1.isSome) :
    ProtocolAgrees headers ⟨src, dst, proto, headers.ports.1, headers.ports.2, headers.payload⟩ := by
  cases atTransport : headers.transport with
  | none => constructor <;> simp [PacketHeaders.ports, atTransport, ParsedPacket.flowKey]
  | some transport =>
    rw [PacketHeaders.ports, atTransport] at portless
    cases transport with
    | tcp sourcePort destinationPort => exact absurd rfl portless
    | udp sourcePort destinationPort => exact absurd rfl portless
    | icmpv4 =>
      constructor <;> simp [PacketHeaders.ports, atTransport, ParsedPacket.flowKey, TransportHeader.flowKey, apart]
    | icmpv6 =>
      constructor <;> simp [PacketHeaders.ports, atTransport, ParsedPacket.flowKey, TransportHeader.flowKey, apart]

end Accepted

/-- A packet behind extension headers takes its number from the first of them. -/
theorem WalksExtensions.proto_ne (walks : WalksExtensions fromIpSlice) {net : NetHeaders} {src dst : IpAddr}
    {proto : UInt8} (sliced : fromIpSlice buf = .ok headers) (atNet : headers.net = some net)
    (ends : net.endpoints = some (src, dst, proto)) (extended : net.extensions ≠ []) : proto ≠ 6 ∧ proto ≠ 17 := by
  obtain ⟨last, walk, _⟩ := walks buf headers net src dst proto sliced atNet ends
  cases exts : net.extensions with
  | nil => exact absurd exts extended
  | cons ext rest =>
    rw [exts] at walk
    rw [walk.1]
    exact ext.kind.number_ne

theorem ProtocolAgrees.not_behind (walks : WalksExtensions fromIpSlice) (sliced : fromIpSlice buf = .ok headers)
    (parsed : parse fromIpSlice buf = .ok packet) (agrees : ProtocolAgrees headers packet) :
    ¬headers.PortsBehindExtensions := by
  rintro ⟨ported, net, atNet, extended⟩
  obtain ⟨net', src, dst, proto, atNet', ends, rfl⟩ := parse_ok sliced parsed
  cases Option.some.inj (atNet.symm.trans atNet')
  have apart := walks.proto_ne sliced atNet ends extended
  obtain ⟨known, _⟩ := agrees.srcPort.mp ported
  exact known.elim apart.1 apart.2

/-- The number of an accepted packet goes with its transport header exactly
when no extension header stands in front of a transport header with ports. -/
theorem parse_protocolAgrees_iff (walks : WalksExtensions fromIpSlice) (sliced : fromIpSlice buf = .ok headers)
    (parsed : parse fromIpSlice buf = .ok packet) :
    ProtocolAgrees headers packet ↔ ¬headers.PortsBehindExtensions := by
  refine ⟨fun agrees => agrees.not_behind walks sliced parsed, fun apart => ?_⟩
  obtain ⟨net, src, dst, proto, atNet, ends, rfl⟩ := parse_ok sliced parsed
  by_cases direct : net.extensions = []
  · obtain ⟨last, walk, announced⟩ := walks buf headers net src dst proto sliced atNet ends
    rw [direct] at walk
    have same : proto = last := walk
    exact .of_number fun transport atTransport => (announced transport atTransport).trans same.symm
  · exact .of_portless (walks.proto_ne sliced atNet ends direct) fun ported => apart ⟨ported, net, atNet, direct⟩

/-- A slicer that knows one packet. -/
def slices (bytes : List UInt8) (headers : PacketHeaders) (buf : List UInt8) : Except Unit PacketHeaders :=
  if buf = bytes then .ok headers else .error ()

theorem slices_walks (bytes : List UInt8) {net : NetHeaders} {src dst : IpAddr} {proto : UInt8}
    (transport : TransportHeader) (payload : List UInt8) (ends : net.endpoints = some (src, dst, proto))
    (walk : Walks proto net.extensions transport.number) :
    WalksExtensions (slices bytes ⟨some net, some transport, payload⟩) := by
  intro buf headers net' src' dst' proto' sliced atNet ends'
  unfold slices at sliced
  split at sliced
  · cases sliced
    cases atNet
    cases ends.symm.trans ends'
    exact ⟨transport.number, walk, fun other same => by rw [Option.some.inj same]⟩
  · cases sliced

/-- An IPv6 packet from `::1` to `::2`. -/
def ipv6Packet (nextHeader : UInt8) (rest : List UInt8) : List UInt8 :=
  [0x60, 0, 0, 0, 0, UInt8.ofNat rest.length, nextHeader, 64] ++
    (BigEndian.bytes 16 1 ++ (BigEndian.bytes 16 2 ++ rest))

theorem parse_protocolAgrees_iff_udp :
    let packet := ipv6Packet 17 [0x1F, 0x90, 0, 53, 0, 8, 0, 0]
    let headers : PacketHeaders := ⟨some (.ipv6 1 2 17 []), some (.udp 8080 53), []⟩
    let parsed : ParsedPacket := ⟨.v6 1, .v6 2, 17, some 8080, some 53, []⟩
    parse (slices packet headers) packet = .ok parsed ∧ ProtocolAgrees headers parsed := by
  intro packet headers parsed
  have walks : WalksExtensions (slices packet headers) := slices_walks packet (.udp 8080 53) [] rfl rfl
  have sliced : slices packet headers packet = .ok headers := if_pos rfl
  refine ⟨rfl, (parse_protocolAgrees_iff walks sliced rfl).mpr ?_⟩
  rintro ⟨_, net, atNet, extended⟩
  cases atNet
  exact extended rfl

/-- A TCP segment behind a hop-by-hop options header. -/
theorem hopByHop_hides_tcp :
    let packet := ipv6Packet 0 ([6, 0, 1, 4, 0, 0, 0, 0] ++
      [0x1F, 0x90, 0, 80, 0, 0, 0, 0, 0, 0, 0, 0, 0x50, 2, 0xFF, 0xFF, 0, 0, 0, 0])
    let headers : PacketHeaders := ⟨some (.ipv6 1 2 0 [⟨.hopByHop, 6⟩]), some (.tcp 8080 80), []⟩
    WalksExtensions (slices packet headers) ∧
      ∃ parsed, parse (slices packet headers) packet = .ok parsed ∧ parsed.srcPort = some 8080 ∧ parsed.proto = 0 ∧
        ¬ProtocolAgrees headers parsed := by
  intro packet headers
  have walks : WalksExtensions (slices packet headers) := slices_walks packet (.tcp 8080 80) [] rfl ⟨rfl, rfl⟩
  have sliced : slices packet headers packet = .ok headers := if_pos rfl
  refine ⟨walks, ⟨.v6 1, .v6 2, 0, some 8080, some 80, []⟩, rfl, rfl, rfl, fun agrees => ?_⟩
  exact agrees.not_behind walks sliced rfl ⟨rfl, _, rfl, List.cons_ne_nil _ _⟩

end BiBeam
