import BiBeam.Lib.Disk
import BiBeam.Lib.Reach
import BiBeam.Protocol.CodecRoundTrip

namespace BiBeam

variable {texts : WireTexts}

/-- An encoded tunnel frame is read back whatever follows it, and not at all when it is cut. -/
theorem decode_carried {tunnel : Tunnel} {bytes arrived : List UInt8}
    (encoded : encode texts (.tunnel tunnel) = .ok bytes) (carried : arrived <+: bytes ∨ bytes <+: arrived) :
    if bytes <+: arrived then decode texts arrived = .ok (.tunnel tunnel)
    else ∃ error, decode texts arrived = .error error := by
  obtain ⟨payload, written, rfl⟩ := encode_eq_ok_iff.mp encoded
  have back : texts.frame.back (.tunnel tunnel) = .ok (.tunnel tunnel) := rfl
  have whole := texts.frame.returns written []
  rw [List.append_nil, back] at whole
  split
  · rename_i longer
    obtain ⟨extra, rfl⟩ := longer
    refine decode_eq_ok_iff.mpr ⟨payload ++ extra, extra, List.append_assoc .., ?_⟩
    exact Wire.read_append whole extra
  · rename_i shorter
    have cut := carried.resolve_right shorter
    cases run : decode texts arrived with
    | error error => exact ⟨error, rfl⟩
    | ok frame =>
      obtain ⟨early, rest, rfl, taken⟩ := decode_eq_ok_iff.mp run
      have inside : early <+: payload := by
        obtain ⟨missing, same⟩ := cut
        rw [List.append_assoc, List.append_cancel_left_eq, List.cons_append] at same
        exact ⟨missing, (List.cons.inj same).2⟩
      exact absurd (by rw [Wire.eq_of_read_prefix whole inside taken]) shorter

inductive RelayError
  | io (error : IoError)
  | codec (error : PostcardError)

/-- A peer's view of the relay: its own identity and that of its partner. -/
structure RelayPath where
  relayAddr : SocketAddr
  localPeerId : PeerId
  remotePeerId : PeerId

namespace RelayPath

/-- What the call returns and the datagrams that leave; the socket may refuse the datagram. -/
def send (texts : WireTexts) (path : RelayPath) (refused : Option IoError) (wgPacket : List UInt8) :
    Except RelayError Unit × List (SocketAddr × List UInt8) :=
  match encode texts (.tunnel ⟨path.localPeerId, wgPacket⟩) with
  | .error error => (.error (.codec error), [])
  | .ok encoded =>
    match refused with
    | some error => (.error (.io error), [])
    | none => (.ok (), [(path.relayAddr, encoded)])

def recv (path : RelayPath) : Frame → Except RelayError (Option (List UInt8))
  | .tunnel tunnel => .ok (if tunnel.peerId = path.remotePeerId then some tunnel.payload else none)
  | .control _ => .ok none
  | .cohort _ => .ok none

/-- What a receive loop that decodes datagrams gets from one; it drops what it cannot decode. -/
def receive (texts : WireTexts) (path : RelayPath) (arrived : List UInt8) : Option (List UInt8) :=
  match decode texts arrived with
  | .error _ => none
  | .ok frame =>
    match path.recv frame with
    | .error _ => none
    | .ok payload => payload

variable {path : RelayPath} {refused : Option IoError} {wgPacket : List UInt8} {result : Except RelayError Unit}
  {datagrams : List (SocketAddr × List UInt8)}

/-- A datagram leaves exactly when the call succeeds, and it is the encoded packet. -/
theorem send_cases (sent : path.send texts refused wgPacket = (result, datagrams)) :
    (∃ error, result = .error error ∧ datagrams = []) ∨
      ∃ encoded, encode texts (.tunnel ⟨path.localPeerId, wgPacket⟩) = .ok encoded ∧ result = .ok () ∧
        datagrams = [(path.relayAddr, encoded)] := by
  rw [send] at sent
  split at sent
  · obtain ⟨rfl, rfl⟩ := Prod.mk.inj sent
    exact .inl ⟨_, rfl, rfl⟩
  · rename_i encoded written
    split at sent
    · obtain ⟨rfl, rfl⟩ := Prod.mk.inj sent
      exact .inl ⟨_, rfl, rfl⟩
    · obtain ⟨rfl, rfl⟩ := Prod.mk.inj sent
      exact .inr ⟨encoded, written, rfl, rfl⟩

theorem receive_carried {sender : PeerId} {bytes arrived : List UInt8}
    (encoded : encode texts (.tunnel ⟨sender, wgPacket⟩) = .ok bytes) (carried : arrived <+: bytes ∨ bytes <+: arrived) :
    path.receive texts arrived = if sender = path.remotePeerId ∧ bytes <+: arrived then some wgPacket else none := by
  have read := decode_carried encoded carried
  rw [receive]
  by_cases whole : bytes <+: arrived
  · rw [if_pos whole] at read
    simp [read, recv, whole]
  · rw [if_neg whole] at read
    obtain ⟨error, refusal⟩ := read
    simp [refusal, whole]

end RelayPath

/-- A datagram on the relay, with the path that sent it and the packet it was sent for. -/
structure RelayedDatagram where
  sender : Nat
  packet : List UInt8
  addr : SocketAddr
  bytes : List UInt8

/-- The datagrams that the relay got, oldest first, and the packets that each path has surfaced. -/
structure RelayNet where
  relayed : List RelayedDatagram
  surfaced : Nat → List (List UInt8)

def RelayNet.new : RelayNet :=
  ⟨[], fun _ => []⟩

/-- A path gets what its receive loop made of an arrival. -/
def RelayNet.surface (net : RelayNet) (path : Nat) (payload : Option (List UInt8)) : RelayNet :=
  { net with surfaced := Function.update net.surfaced path (net.surfaced path ++ payload.toList) }

inductive RelayEvent
  /-- A path was given a packet to send. -/
  | sent (sender : Nat) (packet : List UInt8) (result : Except RelayError Unit)
  /-- The relay forwarded a datagram to a path, which got these bytes of it. -/
  | arrived (path number : Nat) (bytes : List UInt8)

/-- Paths send at any time. The relay forwards any datagram to any path, in any
order and as often as it likes, and on the way the end of a datagram may be cut
off or bytes put behind it. -/
inductive RelayStep (texts : WireTexts) (paths : Nat → RelayPath) : RelayNet → RelayEvent → RelayNet → Prop
  | send {net sender packet refused result datagrams} :
      (paths sender).send texts refused packet = (result, datagrams) →
      RelayStep texts paths net (.sent sender packet result)
        { net with relayed := net.relayed ++ datagrams.map fun sent => ⟨sender, packet, sent.1, sent.2⟩ }
  | arrive {net path number datagram bytes} : net.relayed[number]? = some datagram →
      (bytes <+: datagram.bytes ∨ datagram.bytes <+: bytes) →
      RelayStep texts paths net (.arrived path number bytes)
        (net.surface path ((paths path).receive texts bytes))

/-- The packets whose datagrams left, oldest first, each with the path it was given to. -/
def packetsSent : List RelayEvent → List (Nat × List UInt8) :=
  List.filterMap fun
    | .sent sender packet (.ok ()) => some (sender, packet)
    | _ => none

/-- What arrived at a path: which datagram, and the bytes of it. -/
def arrivalsAt (path : Nat) : List RelayEvent → List (Nat × List UInt8) :=
  List.filterMap fun
    | .arrived at_ number bytes => if at_ = path then some (number, bytes) else none
    | _ => none

/-- The packet of an arrival that is not cut and carries the stamp of the partner. -/
def partnersPacket (paths : Nat → RelayPath) (relayed : List RelayedDatagram) (path : Nat)
    (arrival : Nat × List UInt8) : Option (List UInt8) :=
  relayed[arrival.1]?.bind fun datagram =>
    if (paths datagram.sender).localPeerId = (paths path).remotePeerId ∧ datagram.bytes <+: arrival.2 then
      some datagram.packet
    else
      none

/-- What holds after a run. -/
structure RelayKept (texts : WireTexts) (paths : Nat → RelayPath) (events : List RelayEvent) (net : RelayNet) :
    Prop where
  encoded : ∀ datagram ∈ net.relayed,
    encode texts (.tunnel ⟨(paths datagram.sender).localPeerId, datagram.packet⟩) = .ok datagram.bytes
  packets : net.relayed.map (fun datagram => (datagram.sender, datagram.packet)) = packetsSent events
  there : ∀ path, ∀ arrival ∈ arrivalsAt path events, arrival.1 < net.relayed.length
  surfaced : ∀ path, net.surfaced path = (arrivalsAt path events).filterMap (partnersPacket paths net.relayed path)

namespace RelayKept

variable {paths : Nat → RelayPath} {events : List RelayEvent} {net next : RelayNet} {event : RelayEvent}

theorem start : RelayKept texts paths [] .new where
  encoded _ member := absurd member List.not_mem_nil
  packets := rfl
  there _ _ member := absurd member List.not_mem_nil
  surfaced _ := rfl

/-- What an earlier arrival is worth does not change when more is relayed. -/
theorem partnersPacket_append {relayed : List RelayedDatagram} (more : List RelayedDatagram) {path : Nat}
    {arrivals : List (Nat × List UInt8)} (there : ∀ arrival ∈ arrivals, arrival.1 < relayed.length) :
    arrivals.filterMap (partnersPacket paths (relayed ++ more) path) =
      arrivals.filterMap (partnersPacket paths relayed path) := by
  refine List.filterMap_congr fun arrival member => ?_
  rw [partnersPacket, partnersPacket, List.getElem?_append_left (there arrival member)]

theorem step (kept : RelayKept texts paths events net) (stepped : RelayStep texts paths net event next) :
    RelayKept texts paths (events ++ [event]) next := by
  cases stepped with
  | @send sender packet refused result datagrams sent =>
    have quiet (path : Nat) : arrivalsAt path (events ++ [.sent sender packet result]) = arrivalsAt path events := by
      simp [arrivalsAt]
    rcases RelayPath.send_cases sent with ⟨error, rfl, rfl⟩ | ⟨encoded, written, rfl, rfl⟩
    · have packets : packetsSent (events ++ [.sent sender packet (.error error)]) = packetsSent events := by
        simp [packetsSent]
      simp only [List.map_nil, List.append_nil]
      exact ⟨kept.encoded, packets ▸ kept.packets, fun path => quiet path ▸ kept.there path,
        fun path => quiet path ▸ kept.surfaced path⟩
    · have packets : packetsSent (events ++ [.sent sender packet (.ok ())]) =
          packetsSent events ++ [(sender, packet)] := by
        simp [packetsSent]
      refine ⟨?_, ?_, ?_, ?_⟩
      · refine List.forall_mem_append.mpr ⟨kept.encoded, List.forall_mem_singleton.mpr written⟩
      · rw [packets, ← kept.packets, List.map_append]
        rfl
      · intro path arrival member
        have before := kept.there path arrival (quiet path ▸ member)
        rw [List.length_append]
        omega
      · intro path
        rw [quiet path, partnersPacket_append _ (kept.there path)]
        exact kept.surfaced path
  | @arrive path number datagram bytes at_ carried =>
    have packets : packetsSent (events ++ [.arrived path number bytes]) = packetsSent events := by
      simp [packetsSent]
    have here : number < net.relayed.length := (List.getElem?_eq_some_iff.mp at_).1
    have member := List.mem_of_getElem? at_
    have got : (paths path).receive texts bytes = partnersPacket paths net.relayed path (number, bytes) := by
      rw [RelayPath.receive_carried (kept.encoded datagram member) carried, partnersPacket, at_]
      rfl
    have arrivals (other : Nat) : arrivalsAt other (events ++ [.arrived path number bytes]) =
        arrivalsAt other events ++ if path = other then [(number, bytes)] else [] := by
      rw [arrivalsAt, Reach.filterMap_snoc]
      by_cases same : path = other <;> simp [same]
    refine ⟨kept.encoded, packets ▸ kept.packets, ?_, ?_⟩
    · intro other arrival inside
      rw [arrivals] at inside
      rcases List.mem_append.mp inside with before | now
      · exact kept.there other arrival before
      · split at now
        · rw [List.mem_singleton.mp now]
          exact here
        · exact absurd now List.not_mem_nil
    · intro other
      rw [arrivals, List.filterMap_append]
      change Function.update net.surfaced path (net.surfaced path ++ ((paths path).receive texts bytes).toList) other =
        (arrivalsAt other events).filterMap (partnersPacket paths net.relayed other) ++
          (if path = other then [(number, bytes)] else []).filterMap (partnersPacket paths net.relayed other)
      by_cases same : other = path
      · subst same
        rw [Function.update_self, if_pos rfl, got, ← kept.surfaced other]
        cases worth : partnersPacket paths net.relayed other (number, bytes) <;> simp [worth]
      · rw [Function.update_of_ne same, if_neg (Ne.symm same), List.filterMap_nil, List.append_nil]
        exact kept.surfaced other

end RelayKept

/-- Whatever the relay repeats, drops, reorders, misdirects, cuts or pads, a
path has surfaced, in the order of their arrival, exactly the packets of those
datagrams that came whole and were sent under the identity of its partner; and
what was relayed are the packets whose sending succeeded. -/
theorem run_relays {texts : WireTexts} {paths : Nat → RelayPath} {events : List RelayEvent} {net : RelayNet}
    (reach : Reach (RelayStep texts paths) .new events net) :
    net.relayed.map (fun datagram => (datagram.sender, datagram.packet)) = packetsSent events ∧
      ∀ path, net.surfaced path = (arrivalsAt path events).filterMap (partnersPacket paths net.relayed path) := by
  have kept : RelayKept texts paths events net := by
    induction reach with
    | start => exact .start
    | next _ stepped ih => exact ih.step stepped
  exact ⟨kept.packets, kept.surfaced⟩

/-- The text forms of two identifiers. -/
def pairTexts : WireTexts :=
  { zeroTexts with ulid := zeroTexts.ulid.insert 2 "00000000000000000000000002" rfl (Nat.le_of_ble_eq_true rfl) }

/-- Two partners, and a third one who has the first for its partner. -/
def threePaths : Nat → RelayPath
  | 0 => ⟨.v4 0 0, ⟨0⟩, ⟨1⟩⟩
  | 1 => ⟨.v4 0 0, ⟨1⟩, ⟨0⟩⟩
  | _ => ⟨.v4 0 0, ⟨2⟩, ⟨0⟩⟩

/-- A datagram comes whole, then a stranger's, and then the first one without its bytes. -/
theorem run_relays_cut : ∃ events net, Reach (RelayStep pairTexts threePaths) .new events net ∧
    packetsSent events = [(0, [7]), (2, [8])] ∧ (arrivalsAt 1 events).map Prod.fst = [0, 1, 0] ∧
    net.surfaced 1 = [[7]] := by
  have sent : Reach (RelayStep pairTexts threePaths) .new [.sent 0 [7] (.ok ())] _ :=
    Reach.start.next (@RelayStep.send _ _ _ _ _ none _ _ rfl)
  have foreign : Reach (RelayStep pairTexts threePaths) .new [.sent 0 [7] (.ok ()), .sent 2 [8] (.ok ())] _ :=
    sent.next (@RelayStep.send _ _ _ _ _ none _ _ rfl)
  have whole : Reach (RelayStep pairTexts threePaths) .new
      [.sent 0 [7] (.ok ()), .sent 2 [8] (.ok ()), .arrived 1 0 _] _ :=
    foreign.next (.arrive rfl (.inl List.prefix_rfl))
  have strayed : Reach (RelayStep pairTexts threePaths) .new
      [.sent 0 [7] (.ok ()), .sent 2 [8] (.ok ()), .arrived 1 0 _, .arrived 1 1 _] _ :=
    whole.next (.arrive rfl (.inl List.prefix_rfl))
  have cut : Reach (RelayStep pairTexts threePaths) .new
      [.sent 0 [7] (.ok ()), .sent 2 [8] (.ok ()), .arrived 1 0 _, .arrived 1 1 _, .arrived 1 0 []] _ :=
    strayed.next (.arrive rfl (.inl List.nil_prefix))
  refine ⟨_, _, cut, rfl, rfl, ((run_relays cut).2 1).trans ?_⟩
  decide

end BiBeam
