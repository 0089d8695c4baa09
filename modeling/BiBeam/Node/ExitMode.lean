import BiBeam.Tun.Inbound
import BiBeam.Tun.Parser

namespace BiBeam

open ConsumerEvent

inductive ExitModeError
  | sink (error : DeviceError)
  | socks5 (text : String)
deriving DecidableEq

inductive ExitMode
  | l3 (sink : TunDevice)
  | l4Socks5 (listenerAddr : SocketAddr)

/-- The loop of the mode that was picked; the other mode has no loop over packets. -/
inductive ExitRun
  | l3 (loop : Consumer (List UInt8) TunDevice ExitModeError)
  | l4 (decryptedPackets : Channel (List UInt8)) (outcome : Option (Except ExitModeError Unit))

inductive ExitEvent
  | packet (event : ConsumerEvent (List UInt8))
  | listener (result : Except String Unit)
deriving DecidableEq

namespace ExitMode

variable {E : Type} (fromIpSlice : List UInt8 → Except E PacketHeaders)

/-- The slice parses as an IP packet. -/
def wellFormed (buf : List UInt8) : Bool :=
  (parse fromIpSlice buf).isOk

def handleL3Packet : TunDevice → List UInt8 → TunDevice × Option ExitModeError :=
  TunDevice.egress (wellFormed fromIpSlice) .sink

/-- In the fallback mode the receiver is dropped before the listener starts. -/
def run (decryptedPackets : Channel (List UInt8)) : ExitMode → ExitRun
  | .l3 sink => .l3 (Consumer.new decryptedPackets sink)
  | .l4Socks5 _ => .l4 decryptedPackets.dropReceiver none

def listenerOutcome : Except String Unit → Except ExitModeError Unit
  | .ok () => .ok ()
  | .error text => .error (.socks5 text)

inductive Step : ExitRun → ExitEvent → ExitRun → Prop
  | l3 {loop next event} : Consumer.Step (handleL3Packet fromIpSlice) loop event next →
      Step (.l3 loop) (.packet event) (.l3 next)
  | send {channel outcome packet} : channel.ended = false →
      Step (.l4 channel outcome) (.packet (.sent packet (channel.trySend packet).1))
        (.l4 (channel.trySend packet).2 outcome)
  | leave {channel outcome} : Step (.l4 channel outcome) (.packet .sendersGone) (.l4 channel.dropSenders outcome)
  | listener {channel result} : Step (.l4 channel none) (.listener result) (.l4 channel (some (listenerOutcome result)))

/-- The events of the packet loop. -/
def packetEvents (events : List ExitEvent) : List (ConsumerEvent (List UInt8)) :=
  events.filterMap fun
    | .packet event => some event
    | .listener _ => none

/-- Under `l3` exactly the well-formed packets reach the device; under
`l4Socks5` every packet is refused at once, whatever the listener does. -/
def Forwards (events : List ExitEvent) : ExitMode → ExitRun → Prop
  | .l3 sink, .l3 loop => Egresses (wellFormed fromIpSlice) .sink sink (packetEvents events) loop.state loop.outcome
  | .l4Socks5 _, .l4 _ outcome =>
    (∀ packet result, .packet (.sent packet result) ∈ events → result = .closed) ∧
      handledBy (packetEvents events) = [] ∧
      ∀ error, outcome = some (.error error) → ∃ text, error = .socks5 text ∧ .listener (.error text) ∈ events
  | _, _ => False

variable {fromIpSlice} {events : List ExitEvent} {running : ExitRun}

theorem packetEvents_append (events : List ExitEvent) (event : ConsumerEvent (List UInt8)) :
    packetEvents (events ++ [.packet event]) = packetEvents events ++ [event] := by
  rw [packetEvents, List.filterMap_append]
  rfl

/-- A run under `l3` is one of the packet loop. -/
theorem reach_l3 {channel : Channel (List UInt8)} {sink : TunDevice}
    (reach : Reach (Step fromIpSlice) (run channel (.l3 sink)) events running) :
    ∃ loop, running = .l3 loop ∧
      Reach (Consumer.Step (handleL3Packet fromIpSlice)) (Consumer.new channel sink) (packetEvents events) loop := by
  induction reach with
  | start => exact ⟨_, rfl, .start⟩
  | next _ stepped ih =>
    obtain ⟨loop, rfl, early⟩ := ih
    cases stepped with
    | l3 stepped =>
      rw [packetEvents_append]
      exact ⟨_, rfl, early.next stepped⟩

/-- Under `l4Socks5` the channel stays closed. -/
theorem reach_l4 {bound : Nat} {listenerAddr : SocketAddr}
    (reach : Reach (Step fromIpSlice) (run (Channel.new _ bound) (.l4Socks5 listenerAddr)) events running) :
    ∃ channel outcome, running = .l4 channel outcome ∧ channel.closed = true ∧
      (∀ packet result, .packet (.sent packet result) ∈ events → result = .closed) ∧
      handledBy (packetEvents events) = [] ∧
      ∀ error, outcome = some (.error error) → ∃ text, error = .socks5 text ∧ .listener (.error text) ∈ events := by
  induction reach with
  | start =>
    exact ⟨_, _, rfl, rfl, fun _ _ member => absurd member List.not_mem_nil, rfl, nofun⟩
  | next _ stepped ih =>
    obtain ⟨channel, outcome, rfl, gone, refused, unhandled, failed⟩ := ih
    cases stepped with
    | @send _ _ packet senders =>
      have closed : (channel.trySend packet).1 = .closed := Channel.trySend_closed_iff.mpr gone
      refine ⟨_, _, rfl, ?_, fun other result member => ?_, ?_, fun error same => ?_⟩
      · rw [Channel.trySend_unsent (by rw [closed]; decide)]
        exact gone
      · rcases List.mem_append.mp member with earlier | here
        · exact refused other result earlier
        · cases List.mem_singleton.mp here
          exact closed
      · rw [packetEvents_append, handledBy_append, unhandled]
        rfl
      · obtain ⟨text, eq, member⟩ := failed error same
        exact ⟨text, eq, List.mem_append_left _ member⟩
    | leave =>
      refine ⟨_, _, rfl, gone, fun other result member => ?_, ?_, fun error same => ?_⟩
      · exact refused other result (by simpa using member)
      · rw [packetEvents_append, handledBy_append, unhandled]
        rfl
      · obtain ⟨text, eq, member⟩ := failed error same
        exact ⟨text, eq, List.mem_append_left _ member⟩
    | @listener _ result =>
      refine ⟨_, _, rfl, gone, fun other result member => ?_, ?_, fun error same => ?_⟩
      · exact refused other result (by simpa using member)
      · rw [packetEvents, List.filterMap_append]
        exact (congrArg handledBy (List.append_nil _)).trans unhandled
      · cases result with
        | ok => cases same
        | error text =>
          cases same
          exact ⟨text, rfl, List.mem_append_right _ (List.mem_singleton_self _)⟩

theorem run_forwards (mode : ExitMode) (bound : Nat) (events : List ExitEvent) (running : ExitRun)
    (reach : Reach (Step fromIpSlice) (run (Channel.new _ bound) mode) events running) :
    Forwards fromIpSlice events mode running := by
  cases mode with
  | l3 sink =>
    obtain ⟨loop, rfl, early⟩ := reach_l3 reach
    exact TunDevice.run_egresses early
  | l4Socks5 listenerAddr =>
    obtain ⟨channel, outcome, rfl, _, refused, unhandled, failed⟩ := reach_l4 reach
    exact ⟨refused, unhandled, failed⟩

/-- An IPv4 header with nothing behind it, from `10.0.0.1` to `1.2.3.4`. -/
def bareHeader : List UInt8 :=
  [69, 0, 0, 20, 0, 0, 0, 0, 64, 253, 107, 231, 10, 0, 0, 1, 1, 2, 3, 4]

def sliceBareHeader (buf : List UInt8) : Except Unit PacketHeaders :=
  if buf = bareHeader then
    .ok ⟨some (.ipv4 0x0a000001 0x01020304 253 []), none, []⟩
  else
    .error ()

def takeAll : TunDevice :=
  ⟨fun _ buf => .ok buf.length, []⟩

theorem run_forwards_malformed :
    Forwards sliceBareHeader
      [.packet (.sent [255] .sent), .packet (.sent bareHeader .sent), .packet (.handled [255]),
        .packet (.handled bareHeader)]
      (.l3 takeAll) (.l3 ⟨Channel.new _ 2, ⟨takeAll.driver, [bareHeader]⟩, none⟩) := by
  have first : Reach (Step sliceBareHeader) (run (Channel.new _ 2) (.l3 takeAll)) [.packet (.sent [255] .sent)] _ :=
    Reach.start.next (.l3 (.send rfl))
  have second : Reach (Step sliceBareHeader) _
      [.packet (.sent [255] .sent), .packet (.sent bareHeader .sent)] _ := first.next (.l3 (.send rfl))
  have dropped : Reach (Step sliceBareHeader) _
      [.packet (.sent [255] .sent), .packet (.sent bareHeader .sent), .packet (.handled [255])] _ :=
    second.next (.l3 (.take rfl rfl))
  exact run_forwards _ 2 _ _ (dropped.next (.l3 (.take rfl rfl)))

end ExitMode

end BiBeam
