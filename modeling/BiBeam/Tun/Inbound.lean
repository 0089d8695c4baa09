import BiBeam.Lib.Consumer
import BiBeam.Tun.Device

namespace BiBeam

open ConsumerEvent

section Egress

variable {ε : Type} {accepts : List UInt8 → Bool} {wrap : DeviceError → ε} {device final : TunDevice}
  {buf : List UInt8} {packets : List (List UInt8)}

theorem TunDevice.egress_none (goes : device.egress accepts wrap buf = (final, none)) :
    final = { device with written := device.written ++ [buf].filter accepts } := by
  rw [egress] at goes
  split at goes
  · rename_i wellFormed
    rw [List.filter_cons_of_pos wellFormed, List.filter_nil]
    rw [writePacket] at goes
    split at goes
    · rename_i sent
      split at sent <;> cases sent
      cases goes
      rfl
    · cases goes
  · rename_i malformed
    rw [List.filter_cons_of_neg malformed, List.filter_nil, List.append_nil]
    cases goes
    rfl

/-- Only a packet that is accepted can fail, and then nothing of it is written. -/
theorem TunDevice.egress_some {error : ε} (stops : device.egress accepts wrap buf = (final, some error)) :
    accepts buf = true ∧ final = device ∧
      ∃ text, device.driver device.written buf = .error text ∧ error = wrap (.write text) := by
  rw [egress] at stops
  split at stops
  · rename_i wellFormed
    rw [writePacket] at stops
    cases answer : device.driver device.written buf with
    | ok count =>
      rw [answer] at stops
      cases stops
    | error text =>
      rw [answer] at stops
      cases stops
      exact ⟨wellFormed, rfl, text, rfl, rfl⟩
  · cases stops

theorem TunDevice.egress_run (goes : RunUntil.run (egress accepts wrap) device packets = (final, none)) :
    final = { device with written := device.written ++ packets.filter accepts } := by
  induction packets generalizing device with
  | nil =>
    cases goes
    rw [List.filter_nil, List.append_nil]
  | cons packet rest ih =>
    cases verdict : (device.egress accepts wrap packet).2 with
    | none =>
      rw [RunUntil.run_cons_none verdict] at goes
      have here : device.egress accepts wrap packet = ((device.egress accepts wrap packet).1, none) := Prod.ext rfl verdict
      rw [ih goes, TunDevice.egress_none here, List.append_assoc, ← List.filter_append, List.singleton_append]
    | some error =>
      rw [RunUntil.run_cons_some verdict] at goes
      cases goes

/-- The driver refuses the last of these packets, the accepted ones before it being written. -/
def TunDevice.RefusesLast (accepts : List UInt8 → Bool) (device : TunDevice) (packets : List (List UInt8))
    (text : String) : Prop :=
  ∃ front packet, packets = front ++ [packet] ∧ accepts packet = true ∧
    device.driver (device.written ++ front.filter accepts) packet = .error text

/-- What a loop writes of the packets sent to it: the accepted ones, in order
and whole, up to the one the driver refuses. -/
structure Egresses (accepts : List UInt8 → Bool) (wrap : DeviceError → ε) (device : TunDevice)
    (events : List (ConsumerEvent (List UInt8))) (final : TunDevice) (outcome : Option (Except ε Unit)) : Prop where
  inOrder : handledBy events <+: sentBy events
  written : (∀ error, outcome ≠ some (.error error)) →
    final.written = device.written ++ (handledBy events).filter accepts
  drained : .ended ∈ events → final.written = device.written ++ (sentBy events).filter accepts
  clean : outcome = some (.ok ()) ↔ .ended ∈ events ∨ .cancelled ∈ events
  broken : ∀ error, outcome = some (.error error) → ∃ text, error = wrap (.write text) ∧
    device.RefusesLast accepts (handledBy events) text ∧
    final.written = device.written ++ (handledBy events).dropLast.filter accepts
  refused : ∀ before packet result after, events = before ++ .sent packet result :: after →
    (result = .closed ↔ .cancelled ∈ before ∨ ∃ text, device.RefusesLast accepts (handledBy before) text)

theorem TunDevice.refusesLast_of_failedAt {state : TunDevice} {error : ε}
    (failed : Consumer.FailedAt (egress accepts wrap) device packets state error) :
    ∃ text, error = wrap (.write text) ∧ device.RefusesLast accepts packets text ∧
      state.written = device.written ++ packets.dropLast.filter accepts := by
  obtain ⟨front, last, before, rfl, goes, stops⟩ := failed
  have here := TunDevice.egress_run goes
  obtain ⟨wellFormed, same, text, answer, eq⟩ := TunDevice.egress_some stops
  rw [here] at answer
  refine ⟨text, eq, ⟨front, last, rfl, wellFormed, answer⟩, ?_⟩
  rw [same, here, List.dropLast_concat]

theorem TunDevice.RefusesLast.stops {text : String} (refuses : device.RefusesLast accepts packets text) :
    (RunUntil.run (egress accepts wrap) device packets).2.isSome := by
  obtain ⟨front, packet, rfl, wellFormed, answer⟩ := refuses
  rcases before : RunUntil.run (egress accepts wrap) device front with ⟨state, _ | error⟩
  · rw [RunUntil.run_append_none before, TunDevice.egress_run before]
    have stops : (egress accepts wrap { device with written := device.written ++ front.filter accepts } packet).2 =
        some (wrap (.write text)) := by
      rw [egress, if_pos wellFormed, writePacket, answer]
    rw [RunUntil.run_cons_some stops]
    rfl
  · rw [RunUntil.run_append_some before]
    rfl

theorem TunDevice.run_egresses {bound : Nat} {events : List (ConsumerEvent (List UInt8))}
    {loop : Consumer (List UInt8) TunDevice ε}
    (run : Reach (Consumer.Step (egress accepts wrap)) (Consumer.new (Channel.new _ bound) device) events loop) :
    Egresses accepts wrap device events loop.state loop.outcome := by
  have serves := Consumer.serves_of_run run
  have written : (∀ error, loop.outcome ≠ some (.error error)) →
      loop.state.written = device.written ++ (handledBy events).filter accepts := by
    intro fine
    have quiet : Consumer.failure loop.outcome = none := by
      rcases outcome : loop.outcome with _ | ⟨error | ⟨⟩⟩
      · rfl
      · exact absurd outcome (fine error)
      · rfl
    rw [TunDevice.egress_run (serves.ran.trans (congrArg (Prod.mk loop.state) quiet))]
  refine ⟨serves.inOrder, written, fun ended => ?_, serves.finished, fun error broken => ?_, ?_⟩
  · rw [← serves.drained ended]
    have done := serves.finished.mpr (.inl ended)
    exact written fun error broken => by
      rw [done] at broken
      cases broken
  · exact TunDevice.refusesLast_of_failedAt (serves.failed error broken)
  · rintro before packet result after rfl
    obtain ⟨middle, early, late⟩ := run.split
    rw [serves.refused before packet result after rfl]
    refine or_congr_right ⟨fun ⟨state, error, failed⟩ => ?_, fun ⟨text, refuses⟩ => ?_⟩
    · obtain ⟨text, _, refuses, _⟩ := TunDevice.refusesLast_of_failedAt failed
      exact ⟨text, refuses⟩
    · exact Consumer.failedAt_of_run early refuses.stops

end Egress

namespace InboundPipeline

def accepts (_ : List UInt8) : Bool := true

def Step : Consumer (List UInt8) TunDevice DeviceError → ConsumerEvent (List UInt8) →
    Consumer (List UInt8) TunDevice DeviceError → Prop :=
  Consumer.Step (TunDevice.egress accepts id)

def new (device : TunDevice) (rx : Channel (List UInt8)) : Consumer (List UInt8) TunDevice DeviceError :=
  Consumer.new rx device

/-- Whatever the senders, the loop and the cancellation do in turn, the device
gets the packets sent, in order and unchanged, and all of them when the loop
returns at the senders' end; a write error ends the loop at its packet. -/
theorem run_writes (bound : Nat) (device : TunDevice) (events : List (ConsumerEvent (List UInt8)))
    (pipeline : Consumer (List UInt8) TunDevice DeviceError)
    (run : Reach Step (new device (Channel.new _ bound)) events pipeline) :
    Egresses accepts id device events pipeline.state pipeline.outcome :=
  TunDevice.run_egresses run

/-- A driver that takes one packet and refuses the next. -/
def oneWrite : TunDevice :=
  ⟨fun written buf => if written = [] then .ok buf.length else .error "no buffer space", []⟩

theorem run_writes_refused :
    Egresses accepts id oneWrite
      [.sent [1] .sent, .sent [2] .sent, .handled [1], .handled [2], .sent [3] .closed]
      ⟨oneWrite.driver, [[1]]⟩ (some (.error (.write "no buffer space"))) := by
  have first : Reach Step (new oneWrite (Channel.new _ 2)) [.sent [1] .sent] _ := Reach.start.next (.send rfl)
  have second : Reach Step _ [.sent [1] .sent, .sent [2] .sent] _ := first.next (.send rfl)
  have written : Reach Step _ [.sent [1] .sent, .sent [2] .sent, .handled [1]] _ := second.next (.take rfl rfl)
  have stopped : Reach Step _ [.sent [1] .sent, .sent [2] .sent, .handled [1], .handled [2]] _ :=
    written.next (.take rfl rfl)
  exact run_writes 2 oneWrite _ _ (stopped.next (.send rfl))

end InboundPipeline

end BiBeam
