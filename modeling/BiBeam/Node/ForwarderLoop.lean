import BiBeam.Lib.Reach
import BiBeam.Node.ForwarderRuns

namespace BiBeam

/-- The loop waits, or it is in the middle of sending a datagram on. -/
inductive ForwarderPhase
  | selecting
  | sending (outgoing : Outgoing) (direction : Direction)
  | returned
deriving DecidableEq

structure ForwarderMetrics where
  packetsIn : Direction → Nat
  packetsOut : Direction → Nat
  packetsDropped : DropReason → Nat

/-- Increment the counter with this label. -/
def increment {ι : Type} [DecidableEq ι] (counter : ι → Nat) (label : ι) : ι → Nat :=
  Function.update counter label (counter label + 1)

theorem increment_apply {ι : Type} [DecidableEq ι] (counter : ι → Nat) (label other : ι) :
    increment counter label other = counter other + if label = other then 1 else 0 := by
  by_cases same : label = other
  · subst same
    rw [increment, Function.update_self, if_pos rfl]
  · rw [increment, Function.update_of_ne (Ne.symm same), if_neg same, Nat.add_zero]

/-- All that the counters say left or was dropped. -/
def ForwarderMetrics.settled (metrics : ForwarderMetrics) : Nat :=
  metrics.packetsOut .upstream + metrics.packetsOut .downstream + (metrics.packetsDropped .unknownChain +
    metrics.packetsDropped .srcMismatch + metrics.packetsDropped .expiredLease + metrics.packetsDropped .other)

structure ForwarderLoop where
  forwarder : Forwarder
  phase : ForwarderPhase
  metrics : ForwarderMetrics

inductive DatagramEvent
  | leased (lease : ForwarderLease)
  | swept (now : Timestamp)
  | received (payload : List UInt8) (src : SocketAddr) (now : Timestamp) (decision : ForwardDecision)
  | recvFailed
  | sent (outgoing : Outgoing) (direction : Direction)
  | sendFailed (outgoing : Outgoing) (direction : Direction)
  | cancelled
deriving DecidableEq

namespace DatagramEvent

/-- What an event is to the routing table. -/
def onTable : DatagramEvent → Option ForwarderEvent
  | .leased lease => some (.insertLease lease)
  | .swept now => some (.sweepExpired now)
  | .received payload src now _ => some (.datagram payload src now)
  | _ => none

/-- A datagram that is to be sent on. -/
def forwarded? : DatagramEvent → Option (Outgoing × Direction)
  | .received payload _ _ (.forward target direction) => some (⟨payload, target⟩, direction)
  | _ => none

/-- A datagram handed to the socket, whether or not the socket took it. -/
def attempted? : DatagramEvent → Option (Outgoing × Direction)
  | .sent outgoing direction => some (outgoing, direction)
  | .sendFailed outgoing direction => some (outgoing, direction)
  | _ => none

def entersAs (direction : Direction) : DatagramEvent → Bool
  | .received _ _ _ (.forward _ other) => other = direction
  | _ => false

def leavesAs (direction : Direction) : DatagramEvent → Bool
  | .sent _ other => other = direction
  | _ => false

/-- The event counts as a drop for this reason; socket errors are counted as `other`. -/
def dropsAs (reason : DropReason) : DatagramEvent → Bool
  | .received _ _ _ (.drop dropped) => dropped = reason
  | .recvFailed => DropReason.other = reason
  | .sendFailed _ _ => DropReason.other = reason
  | _ => false

/-- A turn of the socket's receiving side. -/
def arrives : DatagramEvent → Bool
  | .received _ _ _ _ => true
  | .recvFailed => true
  | _ => false

end DatagramEvent

namespace ForwarderLoop

open DatagramEvent

def forwarderRecvBufferLen : Nat := 65527

def start : ForwarderLoop :=
  ⟨.bind, .selecting, ⟨fun _ => 0, fun _ => 0, fun _ => 0⟩⟩

def drop (loop : ForwarderLoop) (reason : DropReason) : ForwarderLoop :=
  { loop with metrics := { loop.metrics with packetsDropped := increment loop.metrics.packetsDropped reason } }

/-- Up to the point where the datagram is handed to the socket. -/
def act (loop : ForwarderLoop) (payload : List UInt8) : ForwardDecision → ForwarderLoop
  | .forward target direction =>
    { loop with
      phase := .sending ⟨payload, target⟩ direction
      metrics := { loop.metrics with packetsIn := increment loop.metrics.packetsIn direction } }
  | .drop reason => loop.drop reason

def sendDone (loop : ForwarderLoop) (direction : Direction) : ForwarderLoop :=
  { loop with
    phase := .selecting
    metrics := { loop.metrics with packetsOut := increment loop.metrics.packetsOut direction } }

/-- The loop's turns; leases come from elsewhere at any time, also during a send,
and so may sweeps beside the loop's own. -/
inductive Step : ForwarderLoop → DatagramEvent → ForwarderLoop → Prop
  | lease {loop lease} : Step loop (.leased lease) { loop with forwarder := loop.forwarder.insertLease lease }
  | sweep {loop now} : Step loop (.swept now) { loop with forwarder := (loop.forwarder.sweepExpired now).2 }
  | receive {loop payload src now} : loop.phase = .selecting → payload.length ≤ forwarderRecvBufferLen →
      Step loop (.received payload src now (loop.forwarder.evaluate payload src now))
        (loop.act payload (loop.forwarder.evaluate payload src now))
  | recvFail {loop} : loop.phase = .selecting → Step loop .recvFailed (loop.drop .other)
  | send {loop outgoing direction} : loop.phase = .sending outgoing direction →
      Step loop (.sent outgoing direction) (loop.sendDone direction)
  | sendFail {loop outgoing direction} : loop.phase = .sending outgoing direction →
      Step loop (.sendFailed outgoing direction) ({ loop with phase := .selecting }.drop .other)
  | cancel {loop} : loop.phase = .selecting → Step loop .cancelled { loop with phase := .returned }

/-- The datagram in the middle of being sent. -/
def inFlight : ForwarderPhase → List (Outgoing × Direction)
  | .sending outgoing direction => [(outgoing, direction)]
  | _ => []

theorem countP_snoc (p : DatagramEvent → Bool) (events : List DatagramEvent) (event : DatagramEvent) :
    (events ++ [event]).countP p = events.countP p + if p event then 1 else 0 := by
  rw [List.countP_append, List.countP_singleton]

/-- What a run keeps between its events and the loop. -/
structure Kept (events : List DatagramEvent) (loop : ForwarderLoop) : Prop where
  table : loop.forwarder = Forwarder.run (events.filterMap onTable)
  enters : ∀ direction, loop.metrics.packetsIn direction = events.countP (entersAs direction)
  leaves : ∀ direction, loop.metrics.packetsOut direction = events.countP (leavesAs direction)
  drops : ∀ reason, loop.metrics.packetsDropped reason = events.countP (dropsAs reason)
  inOrder : events.filterMap forwarded? = events.filterMap attempted? ++ inFlight loop.phase

variable {events : List DatagramEvent} {loop next : ForwarderLoop} {event : DatagramEvent}

theorem Kept.start : Kept [] start :=
  ⟨rfl, fun _ => rfl, fun _ => rfl, fun _ => rfl, rfl⟩

/-- What has to be said of a step: what it does to the table, to each counter
and to the datagram being sent. -/
theorem Kept.after (kept : Kept events loop)
    (table : next.forwarder = event.onTable.elim loop.forwarder loop.forwarder.step)
    (enters : ∀ d, next.metrics.packetsIn d = loop.metrics.packetsIn d + if entersAs d event then 1 else 0)
    (leaves : ∀ d, next.metrics.packetsOut d = loop.metrics.packetsOut d + if leavesAs d event then 1 else 0)
    (drops : ∀ r, next.metrics.packetsDropped r = loop.metrics.packetsDropped r + if dropsAs r event then 1 else 0)
    (inOrder : inFlight loop.phase ++ (forwarded? event).toList = (attempted? event).toList ++ inFlight next.phase) :
    Kept (events ++ [event]) next := by
  refine ⟨?_, fun d => ?_, fun d => ?_, fun r => ?_, ?_⟩
  · rw [Reach.filterMap_snoc, table, kept.table]
    cases event.onTable with
    | none => exact congrArg Forwarder.run (List.append_nil _).symm
    | some change => exact (Forwarder.run_append _ change).symm
  · rw [countP_snoc, enters, kept.enters]
  · rw [countP_snoc, leaves, kept.leaves]
  · rw [countP_snoc, drops, kept.drops]
  · rw [Reach.filterMap_snoc, Reach.filterMap_snoc, kept.inOrder, List.append_assoc, inOrder, List.append_assoc]

theorem Kept.act {payload : List UInt8} {src : SocketAddr} {now : Timestamp} (kept : Kept events loop)
    (selecting : loop.phase = .selecting) (decision : ForwardDecision) :
    Kept (events ++ [.received payload src now decision]) (loop.act payload decision) := by
  cases decision with
  | forward target direction =>
    refine kept.after rfl (fun d => ?_) (fun _ => rfl) (fun _ => rfl) (by rw [selecting]; rfl)
    exact (increment_apply _ direction d).trans (by simp [entersAs])
  | drop reason =>
    refine kept.after rfl (fun _ => rfl) (fun _ => rfl) (fun r => ?_) (by rw [ForwarderLoop.act, drop, selecting]; rfl)
    exact (increment_apply _ reason r).trans (by simp [dropsAs])

theorem Kept.step (kept : Kept events loop) (stepped : Step loop event next) : Kept (events ++ [event]) next := by
  cases stepped with
  | lease => exact kept.after rfl (fun _ => rfl) (fun _ => rfl) (fun _ => rfl) (List.append_nil _)
  | sweep => exact kept.after rfl (fun _ => rfl) (fun _ => rfl) (fun _ => rfl) (List.append_nil _)
  | receive selecting => exact kept.act selecting _
  | recvFail selecting =>
    refine kept.after rfl (fun _ => rfl) (fun _ => rfl) (fun r => ?_) (List.append_nil _)
    exact (increment_apply loop.metrics.packetsDropped .other r).trans (by simp [dropsAs])
  | @send outgoing direction sending =>
    refine kept.after rfl (fun _ => rfl) (fun d => ?_) (fun _ => rfl) (by rw [sending]; rfl)
    exact (increment_apply _ direction d).trans (by simp [leavesAs])
  | sendFail sending =>
    refine kept.after rfl (fun _ => rfl) (fun _ => rfl) (fun r => ?_) (by rw [sending]; rfl)
    exact (increment_apply loop.metrics.packetsDropped .other r).trans (by simp [dropsAs])
  | cancel selecting =>
    exact kept.after rfl (fun _ => rfl) (fun _ => rfl) (fun _ => rfl) (by rw [selecting]; rfl)

theorem kept_of_reach (run : Reach Step start events loop) : Kept events loop := by
  induction run with
  | start => exact .start
  | next _ stepped ih => exact ih.step stepped

theorem settled_drop (loop : ForwarderLoop) (reason : DropReason) :
    (loop.drop reason).metrics.settled = loop.metrics.settled + 1 := by
  cases reason <;> simp [ForwarderMetrics.settled, drop, increment_apply] <;> omega

theorem settled_sendDone (loop : ForwarderLoop) (direction : Direction) :
    (loop.sendDone direction).metrics.settled = loop.metrics.settled + 1 := by
  cases direction <;> simp [ForwarderMetrics.settled, sendDone, increment_apply] <;> omega

/-- Whatever arrives is counted once, as sent, as dropped, or as being sent. -/
theorem settled_step (stepped : Step loop event next) :
    next.metrics.settled + (inFlight next.phase).length =
      loop.metrics.settled + (inFlight loop.phase).length + if event.arrives then 1 else 0 := by
  cases stepped with
  | lease => rfl
  | sweep => rfl
  | @receive payload src now selecting =>
    rw [selecting]
    cases loop.forwarder.evaluate payload src now with
    | forward target direction => rfl
    | drop reason =>
      rw [act, settled_drop, drop, selecting]
      rfl
  | recvFail selecting =>
    rw [settled_drop, drop, selecting]
    rfl
  | send sending =>
    rw [settled_sendDone, sendDone, sending]
    rfl
  | sendFail sending =>
    rw [settled_drop, drop, sending]
    rfl
  | cancel selecting => rw [selecting]; rfl

theorem settled_of_reach (run : Reach Step start events loop) :
    loop.metrics.settled + (inFlight loop.phase).length = events.countP arrives := by
  induction run with
  | start => rfl
  | next _ stepped ih => rw [settled_step stepped, ih, countP_snoc]

/-- What the counters and the socket show of a run of the loop. -/
structure Accounts (events : List DatagramEvent) (loop : ForwarderLoop) : Prop where
  enters : ∀ direction, loop.metrics.packetsIn direction = events.countP (entersAs direction)
  leaves : ∀ direction, loop.metrics.packetsOut direction = events.countP (leavesAs direction)
  drops : ∀ reason, loop.metrics.packetsDropped reason = events.countP (dropsAs reason)
  whole : loop.metrics.settled + (inFlight loop.phase).length = events.countP arrives
  inOrder : events.filterMap forwarded? = events.filterMap attempted? ++ inFlight loop.phase
  decided : ∀ before payload src now decision after, events = before ++ .received payload src now decision :: after →
    decision = (Forwarder.run (before.filterMap onTable)).evaluate payload src now

/-- Every datagram is decided on by the leases installed before it was read, is
sent unchanged and in order, and shows up once in the counters. -/
theorem run_settles (events : List DatagramEvent) (loop : ForwarderLoop) (run : Reach Step start events loop) :
    Accounts events loop := by
  have kept := kept_of_reach run
  refine ⟨kept.enters, kept.leaves, kept.drops, settled_of_reach run, kept.inOrder, ?_⟩
  rintro before payload src now decision after rfl
  obtain ⟨middle, _, early, stepped, _⟩ := run.step_at
  cases stepped with
  | receive => rw [(kept_of_reach early).table]

/-- A lease that is replaced and swept while a datagram of the old one is being sent. -/
theorem run_settles_replaced :
    ∃ loop : ForwarderLoop, loop.metrics.packetsDropped .other = 1 ∧ loop.phase = .selecting ∧
      Accounts [.leased ⟨⟨7⟩, ⟨1⟩, .v4 10 1, .v4 11 1, 5⟩,
        .received (Ulid.toBytes 1) (.v4 10 1) 0 (.forward (.v4 11 1) .upstream),
        .leased ⟨⟨7⟩, ⟨1⟩, .v4 10 1, .v4 12 1, 9⟩, .swept 10,
        .sendFailed ⟨Ulid.toBytes 1, .v4 11 1⟩ .upstream] loop := by
  have leased : Reach Step start [.leased ⟨⟨7⟩, ⟨1⟩, .v4 10 1, .v4 11 1, 5⟩] _ := Reach.start.next .lease
  have received : Reach Step _ [.leased ⟨⟨7⟩, ⟨1⟩, .v4 10 1, .v4 11 1, 5⟩,
      .received (Ulid.toBytes 1) (.v4 10 1) 0 (.forward (.v4 11 1) .upstream)] _ :=
    leased.next (.receive rfl (by decide))
  have replaced : Reach Step _ [.leased ⟨⟨7⟩, ⟨1⟩, .v4 10 1, .v4 11 1, 5⟩,
      .received (Ulid.toBytes 1) (.v4 10 1) 0 (.forward (.v4 11 1) .upstream),
      .leased ⟨⟨7⟩, ⟨1⟩, .v4 10 1, .v4 12 1, 9⟩] _ := received.next .lease
  have swept : Reach Step _ [.leased ⟨⟨7⟩, ⟨1⟩, .v4 10 1, .v4 11 1, 5⟩,
      .received (Ulid.toBytes 1) (.v4 10 1) 0 (.forward (.v4 11 1) .upstream),
      .leased ⟨⟨7⟩, ⟨1⟩, .v4 10 1, .v4 12 1, 9⟩, .swept 10] _ := replaced.next .sweep
  exact ⟨_, rfl, rfl, run_settles _ _ (swept.next (.sendFail rfl))⟩

end ForwarderLoop

end BiBeam
