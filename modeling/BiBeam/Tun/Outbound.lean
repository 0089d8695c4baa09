import BiBeam.Lib.Reach
import BiBeam.Tun.Device

namespace BiBeam

/-- Room for one packet of the conventional size; a driver fills no more than that. -/
def readBufferLen : Nat := 1500

/-- What happens around the loop that reads the device: its own turns, with
what became of the packet that was read, and what the consumer does. -/
inductive OutboundEvent
  | cancelled
  | readFailed (text : String)
  | read (packet : List UInt8) (result : Channel.SendResult)
  | received (packet : List UInt8)
  | consumerGone
deriving DecidableEq

structure OutboundPipeline where
  channel : Channel (List UInt8)
  outcome : Option (Except DeviceError Unit)

namespace OutboundPipeline

def new (channel : Channel (List UInt8)) : OutboundPipeline :=
  ⟨channel, none⟩

/-- The loop returns, and its end of the channel is dropped. -/
def stop (pipeline : OutboundPipeline) (outcome : Except DeviceError Unit) : OutboundPipeline :=
  ⟨pipeline.channel.dropSenders, some outcome⟩

/-- One packet read: a full channel drops it, a closed one ends the loop. -/
def emit (pipeline : OutboundPipeline) (packet : List UInt8) : Channel.SendResult × OutboundPipeline :=
  match pipeline.channel.trySend packet with
  | (.sent, channel) => (.sent, { pipeline with channel })
  | (.full, channel) => (.full, { pipeline with channel })
  | (.closed, channel) => (.closed, { pipeline with channel }.stop (.ok ()))

/-- Whenever both the cancellation and a packet are there, either may be chosen. -/
inductive Step : OutboundPipeline → OutboundEvent → OutboundPipeline → Prop
  | cancel {pipeline} : pipeline.outcome = none → Step pipeline .cancelled (pipeline.stop (.ok ()))
  | readFailed {pipeline text} : pipeline.outcome = none →
      Step pipeline (.readFailed text) (pipeline.stop (.error (.read text)))
  | read {pipeline packet} : pipeline.outcome = none → packet.length ≤ readBufferLen →
      Step pipeline (.read packet (pipeline.emit packet).1) (pipeline.emit packet).2
  | receive {pipeline packet} : pipeline.channel.recv.1 = some packet →
      Step pipeline (.received packet) { pipeline with channel := pipeline.channel.recv.2 }
  | leave {pipeline} : Step pipeline .consumerGone { pipeline with channel := pipeline.channel.dropReceiver }

theorem emit_spec (pipeline : OutboundPipeline) (packet : List UInt8) :
    pipeline.emit packet = ((pipeline.channel.trySend packet).1,
      if (pipeline.channel.trySend packet).1 = .closed then
        { pipeline with channel := (pipeline.channel.trySend packet).2 }.stop (.ok ())
      else { pipeline with channel := (pipeline.channel.trySend packet).2 }) := by
  rw [emit]
  rcases pipeline.channel.trySend packet with ⟨result, channel⟩
  cases result <;> rfl

end OutboundPipeline

namespace OutboundEvent

def accepted? : OutboundEvent → Option (List UInt8)
  | .read packet .sent => some packet
  | _ => none

def received? : OutboundEvent → Option (List UInt8)
  | .received packet => some packet
  | _ => none

/-- The packets that went into the channel, oldest first. -/
def accepted (events : List OutboundEvent) : List (List UInt8) :=
  events.filterMap accepted?

def receivedBy (events : List OutboundEvent) : List (List UInt8) :=
  events.filterMap received?

/-- The event ends the loop, with this outcome. -/
def stops? : OutboundEvent → Option (Except DeviceError Unit)
  | .cancelled => some (.ok ())
  | .readFailed text => some (.error (.read text))
  | .read _ .closed => some (.ok ())
  | _ => none

end OutboundEvent

namespace OutboundPipeline

open OutboundEvent

/-- What a run keeps between its events and the pipeline. -/
structure Kept (bound : Nat) (events : List OutboundEvent) (pipeline : OutboundPipeline) : Prop where
  ledger : pipeline.channel.Ledger (accepted events) (receivedBy events)
  bound : pipeline.channel.bound = bound
  gone : pipeline.channel.closed = true ↔ OutboundEvent.consumerGone ∈ events
  stopped : events.findSome? stops? = pipeline.outcome
  sized : ∀ packet ∈ accepted events, packet.length ≤ readBufferLen

theorem trySend_bound (channel : Channel (List UInt8)) (packet : List UInt8) :
    (channel.trySend packet).2.bound = channel.bound ∧ (channel.trySend packet).2.closed = channel.closed := by
  by_cases done : (channel.trySend packet).1 = .sent
  · refine ⟨?_, (Channel.queue_of_sent done).2⟩
    rw [Channel.trySend]
    split
    · rfl
    · split <;> rfl
  · rw [Channel.trySend_unsent done]
    exact ⟨rfl, rfl⟩

variable {bound : Nat} {events : List OutboundEvent} {pipeline next : OutboundPipeline} {event : OutboundEvent}

theorem Kept.new (bound : Nat) : Kept bound [] (new (Channel.new _ bound)) :=
  ⟨.new bound, rfl, ⟨fun gone => (by cases gone), fun member => absurd member List.not_mem_nil⟩, rfl,
    fun _ member => absurd member List.not_mem_nil⟩

theorem accepted_append (events : List OutboundEvent) (event : OutboundEvent) :
    accepted (events ++ [event]) = accepted events ++ (accepted? event).toList :=
  Reach.filterMap_snoc accepted? events event

theorem receivedBy_append (events : List OutboundEvent) (event : OutboundEvent) :
    receivedBy (events ++ [event]) = receivedBy events ++ (received? event).toList :=
  Reach.filterMap_snoc received? events event

theorem findSome_append_of_none {event : OutboundEvent} (running : events.findSome? stops? = none) :
    (events ++ [event]).findSome? stops? = stops? event := by
  rw [List.findSome?_append, running]
  cases here : stops? event <;> simp [here]

/-- A packet that was read goes in, finds no room, or finds the consumer gone. -/
theorem Kept.read {packet : List UInt8} (kept : Kept bound events pipeline) (running : pipeline.outcome = none)
    (small : packet.length ≤ readBufferLen) :
    Kept bound (events ++ [.read packet (pipeline.emit packet).1]) (pipeline.emit packet).2 := by
  have still : events.findSome? stops? = none := kept.stopped.trans running
  obtain ⟨sameBound, sameClosed⟩ := trySend_bound pipeline.channel packet
  have gone : (pipeline.channel.trySend packet).2.closed = true ↔
      OutboundEvent.consumerGone ∈ events ++ [.read packet (pipeline.channel.trySend packet).1] := by
    rw [sameClosed, kept.gone]
    simp
  rw [emit_spec]
  dsimp only
  cases result : (pipeline.channel.trySend packet).1 with
  | sent =>
    rw [result] at gone
    refine ⟨?_, sameBound.trans kept.bound, gone, ?_, ?_⟩
    · rw [accepted_append, receivedBy_append]
      exact (List.append_nil (receivedBy events)).symm ▸ kept.ledger.send result
    · rw [findSome_append_of_none still]
      exact running.symm
    · rw [accepted_append]
      intro other member
      rcases List.mem_append.mp member with earlier | here
      · exact kept.sized other earlier
      · rwa [List.mem_singleton.mp here]
  | full =>
    rw [result] at gone
    have same : (pipeline.channel.trySend packet).2 = pipeline.channel :=
      Channel.trySend_unsent (by rw [result]; decide)
    refine ⟨?_, sameBound.trans kept.bound, gone, ?_, ?_⟩
    · rw [accepted_append, receivedBy_append]
      change (pipeline.channel.trySend packet).2.Ledger (accepted events ++ []) (receivedBy events ++ [])
      rw [same, List.append_nil, List.append_nil]
      exact kept.ledger
    · rw [findSome_append_of_none still]
      exact running.symm
    · rw [accepted_append]
      exact fun other member => kept.sized other (by simpa [accepted?] using member)
  | closed =>
    rw [result] at gone
    have same : (pipeline.channel.trySend packet).2 = pipeline.channel :=
      Channel.trySend_unsent (by rw [result]; decide)
    refine ⟨?_, sameBound.trans kept.bound, gone, ?_, ?_⟩
    · rw [accepted_append, receivedBy_append]
      change (pipeline.channel.trySend packet).2.dropSenders.Ledger (accepted events ++ []) (receivedBy events ++ [])
      rw [same, List.append_nil, List.append_nil]
      exact kept.ledger.dropSenders
    · rw [findSome_append_of_none still]
      rfl
    · rw [accepted_append]
      exact fun other member => kept.sized other (by simpa [accepted?] using member)

/-- An event that is neither a read nor a receive leaves the ledger alone. -/
theorem quiet (events : List OutboundEvent) {event : OutboundEvent} (unsent : accepted? event = none)
    (untaken : received? event = none) :
    accepted (events ++ [event]) = accepted events ∧ receivedBy (events ++ [event]) = receivedBy events := by
  rw [accepted_append, receivedBy_append, unsent, untaken]
  exact ⟨List.append_nil _, List.append_nil _⟩

theorem Kept.step (kept : Kept bound events pipeline) (stepped : Step pipeline event next) :
    Kept bound (events ++ [event]) next := by
  cases stepped with
  | read running small => exact kept.read running small
  | cancel running =>
    obtain ⟨sameSent, sameTaken⟩ := @quiet events .cancelled rfl rfl
    refine ⟨by rw [sameSent, sameTaken]; exact kept.ledger.dropSenders, kept.bound, ?_, ?_, ?_⟩
    · exact kept.gone.trans (by simp)
    · rw [findSome_append_of_none (kept.stopped.trans running)]
      rfl
    · rw [sameSent]
      exact kept.sized
  | @readFailed text running =>
    obtain ⟨sameSent, sameTaken⟩ := @quiet events (.readFailed text) rfl rfl
    refine ⟨by rw [sameSent, sameTaken]; exact kept.ledger.dropSenders, kept.bound, ?_, ?_, ?_⟩
    · exact kept.gone.trans (by simp)
    · rw [findSome_append_of_none (kept.stopped.trans running)]
      rfl
    · rw [sameSent]
      exact kept.sized
  | @receive packet got =>
    have sameSent : accepted (events ++ [.received packet]) = accepted events := by
      rw [accepted_append]
      exact List.append_nil _
    refine ⟨?_, kept.bound, kept.gone.trans (by simp), ?_, ?_⟩
    · rw [sameSent, receivedBy_append]
      exact kept.ledger.recv got
    · rw [List.findSome?_append, kept.stopped]
      exact Option.or_none
    · rw [sameSent]
      exact kept.sized
  | leave =>
    obtain ⟨sameSent, sameTaken⟩ := @quiet events .consumerGone rfl rfl
    refine ⟨by rw [sameSent, sameTaken]; exact kept.ledger.dropReceiver, kept.bound, ?_, ?_, ?_⟩
    · exact ⟨fun _ => by simp, fun _ => rfl⟩
    · rw [List.findSome?_append, kept.stopped]
      exact Option.or_none
    · rw [sameSent]
      exact kept.sized

theorem kept_of_reach (run : Reach Step (new (Channel.new _ bound)) events pipeline) : Kept bound events pipeline := by
  induction run with
  | start => exact .new bound
  | next _ stepped ih => exact ih.step stepped

/-- What the consumer gets of the packets that were read: they come in the
order of the reads, and one is dropped only when the channel's whole depth is
waiting for the consumer or the consumer is gone. -/
structure Delivers (bound : Nat) (events : List OutboundEvent) (outcome : Option (Except DeviceError Unit)) : Prop where
  inOrder : receivedBy events <+: accepted events
  waiting : OutboundEvent.consumerGone ∉ events → (accepted events).length ≤ (receivedBy events).length + bound
  fate : ∀ before packet result after, events = before ++ .read packet result :: after →
    (result = .closed ↔ OutboundEvent.consumerGone ∈ before) ∧
    (result = .full ↔ OutboundEvent.consumerGone ∉ before ∧
      (accepted before).length = (receivedBy before).length + bound)
  sized : ∀ packet ∈ accepted events, packet.length ≤ readBufferLen
  stopped : outcome = events.findSome? stops?
  silent : ∀ before event after, events = before ++ event :: after → (before.findSome? stops?).isSome →
    accepted? event = none ∧ stops? event = none

theorem Kept.waiting (kept : Kept bound events pipeline) (there : OutboundEvent.consumerGone ∉ events) :
    (accepted events).length = (receivedBy events).length + pipeline.channel.queue.length := by
  have open_ : pipeline.channel.closed = false := Bool.eq_false_iff.mpr fun gone => there (kept.gone.mp gone)
  rw [← kept.ledger.whole open_, List.length_append]

/-- Every run of the outbound loop beside its consumer delivers in order, and
drops the newest packet exactly when the channel is full. -/
theorem run_delivers (bound : Nat) (events : List OutboundEvent) (pipeline : OutboundPipeline)
    (run : Reach Step (new (Channel.new _ bound)) events pipeline) : Delivers bound events pipeline.outcome := by
  have kept := kept_of_reach run
  refine ⟨kept.ledger.taken_prefix, fun there => ?_, ?_, kept.sized, kept.stopped.symm, ?_⟩
  · have length := kept.waiting there
    have fits := pipeline.channel.fits
    rw [kept.bound] at fits
    omega
  · rintro before packet result after rfl
    obtain ⟨middle, _, early, stepped, _⟩ := run.step_at
    have here := kept_of_reach early
    cases stepped with
    | read running small =>
      rw [emit_spec]
      refine ⟨Channel.trySend_closed_iff.trans here.gone, Channel.trySend_full_iff.trans ?_⟩
      rw [← Bool.not_eq_true, here.gone, here.bound]
      refine and_congr_right fun there => ?_
      rw [here.waiting there]
      omega
  · rintro before event after rfl ended
    obtain ⟨middle, _, early, stepped, _⟩ := run.step_at
    rw [(kept_of_reach early).stopped] at ended
    cases stepped with
    | read running small => rw [running] at ended; cases ended
    | cancel running => rw [running] at ended; cases ended
    | readFailed running => rw [running] at ended; cases ended
    | receive got => exact ⟨rfl, rfl⟩
    | leave => exact ⟨rfl, rfl⟩

/-- Two packets for a channel with room for one, of which the consumer takes the first. -/
theorem run_delivers_overflow :
    Delivers 1 [.read [1] .sent, .read [2] .full, .received [1], .cancelled] (some (.ok ())) :=
  run_delivers 1 _ ⟨(Channel.new _ 1).dropSenders, some (.ok ())⟩
    ((((Reach.start.next (.read rfl (by decide))).next (.read rfl (by decide))).next (.receive rfl)).next (.cancel rfl))

end OutboundPipeline

end BiBeam
