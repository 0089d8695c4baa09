import BiBeam.Lib.Channel
import BiBeam.Lib.Reach
import BiBeam.Lib.RunUntil

universe u v w

/-- A receiver that handles one message after the other, and what it returned. -/
structure Consumer (α : Type u) (σ : Type v) (ε : Type w) where
  channel : Channel α
  state : σ
  outcome : Option (Except ε Unit)

inductive ConsumerEvent (α : Type u)
  | sent (message : α) (result : Channel.SendResult)
  | sendersGone
  | handled (message : α)
  | ended
  | cancelled
deriving DecidableEq

namespace ConsumerEvent

variable {α : Type u}

def sent? : ConsumerEvent α → Option α
  | .sent message .sent => some message
  | _ => none

def handled? : ConsumerEvent α → Option α
  | .handled message => some message
  | _ => none

/-- The messages that went into the channel, oldest first. -/
def sentBy (events : List (ConsumerEvent α)) : List α :=
  events.filterMap sent?

def handledBy (events : List (ConsumerEvent α)) : List α :=
  events.filterMap handled?

theorem sentBy_append (events : List (ConsumerEvent α)) (event : ConsumerEvent α) :
    sentBy (events ++ [event]) = sentBy events ++ (sent? event).toList :=
  Reach.filterMap_snoc sent? events event

theorem handledBy_append (events : List (ConsumerEvent α)) (event : ConsumerEvent α) :
    handledBy (events ++ [event]) = handledBy events ++ (handled? event).toList :=
  Reach.filterMap_snoc handled? events event

/-- An event that neither sends nor handles leaves both histories as they are. -/
theorem quiet (events : List (ConsumerEvent α)) {event : ConsumerEvent α} (unsent : sent? event = none)
    (unhandled : handled? event = none) :
    sentBy (events ++ [event]) = sentBy events ∧ handledBy (events ++ [event]) = handledBy events := by
  rw [sentBy_append, handledBy_append, unsent, unhandled]
  exact ⟨List.append_nil _, List.append_nil _⟩

end ConsumerEvent

namespace Consumer

open ConsumerEvent

variable {α : Type u} {σ : Type v} {ε : Type w}

def new (channel : Channel α) (state : σ) : Consumer α σ ε :=
  ⟨channel, state, none⟩

/-- The loop returns, and its end of the channel is dropped. -/
def stop (consumer : Consumer α σ ε) (outcome : Except ε Unit) : Consumer α σ ε :=
  ⟨consumer.channel.dropReceiver, consumer.state, some outcome⟩

/-- Take the oldest message and handle it; an error ends the loop. -/
def settle (handle : σ → α → σ × Option ε) (consumer : Consumer α σ ε) (message : α) : Consumer α σ ε :=
  match (handle consumer.state message).2 with
  | none => { consumer with channel := consumer.channel.recv.2, state := (handle consumer.state message).1 }
  | some error =>
    { consumer with channel := consumer.channel.recv.2, state := (handle consumer.state message).1 }.stop (.error error)

/-- The senders' turns and those of the loop, in any order. -/
inductive Step (handle : σ → α → σ × Option ε) : Consumer α σ ε → ConsumerEvent α → Consumer α σ ε → Prop
  | send {consumer message} : consumer.channel.ended = false →
      Step handle consumer (.sent message (consumer.channel.trySend message).1)
        { consumer with channel := (consumer.channel.trySend message).2 }
  | leave {consumer} : Step handle consumer .sendersGone { consumer with channel := consumer.channel.dropSenders }
  | take {consumer message} : consumer.outcome = none → consumer.channel.recv.1 = some message →
      Step handle consumer (.handled message) (consumer.settle handle message)
  | finish {consumer} : consumer.outcome = none → consumer.channel.recv.1 = none → consumer.channel.ended = true →
      Step handle consumer .ended (consumer.stop (.ok ()))
  | cancel {consumer} : consumer.outcome = none → Step handle consumer .cancelled (consumer.stop (.ok ()))

/-- The error the loop returned. -/
def failure (outcome : Option (Except ε Unit)) : Option ε :=
  outcome.bind fun
    | .ok () => none
    | .error error => some error

/-- The last message handled is the one whose error ended the loop. -/
def FailedAt (handle : σ → α → σ × Option ε) (start : σ) (handled : List α) (state : σ) (error : ε) : Prop :=
  ∃ front last before, handled = front ++ [last] ∧ RunUntil.run handle start front = (before, none) ∧
    handle before last = (state, some error)

/-- What a run keeps between its events and the loop. -/
structure Kept (handle : σ → α → σ × Option ε) (start : σ) (events : List (ConsumerEvent α))
    (consumer : Consumer α σ ε) : Prop where
  ledger : consumer.channel.Ledger (sentBy events) (handledBy events)
  ran : RunUntil.run handle start (handledBy events) = (consumer.state, failure consumer.outcome)
  gone : consumer.channel.closed = consumer.outcome.isSome
  finished : consumer.outcome = some (.ok ()) ↔ .ended ∈ events ∨ .cancelled ∈ events
  whole : .ended ∈ events → sentBy events = handledBy events
  open_ : .ended ∈ events → consumer.channel.ended = true
  failed : ∀ error, consumer.outcome = some (.error error) → FailedAt handle start (handledBy events) consumer.state error

variable {handle : σ → α → σ × Option ε} {start : σ} {events : List (ConsumerEvent α)} {consumer next : Consumer α σ ε}
  {event : ConsumerEvent α} {message : α}

theorem Kept.new (bound : Nat) : Kept handle start [] (new (Channel.new α bound) start) :=
  ⟨.new bound, rfl, rfl, ⟨fun done => (by cases done), fun done => (by simp at done)⟩,
    fun member => absurd member List.not_mem_nil, fun member => absurd member List.not_mem_nil, nofun⟩

theorem Kept.running (kept : Kept handle start events consumer) (running : consumer.outcome = none) :
    .ended ∉ events ∧ .cancelled ∉ events := by
  rw [← not_or, ← kept.finished, running]
  exact nofun

/-- While the loop runs, the messages sent are those handled and those waiting. -/
theorem Kept.waiting (kept : Kept handle start events consumer) (running : consumer.outcome = none) :
    handledBy events ++ consumer.channel.queue = sentBy events :=
  kept.ledger.whole (by rw [kept.gone, running]; rfl)

/-- A message goes in, finds no room, or finds the loop gone. -/
theorem Kept.send (kept : Kept handle start events consumer) (senders : consumer.channel.ended = false)
    (message : α) :
    Kept handle start (events ++ [.sent message (consumer.channel.trySend message).1])
      { consumer with channel := (consumer.channel.trySend message).2 } := by
  have noEnd : .ended ∉ events := fun member => by
    rw [kept.open_ member] at senders
    cases senders
  have handledSame : handledBy (events ++ [.sent message (consumer.channel.trySend message).1]) = handledBy events := by
    rw [handledBy_append]
    exact List.append_nil _
  have still : .ended ∉ events ++ [.sent message (consumer.channel.trySend message).1] := by
    simp [noEnd]
  refine ⟨?_, by rw [handledSame]; exact kept.ran, ?_, kept.finished.trans (by simp), fun member => absurd member still,
    fun member => absurd member still, by rw [handledSame]; exact kept.failed⟩
  · rw [handledSame, sentBy_append]
    cases result : (consumer.channel.trySend message).1 with
    | sent => exact kept.ledger.send result
    | full =>
      rw [Channel.trySend_unsent (by rw [result]; decide)]
      exact (List.append_nil (sentBy events)).symm ▸ kept.ledger
    | closed =>
      rw [Channel.trySend_unsent (by rw [result]; decide)]
      exact (List.append_nil (sentBy events)).symm ▸ kept.ledger
  · by_cases done : (consumer.channel.trySend message).1 = .sent
    · exact (Channel.queue_of_sent done).2.trans kept.gone
    · rw [Channel.trySend_unsent done]
      exact kept.gone

/-- The oldest message is handled in the state that the earlier ones left. -/
theorem Kept.take (kept : Kept handle start events consumer) (running : consumer.outcome = none)
    (got : consumer.channel.recv.1 = some message) :
    Kept handle start (events ++ [.handled message]) (consumer.settle handle message) := by
  have sentSame : sentBy (events ++ [.handled message]) = sentBy events := by
    rw [sentBy_append]
    exact List.append_nil _
  have handledNow : handledBy (events ++ [.handled message]) = handledBy events ++ [message] := handledBy_append _ _
  have still : .ended ∉ events ++ [.handled message] := by
    simp [(kept.running running).1]
  have before : RunUntil.run handle start (handledBy events) = (consumer.state, none) := by
    rw [kept.ran, running]
    rfl
  have ledger := kept.ledger.recv got
  have silent := kept.running running
  rw [settle]
  cases verdict : (handle consumer.state message).2 with
  | none =>
    refine ⟨by rw [sentSame, handledNow]; exact ledger, ?_, ?_, ?_, fun member => absurd member still,
      fun member => absurd member still, ?_⟩
    · rw [handledNow, RunUntil.run_append_none before, RunUntil.run_cons_none verdict, running]
      rfl
    · exact kept.gone
    · rw [running]
      simp [silent]
    · rw [running]
      exact nofun
  | some error =>
    refine ⟨by rw [sentSame, handledNow]; exact ledger.dropReceiver, ?_, rfl, ?_, fun member => absurd member still,
      fun member => absurd member still, ?_⟩
    · rw [handledNow, RunUntil.run_append_none before, RunUntil.run_cons_some verdict]
      rfl
    · simp [stop, silent]
    · intro other same
      cases same
      exact ⟨handledBy events, message, consumer.state, handledNow, before, Prod.ext rfl verdict⟩

theorem Kept.step (kept : Kept handle start events consumer) (stepped : Step handle consumer event next) :
    Kept handle start (events ++ [event]) next := by
  cases stepped with
  | @send message senders => exact kept.send senders message
  | take running got => exact kept.take running got
  | leave =>
    obtain ⟨sameSent, sameHandled⟩ := @ConsumerEvent.quiet α events .sendersGone rfl rfl
    refine ⟨by rw [sameSent, sameHandled]; exact kept.ledger.dropSenders, by rw [sameHandled]; exact kept.ran, kept.gone,
      kept.finished.trans (by simp), fun member => ?_, fun _ => rfl, by rw [sameHandled]; exact kept.failed⟩
    rw [sameSent, sameHandled]
    exact kept.whole (by simpa using member)
  | finish running empty ended =>
    obtain ⟨sameSent, sameHandled⟩ := @ConsumerEvent.quiet α events .ended rfl rfl
    refine ⟨by rw [sameSent, sameHandled]; exact kept.ledger.dropReceiver, ?_, rfl, ?_, fun _ => ?_, fun _ => ended, nofun⟩
    · rw [sameHandled, kept.ran, running]
      rfl
    · simp [stop]
    · have nothing : consumer.channel.queue = [] := List.head?_eq_none_iff.mp empty
      rw [sameSent, sameHandled, ← kept.waiting running, nothing, List.append_nil]
  | cancel running =>
    obtain ⟨sameSent, sameHandled⟩ := @ConsumerEvent.quiet α events .cancelled rfl rfl
    have still : .ended ∉ events ++ [.cancelled] := by
      simp [(kept.running running).1]
    refine ⟨by rw [sameSent, sameHandled]; exact kept.ledger.dropReceiver, ?_, rfl, ?_, fun member => absurd member still,
      fun member => absurd member still, nofun⟩
    · rw [sameHandled, kept.ran, running]
      rfl
    · simp [stop]

theorem kept_of_reach {bound : Nat}
    (run : Reach (Step handle) (Consumer.new (Channel.new α bound) start) events consumer) :
    Kept handle start events consumer := by
  induction run with
  | start => exact .new bound
  | next _ stepped ih => exact ih.step stepped

/-- What a loop does with the messages sent to it: it handles them in order,
each in the state the earlier ones left, and all of them before it returns at
the senders' end. Only an error of the handler or a cancellation loses any. -/
structure Serves (handle : σ → α → σ × Option ε) (start : σ) (events : List (ConsumerEvent α)) (state : σ)
    (outcome : Option (Except ε Unit)) : Prop where
  inOrder : handledBy events <+: sentBy events
  ran : RunUntil.run handle start (handledBy events) = (state, failure outcome)
  finished : outcome = some (.ok ()) ↔ .ended ∈ events ∨ .cancelled ∈ events
  drained : .ended ∈ events → handledBy events = sentBy events
  failed : ∀ error, outcome = some (.error error) → FailedAt handle start (handledBy events) state error
  refused : ∀ before message result after, events = before ++ .sent message result :: after →
    (result = .closed ↔ .cancelled ∈ before ∨ ∃ state error, FailedAt handle start (handledBy before) state error)

theorem FailedAt.run_eq {handled : List α} {state : σ} {error : ε} (failed : FailedAt handle start handled state error) :
    RunUntil.run handle start handled = (state, some error) := by
  obtain ⟨front, last, before, rfl, goes, stops⟩ := failed
  rw [RunUntil.run_append_none goes, RunUntil.run_cons_some (congrArg Prod.snd stops), stops]

theorem Kept.stopped (kept : Kept handle start events consumer) :
    consumer.outcome.isSome = true ↔ (.ended ∈ events ∨ .cancelled ∈ events) ∨
      ∃ state error, FailedAt handle start (handledBy events) state error := by
  rw [← kept.finished]
  constructor
  · intro stopped
    cases outcome : consumer.outcome with
    | none =>
      rw [outcome] at stopped
      cases stopped
    | some result =>
      cases result with
      | error error => exact .inr ⟨_, error, kept.failed error outcome⟩
      | ok => exact .inl rfl
  · rintro (done | ⟨state, error, failed⟩)
    · rw [done]
      rfl
    · have ran := kept.ran
      rw [failed.run_eq] at ran
      cases outcome : consumer.outcome with
      | none =>
        rw [outcome] at ran
        exact absurd (congrArg Prod.snd ran) (Option.some_ne_none error)
      | some result => rfl

theorem serves_of_run {bound : Nat}
    (run : Reach (Step handle) (Consumer.new (Channel.new α bound) start) events consumer) :
    Serves handle start events consumer.state consumer.outcome := by
  have kept := kept_of_reach run
  refine ⟨kept.ledger.taken_prefix, kept.ran, kept.finished, fun member => (kept.whole member).symm, kept.failed, ?_⟩
  rintro before message result after rfl
  obtain ⟨middle, _, early, stepped, _⟩ := run.step_at
  have here := kept_of_reach early
  cases stepped with
  | send senders =>
    have noEnd : .ended ∉ before := fun member => by
      rw [here.open_ member] at senders
      cases senders
    rw [Channel.trySend_closed_iff, here.gone, here.stopped]
    simp [noEnd]

/-- In a run, a message can only fail as the last one handled. -/
theorem failedAt_of_run {bound : Nat}
    (run : Reach (Step handle) (Consumer.new (Channel.new α bound) start) events consumer)
    (stops : (RunUntil.run handle start (handledBy events)).2.isSome) :
    ∃ state error, FailedAt handle start (handledBy events) state error := by
  have kept := kept_of_reach run
  rw [kept.ran] at stops
  cases outcome : consumer.outcome with
  | none =>
    rw [outcome] at stops
    cases stops
  | some result =>
    cases result with
    | error error => exact ⟨_, error, kept.failed error outcome⟩
    | ok =>
      rw [outcome] at stops
      cases stops

end Consumer
