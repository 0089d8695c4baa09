import Mathlib.Data.List.Infix
import BiBeam.Lib.RunUntil
import BiBeam.Node.CohortWs

namespace BiBeam

/-- What the coordinators let the receiver see, in the order in which it can see it. -/
inductive Occurrence
  | opened
  | openFailed (err : DiscoveryError)
  | event (event : CoordinatorEvent)
  | closed
  | streamFailed (err : DiscoveryError)
deriving DecidableEq

namespace EventResult

def occurrence : EventResult → Occurrence
  | .ok (some event) => .event event
  | .ok none => .closed
  | .error err => .streamFailed err

/-- A disconnect, a close or an error ends a session. -/
def ends : EventResult → Bool
  | .ok (some (.disconnect _)) => true
  | .ok (some _) => false
  | .ok none => true
  | .error _ => true

end EventResult

/-- The events of the opened sessions, each session up to its end. Behind a
session that has not ended nothing is opened. -/
def timeline : List (Except DiscoveryError (List EventResult)) → List Occurrence
  | [] => []
  | .error err :: rest => .openFailed err :: timeline rest
  | .ok session :: rest =>
    .opened :: (InTurn.asked EventResult.ends session).map EventResult.occurrence ++
      if session.any EventResult.ends then timeline rest else []

namespace Occurrence

def event? : Occurrence → Option CoordinatorEvent
  | .event found => some found
  | _ => none

def isRetriableFailure : Occurrence → Bool
  | .openFailed err => err.isRetriable
  | _ => false

end Occurrence

/-- The retriable failures to open a session since one was opened last. -/
def failuresSinceOpen (seen : List Occurrence) : Nat :=
  (seen.reverse.takeWhile fun occurrence => occurrence ≠ .opened).countP Occurrence.isRetriableFailure

/-- For each retriable failure, how many there were in a row with it. -/
def failureNumbers (seen : List Occurrence) : List Nat :=
  seen.inits.filterMap fun front =>
    if front.getLast?.any Occurrence.isRetriableFailure then some (failuresSinceOpen front) else none

section Observation

variable (handler : CohortHandler)

/-- How the handler's answer to an event stops the receiver. -/
def refusal (before : List CoordinatorEvent) (event : CoordinatorEvent) : Option CohortWsError :=
  let answer :=
    match event with
    | .cohortAssigned cohort => handler.onAssigned before cohort
    | .cohortRotated rotation => handler.onRotated before rotation
    | .disconnect reason => handler.onDisconnect before reason
  match answer with
  | .error text => some (.handler text)
  | .ok () => none

/-- The error with which an occurrence stops the receiver, if it does. -/
def verdict (seen : List Occurrence) : Occurrence → Option CohortWsError
  | .opened => none
  | .openFailed err => if err.isRetriable then none else some (.permanent err)
  | .event event => refusal handler (seen.filterMap Occurrence.event?) event
  | .closed => none
  | .streamFailed err => if err.isRetriable then none else some (.permanent err)

/-- One occurrence as the receiver takes it. -/
def observe (state : ReceiverState) : Occurrence → ReceiverState × Option CohortWsError
  | .opened => (CohortWsReceiver.opened state, none)
  | .openFailed err =>
    if err.isRetriable then ((CohortWsReceiver.handleRetriableOpenFailure state).1, none)
    else (state, some (.permanent err))
  | .event event => (state.act (.handed event), refusal handler state.handed event)
  | .closed => (state, none)
  | .streamFailed err => (state, if err.isRetriable then none else some (.permanent err))

variable {handler}

theorem routeEvent_spec (state : ReceiverState) (event : CoordinatorEvent) :
    CohortWsReceiver.routeEvent handler state event = (state.act (.handed event),
      match refusal handler state.handed event with
      | some err => .error err
      | none => .ok (if EventResult.ends (.ok (some event)) then .disconnectRequested else .consumed)) := by
  cases event with
  | cohortAssigned cohort =>
    cases answer : handler.onAssigned state.handed cohort with
    | error text => simp only [CohortWsReceiver.routeEvent, refusal, answer]
    | ok =>
      simp only [CohortWsReceiver.routeEvent, refusal, answer]
      rfl
  | cohortRotated rotation =>
    cases answer : handler.onRotated state.handed rotation with
    | error text => simp only [CohortWsReceiver.routeEvent, refusal, answer]
    | ok =>
      simp only [CohortWsReceiver.routeEvent, refusal, answer]
      rfl
  | disconnect reason =>
    cases answer : handler.onDisconnect state.handed reason with
    | error text => simp only [CohortWsReceiver.routeEvent, refusal, answer]
    | ok =>
      simp only [CohortWsReceiver.routeEvent, refusal, answer]
      rfl

/-- An answer of a session as one occurrence: it stops the receiver, ends the
session or neither. -/
theorem handleEventResult_spec (state : ReceiverState) (result : EventResult) :
    CohortWsReceiver.handleEventResult handler state result = ((observe handler state result.occurrence).1,
      match (observe handler state result.occurrence).2 with
      | some err => .error err
      | none => .ok (if result.ends then some .reconnectRequested else none)) := by
  cases result with
  | error err =>
    unfold CohortWsReceiver.handleEventResult classifyStreamError
    cases retriable : err.isRetriable <;> simp [EventResult.occurrence, EventResult.ends, observe, retriable, Except.map]
  | ok answer =>
    cases answer with
    | none => rfl
    | some event =>
      have taken : observe handler state (EventResult.occurrence (.ok (some event))) =
          (state.act (.handed event), refusal handler state.handed event) := rfl
      rw [CohortWsReceiver.handleEventResult, CohortWsReceiver.dispatchOneEvent, routeEvent_spec, taken]
      cases refusal handler state.handed event with
      | some err => rfl
      | none => cases EventResult.ends (.ok (some event)) <;> rfl

/-- A session is pumped as its occurrences are observed, up to its end. -/
theorem driveSession_spec (state : ReceiverState) (session : List EventResult) :
    CohortWsReceiver.driveSession handler state session =
      ((RunUntil.run (observe handler) state ((InTurn.asked EventResult.ends session).map EventResult.occurrence)).1,
        match (RunUntil.run (observe handler) state
          ((InTurn.asked EventResult.ends session).map EventResult.occurrence)).2 with
        | some err => some (.error err)
        | none => if session.any EventResult.ends then some (.ok .reconnectRequested) else none) := by
  induction session generalizing state with
  | nil => rfl
  | cons result rest ih =>
    rw [CohortWsReceiver.driveSession, handleEventResult_spec, InTurn.asked, List.any_cons]
    cases stops : (observe handler state result.occurrence).2 with
    | some err =>
      cases last : result.ends <;> simp [RunUntil.run, stops]
    | none =>
      cases last : result.ends with
      | true => simp [RunUntil.run, stops]
      | false =>
        simp only [Bool.false_eq_true, if_false, List.map_cons, RunUntil.run_cons_none stops, Bool.false_or]
        exact ih _

/-- The nested loops of the receiver go through one timeline. -/
theorem loop_eq_run (state : ReceiverState) (opens : List (Except DiscoveryError (List EventResult))) :
    CohortWsReceiver.loop handler state opens = RunUntil.run (observe handler) state (timeline opens) := by
  induction opens generalizing state with
  | nil => rfl
  | cons sessionResult rest ih =>
    cases sessionResult with
    | error err =>
      cases retriable : err.isRetriable <;>
        simp [CohortWsReceiver.loop, CohortWsReceiver.stepAfterConnect, timeline, RunUntil.run, observe, retriable,
          CohortWsReceiver.handleRetriableOpenFailure, ih]
    | ok session =>
      have goes : (observe handler state .opened).2 = none := rfl
      rw [CohortWsReceiver.loop, CohortWsReceiver.stepAfterConnect, CohortWsReceiver.driveToStepOutcome,
        driveSession_spec, timeline, List.cons_append, RunUntil.run_cons_none goes]
      change _ = RunUntil.run (observe handler) (CohortWsReceiver.opened state) _
      cases pumped : RunUntil.run (observe handler) (CohortWsReceiver.opened state)
        ((InTurn.asked EventResult.ends session).map EventResult.occurrence) with
      | mk t stop =>
        cases stop with
        | some err => rw [RunUntil.run_append_some pumped]
        | none =>
          rw [RunUntil.run_append_none pumped]
          cases session.any EventResult.ends with
          | true => exact ih t
          | false => rfl

end Observation

section Actions

variable (state : ReceiverState) (action : ReceiverAction)

/-- What an action adds to each record is read off that action alone. -/
theorem handed_act : (state.act action).handed = state.handed ++ { state with actions := [action] }.handed :=
  List.filterMap_append

theorem sleeps_act : (state.act action).sleeps = state.sleeps ++ { state with actions := [action] }.sleeps :=
  List.filterMap_append

theorem reconnects_act : (state.act action).reconnects = state.reconnects + [action].count .reconnectCounted :=
  List.count_append

end Actions

theorem failuresSinceOpen_opened (seen : List Occurrence) : failuresSinceOpen (seen ++ [.opened]) = 0 := by
  simp [failuresSinceOpen]

theorem failuresSinceOpen_other (seen : List Occurrence) {occurrence : Occurrence} (other : occurrence ≠ .opened) :
    failuresSinceOpen (seen ++ [occurrence]) =
      failuresSinceOpen seen + if occurrence.isRetriableFailure then 1 else 0 := by
  rw [failuresSinceOpen, List.reverse_append, List.reverse_singleton, List.singleton_append,
    List.takeWhile_cons_of_pos (by simpa using other), List.countP_cons]
  rfl

theorem failureNumbers_append (seen : List Occurrence) (occurrence : Occurrence) :
    failureNumbers (seen ++ [occurrence]) = failureNumbers seen ++
      if occurrence.isRetriableFailure then [failuresSinceOpen (seen ++ [occurrence])] else [] := by
  have last : (seen ++ [occurrence]).inits = seen.inits ++ [seen ++ [occurrence]] := List.inits_append ..
  rw [failureNumbers, last, List.filterMap_append, ← failureNumbers]
  congr 1
  cases retriable : occurrence.isRetriableFailure <;> simp [retriable]

/-- How the state of the receiver follows from what it has seen. -/
structure Tracks (seen : List Occurrence) (state : ReceiverState) : Prop where
  handed : state.handed = seen.filterMap Occurrence.event?
  first : state.isFirstConnect = decide (seen.count .opened = 0)
  reconnects : state.reconnects = seen.count .opened - 1
  attempt : state.attempt.toNat = min (failuresSinceOpen seen) (2 ^ 32 - 1)
  sleeps : state.sleeps.map UInt32.toNat = (failureNumbers seen).map (min · (2 ^ 32 - 1))

theorem Tracks.start : Tracks [] .start :=
  ⟨rfl, rfl, rfl, rfl, rfl⟩

/-- An occurrence that tells the receiver nothing leaves its state. -/
theorem Tracks.silent {seen : List Occurrence} {state : ReceiverState} {occurrence : Occurrence}
    (tracks : Tracks seen state) (notEvent : occurrence.event? = none) (notOpened : occurrence ≠ .opened)
    (notRetriable : occurrence.isRetriableFailure = false) : Tracks (seen ++ [occurrence]) state := by
  have uncounted : [occurrence].count .opened = 0 := List.count_eq_zero.mpr (by simpa using notOpened.symm)
  have noEvent : [occurrence].filterMap Occurrence.event? = [] := List.filterMap_cons_none notEvent
  refine ⟨?_, ?_, ?_, ?_, ?_⟩
  · rw [tracks.handed, List.filterMap_append, noEvent, List.append_nil]
  · rw [tracks.first, List.count_append, uncounted, Nat.add_zero]
  · rw [tracks.reconnects, List.count_append, uncounted, Nat.add_zero]
  · rw [tracks.attempt, failuresSinceOpen_other _ notOpened, notRetriable]
    rfl
  · rw [tracks.sleeps, failureNumbers_append, notRetriable, if_neg Bool.false_ne_true, List.append_nil]

theorem Tracks.act_handed {seen : List Occurrence} {state : ReceiverState} (tracks : Tracks seen state)
    (event : CoordinatorEvent) : Tracks (seen ++ [.event event]) (state.act (.handed event)) := by
  have uncounted : [Occurrence.event event].count .opened = 0 := List.count_eq_zero.mpr (by simp)
  have sleeps : (state.act (.handed event)).sleeps = state.sleeps :=
    (sleeps_act state _).trans (List.append_nil _)
  refine ⟨?_, ?_, ?_, ?_, ?_⟩
  · rw [List.filterMap_append, ← tracks.handed]
    exact handed_act state (.handed event)
  · rw [List.count_append, uncounted]
    exact tracks.first
  · rw [List.count_append, uncounted]
    exact (reconnects_act state (.handed event)).trans tracks.reconnects
  · rw [failuresSinceOpen_other _ (by simp)]
    exact tracks.attempt
  · rw [failureNumbers_append, sleeps, tracks.sleeps]
    simp [Occurrence.isRetriableFailure]

/-- Opening a session counts a reconnect from the second time on, and takes the
back-off counter back to zero. -/
theorem Tracks.opened {seen : List Occurrence} {state : ReceiverState} (tracks : Tracks seen state) :
    Tracks (seen ++ [.opened]) (CohortWsReceiver.opened state) := by
  have counted : (seen ++ [Occurrence.opened]).count .opened = seen.count .opened + 1 := List.count_append
  have handed : (CohortWsReceiver.opened state).handed = state.handed := by
    unfold CohortWsReceiver.opened
    cases state.isFirstConnect with
    | true => rfl
    | false => exact (handed_act state _).trans (List.append_nil _)
  have sleeps : (CohortWsReceiver.opened state).sleeps = state.sleeps := by
    unfold CohortWsReceiver.opened
    cases state.isFirstConnect with
    | true => rfl
    | false => exact (sleeps_act state _).trans (List.append_nil _)
  refine ⟨?_, ?_, ?_, ?_, ?_⟩
  · rw [List.filterMap_append, ← tracks.handed]
    exact handed.trans (List.append_nil _).symm
  · rw [counted]
    rfl
  · have reconnects := tracks.reconnects
    have first := tracks.first
    rw [counted]
    unfold CohortWsReceiver.opened
    cases connected : state.isFirstConnect with
    | true =>
      rw [connected] at first
      have none := of_decide_eq_true first.symm
      rw [none] at reconnects ⊢
      exact reconnects
    | false =>
      rw [connected] at first
      have some := of_decide_eq_false first.symm
      have more : (state.act .reconnectCounted).reconnects = state.reconnects + 1 := reconnects_act state _
      change (state.act .reconnectCounted).reconnects = _
      omega
  · rw [failuresSinceOpen_opened]
    rfl
  · rw [failureNumbers_append, sleeps, tracks.sleeps]
    simp [Occurrence.isRetriableFailure]

/-- A failure that may pass sleeps once, with the counter one up unless it is full. -/
theorem Tracks.retried {seen : List Occurrence} {state : ReceiverState} (tracks : Tracks seen state)
    {err : DiscoveryError} (retriable : err.isRetriable = true) :
    Tracks (seen ++ [.openFailed err]) (CohortWsReceiver.handleRetriableOpenFailure state).1 := by
  have uncounted : [Occurrence.openFailed err].count .opened = 0 := List.count_eq_zero.mpr (by simp)
  have counts : Occurrence.isRetriableFailure (.openFailed err) = true := retriable
  have numbered : failuresSinceOpen (seen ++ [.openFailed err]) = failuresSinceOpen seen + 1 := by
    rw [failuresSinceOpen_other _ (by simp), if_pos counts]
  have attempt : (state.attempt.saturatingAdd 1).toNat = min (failuresSinceOpen seen + 1) (2 ^ 32 - 1) := by
    rw [UInt32.toNat_saturatingAdd, tracks.attempt]
    change min (min (failuresSinceOpen seen) (2 ^ 32 - 1) + 1) (2 ^ 32 - 1) = _
    omega
  refine ⟨?_, ?_, ?_, ?_, ?_⟩
  · rw [List.filterMap_append, ← tracks.handed]
    exact handed_act _ _
  · rw [List.count_append, uncounted]
    exact tracks.first
  · rw [List.count_append, uncounted]
    exact (reconnects_act _ _).trans tracks.reconnects
  · rw [numbered]
    exact attempt
  · rw [failureNumbers_append, numbered, if_pos counts, List.map_append, ← tracks.sleeps, List.map_singleton, ← attempt]
    exact (congrArg (List.map UInt32.toNat) (sleeps_act _ _)).trans List.map_append

theorem Tracks.observe {handler : CohortHandler} {seen : List Occurrence} {state : ReceiverState}
    (tracks : Tracks seen state) (occurrence : Occurrence) :
    Tracks (seen ++ [occurrence]) (BiBeam.observe handler state occurrence).1 := by
  cases occurrence with
  | closed => exact tracks.silent rfl (by simp) rfl
  | streamFailed err => exact tracks.silent rfl (by simp) rfl
  | event event => exact tracks.act_handed event
  | opened => exact tracks.opened
  | openFailed err =>
    cases retriable : err.isRetriable with
    | false =>
      have silent : Tracks (seen ++ [.openFailed err]) state := tracks.silent rfl (by simp) retriable
      simpa [BiBeam.observe, retriable] using silent
    | true =>
      rw [BiBeam.observe, if_pos retriable]
      exact tracks.retried retriable

theorem Tracks.verdict {handler : CohortHandler} {seen : List Occurrence} {state : ReceiverState}
    (tracks : Tracks seen state) (occurrence : Occurrence) :
    (BiBeam.observe handler state occurrence).2 = BiBeam.verdict handler seen occurrence := by
  cases occurrence with
  | opened => rfl
  | closed => rfl
  | streamFailed err => rfl
  | event event =>
    change refusal handler state.handed event = refusal handler (seen.filterMap Occurrence.event?) event
    rw [tracks.handed]
  | openFailed err => cases retriable : err.isRetriable <;> simp [BiBeam.observe, BiBeam.verdict, retriable]

/-- A run of the receiver, by what it has seen: the whole timeline, or the
timeline up to the first occurrence that stops it, with that one's error. -/
structure Received (handler : CohortHandler) (opens : List (Except DiscoveryError (List EventResult)))
    (seen : List Occurrence) (final : ReceiverState) (result : Option CohortWsError) : Prop where
  within : seen <+: timeline opens
  whole : result = none → seen = timeline opens
  stopped : result ≠ none → seen ≠ []
  verdicts : ∀ front occurrence behind, seen = front ++ occurrence :: behind →
    verdict handler front occurrence = if behind.isEmpty then result else none
  handed : final.handed = seen.filterMap Occurrence.event?
  reconnects : final.reconnects = seen.count .opened - 1
  sleeps : final.sleeps.map UInt32.toNat = (failureNumbers seen).map (min · (2 ^ 32 - 1))

theorem run_received (handler : CohortHandler) (opens : List (Except DiscoveryError (List EventResult))) :
    Received handler opens (RunUntil.processed (observe handler) .start (timeline opens))
      (CohortWsReceiver.run handler opens).1 (CohortWsReceiver.run handler opens).2 := by
  have kept : ∀ seen state occurrence, Tracks seen state →
      Tracks (seen ++ [occurrence]) (observe handler state occurrence).1 :=
    fun seen state occurrence tracks => tracks.observe occurrence
  have tracks : Tracks ([] ++ RunUntil.processed (observe handler) .start (timeline opens))
      (RunUntil.run (observe handler) .start (timeline opens)).1 := RunUntil.invariant Tracks.start kept
  rw [List.nil_append] at tracks
  rw [CohortWsReceiver.run, loop_eq_run]
  exact {
    within := RunUntil.processed_prefix _ _
    whole := RunUntil.processed_of_none
    stopped := RunUntil.processed_ne_nil
    verdicts := fun front occurrence behind parts =>
      RunUntil.verdict_eq Tracks.start kept (fun seen state occurrence tracks => tracks.verdict occurrence) parts
    handed := tracks.handed
    reconnects := tracks.reconnects
    sleeps := tracks.sleeps }

/-- Whatever is opened, however the sessions go on and whatever the handler
answers, the receiver follows the timeline up to the first error that stops it. -/
theorem cohortWsReceiver_run (handler : CohortHandler) (opens : List (Except DiscoveryError (List EventResult))) :
    ∃ seen, Received handler opens seen (CohortWsReceiver.run handler opens).1 (CohortWsReceiver.run handler opens).2 :=
  ⟨_, run_received handler opens⟩

section Saturation

variable {handler : CohortHandler} {err : DiscoveryError}

theorem timeline_replicate (n : Nat) : timeline (List.replicate n (.error err)) = List.replicate n (.openFailed err) := by
  induction n with
  | zero => rfl
  | succ n ih => rw [List.replicate_succ, timeline, ih, List.replicate_succ]

theorem failuresSinceOpen_replicate (retriable : err.isRetriable = true) (n : Nat) :
    failuresSinceOpen (List.replicate n (.openFailed err)) = n := by
  induction n with
  | zero => rfl
  | succ n ih =>
    rw [List.replicate_succ', failuresSinceOpen_other _ (by simp), ih]
    exact congrArg (n + ·) (if_pos retriable)

theorem seen_replicate (retriable : err.isRetriable = true) (n : Nat) :
    RunUntil.processed (observe handler) .start (timeline (List.replicate n (.error err))) =
      List.replicate n (.openFailed err) := by
  have received := run_received handler (List.replicate n (.error err))
  have goes : (CohortWsReceiver.run handler (List.replicate n (.error err))).2 = none := by
    by_contra stops
    obtain ⟨front, last, parts⟩ := (List.eq_nil_or_concat' _).resolve_left (received.stopped stops)
    have member := received.within.subset (parts ▸ List.mem_append_right front List.mem_cons_self)
    rw [timeline_replicate] at member
    have stopped := received.verdicts front last [] parts
    rw [List.eq_of_mem_replicate member, verdict, if_pos retriable] at stopped
    exact stops stopped.symm
  rw [received.whole goes, timeline_replicate]

/-- The last of many retriable failures is slept on with a number that stops growing. -/
theorem last_sleep_replicate (retriable : err.isRetriable = true) (n : Nat) :
    ((CohortWsReceiver.run handler (List.replicate (n + 1) (.error err))).1.sleeps.map UInt32.toNat).getLast? =
      some (min (n + 1) (2 ^ 32 - 1)) := by
  have received := run_received handler (List.replicate (n + 1) (.error err))
  have numbers : failureNumbers (List.replicate (n + 1) (.openFailed err)) =
      failureNumbers (List.replicate n (.openFailed err)) ++ [n + 1] := by
    rw [List.replicate_succ', failureNumbers_append,
      if_pos (show Occurrence.isRetriableFailure (.openFailed err) = true from retriable), ← List.replicate_succ',
      failuresSinceOpen_replicate retriable]
  have sleeps := received.sleeps
  rw [seen_replicate retriable, numbers, List.map_append, List.map_singleton] at sleeps
  rw [sleeps, List.getLast?_concat]

/-- A handler that accepts everything. -/
def acceptAll : CohortHandler :=
  ⟨fun _ _ => .ok (), fun _ _ => .ok (), fun _ _ => .ok ()⟩

/-- After 2 ^ 32 failures in a row the number of the sleep is one too small. -/
theorem last_sleep_saturates :
    ((CohortWsReceiver.run acceptAll (List.replicate (2 ^ 32) (.error (.httpStatus 503 "")))).1.sleeps.map
        UInt32.toNat).getLast? = some (2 ^ 32 - 1) ∧
      failuresSinceOpen (timeline (List.replicate (2 ^ 32) (.error (.httpStatus 503 "")))) = 2 ^ 32 := by
  have retriable : (DiscoveryError.httpStatus 503 "").isRetriable = true := rfl
  constructor
  · have last := @last_sleep_replicate acceptAll _ retriable (2 ^ 32 - 1)
    rwa [show 2 ^ 32 - 1 + 1 = 2 ^ 32 from rfl, show min (2 ^ 32) (2 ^ 32 - 1) = 2 ^ 32 - 1 from rfl] at last
  · rw [timeline_replicate, failuresSinceOpen_replicate retriable]

end Saturation

end BiBeam
