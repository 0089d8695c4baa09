import Mathlib.Data.Set.Basic
import BiBeam.Lib.Streak
import BiBeam.Node.CohortWsRuns

namespace BiBeam

/-- Milliseconds, as are the other two constants. -/
def initialReconnectBackoff : Nat :=
  500

def maxReconnectBackoff : Nat :=
  60000

def jitterCeilingMs : Nat :=
  250

/-- Multiplication and addition of 64-bit numbers that stop at the largest value. -/
def saturate64 (value : Nat) : Nat :=
  min value (2 ^ 64 - 1)

/-- The sleep before the next attempt, in milliseconds, for one draw of the jitter. -/
def computeBackoff (attempt : UInt32) (jitter : Fin jitterCeilingMs) : Nat :=
  let exponent := min ((attempt.saturatingSub 1).toNat) 20
  let scaled := saturate64 (initialReconnectBackoff * 2 ^ exponent)
  let capped := min scaled maxReconnectBackoff
  min (saturate64 (capped + jitter.val)) maxReconnectBackoff

/-- No sleep is shorter than the initial back-off, nor longer than the cap. -/
theorem computeBackoff_bounds (attempt : UInt32) (jitter : Fin jitterCeilingMs) :
    initialReconnectBackoff ≤ computeBackoff attempt jitter ∧ computeBackoff attempt jitter ≤ maxReconnectBackoff := by
  have scaled : 500 ≤ 500 * 2 ^ min (attempt.saturatingSub 1).toNat 20 := Nat.le_mul_of_pos_right 500 (Nat.pow_pos (by decide))
  unfold computeBackoff saturate64 initialReconnectBackoff maxReconnectBackoff
  dsimp only
  omega

/-- What a run does, as the coordinators notice it. -/
inductive ReceiverMoment
  | openSession
  | handed (event : CoordinatorEvent)
  | slept (delayMs : Nat)
deriving DecidableEq

namespace ReceiverMoment

/-- A call of `open_session`, or a sleep that is too short to throttle one. -/
def Unthrottled : ReceiverMoment → Prop
  | .openSession => True
  | .handed _ => False
  | .slept delayMs => delayMs < initialReconnectBackoff

/-- An event, or a sleep of whatever length. -/
def eventOrSleep? : ReceiverMoment → Option (Option CoordinatorEvent)
  | .openSession => none
  | .handed event => some (some event)
  | .slept _ => some none

end ReceiverMoment

def ReceiverAction.eventOrSleep? : ReceiverAction → Option (Option CoordinatorEvent)
  | .reconnectCounted => none
  | .handed event => some (some event)
  | .slept _ => some none

def ReceiverAction.moment? (jitter : Fin jitterCeilingMs) : ReceiverAction → Option ReceiverMoment
  | .reconnectCounted => none
  | .handed event => some (.handed event)
  | .slept attempt => some (.slept (computeBackoff attempt jitter))

/-- A session that the coordinator ends, cleanly or with an error that may
pass, before it has sent an event. -/
def QuietSession : Except DiscoveryError (List EventResult) → Prop
  | .ok (.ok none :: _) => True
  | .ok (.error err :: _) => err.isRetriable = true
  | _ => False

namespace CohortWsReceiver

variable (handler : CohortHandler) (draw : Nat → Fin jitterCeilingMs)

/-- What one round of the loop adds; the n-th sleep of a run takes the n-th draw. -/
def roundMoments (before after : ReceiverState) : List ReceiverMoment :=
  (after.actions.drop before.actions.length).filterMap (ReceiverAction.moment? (draw before.sleeps.length))

/-- The loop with its calls of `open_session`, of which the last may never be answered. -/
def moments (state : ReceiverState) : List (Except DiscoveryError (List EventResult)) → List ReceiverMoment
  | [] => [.openSession]
  | sessionResult :: rest =>
    .openSession ::
      match stepAfterConnect handler state sessionResult with
      | (after, some (.ok .continue_)) => roundMoments draw state after ++ moments after rest
      | (after, _) => roundMoments draw state after

/-- The state in which the loop makes the next call, if it gets there. -/
def arrives (state : ReceiverState) : List (Except DiscoveryError (List EventResult)) → Option ReceiverState
  | [] => some state
  | sessionResult :: rest =>
    match stepAfterConnect handler state sessionResult with
    | (after, some (.ok .continue_)) => arrives after rest
    | _ => none

variable {handler draw}

theorem moments_head (state : ReceiverState) (opens : List (Except DiscoveryError (List EventResult))) :
    ∃ behind, moments handler draw state opens = .openSession :: behind := by
  cases opens <;> exact ⟨_, rfl⟩

section Round

variable {state after : ReceiverState} {sessionResult : Except DiscoveryError (List EventResult)}

theorem moments_goes (goes : stepAfterConnect handler state sessionResult = (after, some (.ok .continue_)))
    (rest : List (Except DiscoveryError (List EventResult))) :
    moments handler draw state (sessionResult :: rest) =
      .openSession :: (roundMoments draw state after ++ moments handler draw after rest) := by
  rw [moments, goes]

/-- A round that does not lead to another call is the last one. -/
theorem moments_stops (stops : ∀ after, stepAfterConnect handler state sessionResult ≠ (after, some (.ok .continue_)))
    (rest : List (Except DiscoveryError (List EventResult))) :
    moments handler draw state (sessionResult :: rest) =
      .openSession :: roundMoments draw state (stepAfterConnect handler state sessionResult).1 := by
  rw [moments]
  split
  · rename_i goes
    exact absurd goes (stops _)
  · rename_i ended
    rw [ended]

/-- Every moment of a round throttles: it hands over an event or sleeps long enough. -/
theorem roundMoments_throttle (before after : ReceiverState) :
    ∀ moment ∈ roundMoments draw before after, ¬moment.Unthrottled := by
  intro moment member
  obtain ⟨action, _, isMoment⟩ := List.mem_filterMap.mp member
  cases action with
  | reconnectCounted => cases isMoment
  | handed event =>
    cases isMoment
    exact not_false
  | slept attempt =>
    cases isMoment
    exact Nat.not_lt.mpr (computeBackoff_bounds _ _).1

theorem roundMoments_append {before after : ReceiverState} {news : List ReceiverAction}
    (grown : after.actions = before.actions ++ news) :
    roundMoments draw before after = news.filterMap (ReceiverAction.moment? (draw before.sleeps.length)) := by
  rw [roundMoments, grown, List.drop_left]

theorem opened_actions (state : ReceiverState) :
    ∃ counted, (opened state).actions = state.actions ++ counted ∧
      ∀ jitter, counted.filterMap (ReceiverAction.moment? jitter) = [] := by
  unfold opened
  cases state.isFirstConnect with
  | true => exact ⟨[], (List.append_nil _).symm, fun _ => rfl⟩
  | false => exact ⟨[.reconnectCounted], rfl, fun _ => rfl⟩

theorem observe_actions (state : ReceiverState) (occurrence : Occurrence) :
    state.actions <+: (observe handler state occurrence).1.actions := by
  cases occurrence with
  | opened =>
    obtain ⟨counted, grown, _⟩ := opened_actions state
    exact ⟨counted, grown.symm⟩
  | event event => exact List.prefix_append ..
  | closed => exact List.prefix_rfl
  | streamFailed err => exact List.prefix_rfl
  | openFailed err =>
    rw [observe]
    split
    · exact List.prefix_append ..
    · exact List.prefix_rfl

/-- Pumping a session only adds to what has been done. -/
theorem driveSession_actions (state : ReceiverState) (session : List EventResult) :
    state.actions <+: (driveSession handler state session).1.actions := by
  induction session generalizing state with
  | nil => exact List.prefix_rfl
  | cons result rest ih =>
    have first := @observe_actions handler state result.occurrence
    rw [driveSession, handleEventResult_spec]
    cases (observe handler state result.occurrence).2 with
    | some err => exact first
    | none =>
      cases result.ends with
      | true => exact first
      | false => exact first.trans (ih _)

theorem driveSession_event (state : ReceiverState) (event : CoordinatorEvent) (rest : List EventResult) :
    (state.act (.handed event)).actions <+:
      (driveSession handler state (.ok (some event) :: rest)).1.actions := by
  have taken : observe handler state (EventResult.occurrence (.ok (some event))) =
      (state.act (.handed event), refusal handler state.handed event) := rfl
  rw [driveSession, handleEventResult_spec, taken]
  cases refusal handler state.handed event with
  | some err => exact List.prefix_rfl
  | none =>
    cases EventResult.ends (.ok (some event)) with
    | true => exact List.prefix_rfl
    | false => exact driveSession_actions _ _

theorem stepAfterConnect_actions (state : ReceiverState) (sessionResult : Except DiscoveryError (List EventResult)) :
    state.actions <+: (stepAfterConnect handler state sessionResult).1.actions := by
  cases sessionResult with
  | error err =>
    rw [stepAfterConnect]
    split
    · exact List.prefix_append ..
    · exact List.prefix_rfl
  | ok session =>
    obtain ⟨counted, grown, _⟩ := opened_actions state
    have first : state.actions <+: (opened state).actions := ⟨counted, grown.symm⟩
    have whole := first.trans (@driveSession_actions handler (opened state) session)
    rw [stepAfterConnect, driveToStepOutcome]
    split <;> rename_i ended <;> rw [ended] at whole <;> exact whole

theorem roundMoments_actions {before after : ReceiverState} (grown : before.actions <+: after.actions) :
    before.actions.filterMap ReceiverAction.eventOrSleep? ++
        (roundMoments draw before after).filterMap ReceiverMoment.eventOrSleep? =
      after.actions.filterMap ReceiverAction.eventOrSleep? := by
  obtain ⟨news, isAfter⟩ := grown
  rw [roundMoments_append isAfter.symm, List.filterMap_filterMap, ← isAfter, List.filterMap_append]
  congr 1
  refine List.filterMap_congr fun action _ => ?_
  cases action <;> rfl

/-- A quiet session leads to the next call at once. -/
theorem round_quiet (quiet : QuietSession sessionResult) (state : ReceiverState) :
    ∃ after, stepAfterConnect handler state sessionResult = (after, some (.ok .continue_)) ∧
      roundMoments draw state after = [] := by
  obtain ⟨counted, grown, silent⟩ := opened_actions state
  have added : roundMoments draw state (opened state) = [] := (roundMoments_append grown).trans (silent _)
  match sessionResult, quiet with
  | .ok (.ok none :: rest), _ => exact ⟨opened state, rfl, added⟩
  | .ok (.error err :: rest), retriable =>
    have goes : classifyStreamError err = .ok .reconnectRequested := if_pos retriable
    refine ⟨opened state, ?_, added⟩
    rw [stepAfterConnect, driveToStepOutcome, driveSession, handleEventResult, goes]
    rfl

/-- Every other round that leads to a next call hands over an event or sleeps. -/
theorem round_busy (busy : ¬QuietSession sessionResult)
    (goes : stepAfterConnect handler state sessionResult = (after, some (.ok .continue_))) :
    roundMoments draw state after ≠ [] := by
  cases sessionResult with
  | error err =>
    rw [stepAfterConnect] at goes
    split at goes
    · cases goes
      have grown : (handleRetriableOpenFailure state).1.actions =
          state.actions ++ [.slept (state.attempt.saturatingAdd 1)] := rfl
      change roundMoments draw state (handleRetriableOpenFailure state).1 ≠ []
      rw [roundMoments_append grown]
      exact List.cons_ne_nil _ _
    · cases goes
  | ok session =>
    cases session with
    | nil => cases goes
    | cons result rest =>
      cases result with
      | error err =>
        have stops : classifyStreamError err = .error (.permanent err) := if_neg busy
        rw [stepAfterConnect, driveToStepOutcome, driveSession, handleEventResult, stops] at goes
        cases goes
      | ok answer =>
        cases answer with
        | none => exact absurd trivial busy
        | some event =>
          obtain ⟨counted, grown, _⟩ := opened_actions state
          obtain ⟨more, isAfter⟩ := @driveSession_event handler (opened state) event rest
          have reached : (driveSession handler (opened state) (.ok (some event) :: rest)).1 = after := by
            rw [stepAfterConnect, driveToStepOutcome] at goes
            split at goes
            · cases goes
            · rename_i pumped
              cases goes
              rw [pumped]
            · cases goes
          rw [reached] at isAfter
          have news : after.actions = state.actions ++ (counted ++ (.handed event :: more)) := by
            rw [← isAfter, ReceiverState.act, grown]
            simp
          rw [roundMoments_append news]
          refine List.ne_nil_of_mem (a := .handed event) (List.mem_filterMap.mpr ⟨.handed event, ?_, rfl⟩)
          exact List.mem_append_right _ List.mem_cons_self

end Round

/-- Without its calls of `open_session` the marked run is the run of the loop:
the same events and sleeps in the same order. -/
theorem moments_actions (state : ReceiverState) (opens : List (Except DiscoveryError (List EventResult))) :
    state.actions.filterMap ReceiverAction.eventOrSleep? ++
        (moments handler draw state opens).filterMap ReceiverMoment.eventOrSleep? =
      (loop handler state opens).1.actions.filterMap ReceiverAction.eventOrSleep? := by
  induction opens generalizing state with
  | nil => exact List.append_nil _
  | cons sessionResult rest ih =>
    have grown := @stepAfterConnect_actions handler state sessionResult
    have round := @roundMoments_actions draw state _ grown
    rw [loop]
    by_cases goes : ∃ after, stepAfterConnect handler state sessionResult = (after, some (.ok .continue_))
    · obtain ⟨after, goes⟩ := goes
      rw [goes] at round
      rw [moments_goes goes, goes, ← ih after, ← round, List.filterMap_cons_none rfl, List.filterMap_append,
        List.append_assoc]
    · rw [moments_stops (not_exists.mp goes), List.filterMap_cons_none rfl, round]
      split
      · rename_i ended
        rw [ended]
      · rename_i ended
        exact absurd ⟨_, ended⟩ goes
      · rename_i ended
        rw [ended]

/-- What comes before a call that is reached comes before it in the run. -/
theorem moments_arrives {state after : ReceiverState} {front : List (Except DiscoveryError (List EventResult))}
    (arrived : arrives handler state front = some after)
    (behind : List (Except DiscoveryError (List EventResult))) :
    ∃ earlier, moments handler draw state (front ++ behind) = earlier ++ moments handler draw after behind := by
  induction front generalizing state with
  | nil =>
    cases arrived
    exact ⟨[], rfl⟩
  | cons sessionResult rest ih =>
    rw [arrives] at arrived
    split at arrived
    · rename_i next goes
      obtain ⟨earlier, later⟩ := ih arrived
      refine ⟨.openSession :: (roundMoments draw state next ++ earlier), ?_⟩
      rw [List.cons_append, moments_goes goes, later, List.cons_append, List.append_assoc]
    · cases arrived

/-- Quiet sessions are opened one right after the other. -/
theorem moments_quiet {burst : List (Except DiscoveryError (List EventResult))}
    (quiet : ∀ sessionResult ∈ burst, QuietSession sessionResult) (state : ReceiverState)
    (behind : List (Except DiscoveryError (List EventResult))) :
    ∃ after, moments handler draw state (burst ++ behind) =
      List.replicate burst.length .openSession ++ moments handler draw after behind := by
  induction burst generalizing state with
  | nil => exact ⟨state, rfl⟩
  | cons sessionResult rest ih =>
    obtain ⟨next, goes, silent⟩ := @round_quiet handler draw _ (quiet sessionResult List.mem_cons_self) state
    obtain ⟨after, later⟩ := ih (fun other member => quiet other (List.mem_cons_of_mem _ member)) next
    refine ⟨after, ?_⟩
    rw [List.cons_append, moments_goes goes, silent, List.nil_append, later]
    rfl

/-- Where the run gets to, quiet sessions in a row that make for this many calls. -/
def HasBurst (handler : CohortHandler) (state : ReceiverState)
    (opens : List (Except DiscoveryError (List EventResult))) (calls : Nat) : Prop :=
  ∃ before burst after, opens = before ++ burst ++ after ∧ (arrives handler state before).isSome = true ∧
    (∀ sessionResult ∈ burst, QuietSession sessionResult) ∧ calls ≤ burst.length + 1

theorem HasBurst.single {state : ReceiverState} {opens : List (Except DiscoveryError (List EventResult))}
    {calls : Nat} (one : calls ≤ 1) : HasBurst handler state opens calls :=
  ⟨[], [], opens, rfl, rfl, fun _ member => (nomatch member), one⟩

theorem HasBurst.behind {state next : ReceiverState} {sessionResult : Except DiscoveryError (List EventResult)}
    {rest : List (Except DiscoveryError (List EventResult))} {calls : Nat}
    (goes : stepAfterConnect handler state sessionResult = (next, some (.ok .continue_)))
    (later : HasBurst handler next rest calls) : HasBurst handler state (sessionResult :: rest) calls := by
  obtain ⟨before, burst, after, parts, arrived, quiet, counted⟩ := later
  refine ⟨sessionResult :: before, burst, after, ?_, ?_, quiet, counted⟩
  · rw [parts]
    rfl
  · rw [arrives, goes]
    exact arrived

/-- Calls in a row from the start of a run have a quiet session behind each but the last. -/
theorem burst_of_front {state : ReceiverState} {opens : List (Except DiscoveryError (List EventResult))}
    {stretch : List ReceiverMoment} (all : ∀ moment ∈ stretch, moment.Unthrottled)
    (begins : stretch <+: moments handler draw state opens) :
    ∃ burst, burst <+: opens ∧ (∀ sessionResult ∈ burst, QuietSession sessionResult) ∧
      stretch.count .openSession ≤ burst.length + 1 := by
  induction opens generalizing state stretch with
  | nil =>
    refine ⟨[], List.nil_prefix, fun _ member => (nomatch member), ?_⟩
    exact List.count_le_length.trans begins.length_le
  | cons sessionResult rest ih =>
    cases stretch with
    | nil => exact ⟨[], List.nil_prefix, fun _ member => (nomatch member), Nat.zero_le _⟩
    | cons first others =>
      have behind : ∀ moment ∈ others, moment.Unthrottled := fun moment member =>
        all moment (List.mem_cons_of_mem _ member)
      have alone : others = [] → ∃ burst, burst <+: sessionResult :: rest ∧
          (∀ sessionResult ∈ burst, QuietSession sessionResult) ∧
          (first :: others).count .openSession ≤ burst.length + 1 := by
        rintro rfl
        exact ⟨[], List.nil_prefix, fun _ member => (nomatch member), List.count_le_length⟩
      by_cases quiet : QuietSession sessionResult
      · obtain ⟨next, goes, silent⟩ := @round_quiet handler draw _ quiet state
        rw [moments_goes goes, silent, List.nil_append] at begins
        obtain ⟨_, further⟩ := List.cons_prefix_cons.mp begins
        obtain ⟨burst, within, allQuiet, counted⟩ := ih behind further
        refine ⟨sessionResult :: burst, List.cons_prefix_cons.mpr ⟨rfl, within⟩,
          List.forall_mem_cons.mpr ⟨quiet, allQuiet⟩, ?_⟩
        have atMost : (first :: others).count .openSession ≤ others.count .openSession + 1 := by
          rw [List.count_cons]
          split <;> omega
        rw [List.length_cons]
        omega
      · by_cases goes : ∃ after, stepAfterConnect handler state sessionResult = (after, some (.ok .continue_))
        · obtain ⟨after, goes⟩ := goes
          rw [moments_goes goes] at begins
          obtain ⟨_, further⟩ := List.cons_prefix_cons.mp begins
          exact alone (Streak.eq_nil_of_front (roundMoments_throttle _ _) (round_busy quiet goes) behind further)
        · rw [moments_stops (not_exists.mp goes)] at begins
          obtain ⟨_, further⟩ := List.cons_prefix_cons.mp begins
          exact alone (Streak.eq_nil_of_subset (roundMoments_throttle _ _) behind further.subset)

/-- Wherever calls in a row lie in a run, the run gets to the first of them
and finds a quiet session behind each but the last. -/
theorem burst_of_infix {state : ReceiverState} {opens : List (Except DiscoveryError (List EventResult))}
    {stretch : List ReceiverMoment} (all : ∀ moment ∈ stretch, moment.Unthrottled)
    (within : stretch <:+: moments handler draw state opens) :
    HasBurst handler state opens (stretch.count .openSession) := by
  induction opens generalizing state with
  | nil => exact .single (List.count_le_length.trans within.length_le)
  | cons sessionResult rest ih =>
    have fromStart : stretch <+: moments handler draw state (sessionResult :: rest) →
        HasBurst handler state (sessionResult :: rest) (stretch.count .openSession) := by
      intro begins
      obtain ⟨burst, ⟨after, parts⟩, quiet, counted⟩ := burst_of_front all begins
      exact ⟨[], burst, after, parts.symm, rfl, quiet, counted⟩
    by_cases goes : ∃ after, stepAfterConnect handler state sessionResult = (after, some (.ok .continue_))
    · obtain ⟨next, goes⟩ := goes
      have whole := @moments_goes handler draw _ _ _ goes rest
      rw [whole] at within
      rcases List.infix_cons_iff.mp within with begins | later
      · exact fromStart (whole ▸ begins)
      · exact (ih (Streak.infix_of_append (roundMoments_throttle _ _) all later)).behind goes
    · have whole := @moments_stops handler draw _ _ (not_exists.mp goes) rest
      rw [whole] at within
      rcases List.infix_cons_iff.mp within with begins | later
      · exact fromStart (whole ▸ begins)
      · rw [Streak.eq_nil_of_subset (roundMoments_throttle _ _) all later.subset]
        exact .single (Nat.zero_le 1)

end CohortWsReceiver

/-- One run of the receiver: its handler, its jitter draws, and what the calls
of `open_session` give. A run that goes on for ever is all its beginnings, and
a cancelled one ends within one of these. -/
structure ReceiverRun where
  handler : CohortHandler
  draw : Nat → Fin jitterCeilingMs
  opens : List (Except DiscoveryError (List EventResult))

namespace ReceiverRun

def moments (run : ReceiverRun) : List ReceiverMoment :=
  CohortWsReceiver.moments run.handler run.draw .start run.opens

/-- No more calls of `open_session` than the bound follow one another without
a long enough sleep and without an event for the handler. -/
def CallsWithin (bound : Nat) (run : ReceiverRun) : Prop :=
  ∀ stretch, stretch <:+: run.moments → (∀ moment ∈ stretch, moment.Unthrottled) →
    stretch.count .openSession ≤ bound

/-- No more sessions than the bound that the run opens one after the other are quiet. -/
def QuietWithin (bound : Nat) (run : ReceiverRun) : Prop :=
  ∀ before burst after, run.opens = before ++ burst ++ after →
    (CohortWsReceiver.arrives run.handler .start before).isSome = true →
    (∀ sessionResult ∈ burst, QuietSession sessionResult) → burst.length ≤ bound

theorem callsWithin_iff (run : ReceiverRun) (bound : Nat) :
    run.CallsWithin (bound + 1) ↔ run.QuietWithin bound := by
  constructor
  · intro calls before burst after parts arrived quiet
    obtain ⟨state, arrived⟩ := Option.isSome_iff_exists.mp arrived
    obtain ⟨earlier, whole⟩ := @CohortWsReceiver.moments_arrives run.handler run.draw _ _ _ arrived (burst ++ after)
    obtain ⟨next, inARow⟩ := @CohortWsReceiver.moments_quiet run.handler run.draw _ quiet state after
    obtain ⟨behind, first⟩ := @CohortWsReceiver.moments_head run.handler run.draw next after
    have within : List.replicate (burst.length + 1) .openSession <:+: run.moments := by
      refine ⟨earlier, behind, ?_⟩
      rw [moments, parts, List.append_assoc before, whole, inARow, first, List.replicate_succ']
      simp
    have counted := calls _ within fun moment member => by
      rw [List.eq_of_mem_replicate member]
      exact trivial
    rw [List.count_replicate_self] at counted
    omega
  · intro quiet stretch within all
    obtain ⟨before, burst, after, parts, arrived, allQuiet, counted⟩ := CohortWsReceiver.burst_of_infix all within
    exact counted.trans (Nat.add_le_add_right (quiet before burst after parts arrived allQuiet) 1)

end ReceiverRun

/-- Whatever runs the coordinators bring about: the calls of `open_session` in
a row are bounded exactly when the quiet sessions in a row are. -/
theorem reconnects_throttled_iff (runs : Set ReceiverRun) :
    (∃ bound, ∀ run ∈ runs, run.CallsWithin bound) ↔ ∃ bound, ∀ run ∈ runs, run.QuietWithin bound := by
  constructor
  · rintro ⟨bound, calls⟩
    refine ⟨bound, fun run member => (run.callsWithin_iff bound).mp fun stretch within all => ?_⟩
    exact (calls run member stretch within all).trans (Nat.le_succ bound)
  · rintro ⟨bound, quiet⟩
    exact ⟨bound + 1, fun run member => (run.callsWithin_iff bound).mpr (quiet run member)⟩

/-- Coordinators that close every session at once are called without a pause, any number of times. -/
theorem closedAtOnce_unthrottled : ¬∃ bound, ∀ run : ReceiverRun, run.CallsWithin bound := by
  rintro ⟨bound, calls⟩
  have quiet := (ReceiverRun.callsWithin_iff ⟨acceptAll, fun _ => ⟨0, by decide⟩,
    List.replicate (bound + 1) (.ok [.ok none])⟩ bound).mp fun stretch within all =>
      (calls _ stretch within all).trans (Nat.le_succ bound)
  have counted := quiet [] (List.replicate (bound + 1) (.ok [.ok none])) [] (List.append_nil _).symm rfl
    fun sessionResult member => by
      rw [List.eq_of_mem_replicate member]
      exact trivial
  rw [List.length_replicate] at counted
  omega

end BiBeam
