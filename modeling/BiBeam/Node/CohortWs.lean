import BiBeam.Discovery.Failover
import BiBeam.Lib.Saturating
import BiBeam.Protocol.Frame

namespace BiBeam

inductive CoordinatorEvent
  | cohortAssigned (cohort : CohortLive)
  | cohortRotated (rotation : CohortRotate)
  | disconnect (reason : String)
deriving DecidableEq

inductive CohortWsError
  | permanent (error : DiscoveryError)
  | handler (text : String)
deriving DecidableEq

/-- The caller's sink. What it answers may depend on the events it was handed before. -/
structure CohortHandler where
  onAssigned : List CoordinatorEvent → CohortLive → Except String Unit
  onRotated : List CoordinatorEvent → CohortRotate → Except String Unit
  onDisconnect : List CoordinatorEvent → String → Except String Unit

/-- One answer of an open session: an event, a clean close or a failure. -/
abbrev EventResult := Except DiscoveryError (Option CoordinatorEvent)

/-- What the receiver does that others see. -/
inductive ReceiverAction
  | reconnectCounted
  | handed (event : CoordinatorEvent)
  | slept (attempt : UInt32)
deriving DecidableEq

structure ReceiverState where
  isFirstConnect : Bool
  attempt : UInt32
  actions : List ReceiverAction

namespace ReceiverState

def start : ReceiverState :=
  ⟨true, 0, []⟩

def act (state : ReceiverState) (action : ReceiverAction) : ReceiverState :=
  { state with actions := state.actions ++ [action] }

/-- The events handed to the handler, oldest first. -/
def handed (state : ReceiverState) : List CoordinatorEvent :=
  state.actions.filterMap fun action =>
    match action with
    | .handed event => some event
    | _ => none

/-- The attempt number of each sleep, oldest first. -/
def sleeps (state : ReceiverState) : List UInt32 :=
  state.actions.filterMap fun action =>
    match action with
    | .slept attempt => some attempt
    | _ => none

def reconnects (state : ReceiverState) : Nat :=
  state.actions.count .reconnectCounted

end ReceiverState

inductive EventRoute
  | consumed
  | disconnectRequested

/-- How a session ends when nobody cancels it. -/
inductive SessionOutcome
  | reconnectRequested

inductive StepOutcome
  | continue_

def streamClosedCleanly : SessionOutcome :=
  .reconnectRequested

def classifyStreamError (err : DiscoveryError) : Except CohortWsError SessionOutcome :=
  if err.isRetriable then .ok .reconnectRequested else .error (.permanent err)

namespace CohortWsReceiver

variable (handler : CohortHandler)

def routeEvent (state : ReceiverState) (event : CoordinatorEvent) : ReceiverState × Except CohortWsError EventRoute :=
  let before := state.handed
  let state := state.act (.handed event)
  match event with
  | .cohortAssigned cohort =>
    match handler.onAssigned before cohort with
    | .error text => (state, .error (.handler text))
    | .ok () => (state, .ok .consumed)
  | .cohortRotated rotation =>
    match handler.onRotated before rotation with
    | .error text => (state, .error (.handler text))
    | .ok () => (state, .ok .consumed)
  | .disconnect reason =>
    match handler.onDisconnect before reason with
    | .error text => (state, .error (.handler text))
    | .ok () => (state, .ok .disconnectRequested)

def dispatchOneEvent (state : ReceiverState) (event : CoordinatorEvent) :
    ReceiverState × Except CohortWsError (Option SessionOutcome) :=
  match routeEvent handler state event with
  | (state, .error err) => (state, .error err)
  | (state, .ok .disconnectRequested) => (state, .ok (some .reconnectRequested))
  | (state, .ok .consumed) => (state, .ok none)

def handleEventResult (state : ReceiverState) (result : EventResult) :
    ReceiverState × Except CohortWsError (Option SessionOutcome) :=
  match result with
  | .ok (some event) => dispatchOneEvent handler state event
  | .ok none => (state, .ok (some streamClosedCleanly))
  | .error err => (state, (classifyStreamError err).map some)

/-- Pump a session until it ends; one that says nothing more is waited for. -/
def driveSession (state : ReceiverState) : List EventResult → ReceiverState × Option (Except CohortWsError SessionOutcome)
  | [] => (state, none)
  | result :: rest =>
    match handleEventResult handler state result with
    | (state, .error err) => (state, some (.error err))
    | (state, .ok (some outcome)) => (state, some (.ok outcome))
    | (state, .ok none) => driveSession state rest

def driveToStepOutcome (state : ReceiverState) (session : List EventResult) :
    ReceiverState × Option (Except CohortWsError StepOutcome) :=
  match driveSession handler state session with
  | (state, some (.error err)) => (state, some (.error err))
  | (state, some (.ok .reconnectRequested)) => (state, some (.ok .continue_))
  | (state, none) => (state, none)

def sleepWithBackoff (state : ReceiverState) (attempt : UInt32) : ReceiverState :=
  state.act (.slept attempt)

def handleRetriableOpenFailure (state : ReceiverState) : ReceiverState × Option (Except CohortWsError StepOutcome) :=
  let state := { state with attempt := state.attempt.saturatingAdd 1 }
  (sleepWithBackoff state state.attempt, some (.ok .continue_))

/-- What happens to the state when a session opens. -/
def opened (state : ReceiverState) : ReceiverState :=
  let state := if !state.isFirstConnect then state.act .reconnectCounted else state
  { state with isFirstConnect := false, attempt := 0 }

def stepAfterConnect (state : ReceiverState) (sessionResult : Except DiscoveryError (List EventResult)) :
    ReceiverState × Option (Except CohortWsError StepOutcome) :=
  match sessionResult with
  | .ok session => driveToStepOutcome handler (opened state) session
  | .error err =>
    if err.isRetriable then handleRetriableOpenFailure state else (state, some (.error (.permanent err)))

/-- The loop over the results of opening a session, each opened one with its
answers. It yields an error, or nothing as long as it goes on. -/
def loop (state : ReceiverState) : List (Except DiscoveryError (List EventResult)) → ReceiverState × Option CohortWsError
  | [] => (state, none)
  | sessionResult :: rest =>
    match stepAfterConnect handler state sessionResult with
    | (state, some (.error err)) => (state, some err)
    | (state, some (.ok .continue_)) => loop state rest
    | (state, none) => (state, none)

def run (opens : List (Except DiscoveryError (List EventResult))) : ReceiverState × Option CohortWsError :=
  loop handler .start opens

/-- What has been taken of the openings when the receiver finds its token fired:
at each of its `select!`s, in place of the next opening, of the rest of a sleep
or of the next answer of a session. -/
inductive TakenBefore : List (Except DiscoveryError (List EventResult)) →
    List (Except DiscoveryError (List EventResult)) → Prop
  | opening {rest} : TakenBefore rest []
  | sleeping {err rest} : err.isRetriable = true → TakenBefore (.error err :: rest) [.error err]
  | pumping (front behind : List EventResult) {rest} : TakenBefore (.ok (front ++ behind) :: rest) [.ok front]
  | later {opening rest taken} : TakenBefore rest taken → TakenBefore (opening :: rest) (opening :: taken)

/-- How the receiver can stand when its token has fired or has not: it goes on,
it has stopped with an error, or it was cancelled where it waited. -/
inductive Stands (fired : Bool) (opens : List (Except DiscoveryError (List EventResult))) :
    ReceiverState → Option (Except CohortWsError Unit) → Prop
  | goesOn {state} : run handler opens = (state, none) → Stands fired opens state none
  | failed {state err} : run handler opens = (state, some err) → Stands fired opens state (some (.error err))
  | cancelled {taken state} : fired = true → TakenBefore opens taken → run handler taken = (state, none) →
      Stands fired opens state (some (.ok ()))

end CohortWsReceiver

end BiBeam
