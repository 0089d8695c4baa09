import BiBeam.Node.CohortWsRuns

namespace BiBeam

/-- A WebSocket message, with its content where the program looks at it. -/
inductive Message
  | text (text : String)
  | binary
  | ping
  | pong
  | frame
  | close
deriving DecidableEq

/-- One thing that the stream of a connection yields. -/
inductive StreamItem
  | message (message : Message)
  | failed (err : WsError)
  | ended
deriving DecidableEq

inductive WirePayload
  | cohortAssigned (cohort : CohortLive)
  | cohortRotated (rotation : CohortRotate)
  | disconnect (reason : String)
deriving DecidableEq

def CoordinatorEvent.ofWire : WirePayload → CoordinatorEvent
  | .cohortAssigned cohort => .cohortAssigned cohort
  | .cohortRotated rotation => .cohortRotated rotation
  | .disconnect reason => .disconnect reason

def WirePayload.ofEvent : CoordinatorEvent → WirePayload
  | .cohortAssigned cohort => .cohortAssigned cohort
  | .cohortRotated rotation => .cohortRotated rotation
  | .disconnect reason => .disconnect reason

/-- The JSON library, at the type of the payloads. -/
structure PayloadJson where
  toString : WirePayload → Except String String
  fromStr : String → Except String WirePayload

/-- A payload that could be written is read back. -/
structure PayloadJson.Lawful (json : PayloadJson) : Prop where
  back : ∀ payload text, json.toString payload = .ok text → json.fromStr text = .ok payload

def encodeEvent (json : PayloadJson) (event : CoordinatorEvent) : Except DiscoveryError String :=
  (json.toString (.ofEvent event)).mapError .json

namespace CoordinatorWs

/-- The next event of a stream and the stream behind it, or nothing while the
stream has nothing more to say. -/
def nextEvent (json : PayloadJson) : List StreamItem → Option (EventResult × List StreamItem)
  | [] => none
  | .ended :: rest => some (.ok none, rest)
  | .failed err :: rest => some (.error (.ws err), rest)
  | .message message :: rest =>
    match message with
    | .text text =>
      match json.fromStr text with
      | .error err => some (.error (.json err), rest)
      | .ok wire => some (.ok (some (.ofWire wire)), rest)
    | .close => some (.ok none, rest)
    | .binary | .ping | .pong | .frame => nextEvent json rest

variable {json : PayloadJson}

theorem nextEvent_shorter {stream rest : List StreamItem} {result : EventResult}
    (next : nextEvent json stream = some (result, rest)) : rest.length < stream.length := by
  induction stream with
  | nil => cases next
  | cons item behind ih =>
    rw [List.length_cons]
    cases item with
    | ended => cases next; omega
    | failed err => cases next; omega
    | message message =>
      cases message with
      | text text =>
        rw [nextEvent] at next
        split at next <;> cases next <;> omega
      | close => cases next; omega
      | _ =>
        have later := ih next
        omega

/-- What a caller gets that asks for one event after the other. -/
def answers (json : PayloadJson) (stream : List StreamItem) : List EventResult :=
  match _ : nextEvent json stream with
  | none => []
  | some (result, rest) => result :: answers json rest
termination_by stream.length
decreasing_by exact nextEvent_shorter ‹_›

/-- What an item of the stream says on its own. -/
def answer? (json : PayloadJson) : StreamItem → Option EventResult
  | .ended => some (.ok none)
  | .failed err => some (.error (.ws err))
  | .message (.text text) => some (((json.fromStr text).mapError .json).map fun wire => some (.ofWire wire))
  | .message .close => some (.ok none)
  | .message _ => none

theorem nextEvent_cons (item : StreamItem) (stream : List StreamItem) :
    nextEvent json (item :: stream) =
      match answer? json item with
      | none => nextEvent json stream
      | some result => some (result, stream) := by
  cases item with
  | ended => rfl
  | failed err => rfl
  | message message =>
    cases message with
    | text text =>
      rw [nextEvent, answer?]
      cases json.fromStr text <;> rfl
    | _ => rfl

theorem answers_none {stream : List StreamItem} (silent : nextEvent json stream = none) : answers json stream = [] := by
  rw [answers]
  split
  case h_1 => rfl
  case h_2 next =>
    rw [silent] at next
    cases next

theorem answers_some {stream rest : List StreamItem} {result : EventResult}
    (told : nextEvent json stream = some (result, rest)) : answers json stream = result :: answers json rest := by
  rw [answers]
  split
  case h_1 next =>
    rw [told] at next
    cases next
  case h_2 next =>
    rw [told] at next
    cases next
    rfl

theorem answers_eq (stream : List StreamItem) : answers json stream = stream.filterMap (answer? json) := by
  induction stream with
  | nil => exact answers_none rfl
  | cons item rest ih =>
    have here := @nextEvent_cons json item rest
    cases said : answer? json item with
    | some result =>
      rw [said] at here
      rw [answers_some here, ih, List.filterMap_cons_some said]
    | none =>
      rw [said] at here
      rw [List.filterMap_cons_none said, ← ih]
      cases next : nextEvent json rest with
      | none => rw [answers_none (here.trans next), answers_none next]
      | some told => rw [answers_some (here.trans next), answers_some next]

end CoordinatorWs

/-- A session as its coordinator drives it: the events it pushes, and how the
stream ends if it does, with a failure or without. -/
structure PushedSession where
  events : List CoordinatorEvent
  ending : Option (Option WsError)

/-- Messages that say nothing to the program. -/
def Message.silent : Message → Bool
  | binary | ping | pong | frame => true
  | _ => false

/-- A stream that carries events among messages that say nothing. -/
inductive Pushes (json : PayloadJson) : List CoordinatorEvent → List StreamItem → Prop
  | nil : Pushes json [] []
  | event {event text events stream} : encodeEvent json event = .ok text → Pushes json events stream →
      Pushes json (event :: events) (.message (.text text) :: stream)
  | control {message events stream} : message.silent = true → Pushes json events stream →
      Pushes json events (.message message :: stream)

/-- How a stream goes on behind what was pushed on it. -/
inductive Ends : Option (Option WsError) → List StreamItem → Prop
  | open_ : Ends none []
  | closed {rest} : Ends (some none) (.message .close :: rest)
  | ended {rest} : Ends (some none) (.ended :: rest)
  | failed {err rest} : Ends (some (some err)) (.failed err :: rest)

def Carried (json : PayloadJson) : Except DiscoveryError PushedSession → Except DiscoveryError (List StreamItem) → Prop
  | .error err, .error other => err = other
  | .ok session, .ok stream => ∃ front behind, Pushes json session.events front ∧ Ends session.ending behind ∧
      stream = front ++ behind
  | _, _ => False

def CoordinatorEvent.isDisconnect : CoordinatorEvent → Bool
  | disconnect _ => true
  | _ => false

/-- The coordinator has asked for a disconnect, or the stream has ended. -/
def PushedSession.isOver (session : PushedSession) : Bool :=
  session.events.any CoordinatorEvent.isDisconnect || session.ending.isSome

/-- The events of all sessions, each up to the disconnect it asks for. -/
def pushed : List (Except DiscoveryError PushedSession) → List CoordinatorEvent
  | [] => []
  | .error _ :: rest => pushed rest
  | .ok session :: rest =>
    InTurn.asked CoordinatorEvent.isDisconnect session.events ++ if session.isOver then pushed rest else []

/-- The receiver behind the streams: what is handed on is what was pushed, and
nothing stops it but its handler, the failures of the connections and its token. -/
structure Conveys (fired : Bool) (opens : List (Except DiscoveryError PushedSession)) (final : ReceiverState)
    (result : Option (Except CohortWsError Unit)) : Prop where
  inOrder : final.handed <+: pushed opens
  whole : result = none → final.handed = pushed opens
  cancelled : result = some (.ok ()) → fired = true
  blamed : ∀ err, result = some (.error err) → (∃ text, err = .handler text) ∨ ∃ error, err = .permanent error ∧
    error.isRetriable = false ∧
    (.error error ∈ opens ∨ ∃ session ws, .ok session ∈ opens ∧ session.ending = some (some ws) ∧ error = .ws ws)

namespace PushedSession

def lastAnswer : Option WsError → EventResult
  | none => .ok none
  | some err => .error (.ws err)

theorem answers_pushes {json : PayloadJson} (lawful : json.Lawful) {events : List CoordinatorEvent}
    {front : List StreamItem} (pushes : Pushes json events front) :
    CoordinatorWs.answers json front = events.map fun event => .ok (some event) := by
  rw [CoordinatorWs.answers_eq]
  induction pushes with
  | nil => rfl
  | @event event text events stream encoded _ ih =>
    have written : json.toString (.ofEvent event) = .ok text := by
      unfold encodeEvent at encoded
      cases told : json.toString (.ofEvent event) with
      | error err => rw [told] at encoded; cases encoded
      | ok other => rw [told] at encoded; cases encoded; rfl
    have back : CoordinatorWs.answer? json (.message (.text text)) = some (.ok (some event)) := by
      rw [CoordinatorWs.answer?, lawful.back _ _ written]
      cases event <;> rfl
    rw [List.filterMap_cons_some back, ih, List.map_cons]
  | @control message events stream silent _ ih =>
    have nothing : CoordinatorWs.answer? json (.message message) = none := by
      cases message with
      | text => cases silent
      | close => cases silent
      | _ => rfl
    rw [List.filterMap_cons_none nothing, ih]

/-- A carried session is answered by its events and then, if it ends, by its end. -/
theorem answers_carried {json : PayloadJson} (lawful : json.Lawful) {session : PushedSession} {stream : List StreamItem}
    (carried : Carried json (.ok session) (.ok stream)) : ∃ more, CoordinatorWs.answers json stream =
      (session.events.map fun event => .ok (some event)) ++ session.ending.elim [] fun ending => lastAnswer ending :: more := by
  obtain ⟨front, behind, pushes, ends, rfl⟩ := carried
  have events := answers_pushes lawful pushes
  rw [CoordinatorWs.answers_eq] at events
  rw [CoordinatorWs.answers_eq, List.filterMap_append, events]
  cases ends' : session.ending with
  | none =>
    rw [ends'] at ends
    cases ends
    exact ⟨[], rfl⟩
  | some ending =>
    rw [ends'] at ends
    cases ends with
    | closed => exact ⟨_, rfl⟩
    | ended => exact ⟨_, rfl⟩
    | failed => exact ⟨_, rfl⟩

/-- The answers up to the end of the session. -/
theorem asked_answers {events : List CoordinatorEvent} {tail : List EventResult}
    (ends : ∀ result ∈ tail, result.ends = true) :
    InTurn.asked EventResult.ends ((events.map fun event => .ok (some event)) ++ tail) =
      ((InTurn.asked CoordinatorEvent.isDisconnect events).map fun event => .ok (some event)) ++
        if events.any CoordinatorEvent.isDisconnect then [] else tail.head?.toList := by
  induction events with
  | nil =>
    cases tail with
    | nil => rfl
    | cons result rest => simp [InTurn.asked, ends result List.mem_cons_self]
  | cons event events ih =>
    have same : EventResult.ends (.ok (some event)) = event.isDisconnect := by cases event <;> rfl
    rw [List.map_cons, List.cons_append, InTurn.asked, InTurn.asked, same, ih]
    cases stops : event.isDisconnect <;> simp [stops]

theorem lastAnswer_ends (ending : Option WsError) : (lastAnswer ending).ends = true := by
  cases ending <;> rfl

/-- What the receiver can see of a session, apart from its opening. -/
def occurrences (session : PushedSession) : List Occurrence :=
  (InTurn.asked CoordinatorEvent.isDisconnect session.events).map Occurrence.event ++
    if session.events.any CoordinatorEvent.isDisconnect then [] else
      session.ending.toList.map fun ending => (lastAnswer ending).occurrence

theorem carried_occurrences {json : PayloadJson} (lawful : json.Lawful) {session : PushedSession}
    {stream : List StreamItem} (carried : Carried json (.ok session) (.ok stream)) :
    (InTurn.asked EventResult.ends (CoordinatorWs.answers json stream)).map EventResult.occurrence =
      session.occurrences ∧ (CoordinatorWs.answers json stream).any EventResult.ends = session.isOver := by
  obtain ⟨more, answers⟩ := answers_carried lawful carried
  have disconnects : (session.events.map fun event => (.ok (some event) : EventResult)).any EventResult.ends =
      session.events.any CoordinatorEvent.isDisconnect := by
    rw [List.any_map]
    exact congrArg (session.events.any ·) (funext fun event => by cases event <;> rfl)
  have events : (InTurn.asked CoordinatorEvent.isDisconnect session.events).map
      (EventResult.occurrence ∘ fun event => .ok (some event)) =
      (InTurn.asked CoordinatorEvent.isDisconnect session.events).map Occurrence.event := rfl
  rw [answers, occurrences, isOver, List.any_append, disconnects]
  cases session.ending with
  | none =>
    rw [Option.elim_none, asked_answers (List.forall_mem_nil _), List.map_append, List.map_map, events]
    refine ⟨?_, rfl⟩
    split <;> rfl
  | some ending =>
    have stops : ∀ result ∈ [lastAnswer ending], result.ends = true := by
      intro result member
      rw [List.mem_singleton.mp member]
      exact lastAnswer_ends ending
    rw [Option.elim_some, InTurn.asked_append_settled (lastAnswer_ends ending), asked_answers stops, List.map_append,
      List.map_map, events, List.any_cons, lastAnswer_ends]
    refine ⟨?_, rfl⟩
    split <;> rfl

end PushedSession

/-- What the receiver can see of all sessions. -/
def pushedTimeline : List (Except DiscoveryError PushedSession) → List Occurrence
  | [] => []
  | .error err :: rest => .openFailed err :: pushedTimeline rest
  | .ok session :: rest => .opened :: session.occurrences ++ if session.isOver then pushedTimeline rest else []

section Conveyed

variable {json : PayloadJson} {opens : List (Except DiscoveryError PushedSession)}
  {streams : List (Except DiscoveryError (List StreamItem))}

theorem timeline_carried (lawful : json.Lawful) (carried : List.Forall₂ (Carried json) opens streams) :
    timeline (streams.map fun stream => stream.map (CoordinatorWs.answers json)) = pushedTimeline opens := by
  induction carried with
  | nil => rfl
  | @cons opening stream opens streams here _ ih =>
    cases opening with
    | error err =>
      cases stream with
      | ok stream => exact absurd here id
      | error other =>
        obtain rfl : err = other := here
        rw [List.map_cons, pushedTimeline, ← ih]
        rfl
    | ok session =>
      cases stream with
      | error other => exact absurd here id
      | ok stream =>
        obtain ⟨seen, isOver⟩ := PushedSession.carried_occurrences lawful here
        rw [List.map_cons, pushedTimeline, ← ih, ← seen, ← isOver]
        rfl

theorem lastAnswer_event (ending : Option WsError) :
    ((PushedSession.lastAnswer ending).occurrence).event? = none := by
  cases ending <;> rfl

theorem pushedTimeline_events (opens : List (Except DiscoveryError PushedSession)) :
    (pushedTimeline opens).filterMap Occurrence.event? = pushed opens := by
  induction opens with
  | nil => rfl
  | cons opening opens ih =>
    cases opening with
    | error err => exact ih
    | ok session =>
      have events : session.occurrences.filterMap Occurrence.event? =
          InTurn.asked CoordinatorEvent.isDisconnect session.events := by
        have quiet : (session.ending.toList.map fun ending => (PushedSession.lastAnswer ending).occurrence).filterMap
            Occurrence.event? = [] := by
          rw [List.filterMap_map]
          exact List.filterMap_eq_nil_iff.mpr fun ending _ => lastAnswer_event ending
        have same : ((InTurn.asked CoordinatorEvent.isDisconnect session.events).map Occurrence.event).filterMap
            Occurrence.event? = InTurn.asked CoordinatorEvent.isDisconnect session.events := by
          rw [List.filterMap_map]
          exact List.filterMap_some
        rw [PushedSession.occurrences, List.filterMap_append, same]
        split
        · exact List.append_nil _
        · rw [quiet, List.append_nil]
      rw [pushedTimeline, pushed, List.cons_append, List.filterMap_cons_none rfl, List.filterMap_append, events]
      split
      · rw [ih]
      · rfl

/-- A failure that the receiver sees is one of opening a connection or of the connection itself. -/
def Origin (opens : List (Except DiscoveryError PushedSession)) : Occurrence → Prop
  | .openFailed err => .error err ∈ opens
  | .streamFailed err => ∃ session ws, .ok session ∈ opens ∧ session.ending = some (some ws) ∧ err = .ws ws
  | _ => True

theorem Origin.cons {occurrence : Occurrence} (origin : Origin opens occurrence)
    (opening : Except DiscoveryError PushedSession) : Origin (opening :: opens) occurrence := by
  cases occurrence with
  | openFailed err => exact List.mem_cons_of_mem _ origin
  | streamFailed err =>
    obtain ⟨session, ws, listed, rest⟩ := origin
    exact ⟨session, ws, List.mem_cons_of_mem _ listed, rest⟩
  | _ => trivial

theorem origin_of_mem {occurrence : Occurrence} (member : occurrence ∈ pushedTimeline opens) :
    Origin opens occurrence := by
  induction opens with
  | nil => exact absurd member List.not_mem_nil
  | cons opening opens ih =>
    cases opening with
    | error err =>
      rcases List.mem_cons.mp member with rfl | later
      · exact List.mem_cons_self
      · exact (ih later).cons _
    | ok session =>
      rw [pushedTimeline, List.cons_append, List.mem_cons, List.mem_append, PushedSession.occurrences,
        List.mem_append] at member
      rcases member with rfl | (event | last) | later
      · trivial
      · obtain ⟨_, _, rfl⟩ := List.mem_map.mp event
        trivial
      · split at last
        · exact absurd last List.not_mem_nil
        · obtain ⟨ending, there, rfl⟩ := List.mem_map.mp last
          cases ending with
          | none => trivial
          | some ws => exact ⟨session, ws, List.mem_cons_self, Option.mem_toList.mp there, rfl⟩
      · split at later
        · exact (ih later).cons _
        · exact absurd later List.not_mem_nil

/-- What is taken before the receiver is cancelled is a beginning of what it could see. -/
theorem timeline_takenBefore {opens taken : List (Except DiscoveryError (List EventResult))}
    (before : CohortWsReceiver.TakenBefore opens taken) : timeline taken <+: timeline opens := by
  induction before with
  | opening => exact List.nil_prefix
  | sleeping => exact List.cons_prefix_cons.mpr ⟨rfl, List.nil_prefix⟩
  | pumping front behind =>
    have nothing : timeline [.ok front] =
        .opened :: (InTurn.asked EventResult.ends front).map EventResult.occurrence := by
      rw [timeline, timeline, ite_self, List.append_nil]
    rw [nothing, timeline, List.cons_append]
    exact List.cons_prefix_cons.mpr ⟨rfl, ((InTurn.asked_append_prefix front behind).map _).trans
      (List.prefix_append _ _)⟩
  | @later opening rest taken _ ih =>
    cases opening with
    | error err => exact List.cons_prefix_cons.mpr ⟨rfl, ih⟩
    | ok session =>
      rw [timeline, timeline]
      refine (List.prefix_append_right_inj _).mpr ?_
      split
      · exact ih
      · exact List.prefix_rfl

/-- What stops a receiver that is not cancelled. -/
theorem run_blamed {handler : CohortHandler} (lawful : json.Lawful) (carried : List.Forall₂ (Carried json) opens streams)
    {final : ReceiverState} {err : CohortWsError}
    (stopped : CohortWsReceiver.run handler (streams.map fun stream => stream.map (CoordinatorWs.answers json)) =
      (final, some err)) :
    (∃ text, err = .handler text) ∨ ∃ error, err = .permanent error ∧ error.isRetriable = false ∧
      (.error error ∈ opens ∨ ∃ session ws, .ok session ∈ opens ∧ session.ending = some (some ws) ∧ error = .ws ws) := by
  have received := run_received handler (streams.map fun stream => stream.map (CoordinatorWs.answers json))
  have within := received.within
  rw [stopped] at received
  rw [timeline_carried lawful carried] at within
  have nonempty := received.stopped (Option.some_ne_none err)
  obtain ⟨front, last, parts⟩ := (List.eq_nil_or_concat' _).resolve_left nonempty
  have verdict := received.verdicts front last [] parts
  rw [timeline_carried lawful carried] at parts
  have origin := origin_of_mem (within.subset (parts ▸ List.mem_append_right front List.mem_cons_self))
  cases last with
  | opened => cases verdict
  | closed => cases verdict
  | event event =>
    unfold BiBeam.verdict refusal at verdict
    dsimp only at verdict
    split at verdict
    · cases verdict
      exact Or.inl ⟨_, rfl⟩
    · cases verdict
  | openFailed error =>
    cases retriable : error.isRetriable with
    | true => simp [BiBeam.verdict, retriable] at verdict
    | false =>
      simp only [BiBeam.verdict, retriable, Bool.false_eq_true, if_false, List.isEmpty_nil, if_true] at verdict
      cases verdict
      exact Or.inr ⟨error, rfl, retriable, Or.inl origin⟩
  | streamFailed error =>
    cases retriable : error.isRetriable with
    | true => simp [BiBeam.verdict, retriable] at verdict
    | false =>
      simp only [BiBeam.verdict, retriable, Bool.false_eq_true, if_false, List.isEmpty_nil, if_true] at verdict
      cases verdict
      exact Or.inr ⟨error, rfl, retriable, Or.inr origin⟩

/-- From the coordinators' events to the node's handler: whatever control
messages come between them and however many sessions they are spread over, they
are handed on in order, each once and unchanged, until the receiver is stopped. -/
theorem run_conveys (json : PayloadJson) (lawful : json.Lawful) (handler : CohortHandler)
    (opens : List (Except DiscoveryError PushedSession)) (streams : List (Except DiscoveryError (List StreamItem)))
    (carried : List.Forall₂ (Carried json) opens streams) (fired : Bool) (final : ReceiverState)
    (result : Option (Except CohortWsError Unit))
    (stands : CohortWsReceiver.Stands handler fired
      (streams.map fun stream => stream.map (CoordinatorWs.answers json)) final result) :
    Conveys fired opens final result := by
  have events : (timeline (streams.map fun stream => stream.map (CoordinatorWs.answers json))).filterMap
      Occurrence.event? = pushed opens := by
    rw [timeline_carried lawful carried, pushedTimeline_events]
  cases stands with
  | @goesOn final goes =>
    have received := run_received handler (streams.map fun stream => stream.map (CoordinatorWs.answers json))
    rw [goes] at received
    have whole : final.handed = pushed opens := by rw [received.handed, received.whole rfl, events]
    exact ⟨by rw [whole], fun _ => whole, nofun, nofun⟩
  | @failed final err stopped =>
    have received := run_received handler (streams.map fun stream => stream.map (CoordinatorWs.answers json))
    rw [stopped] at received
    refine ⟨?_, nofun, nofun, fun other same => ?_⟩
    · rw [received.handed, ← events]
      exact received.within.filterMap _
    · cases same
      exact run_blamed lawful carried stopped
  | @cancelled taken final cancelled before waits =>
    have received := run_received handler taken
    rw [waits] at received
    refine ⟨?_, nofun, fun _ => cancelled, nofun⟩
    rw [received.handed, received.whole rfl, ← events]
    exact (timeline_takenBefore before).filterMap _

/-- A text library that writes a disconnect as its reason, and nothing else. -/
def plainJson : PayloadJson where
  toString
    | .disconnect reason => .ok reason
    | _ => .error "not written"
  fromStr text := .ok (.disconnect text)

theorem plainJson_lawful : plainJson.Lawful := by
  refine ⟨fun payload text written => ?_⟩
  cases payload with
  | disconnect reason => cases written; rfl
  | _ => cases written

/-- A disconnect between two pings, an opening that is refused for a while and
a session that is closed; and the same, cancelled while the disconnect was awaited. -/
theorem run_conveys_control :
    let opens : List (Except DiscoveryError PushedSession) :=
      [.ok ⟨[.disconnect "rotation"], none⟩, .error (.httpStatus 503 "busy"), .ok ⟨[], some none⟩]
    (∃ final, Conveys false opens final none ∧ final.handed = [.disconnect "rotation"]) ∧
      ∃ final, Conveys true opens final (some (.ok ())) ∧ final.handed = [] := by
  have first : Carried plainJson (.ok ⟨[.disconnect "rotation"], none⟩)
      (.ok [.message .ping, .message (.text "rotation"), .message .ping]) :=
    ⟨_, _, .control rfl (.event rfl (.control rfl .nil)), .open_, rfl⟩
  have refused : Carried plainJson (.error (.httpStatus 503 "busy")) (.error (.httpStatus 503 "busy")) := rfl
  have last : Carried plainJson (.ok ⟨[], some none⟩) (.ok [.message .close]) := ⟨_, _, .nil, .closed, rfl⟩
  have conveys := run_conveys plainJson plainJson_lawful acceptAll _ _ (.cons first (.cons refused (.cons last .nil)))
  simp only [List.map_cons, List.map_nil, Except.map, CoordinatorWs.answers_eq] at conveys
  exact ⟨⟨_, conveys false _ _ (.goesOn rfl), rfl⟩,
    ⟨_, conveys true _ _ (.cancelled rfl (.pumping [] _) rfl), rfl⟩⟩

end Conveyed

end BiBeam
