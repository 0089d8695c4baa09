import BiBeam.Discovery.Bootstrap
import BiBeam.Lib.Reach
import BiBeam.Node.CoordinatorAffinity

namespace BiBeam

structure UnverifiedRegistrationToken where
  pasetoToken : String
  expiresAt : Timestamp
deriving DecidableEq

/-- A token with the claims its verifier found sealed in it. -/
structure VerifiedRegistrationToken (verifier : PasetoVerifier) where
  pasetoToken : String
  claims : SessionClaims
  vouched : verifier pasetoToken = .ok claims
deriving DecidableEq

inductive TokenVerifyError
  | paseto (error : String)
  | subjectMismatch (tokenSub expected : PeerId)
deriving DecidableEq

structure HeartbeatAck where
  expiresAt : Timestamp
deriving DecidableEq

inductive RegistrationError
  | network (error : DiscoveryError)
  | inviteRejected (error : DiscoveryError)
  | tokenExpired (error : DiscoveryError)
  | subjectMismatch (tokenSub expected : PeerId)
  | other (error : DiscoveryError)
deriving DecidableEq

inductive Operation
  | register
  | heartbeat
deriving DecidableEq

namespace VerifiedRegistrationToken

variable {verifier : PasetoVerifier}

def subject (self : VerifiedRegistrationToken verifier) : PeerId :=
  self.claims.sub

def expiresAt (self : VerifiedRegistrationToken verifier) : Timestamp :=
  self.claims.exp

end VerifiedRegistrationToken

def UnverifiedRegistrationToken.verify (self : UnverifiedRegistrationToken) (verifier : PasetoVerifier)
    (expectedPeer : PeerId) : Except TokenVerifyError (VerifiedRegistrationToken verifier) :=
  match vouched : verifier self.pasetoToken with
  | .error error => .error (.paseto error)
  | .ok claims =>
    if claims.sub ≠ expectedPeer then
      .error (.subjectMismatch claims.sub expectedPeer)
    else
      .ok ⟨self.pasetoToken, claims, vouched⟩

/-- A body that says, in whatever case, that something has expired. -/
def saysExpired (body : String) : Bool :=
  decide ("expired".toList <:+: body.toList.map Char.toLower)

namespace RegistrationError

def classify (err : DiscoveryError) (op : Operation) : RegistrationError :=
  if err.isRetriable then
    .network err
  else
    match err with
    | .httpStatus status body =>
      if status = 401 ∧ op = .heartbeat ∧ saysExpired body then
        .tokenExpired err
      else if status = 401 ∨ status = 403 then
        .inviteRejected err
      else
        .other err
    | _ => .other err

end RegistrationError

def NodeRegistrar.parseSessionToken (utf8Error : List UInt8 → String) (bytes : List UInt8) :
    Except RegistrationError String :=
  match String.fromUTF8? bytes.toByteArray with
  | some view => .ok view
  | none => .error (.other (.url s!"session token not utf-8: {utf8Error bytes}"))

def tokenFromAck (utf8Error : List UInt8 → String) (ack : RegisterAck) :
    Except RegistrationError UnverifiedRegistrationToken :=
  (NodeRegistrar.parseSessionToken utf8Error ack.sessionToken).map fun token => ⟨token, ack.expiresAt⟩

/-- A registrar apart from the pool, which others may share. -/
structure NodeRegistrar where
  peerId : PeerId
  addrHint : SocketAddr
  canExit : Bool
  capacityHint : UInt32
deriving DecidableEq

/-- A request to a coordinator with its answer. -/
structure Exchange (C R A : Type) where
  client : C
  request : R
  answer : Except DiscoveryError A

/-- One call of a registrar: the requests sent, the result and the pool it leaves. -/
structure RegistrarCall (C R A O : Type) where
  exchanges : List (Exchange C R A)
  result : Except RegistrationError O
  pool : CoordinatorPool C

namespace NodeRegistrar

variable {C : Type} {verifier : PasetoVerifier}

def register (utf8Error : List UInt8 → String) (self : NodeRegistrar) (pool : CoordinatorPool C)
    (answers : C → Register → Except DiscoveryError RegisterAck) (now : Timestamp) :
    RegistrarCall C Register RegisterAck UnverifiedRegistrationToken :=
  let request : Register := ⟨self.peerId, self.addrHint, self.canExit, self.capacityHint, now⟩
  let attempt := pool.register fun client => answers client request
  ⟨attempt.calls.map fun client => ⟨client, request, answers client request⟩,
    (attempt.result.mapError (RegistrationError.classify · .register)).bind (tokenFromAck utf8Error), attempt.pool⟩

/-- A heartbeat goes out with the session token as its bearer. -/
def heartbeat (self : NodeRegistrar) (pool : CoordinatorPool C) (token : VerifiedRegistrationToken verifier)
    (answers : C → Heartbeat × String → Except DiscoveryError Unit) (now : Timestamp) :
    RegistrarCall C (Heartbeat × String) Unit HeartbeatAck :=
  if token.subject ≠ self.peerId then
    ⟨[], .error (.subjectMismatch token.subject self.peerId), pool⟩
  else
    let request : Heartbeat × String := (⟨self.peerId, now⟩, token.pasetoToken)
    let attempt := pool.heartbeat fun client => answers client request
    ⟨attempt.calls.map fun client => ⟨client, request, answers client request⟩,
      (attempt.result.mapError (RegistrationError.classify · .heartbeat)).map fun _ => ⟨token.expiresAt⟩, attempt.pool⟩

end NodeRegistrar

/-- What happens at the registrars of one pool, in the order in which their
calls take its cursor. -/
inductive RegistrarEvent (C : Type)
  | registered (registrar : NodeRegistrar) (exchanges : List (Exchange C Register RegisterAck))
      (result : Except RegistrationError UnverifiedRegistrationToken)
  /-- A verifier reads the clock, so that each verification has its own. -/
  | verified (verifier : PasetoVerifier) (unverified : UnverifiedRegistrationToken) (expectedPeer : PeerId)
      (result : Except TokenVerifyError (VerifiedRegistrationToken verifier))
  | heartbeat (registrar : NodeRegistrar) (exchanges : List (Exchange C (Heartbeat × String) Unit))
      (result : Except RegistrationError HeartbeatAck)

/-- A token with the verifier that has vouched for it. -/
abbrev HeldToken :=
  (verifier : PasetoVerifier) × VerifiedRegistrationToken verifier

/-- The pool that registrars share, and the tokens handed out to them. -/
structure RegistrarWorld (C : Type) where
  pool : CoordinatorPool C
  tokens : List HeldToken

def failureOf {ε α : Type} : Except ε α → Option ε
  | .error error => some error
  | .ok _ => none

namespace RegistrarEvent

variable {C : Type}

def clients : RegistrarEvent C → List C
  | registered _ exchanges _ => exchanges.map Exchange.client
  | verified _ _ _ _ => []
  | heartbeat _ exchanges _ => exchanges.map Exchange.client

/-- The failures that the coordinators asked have answered with, if they did. -/
def answers : RegistrarEvent C → List (Option DiscoveryError)
  | registered _ exchanges _ => exchanges.map fun exchange => failureOf exchange.answer
  | verified _ _ _ _ => []
  | heartbeat _ exchanges _ => exchanges.map fun exchange => failureOf exchange.answer

def failure? : RegistrarEvent C → Option RegistrationError
  | registered _ _ result => failureOf result
  | verified _ _ _ _ => none
  | heartbeat _ _ result => failureOf result

def heartbeats : RegistrarEvent C → List (Heartbeat × String)
  | heartbeat _ exchanges _ => exchanges.map Exchange.request
  | _ => []

def reached (event : RegistrarEvent C) : Bool :=
  !event.clients.isEmpty

def operation? : RegistrarEvent C → Option Operation
  | registered _ _ _ => some .register
  | verified _ _ _ _ => none
  | heartbeat _ _ _ => some .heartbeat

end RegistrarEvent

namespace RegistrarWorld

variable {C : Type}

/-- A heartbeat takes a token that a verification has handed out: there is no
other way to make one. -/
inductive Step (utf8Error : List UInt8 → String) :
    RegistrarWorld C → RegistrarEvent C → RegistrarWorld C → Prop
  | register {world registrar answers now} : Step utf8Error world
      (.registered registrar (registrar.register utf8Error world.pool answers now).exchanges
        (registrar.register utf8Error world.pool answers now).result)
      { world with pool := (registrar.register utf8Error world.pool answers now).pool }
  | verify {world verifier unverified expectedPeer token} : unverified.verify verifier expectedPeer = .ok token →
      Step utf8Error world (.verified verifier unverified expectedPeer (.ok token))
        { world with tokens := world.tokens ++ [⟨verifier, token⟩] }
  | refuse {world verifier unverified expectedPeer error} : unverified.verify verifier expectedPeer = .error error →
      Step utf8Error world (.verified verifier unverified expectedPeer (.error error)) world
  | heartbeat {world registrar verifier token answers now} : ⟨verifier, token⟩ ∈ world.tokens → Step utf8Error world
      (.heartbeat registrar (registrar.heartbeat world.pool token answers now).exchanges
        (registrar.heartbeat world.pool token answers now).result)
      { world with pool := (registrar.heartbeat world.pool token answers now).pool }

end RegistrarWorld

/-- The coordinator turns the caller away. -/
def DiscoveryError.turnsAway : DiscoveryError → Bool
  | httpStatus status _ => decide (status = 401 ∨ status = 403)
  | _ => false

/-- The coordinator turns the caller away because its token is too old. -/
def DiscoveryError.tokenTooOld : DiscoveryError → Bool
  | httpStatus status body => decide (status = 401) && saysExpired body
  | _ => false

namespace RegistrationError

variable {err error : DiscoveryError} {op : Operation}

theorem classify_network : classify err op = .network error ↔ err = error ∧ error.isRetriable = true := by
  constructor
  · intro same
    unfold classify at same
    by_cases retriable : err.isRetriable = true
    · rw [if_pos retriable] at same
      cases same
      exact ⟨rfl, retriable⟩
    · rw [if_neg retriable] at same
      cases err with
      | httpStatus status body =>
        dsimp only at same
        split at same
        · cases same
        · split at same <;> cases same
      | _ => cases same
  · rintro ⟨rfl, retriable⟩
    unfold classify
    rw [if_pos retriable]

theorem not_retriable_of_turnsAway (turnsAway : err.turnsAway = true) : err.isRetriable = false := by
  cases err with
  | httpStatus status body =>
    simp only [DiscoveryError.turnsAway, decide_eq_true_eq] at turnsAway
    rcases turnsAway with rfl | rfl <;> rfl
  | _ => cases turnsAway

theorem turnsAway_of_tokenTooOld (tooOld : err.tokenTooOld = true) : err.turnsAway = true := by
  cases err with
  | httpStatus status body =>
    simp only [DiscoveryError.tokenTooOld, Bool.and_eq_true, decide_eq_true_eq] at tooOld
    simp [DiscoveryError.turnsAway, tooOld.1]
  | _ => cases tooOld

theorem classify_turnsAway (turnsAway : err.turnsAway = true) :
    classify err op = if err.tokenTooOld = true ∧ op = .heartbeat then .tokenExpired err else .inviteRejected err := by
  unfold classify
  rw [if_neg (Bool.eq_false_iff.mp (not_retriable_of_turnsAway turnsAway))]
  cases err with
  | httpStatus status body =>
    simp only [DiscoveryError.turnsAway, decide_eq_true_eq] at turnsAway
    simp only [DiscoveryError.tokenTooOld, Bool.and_eq_true, decide_eq_true_eq, and_assoc]
    by_cases tooOld : status = 401 ∧ saysExpired body = true ∧ op = .heartbeat
    · rw [if_pos tooOld, if_pos ⟨tooOld.1, tooOld.2.2, tooOld.2.1⟩]
    · rw [if_neg tooOld, if_neg fun ⟨unauthorized, beat, expired⟩ => tooOld ⟨unauthorized, expired, beat⟩,
        if_pos turnsAway]
  | _ => cases turnsAway

theorem classify_admitted (op : Operation) (admitted : err.turnsAway = false) :
    classify err op = .network err ∨ classify err op = .other err := by
  unfold classify
  split
  · exact Or.inl rfl
  · right
    cases err with
    | httpStatus status body =>
      simp only [DiscoveryError.turnsAway, decide_eq_false_iff_not, not_or] at admitted
      dsimp only
      rw [if_neg fun expired => admitted.1 expired.1, if_neg (not_or.mpr admitted)]
    | _ => rfl

theorem classify_expired :
    classify err op = .tokenExpired error ↔ err = error ∧ error.tokenTooOld = true ∧ op = .heartbeat := by
  constructor
  · intro same
    cases turnsAway : err.turnsAway with
    | true =>
      rw [classify_turnsAway turnsAway] at same
      split at same
      case isTrue tooOld =>
        cases same
        exact ⟨rfl, tooOld⟩
      case isFalse => cases same
    | false =>
      rcases classify_admitted op turnsAway with other | other <;> rw [other] at same <;> cases same
  · rintro ⟨rfl, tooOld⟩
    rw [classify_turnsAway (turnsAway_of_tokenTooOld tooOld.1), if_pos tooOld]

theorem classify_rejected : classify err op = .inviteRejected error ↔
    err = error ∧ error.turnsAway = true ∧ ¬ (error.tokenTooOld = true ∧ op = .heartbeat) := by
  constructor
  · intro same
    cases turnsAway : err.turnsAway with
    | true =>
      rw [classify_turnsAway turnsAway] at same
      split at same
      case isTrue => cases same
      case isFalse fresh =>
        cases same
        exact ⟨rfl, turnsAway, fresh⟩
    | false =>
      rcases classify_admitted op turnsAway with other | other <;> rw [other] at same <;> cases same
  · rintro ⟨rfl, turnsAway, fresh⟩
    rw [classify_turnsAway turnsAway, if_neg fresh]

end RegistrationError

section Call

variable {C R A : Type} {pool : CoordinatorPool C}

/-- The requests of one call and the coordinators' last word. -/
structure Asked (pool : CoordinatorPool C) (exchanges : List (Exchange C R A)) (result : Except DiscoveryError A) :
    Prop where
  inTurn : exchanges.map Exchange.client <+: pool.order
  last : (exchanges.map Exchange.answer).getLast? = some result
  passed : ∀ answer ∈ (exchanges.map Exchange.answer).dropLast, ∃ error, answer = .error error ∧ error.isRetriable = true
  everyone : ∀ error, result = .error error → error.isRetriable = true → exchanges.map Exchange.client = pool.order

theorem tryEach_asked (pool : CoordinatorPool C) (request : R) (answers : C → Except DiscoveryError A) :
    Asked pool ((pool.tryEach answers).calls.map fun client => ⟨client, request, answers client⟩)
      (pool.tryEach answers).result := by
  have clients : ((pool.tryEach answers).calls.map fun client => (⟨client, request, answers client⟩ : Exchange C R A)).map
      Exchange.client = (pool.tryEach answers).calls := by
    rw [List.map_map]
    exact List.map_id' _
  have told : ((pool.tryEach answers).calls.map fun client => (⟨client, request, answers client⟩ : Exchange C R A)).map
      Exchange.answer = (pool.tryEach answers).calls.map answers := by
    rw [List.map_map]
    rfl
  have called := pool.tryEach_calls answers
  have nonempty : pool.order ≠ [] := by
    rw [CoordinatorPool.order, Ne, List.rotate_eq_nil_iff]
    exact pool.nonempty
  obtain ⟨front, last, same, unsettled⟩ := @InTurn.asked_split _ (fun client => settles (answers client)) _ nonempty
  rw [← called] at same
  have result := pool.tryEach_result answers
  rw [same, List.getLast?_concat] at result
  have atLast : answers last = (pool.tryEach answers).result := Option.some.inj result
  refine ⟨?_, ?_, ?_, ?_⟩
  · rw [clients, called]
    exact InTurn.asked_prefix _
  · rw [told, same, List.map_append, List.map_singleton, List.getLast?_concat, atLast]
  · rw [told, same, List.map_append, List.map_singleton, List.dropLast_concat]
    intro answer member
    obtain ⟨client, early, rfl⟩ := List.mem_map.mp member
    exact settles_eq_false_iff.mp (unsettled client early)
  · intro error failed retriable
    rw [clients, called]
    apply InTurn.asked_eq_self
    rw [← called, same]
    intro client member
    rcases List.mem_append.mp member with early | here
    · exact unsettled client early
    · rw [List.mem_singleton.mp here]
      exact settles_eq_false_iff.mpr ⟨error, atLast.trans failed, retriable⟩

/-- What a call reports of the coordinators' last word: of a failure its class,
and of a success nothing, or that it does not read as a token. -/
structure Reports (op : Operation) (result : Except DiscoveryError A) (failure : Option RegistrationError) : Prop where
  failed : ∀ error, result = .error error → failure = some (.classify error op)
  answered : ∀ value, result = .ok value → failure = none ∨ ∃ error, failure = some (.other error)

theorem Reports.iff {op : Operation} {result : Except DiscoveryError A} {failure : Option RegistrationError}
    (reports : Reports op result failure) {class_ : DiscoveryError → RegistrationError} {holds : DiscoveryError → Prop}
    (notOther : ∀ error other, class_ error ≠ .other other)
    (classified : ∀ err error, RegistrationError.classify err op = class_ error ↔ err = error ∧ holds error)
    (error : DiscoveryError) : failure = some (class_ error) ↔ result = .error error ∧ holds error := by
  cases result with
  | ok value =>
    refine iff_of_false (fun same => ?_) (fun failed => by cases failed.1)
    rcases reports.answered value rfl with none | ⟨other, unread⟩
    · rw [none] at same
      cases same
    · rw [unread] at same
      exact notOther _ _ (Option.some.inj same).symm
  | error err =>
    rw [reports.failed err rfl, Option.some_inj, classified]
    exact and_congr_left fun _ => ⟨congrArg _, Except.error.inj⟩

theorem reports_register (utf8Error : List UInt8 → String) (result : Except DiscoveryError RegisterAck) :
    Reports .register result
      (failureOf ((result.mapError (RegistrationError.classify · .register)).bind (tokenFromAck utf8Error))) := by
  refine ⟨fun error failed => by rw [failed]; rfl, fun ack answered => ?_⟩
  rw [answered]
  show failureOf (tokenFromAck utf8Error ack) = none ∨ ∃ error, failureOf (tokenFromAck utf8Error ack) = some (.other error)
  unfold tokenFromAck NodeRegistrar.parseSessionToken
  cases String.fromUTF8? ack.sessionToken.toByteArray with
  | some token => exact Or.inl rfl
  | none => exact Or.inr ⟨_, rfl⟩

theorem reports_heartbeat (result : Except DiscoveryError Unit) (expiresAt : Timestamp) :
    Reports .heartbeat result
      (failureOf ((result.mapError (RegistrationError.classify · .heartbeat)).map fun _ => HeartbeatAck.mk expiresAt)) :=
  ⟨fun error failed => by rw [failed]; rfl, fun value answered => by rw [answered]; exact Or.inl rfl⟩

end Call

namespace RegistrarWorld

variable {C : Type} {utf8Error : List UInt8 → String} {world next : RegistrarWorld C}
  {event : RegistrarEvent C} {events : List (RegistrarEvent C)} {coordinators : List C}

/-- What one step says on its own of the call it makes. -/
structure CallKept (world : RegistrarWorld C) (event : RegistrarEvent C) (next : RegistrarWorld C) :
    Prop where
  inTurn : event.clients <+: world.pool.order
  passed : ∀ answer ∈ event.answers.dropLast, ∃ error, answer = some error ∧ error.isRetriable = true
  network : ∀ error, event.failure? = some (.network error) ↔
    event.answers.getLast? = some (some error) ∧ error.isRetriable = true
  everyone : ∀ error, event.failure? = some (.network error) → event.clients = world.pool.order
  expired : ∀ error, event.failure? = some (.tokenExpired error) ↔
    event.answers.getLast? = some (some error) ∧ error.tokenTooOld = true ∧ event.operation? = some .heartbeat
  rejected : ∀ error, event.failure? = some (.inviteRejected error) ↔
    event.answers.getLast? = some (some error) ∧ error.turnsAway = true ∧
      ¬ (error.tokenTooOld = true ∧ event.operation? = some .heartbeat)
  coordinators : next.pool.coordinators = world.pool.coordinators
  cursor : next.pool.cursor = world.pool.cursor + if event.reached then 1 else 0

theorem failureOf_eq_some {ε α : Type} {result : Except ε α} {error : ε} :
    failureOf result = some error ↔ result = .error error := by
  cases result with
  | ok value => exact ⟨nofun, nofun⟩
  | error other => simp [failureOf]

theorem callKept_of_asked {R A : Type} {exchanges : List (Exchange C R A)} {result : Except DiscoveryError A} {op : Operation}
    (asked : Asked world.pool exchanges result) (reports : Reports op result event.failure?)
    (clients : event.clients = exchanges.map Exchange.client)
    (answers : event.answers = (exchanges.map Exchange.answer).map failureOf) (operation : event.operation? = some op)
    (coordinators : next.pool.coordinators = world.pool.coordinators)
    (cursor : next.pool.cursor = world.pool.cursor + 1) : CallKept world event next := by
  have last : ∀ error, event.answers.getLast? = some (some error) ↔ result = .error error := by
    intro error
    rw [answers, List.getLast?_map, asked.last, Option.map_some, Option.some_inj, failureOf_eq_some]
  have nonempty : exchanges ≠ [] := by
    rintro rfl
    cases asked.last
  have reached : event.reached = true := by
    rw [RegistrarEvent.reached, clients]
    cases exchanges with
    | nil => exact absurd rfl nonempty
    | cons => rfl
  refine ⟨?_, ?_, fun error => ?_, fun error network => ?_, fun error => ?_, fun error => ?_, coordinators, ?_⟩
  · rw [clients]
    exact asked.inTurn
  · rw [answers, ← List.map_dropLast]
    intro answer member
    obtain ⟨told, early, rfl⟩ := List.mem_map.mp member
    obtain ⟨error, rfl, retriable⟩ := asked.passed told early
    exact ⟨error, rfl, retriable⟩
  · rw [last]
    exact reports.iff (fun _ _ same => by cases same) (fun _ _ => RegistrationError.classify_network) error
  · have failed := (reports.iff (fun _ _ same => by cases same) (fun _ _ => RegistrationError.classify_network) error).mp network
    rw [clients]
    exact asked.everyone error failed.1 failed.2
  · rw [last, operation, Option.some_inj]
    exact reports.iff (fun _ _ same => by cases same) (fun _ _ => RegistrationError.classify_expired) error
  · rw [last, operation, Option.some_inj]
    exact reports.iff (fun _ _ same => by cases same) (fun _ _ => RegistrationError.classify_rejected) error
  · rw [cursor, reached, if_pos rfl]

/-- An event that leaves the pool alone and reports no coordinator's answer. -/
theorem callKept_quiet (clients : event.clients = []) (answers : event.answers = [])
    (silent : ∀ error, event.failure? ≠ some (.network error) ∧ event.failure? ≠ some (.tokenExpired error) ∧
      event.failure? ≠ some (.inviteRejected error)) (pool : next.pool = world.pool) : CallKept world event next := by
  have reached : event.reached = false := by rw [RegistrarEvent.reached, clients]; rfl
  refine ⟨?_, ?_, fun error => ?_, fun error network => ?_, fun error => ?_, fun error => ?_, by rw [pool], ?_⟩
  · rw [clients]
    exact List.nil_prefix
  · rw [answers]
    exact fun answer member => absurd member List.not_mem_nil
  · rw [answers]
    exact iff_of_false (silent error).1 (fun told => by cases told.1)
  · exact absurd network (silent error).1
  · rw [answers]
    exact iff_of_false (silent error).2.1 (fun told => by cases told.1)
  · rw [answers]
    exact iff_of_false (silent error).2.2 (fun told => by cases told.1)
  · rw [pool, reached]
    simp

theorem map_answer {R A : Type} (exchanges : List (Exchange C R A)) :
    exchanges.map (fun exchange => failureOf exchange.answer) = (exchanges.map Exchange.answer).map failureOf := by
  rw [List.map_map]
  rfl

theorem Step.callKept (stepped : Step utf8Error world event next) : CallKept world event next := by
  cases stepped with
  | @register registrar answers now =>
    exact callKept_of_asked (tryEach_asked world.pool _ _) (reports_register utf8Error _) rfl (map_answer _) rfl rfl rfl
  | verify => exact callKept_quiet rfl rfl (fun _ => ⟨nofun, nofun, nofun⟩) rfl
  | refuse => exact callKept_quiet rfl rfl (fun _ => ⟨nofun, nofun, nofun⟩) rfl
  | @heartbeat registrar verifier token answers now held =>
    unfold NodeRegistrar.heartbeat
    by_cases other : token.subject ≠ registrar.peerId
    · simp only [if_pos other]
      exact callKept_quiet rfl rfl (fun _ => ⟨nofun, nofun, nofun⟩) rfl
    · simp only [if_neg other]
      exact callKept_of_asked (tryEach_asked world.pool _ _) (reports_heartbeat _ _) rfl (map_answer _) rfl rfl rfl

theorem verify_ok {verifier : PasetoVerifier} {unverified : UnverifiedRegistrationToken} {expectedPeer : PeerId}
    {token : VerifiedRegistrationToken verifier} (verified : unverified.verify verifier expectedPeer = .ok token) :
    unverified.pasetoToken = token.pasetoToken ∧ token.subject = expectedPeer := by
  unfold UnverifiedRegistrationToken.verify at verified
  split at verified
  · cases verified
  · split at verified
    · cases verified
    · rename_i own
      cases verified
      exact ⟨rfl, not_not.mp own⟩

/-- A heartbeat on the wire goes under its token's own subject. -/
theorem Step.vouched (stepped : Step utf8Error world event next) {beat : Heartbeat × String}
    (sent : beat ∈ event.heartbeats) :
    ∃ held ∈ world.tokens, held.2.pasetoToken = beat.2 ∧ held.2.subject = beat.1.peerId := by
  cases stepped with
  | register => exact absurd sent List.not_mem_nil
  | verify => exact absurd sent List.not_mem_nil
  | refuse => exact absurd sent List.not_mem_nil
  | @heartbeat registrar verifier token answers now held =>
    unfold RegistrarEvent.heartbeats NodeRegistrar.heartbeat at sent
    by_cases other : token.subject ≠ registrar.peerId
    · simp only [if_pos other, List.map_nil] at sent
      exact absurd sent List.not_mem_nil
    · simp only [if_neg other, List.map_map, List.mem_map, Function.comp_apply] at sent
      obtain ⟨_, _, rfl⟩ := sent
      exact ⟨⟨verifier, token⟩, held, rfl, not_not.mp other⟩

structure WorldKept (coordinators : List C) (events : List (RegistrarEvent C))
    (world : RegistrarWorld C) : Prop where
  coordinators : world.pool.coordinators = coordinators
  cursor : world.pool.cursor.toNat = events.countP RegistrarEvent.reached % 2 ^ 64
  tokens : ∀ held ∈ world.tokens, ∃ unverified : UnverifiedRegistrationToken,
    .verified held.1 unverified held.2.subject (.ok held.2) ∈ events ∧ unverified.pasetoToken = held.2.pasetoToken

theorem Step.tokens (stepped : Step utf8Error world event next) {held : HeldToken} (holds : held ∈ next.tokens) :
    held ∈ world.tokens ∨ ∃ unverified : UnverifiedRegistrationToken,
      event = .verified held.1 unverified held.2.subject (.ok held.2) ∧
        unverified.pasetoToken = held.2.pasetoToken := by
  cases stepped with
  | register => exact Or.inl holds
  | refuse => exact Or.inl holds
  | heartbeat => exact Or.inl holds
  | verify verified =>
    rcases List.mem_append.mp holds with earlier | here
    · exact Or.inl earlier
    · obtain rfl := List.mem_singleton.mp here
      obtain ⟨same, rfl⟩ := verify_ok verified
      exact Or.inr ⟨_, rfl, same⟩

theorem WorldKept.step (kept : WorldKept coordinators events world) (stepped : Step utf8Error world event next) :
    WorldKept coordinators (events ++ [event]) next := by
  refine ⟨stepped.callKept.coordinators.trans kept.coordinators, ?_, fun held holds => ?_⟩
  · rw [stepped.callKept.cursor, UInt64.toNat_add, kept.cursor, List.countP_append, List.countP_singleton]
    cases event.reached <;> simp
  · rcases stepped.tokens holds with earlier | ⟨unverified, rfl, same⟩
    · obtain ⟨unverified, member, same⟩ := kept.tokens held earlier
      exact ⟨unverified, List.mem_append_left _ member, same⟩
    · exact ⟨unverified, List.mem_append_right _ (List.mem_singleton_self _), same⟩

theorem kept_of_reach {pool : CoordinatorPool C} (made : CoordinatorPool.new coordinators = .ok pool)
    (run : Reach (Step utf8Error) (⟨pool, []⟩ : RegistrarWorld C) events world) :
    WorldKept coordinators events world := by
  induction run with
  | start =>
    unfold CoordinatorPool.new at made
    split at made
    · cases made
    · cases made
      exact ⟨rfl, rfl, fun held holds => absurd holds List.not_mem_nil⟩
  | next _ stepped ih => exact ih.step stepped

end RegistrarWorld

end BiBeam
