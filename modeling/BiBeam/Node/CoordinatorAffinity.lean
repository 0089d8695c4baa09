import BiBeam.Discovery.Failover
import BiBeam.Protocol.Control

namespace BiBeam

namespace CoordinatorPool

variable {C S : Type}

def register (pool : CoordinatorPool C) (answers : C → Except DiscoveryError RegisterAck) : Attempt C RegisterAck :=
  pool.tryEach answers

def heartbeat (pool : CoordinatorPool C) (answers : C → Except DiscoveryError Unit) : Attempt C Unit :=
  pool.tryEach answers

def openSession (pool : CoordinatorPool C) (answers : C → Except DiscoveryError S) : Attempt C S :=
  pool.tryEach answers

end CoordinatorPool

/-- The error is an answer of the coordinator called, not a failure on the way to it. -/
def DiscoveryError.isAnswer : DiscoveryError → Bool
  | httpStatus _ _ => true
  | ws (.http _) => true
  | json _ => true
  | _ => false

/-- How a coordinator turns away a token it does not know. -/
def DiscoveryError.isUnauthorized : DiscoveryError → Bool
  | httpStatus status _ => decide (status = 401)
  | ws (.http status) => decide (status = 401)
  | _ => false

section Call

variable {C S O : Type}

/-- What the coordinators may answer to a token that only its healthy issuer knows. -/
structure KnownOnlyTo (issuer : C) (answers : C → Except DiscoveryError O) : Prop where
  healthy : ∃ value, answers issuer = .ok value
  unknown : ∀ coordinator, coordinator ≠ issuer →
    ∃ error, answers coordinator = .error error ∧ (error.isRetriable = true ∨ error.isUnauthorized = true)

/-- The issuer's answer is the result of the call. -/
def AnsweredBy (issuer : C) (answers : C → Except DiscoveryError O) (attempt : Attempt C O) : Prop :=
  attempt.calls.getLast? = some issuer ∧ attempt.result = answers issuer

/-- The call gets an answer from the issuer and from no other coordinator. -/
structure Affine (issuer : C) (answers : C → Except DiscoveryError O) (attempt : Attempt C O) : Prop where
  answered : AnsweredBy issuer answers attempt
  alone : ∀ coordinator ∈ attempt.calls, coordinator ≠ issuer →
    ∀ error, answers coordinator = .error error → error.isAnswer = false

/-- The token is sent to the issuer and to no other coordinator. -/
def SentOnlyTo (issuer : C) (attempt : Attempt C O) : Prop :=
  ∀ coordinator ∈ attempt.calls, coordinator = issuer

/-- The coordinator fails and lets the call go on to the next one. -/
def PassesOn (answers : C → Except DiscoveryError O) (coordinator : C) : Prop :=
  ∃ error, answers coordinator = .error error ∧ error.isRetriable = true

/-- The coordinator fails so, without having answered. -/
def Unreachable (answers : C → Except DiscoveryError O) (coordinator : C) : Prop :=
  ∃ error, answers coordinator = .error error ∧ error.isRetriable = true ∧ error.isAnswer = false

theorem KnownOnlyTo.settles {issuer : C} {answers : C → Except DiscoveryError O} (known : KnownOnlyTo issuer answers) :
    BiBeam.settles (answers issuer) = true := by
  obtain ⟨value, healthy⟩ := known.healthy
  rw [healthy]
  rfl

theorem settles_eq_false_iff {outcome : Except DiscoveryError O} :
    settles outcome = false ↔ ∃ error, outcome = .error error ∧ error.isRetriable = true := by
  cases outcome with
  | ok value => simp [settles]
  | error error => simp [settles]

/-- A call ends at the coordinator called last, with its outcome. -/
theorem result_of_getLast {pool : CoordinatorPool C} {answers : C → Except DiscoveryError O} {last : C}
    (atLast : (pool.tryEach answers).calls.getLast? = some last) : (pool.tryEach answers).result = answers last := by
  have result := pool.tryEach_result answers
  rw [atLast] at result
  exact (Option.some.inj result).symm

/-- With a healthy issuer in the pool a call ends with its answer or with a
final rejection by another coordinator. -/
theorem answeredBy_or_unauthorized {pool : CoordinatorPool C} {issuer : C} {answers : C → Except DiscoveryError O}
    (member : issuer ∈ pool.coordinators) (known : KnownOnlyTo issuer answers) :
    AnsweredBy issuer answers (pool.tryEach answers) ∨
      ∃ error, (pool.tryEach answers).result = .error error ∧ error.isRetriable = false ∧
        error.isUnauthorized = true := by
  obtain ⟨last, atLast, result⟩ := Option.map_eq_some_iff.mp (pool.tryEach_result answers)
  by_cases same : last = issuer
  · subst same
    exact Or.inl ⟨atLast, result.symm⟩
  · obtain ⟨error, failed, why⟩ := known.unknown last same
    have final := CoordinatorPool.settles_of_getLast member known.settles atLast
    have stops : error.isRetriable = false := by
      rw [failed] at final
      simpa [settles] using final
    refine Or.inr ⟨error, result.symm.trans failed, stops, why.resolve_left ?_⟩
    rw [stops]
    exact Bool.false_ne_true

theorem sentOnlyTo_iff {pool : CoordinatorPool C} {issuer : C} {answers : C → Except DiscoveryError O}
    (known : KnownOnlyTo issuer answers) :
    SentOnlyTo issuer (pool.tryEach answers) ↔ pool.order.head? = some issuer := by
  have nonempty : pool.order ≠ [] := by
    rw [CoordinatorPool.order, ne_eq, List.rotate_eq_nil_iff]
    exact pool.nonempty
  rw [SentOnlyTo, pool.tryEach_calls]
  exact InTurn.asked_alone_iff nonempty known.settles

variable [DecidableEq C]

theorem answeredBy_iff {pool : CoordinatorPool C} {issuer : C} {answers : C → Except DiscoveryError O}
    (member : issuer ∈ pool.coordinators) (known : KnownOnlyTo issuer answers) :
    AnsweredBy issuer answers (pool.tryEach answers) ↔
      ∀ coordinator ∈ pool.order.takeWhile (· ≠ issuer), PassesOn answers coordinator := by
  have last : (pool.tryEach answers).calls.getLast? = some issuer ↔
      ∀ coordinator ∈ pool.order.takeWhile (· ≠ issuer), PassesOn answers coordinator := by
    rw [pool.tryEach_calls, InTurn.getLast_asked_iff (CoordinatorPool.mem_order.mpr member) known.settles]
    exact forall₂_congr fun coordinator _ => settles_eq_false_iff
  rw [← last]
  exact ⟨fun answered => answered.1, fun atLast => ⟨atLast, result_of_getLast atLast⟩⟩

theorem affine_iff {pool : CoordinatorPool C} {issuer : C} {answers : C → Except DiscoveryError O}
    (member : issuer ∈ pool.coordinators) (known : KnownOnlyTo issuer answers) :
    Affine issuer answers (pool.tryEach answers) ↔
      ∀ coordinator ∈ pool.order.takeWhile (· ≠ issuer), Unreachable answers coordinator := by
  have calls : (∀ coordinator ∈ pool.order.takeWhile (· ≠ issuer), PassesOn answers coordinator) →
      (pool.tryEach answers).calls = pool.order.takeWhile (· ≠ issuer) ++ [issuer] := by
    intro clear
    rw [pool.tryEach_calls]
    exact InTurn.asked_eq (CoordinatorPool.mem_order.mpr member) known.settles fun other before =>
      settles_eq_false_iff.mpr (clear other before)
  constructor
  · intro affine coordinator before
    have clear := (answeredBy_iff member known).mp affine.answered
    obtain ⟨error, failed, retriable⟩ := clear coordinator before
    have called : coordinator ∈ (pool.tryEach answers).calls := by
      rw [calls clear]
      exact List.mem_append_left _ before
    have other : coordinator ≠ issuer := by simpa using List.mem_takeWhile_imp before
    exact ⟨error, failed, retriable, affine.alone coordinator called other error failed⟩
  · intro unreachable
    have clear : ∀ coordinator ∈ pool.order.takeWhile (· ≠ issuer), PassesOn answers coordinator := by
      intro coordinator before
      obtain ⟨error, failed, retriable, _⟩ := unreachable coordinator before
      exact ⟨error, failed, retriable⟩
    refine ⟨(answeredBy_iff member known).mpr clear, ?_⟩
    intro coordinator called other error failed
    rw [calls clear] at called
    rcases List.mem_append.mp called with before | last
    · obtain ⟨found, atFound, _, silent⟩ := unreachable coordinator before
      rw [failed] at atFound
      rwa [Except.error.inj atFound]
    · exact absurd (List.mem_singleton.mp last) other

end Call

/-- A call through the shared pool: one of the two calls that carry the node's
token, or a call of any other user of the pool. -/
inductive PoolCall (C S : Type)
  | heartbeat (answers : C → Except DiscoveryError Unit)
  | openSession (answers : C → Except DiscoveryError S)
  | elsewhere (answers : C → Except DiscoveryError Unit)

/-- The pool after some calls went through it. -/
def CoordinatorPool.later {C : Type} (pool : CoordinatorPool C) (calls : Nat) : CoordinatorPool C :=
  { pool with cursor := pool.cursor + .ofNat calls }

theorem CoordinatorPool.later_zero {C : Type} (pool : CoordinatorPool C) : pool.later 0 = pool := by
  have unmoved : pool.cursor + UInt64.ofNat 0 = pool.cursor := UInt64.add_zero pool.cursor
  rw [later, unmoved]

theorem CoordinatorPool.later_later {C : Type} (pool : CoordinatorPool C) (first second : Nat) :
    (pool.later first).later second = pool.later (first + second) := by
  rw [later, later, later, UInt64.add_assoc, UInt64.ofNat_add]

/-- What a call with the token may be required to meet at the pool it goes through. -/
abbrev TokenProperty (C : Type) :=
  ∀ O : Type, CoordinatorPool C → (C → Except DiscoveryError O) → Prop

namespace PoolCall

variable {C S : Type}

def after (pool : CoordinatorPool C) : PoolCall C S → CoordinatorPool C
  | heartbeat answers => (pool.heartbeat answers).pool
  | openSession answers => (pool.openSession answers).pool
  | elsewhere answers => (pool.tryEach answers).pool

def WithToken (good : TokenProperty C) (pool : CoordinatorPool C) : PoolCall C S → Prop
  | heartbeat answers => good Unit pool answers
  | openSession answers => good S pool answers
  | elsewhere _ => True

/-- Every call of a run that carries the token meets the property. -/
def Along (good : TokenProperty C) : CoordinatorPool C → List (PoolCall C S) → Prop
  | _, [] => True
  | pool, call :: rest => call.WithToken good pool ∧ Along good (call.after pool) rest

theorem after_eq (pool : CoordinatorPool C) (call : PoolCall C S) : call.after pool = pool.later 1 := by
  cases call <;> rfl

theorem along_iff {good : TokenProperty C} (calls : List (PoolCall C S)) (pool : CoordinatorPool C) :
    Along good pool calls ↔
      ∀ place, (within : place < calls.length) → calls[place].WithToken good (pool.later place) := by
  induction calls generalizing pool with
  | nil => exact ⟨fun _ place within => absurd within (Nat.not_lt_zero place), fun _ => trivial⟩
  | cons call rest ih =>
    have shifted (place : Nat) : (pool.later 1).later place = pool.later (place + 1) := by
      rw [pool.later_later, Nat.add_comm]
    rw [Along, after_eq, ih (pool.later 1)]
    constructor
    · rintro ⟨here, there⟩ place within
      cases place with
      | zero =>
        rw [pool.later_zero]
        exact here
      | succ place =>
        rw [← shifted]
        exact there place (Nat.lt_of_succ_lt_succ within)
    · intro everywhere
      refine ⟨?_, fun place within => ?_⟩
      · have here := everywhere 0 (Nat.succ_pos _)
        rwa [pool.later_zero] at here
      · have there := everywhere (place + 1) (Nat.succ_lt_succ within)
        rwa [← shifted] at there

theorem WithToken.imp {good better : TokenProperty C} {pool other : CoordinatorPool C} {call : PoolCall C S}
    (step : ∀ (O : Type) (answers : C → Except DiscoveryError O), good O pool answers → better O other answers)
    (holds : call.WithToken good pool) : call.WithToken better other := by
  cases call with
  | heartbeat answers => exact step Unit answers holds
  | openSession answers => exact step S answers holds
  | elsewhere => trivial

theorem withToken_congr {assumed good better : TokenProperty C} {pool : CoordinatorPool C} {call : PoolCall C S}
    (assumes : call.WithToken assumed pool)
    (same : ∀ (O : Type) (answers : C → Except DiscoveryError O), assumed O pool answers →
      (good O pool answers ↔ better O pool answers)) : call.WithToken good pool ↔ call.WithToken better pool := by
  cases call with
  | heartbeat answers => exact same Unit answers assumes
  | openSession answers => exact same S answers assumes
  | elsewhere => exact Iff.rfl

end PoolCall

/-- A successful registration and the coordinator that answered it. -/
structure RegisteredAt {C : Type} (issuer : C) (attempt : Attempt C RegisterAck) : Prop where
  accepted : ∃ ack, attempt.result = .ok ack
  answered : attempt.calls.getLast? = some issuer

theorem RegisteredAt.mem {C : Type} {pool : CoordinatorPool C} {issuer : C}
    {answers : C → Except DiscoveryError RegisterAck} (registered : RegisteredAt issuer (pool.register answers)) :
    issuer ∈ pool.coordinators := by
  have called := List.mem_of_getLast? registered.answered
  rw [CoordinatorPool.register, pool.tryEach_calls] at called
  exact CoordinatorPool.mem_order.mp ((InTurn.asked_prefix _).subset called)

open PoolCall in
/-- After a registration, every call with the token ends with the issuer's
answer or with a final rejection by another coordinator. It is the issuer's
throughout exactly when every coordinator from the cursor up to the issuer
passes the call on, no other coordinator answers at all exactly when these are
unreachable, and none but the issuer is sent the token exactly when the cursor
is at the issuer each time; it moves by one with every call of any user. -/
theorem tokenCalls_affine_iff {C S : Type} [DecidableEq C] (pool : CoordinatorPool C) (issuer : C)
    (answers : C → Except DiscoveryError RegisterAck) (calls : List (PoolCall C S))
    (registered : RegisteredAt issuer (pool.register answers))
    (known : ∀ call ∈ calls, call.WithToken (fun _ _ => KnownOnlyTo issuer) pool) :
    let start := (pool.register answers).pool
    Along (fun _ pool answers => AnsweredBy issuer answers (pool.tryEach answers) ∨
      ∃ error, (pool.tryEach answers).result = .error error ∧ error.isRetriable = false ∧
        error.isUnauthorized = true) start calls ∧
    (Along (fun _ pool answers => AnsweredBy issuer answers (pool.tryEach answers)) start calls ↔
      ∀ place, (within : place < calls.length) → calls[place].WithToken
        (fun _ pool answers => ∀ coordinator ∈ pool.order.takeWhile (· ≠ issuer), PassesOn answers coordinator)
        (pool.later (place + 1))) ∧
    (Along (fun _ pool answers => Affine issuer answers (pool.tryEach answers)) start calls ↔
      ∀ place, (within : place < calls.length) → calls[place].WithToken
        (fun _ pool answers => ∀ coordinator ∈ pool.order.takeWhile (· ≠ issuer), Unreachable answers coordinator)
        (pool.later (place + 1))) ∧
    (Along (fun _ pool answers => SentOnlyTo issuer (pool.tryEach answers)) start calls ↔
      ∀ place, (within : place < calls.length) → calls[place].WithToken
        (fun _ pool _ => pool.order.head? = some issuer) (pool.later (place + 1))) := by
  intro start
  have member := registered.mem
  have knownAt (place : Nat) (within : place < calls.length) :
      calls[place].WithToken (fun _ _ => KnownOnlyTo issuer) (start.later place) :=
    (known _ (List.getElem_mem within)).imp fun _ _ holds => holds
  have shifted (place : Nat) : start.later place = pool.later (place + 1) := by
    rw [Nat.add_comm, ← pool.later_later]
    rfl
  refine ⟨?_, ?_, ?_, ?_⟩
  · refine (along_iff calls start).mpr fun place within => (knownAt place within).imp fun _ _ alone => ?_
    exact answeredBy_or_unauthorized member alone
  · rw [along_iff calls start]
    refine forall₂_congr fun place within => ?_
    rw [← shifted]
    exact withToken_congr (knownAt place within) fun _ _ alone => answeredBy_iff member alone
  · rw [along_iff calls start]
    refine forall₂_congr fun place within => ?_
    rw [← shifted]
    exact withToken_congr (knownAt place within) fun _ _ alone => affine_iff member alone
  · rw [along_iff calls start]
    refine forall₂_congr fun place within => ?_
    rw [← shifted]
    exact withToken_congr (knownAt place within) fun _ _ alone => sentOnlyTo_iff alone

/-- The second coordinator cannot be reached while the first one, which issued
the token, answers a heartbeat that starts at the second. -/
theorem tokenCalls_affine_iff_secondDown :
    let pool : CoordinatorPool Nat := ⟨[0, 1], List.cons_ne_nil _ _, 0⟩
    let down : DiscoveryError := .httpTransport ⟨false, true, false⟩
    let calls : List (PoolCall Nat Unit) := [.heartbeat fun client => if client = 0 then .ok () else .error down]
    PoolCall.Along (fun _ pool answers => Affine 0 answers (pool.tryEach answers))
      (pool.register fun _ => .ok ⟨[], 900⟩).pool calls := by
  intro pool down calls
  have registered : RegisteredAt 0 (pool.register fun _ => .ok ⟨[], 900⟩) := ⟨⟨_, rfl⟩, rfl⟩
  have known : ∀ call ∈ calls, call.WithToken (fun _ _ => KnownOnlyTo 0) pool := by
    intro call member
    rw [List.mem_singleton.mp member]
    exact ⟨⟨(), rfl⟩, fun client other => ⟨down, if_neg other, Or.inl rfl⟩⟩
  refine (tokenCalls_affine_iff pool 0 _ calls registered known).2.2.1.mpr ?_
  intro place within
  have first : place = 0 := Nat.lt_one_iff.mp within
  subst first
  intro client before
  have other : client = 1 := List.mem_singleton.mp before
  subst other
  exact ⟨down, rfl, rfl, rfl⟩

/-- Both coordinators up: the next call after the registration goes to the
second one, which rejects the token for good. -/
theorem secondCoordinator_rejects_token :
    let pool : CoordinatorPool Nat := ⟨[0, 1], List.cons_ne_nil _ _, 0⟩
    let rejected : DiscoveryError := .httpStatus 401 "unknown session token"
    let answers : Nat → Except DiscoveryError Unit := fun client => if client = 0 then .ok () else .error rejected
    let start := (pool.register fun _ => .ok ⟨[], 900⟩).pool
    RegisteredAt 0 (pool.register fun _ => .ok ⟨[], 900⟩) ∧ KnownOnlyTo 0 answers ∧
      (start.heartbeat answers).calls = [1] ∧ (start.heartbeat answers).result = .error rejected ∧
      ¬ PoolCall.Along (fun _ pool answers => AnsweredBy 0 answers (pool.tryEach answers)) start
        [(.heartbeat answers : PoolCall Nat Unit)] := by
  intro pool rejected answers start
  have calls : (start.heartbeat answers).calls = [1] := rfl
  refine ⟨⟨⟨_, rfl⟩, rfl⟩, ⟨⟨(), rfl⟩, fun client other => ⟨rejected, if_neg other, Or.inr rfl⟩⟩, calls, rfl, ?_⟩
  rintro ⟨⟨atLast, _⟩, _⟩
  have last : (start.heartbeat answers).calls.getLast? = some 0 := atLast
  rw [calls] at last
  exact absurd last (by decide)

end BiBeam
