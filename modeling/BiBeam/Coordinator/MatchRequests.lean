import BiBeam.Lib.ReadModifyWrite
import BiBeam.Coordinator.GateRuns
import BiBeam.Coordinator.RotationPost

namespace BiBeam

open WaitList

/-- How far a match request has come: it reads the cohort's record, has the
gate decide on its copy, and stores the copy. -/
inductive RequestPhase
  | idle
  | got (cohort : CohortRecord)
  | decided (cohort : CohortRecord) (outcome : AdmissionOutcome)
  | finished (outcome : AdmissionOutcome) (persisted : Bool)

inductive MatchAction (ι : Type)
  | get (request : ι)
  | admitOrBucket (request : ι)
  | upsert (request : ι) (fault : Option StoreError)

/-- Requests of different peers for one cohort and region. -/
structure MatchRequests (ι : Type) where
  peer : ι → PeerId
  distinct : Function.Injective peer
  cohortId : CohortId
  region : String
  exitRegionLookup : ExitRegionLookup

/-- What the gate answered, once it has. -/
def RequestPhase.outcome? : RequestPhase → Option AdmissionOutcome
  | .idle => none
  | .got _ => none
  | .decided _ outcome => some outcome
  | .finished outcome _ => some outcome

structure MatchWorld (ι : Type) where
  cohorts : CohortStore
  gate : AdmissionGate
  channels : Nat
  phase : ι → RequestPhase

def AdmissionOutcome.refused : AdmissionOutcome → Bool
  | .regionMismatch _ _ => true
  | .admitted _ => false
  | .bucketed _ => false

/-- The access of the shared record that a step makes. -/
def MatchAction.access? {ι : Type} : MatchAction ι → Option (ReadModifyWrite.Access ι)
  | .get request => some (.read request)
  | .admitOrBucket _ => none
  | .upsert request fault => some (.write request fault.isNone)

/-- No upsert fails, and none lands between another request's `get` and `upsert`. -/
def Serialised {ι : Type} [DecidableEq ι] (actions : List (MatchAction ι)) : Prop :=
  ReadModifyWrite.Serial (actions.filterMap MatchAction.access?)

namespace MatchRequests

variable {ι : Type} [DecidableEq ι] (requests : MatchRequests ι)

inductive Step : MatchWorld ι → MatchAction ι → MatchWorld ι → Prop
  | get {world i record} : world.phase i = .idle →
      world.cohorts.get none requests.cohortId = .ok (some record) →
      Step world (.get i) { world with phase := Function.update world.phase i (.got record) }
  | admitOrBucket {world i record admitted} : world.phase i = .got record →
      admitted = world.gate.admitOrBucket (requests.peer i) requests.cohortId requests.region record
        requests.exitRegionLookup world.channels →
      Step world (.admitOrBucket i) { world with
        gate := admitted.gate
        channels := world.channels + 1
        phase := Function.update world.phase i (.decided admitted.cohort admitted.outcome) }
  | upsert {world i cohort outcome fault} : world.phase i = .decided cohort outcome → outcome.refused = false →
      Step world (.upsert i fault) { world with
        cohorts := (world.cohorts.upsert fault requests.cohortId cohort).2
        phase := Function.update world.phase i (.finished outcome fault.isNone) }

def start (cohorts : CohortStore) (gate : AdmissionGate) (channels : Nat) : MatchWorld ι :=
  ⟨cohorts, gate, channels, fun _ => .idle⟩

/-- The record of every finished request's peer is kept, and its waiter, if
it was parked, goes out with the first drain at or above the floor. -/
def NoLostMember (world : MatchWorld ι) : Prop :=
  ∃ record, world.cohorts.cohorts.lookup requests.cohortId = some (.ok record) ∧
    ∀ i outcome persisted, world.phase i = .finished outcome persisted →
      requests.peer i ∈ record.members ∧
      ∀ channel auditLog, outcome = .bucketed channel → world.gate.floor.toNat ≤ record.members.length →
        ⟨requests.peer i, requests.cohortId, channel⟩ ∈ (world.gate.drainReady requests.region requests.cohortId
          record auditLog requests.exitRegionLookup).sent.map Sent.waiter

/-- What a request does to the record: join as the gate lets it. -/
def modify (i : ι) (record : CohortRecord) : CohortRecord :=
  record.joined (requests.peer i) requests.region

def mark (i : ι) (record : CohortRecord) : Prop :=
  requests.peer i ∈ record.members

omit [DecidableEq ι] in
theorem marks : ReadModifyWrite.Marks requests.modify requests.mark where
  own _ _ := CohortRecord.mem_joined.mpr (Or.inr rfl)
  kept _ _ _ marked := CohortRecord.mem_joined.mpr (Or.inl marked)
  only _ _ _ marked := (CohortRecord.mem_joined.mp marked).symm.imp_left fun same => requests.distinct same

/-- A request's phase, as the phase of a client of the shared record. -/
def Represents (phase : RequestPhase) (i : ι) (client : ReadModifyWrite.Phase CohortRecord) : Prop :=
  match phase with
  | .idle => client = .idle
  | .got cohort => client = .holding cohort
  | .decided cohort outcome => ∃ copy, client = .holding copy ∧
      (outcome.refused = false → cohort = requests.modify i copy)
  | .finished _ persisted => client = .finished persisted

/-- The stored record and the requests' phases refine the shared cell. -/
structure Refines (world : MatchWorld ι) (cell : ReadModifyWrite.State ι CohortRecord) : Prop where
  stored : world.cohorts.cohorts.lookup requests.cohortId = some (.ok cell.cell)
  phases : ∀ i, requests.Represents (world.phase i) i (cell.phase i)

variable {requests}

theorem Refines.update {world : MatchWorld ι} {cell : ReadModifyWrite.State ι CohortRecord}
    (refines : requests.Refines world cell) {i : ι} {phase : RequestPhase}
    {client : ReadModifyWrite.Phase CohortRecord} (represents : requests.Represents phase i client) (j : ι) :
    requests.Represents (Function.update world.phase i phase j) j (Function.update cell.phase i client j) := by
  by_cases same : j = i
  · rw [same, Function.update_self, Function.update_self]
    exact represents
  · rw [Function.update_of_ne same, Function.update_of_ne same]
    exact refines.phases j

/-- Each step of the requests is one access of the cell, or none. -/
theorem Refines.step {world next : MatchWorld ι} {action : MatchAction ι}
    {cell : ReadModifyWrite.State ι CohortRecord} (refines : requests.Refines world cell)
    (steps : requests.Step world action next) :
    ∃ after, requests.Refines next after ∧
      Reach (ReadModifyWrite.Step requests.modify) cell action.access?.toList after := by
  cases steps with
  | @get i record idle found =>
    have stored := readRow_some found
    have current : record = cell.cell := by
      rw [CohortStore.get] at found
      have atCohort := refines.stored
      rw [stored] at atCohort
      exact Except.ok.inj (Option.some.inj atCohort)
    have client := refines.phases i
    rw [idle] at client
    have reads : requests.Represents (.got record) i (.holding cell.cell) := by
      rw [current]
      rfl
    exact ⟨⟨cell.cell, Function.update cell.phase i (.holding cell.cell)⟩, ⟨refines.stored, refines.update reads⟩,
      Reach.single (.read client)⟩
  | @admitOrBucket i record admitted got decision =>
    have client := refines.phases i
    rw [got] at client
    refine ⟨cell, ⟨refines.stored, fun j => ?_⟩, .start⟩
    have decided : requests.Represents (.decided admitted.cohort admitted.outcome) i (cell.phase i) := by
      refine ⟨record, client, fun accepted => ?_⟩
      rcases world.gate.admitOrBucket_cases (requests.peer i) requests.cohortId requests.region record
        requests.exitRegionLookup world.channels with ⟨_, run⟩ | ⟨_, _, run⟩ | ⟨_, _, run⟩
      · rw [decision, run] at accepted
        exact nomatch accepted
      · rw [decision, run]
        rfl
      · rw [decision, run]
        rfl
    have updated := refines.update decided j
    rwa [Function.update_eq_self] at updated
  | @upsert i cohort outcome fault decided accepted =>
    have client := refines.phases i
    rw [decided] at client
    obtain ⟨copy, holds, joins⟩ := client
    have written := joins accepted
    cases fault with
    | none =>
      have wrote : requests.Represents (.finished outcome true) i (.finished true) := rfl
      refine ⟨⟨requests.modify i copy, _⟩, ⟨?_, refines.update wrote⟩, Reach.single (.write holds)⟩
      rw [← written]
      exact AList.lookup_insert _
    | some err =>
      have failed : requests.Represents (.finished outcome false) i (.finished false) := rfl
      exact ⟨⟨cell.cell, Function.update cell.phase i (.finished false)⟩,
        ⟨refines.stored, refines.update failed⟩, Reach.single (.failed holds)⟩

theorem refines_run {cohorts : CohortStore} {gate : AdmissionGate} {channels : Nat} {record : CohortRecord}
    {actions : List (MatchAction ι)} {world : MatchWorld ι}
    (stored : cohorts.cohorts.lookup requests.cohortId = some (.ok record))
    (run : Reach requests.Step (start cohorts gate channels) actions world) :
    ∃ cell, requests.Refines world cell ∧
      Reach (ReadModifyWrite.Step requests.modify) (ReadModifyWrite.init record)
        (actions.filterMap MatchAction.access?) cell := by
  have atStart : requests.Refines (start cohorts gate channels) (ReadModifyWrite.init record) :=
    ⟨stored, fun _ => rfl⟩
  have matched := run.simulate atStart fun _ _ _ _ refines steps => refines.step steps
  rwa [← List.filterMap_eq_flatMap_toList] at matched

/-- A request that has an outcome after a step has it by the step or had it before. -/
theorem outcome_update {phases : ι → RequestPhase} {i k : ι} {phase : RequestPhase} {outcome : AdmissionOutcome}
    (updated : (Function.update phases k phase i).outcome? = some outcome) :
    i = k ∧ phase.outcome? = some outcome ∨ i ≠ k ∧ (phases i).outcome? = some outcome := by
  by_cases same : i = k
  · rw [same, Function.update_self] at updated
    exact Or.inl ⟨same, updated⟩
  · rw [Function.update_of_ne same] at updated
    exact Or.inr ⟨same, updated⟩

/-- Different peers do not supersede each other, so a parked request's waiter stays. -/
theorem parked_stays {cohorts : CohortStore} {gate : AdmissionGate} {channels : Nat}
    {actions : List (MatchAction ι)} {world : MatchWorld ι}
    (run : Reach requests.Step (start cohorts gate channels) actions world) (i : ι) (channel : ChannelId)
    (parked : (world.phase i).outcome? = some (.bucketed channel)) :
    ⟨requests.peer i, requests.cohortId, channel⟩ ∈ bucket world.gate.pending requests.region := by
  induction run with
  | start => exact nomatch parked
  | @next actions before action after _ steps ih =>
    cases steps with
    | @get k record idle _ =>
      rcases outcome_update parked with ⟨_, never⟩ | ⟨_, earlier⟩
      · exact nomatch never
      · exact ih earlier
    | @upsert k cohort outcome fault decided _ =>
      rcases outcome_update parked with ⟨same, kept⟩ | ⟨_, earlier⟩
      · rw [same] at ih ⊢
        rw [decided] at ih
        exact ih kept
      · exact ih earlier
    | @admitOrBucket k record admitted got decision =>
      rcases before.gate.admitOrBucket_cases (requests.peer k) requests.cohortId requests.region record
        requests.exitRegionLookup before.channels with ⟨_, run⟩ | ⟨_, _, run⟩ | ⟨_, _, run⟩
      · rw [run] at decision
        subst decision
        rcases outcome_update parked with ⟨_, refused⟩ | ⟨_, earlier⟩
        · exact nomatch Option.some.inj refused
        · exact ih earlier
      · rw [run] at decision
        subst decision
        rcases outcome_update parked with ⟨_, admits⟩ | ⟨_, earlier⟩
        · exact nomatch Option.some.inj admits
        · exact ih earlier
      · rw [run] at decision
        subst decision
        have here := bucket_upsert (Prod.mk.eta (p := upsertPendingEntry before.gate.pending requests.region
          ⟨requests.peer k, requests.cohortId, before.channels⟩)).symm requests.region
        rw [if_pos rfl, KeyedQueue.put] at here
        dsimp only
        rw [here]
        rcases outcome_update parked with ⟨same, parks⟩ | ⟨other, earlier⟩
        · rw [same]
          cases parks
          exact List.mem_append_right _ (List.mem_singleton_self _)
        · refine List.mem_append_left _ (List.mem_filter.mpr ⟨ih earlier, ?_⟩)
          have apart : requests.peer i ≠ requests.peer k := fun equal => other (requests.distinct equal)
          simp [PendingAdmission.key, apart]

/-- At the floor, a drain with the stored record answers every member's waiter. -/
theorem drain_answers {gate : AdmissionGate} {region : String} {record : CohortRecord} {entry : PendingAdmission}
    (waits : entry ∈ bucket gate.pending region) (isMember : entry.peerId ∈ record.members)
    (reached : gate.floor.toNat ≤ record.members.length) (auditLog : Option AuditLog)
    (exitRegionLookup : ExitRegionLookup) :
    entry ∈ (gate.drainReady region entry.cohortId record auditLog exitRegionLookup).sent.map Sent.waiter := by
  rcases gate.drainReady_cases region entry.cohortId record auditLog exitRegionLookup with
    ⟨short, _⟩ | ⟨_, run⟩
  · omega
  · have taken := (Prod.mk.eta (p := partitionWaitersFor gate.pending region entry.cohortId record)).symm
    rw [run, List.map_map, (partitionWaitersFor_spec taken).1]
    refine List.mem_map.mpr ⟨entry, List.mem_filter.mpr ⟨waits, ?_⟩, rfl⟩
    rw [decide_eq_true rfl, Bool.true_and, List.contains_iff_mem]
    exact isMember

/-- Finished requests keep their members, and their waiters can be answered,
if the requests' upserts are serialised; and only then, when none of the
peers was in the record before. -/
theorem noLostMember_iff_serialised (requests : MatchRequests ι) (cohorts : CohortStore) (gate : AdmissionGate)
    (channels : Nat) (record : CohortRecord)
    (stored : cohorts.cohorts.lookup requests.cohortId = some (.ok record))
    (actions : List (MatchAction ι)) (world : MatchWorld ι)
    (run : Reach requests.Step (start cohorts gate channels) actions world) :
    (Serialised actions → requests.NoLostMember world) ∧
      ((∀ i, requests.peer i ∉ record.members) → requests.NoLostMember world → Serialised actions) := by
  obtain ⟨cell, refines, accesses⟩ := refines_run stored run
  refine ⟨fun serial => ⟨cell.cell, refines.stored, fun i outcome persisted finished => ?_⟩, fun fresh kept => ?_⟩
  · have client := refines.phases i
    rw [finished] at client
    have isMember := ReadModifyWrite.lossless_of_serial requests.marks accesses serial i persisted client
    refine ⟨isMember, fun channel auditLog parked reached => ?_⟩
    have waits := parked_stays run i channel (by rw [finished, parked]; rfl)
    exact drain_answers waits isMember reached auditLog requests.exitRegionLookup
  · refine (ReadModifyWrite.lossless_iff_serial requests.marks fresh accesses).mp fun i written client => ?_
    obtain ⟨now, atCohort, members⟩ := kept
    rw [refines.stored] at atCohort
    cases atCohort
    have phase := refines.phases i
    rw [client] at phase
    cases before : world.phase i with
    | idle =>
      rw [before] at phase
      exact nomatch phase
    | got cohort =>
      rw [before] at phase
      exact nomatch phase
    | decided cohort outcome =>
      rw [before] at phase
      obtain ⟨copy, never, _⟩ := phase
      exact nomatch never
    | finished outcome persisted => exact (members i outcome persisted before).1

/-- Peers 1 and 2 ask for cohort 7 at the same time. -/
def twoRequests : MatchRequests Bool where
  peer second := if second then ⟨2⟩ else ⟨1⟩
  distinct := by decide
  cohortId := ⟨7⟩
  region := "eu"
  exitRegionLookup := fun _ => none

def emptyCohort : CohortRecord := ⟨[], [], Duration.minutes 15, ""⟩

def oneCohort : CohortStore := ⟨(∅ : Table CohortId (Stored CohortRecord)).insert ⟨7⟩ (.ok emptyCohort)⟩

/-- Both read the empty record before either stores its copy. -/
def overlapping : List (MatchAction Bool) :=
  [.get false, .get true, .admitOrBucket false, .admitOrBucket true, .upsert false none, .upsert true none]

theorem overlapping_loses_member : ∃ world,
    Reach twoRequests.Step (start oneCohort (.new 30) 0) overlapping world ∧
    (∀ i, ∃ outcome, world.phase i = .finished outcome true) ∧
    world.phase false = .finished (.bucketed 0) true ∧
    ⟨⟨1⟩, ⟨7⟩, 0⟩ ∈ bucket world.gate.pending "eu" ∧
    world.cohorts.cohorts.lookup ⟨7⟩ = some (.ok ⟨[⟨2⟩], [], Duration.minutes 15, "eu"⟩) ∧
    ¬ twoRequests.NoLostMember world := by
  have reads := ((Reach.start).next (@Step.get _ _ twoRequests (start oneCohort (.new 30) 0) false emptyCohort rfl
    rfl)).next (@Step.get _ _ twoRequests _ true emptyCohort rfl rfl)
  have decides := (reads.next (@Step.admitOrBucket _ _ twoRequests _ false emptyCohort _ rfl rfl)).next
    (@Step.admitOrBucket _ _ twoRequests _ true emptyCohort _ rfl rfl)
  have stores := (decides.next (@Step.upsert _ _ twoRequests _ false ⟨[⟨1⟩], [], Duration.minutes 15, "eu"⟩
    (.bucketed 0) none rfl rfl)).next (@Step.upsert _ _ twoRequests _ true ⟨[⟨2⟩], [], Duration.minutes 15, "eu"⟩
    (.bucketed 1) none rfl rfl)
  refine ⟨_, stores, fun i => ?_, rfl, by decide, rfl, ?_⟩
  · cases i with
    | false => exact ⟨_, rfl⟩
    | true => exact ⟨_, rfl⟩
  · rintro ⟨record, atCohort, members⟩
    cases atCohort
    exact absurd (members false (.bucketed 0) true rfl).1 (by decide)

/-- One request after the other. -/
def sequential : List (MatchAction Bool) :=
  [.get false, .admitOrBucket false, .upsert false none, .get true, .admitOrBucket true, .upsert true none]

theorem noLostMember_iff_serialised_sequential : ∃ world,
    Reach twoRequests.Step (start oneCohort (.new 30) 0) sequential world ∧
    (Serialised sequential → twoRequests.NoLostMember world) ∧
      ((∀ i, twoRequests.peer i ∉ emptyCohort.members) → twoRequests.NoLostMember world →
        Serialised sequential) := by
  have first := (((Reach.start).next (@Step.get _ _ twoRequests (start oneCohort (.new 30) 0) false emptyCohort rfl
    rfl)).next (@Step.admitOrBucket _ _ twoRequests _ false emptyCohort _ rfl rfl)).next
    (@Step.upsert _ _ twoRequests _ false ⟨[⟨1⟩], [], Duration.minutes 15, "eu"⟩ (.bucketed 0) none rfl rfl)
  have second := ((first.next (@Step.get _ _ twoRequests _ true ⟨[⟨1⟩], [], Duration.minutes 15, "eu"⟩ rfl
    rfl)).next (@Step.admitOrBucket _ _ twoRequests _ true ⟨[⟨1⟩], [], Duration.minutes 15, "eu"⟩ _ rfl rfl)).next
    (@Step.upsert _ _ twoRequests _ true ⟨[⟨1⟩, ⟨2⟩], [], Duration.minutes 15, "eu"⟩ (.bucketed 1) none rfl rfl)
  exact ⟨_, second, noLostMember_iff_serialised twoRequests oneCohort (.new 30) 0 emptyCohort rfl sequential _ second⟩

end MatchRequests

end BiBeam
