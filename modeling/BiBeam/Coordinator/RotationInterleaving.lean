import BiBeam.Lib.Reach
import BiBeam.Coordinator.GateRuns
import BiBeam.Coordinator.RotationPost

namespace BiBeam

open WaitList

/-- Where a tick stands between two of its steps: the pairs of its snapshot
still to look up and the cohorts it has collected as live. -/
inductive TickPhase
  | idle
  | looking (pairs : List (String × CohortId)) (liveCohortIds : List CohortId)
  | draining (region : String) (cohortId : CohortId) (record : CohortRecord)
      (pairs : List (String × CohortId)) (liveCohortIds : List CohortId)

/-- The coordinator while requests and one tick run side by side: the shared
stores and gate, the tick's own variables, and what became of the waiters. -/
structure TickWorld where
  scheduler : RotationScheduler
  phase : TickPhase
  channels : Nat
  sent : List Sent
  superseded : List PendingAdmission

inductive TickAction
  | upsert (cohortId : CohortId) (record : CohortRecord) (fault : Option StoreError)
  | request (request : AdmitRequest) (cohort : CohortRecord)
  | evictExpired (faults : RedbFaults CohortId) (now : Timestamp)
  | pendingBuckets
  | get (fault : Option String)
  | drainReady
  | cancelOrphans (dropped : List PendingAdmission)

namespace TickWorld

/-- The effect of one request's `admit_or_bucket` on the shared state. -/
def afterRequest (world : TickWorld) (request : AdmitRequest) (cohort : CohortRecord) : TickWorld :=
  let admitted := world.scheduler.gate.admitOrBucket request.peerId request.cohortId request.region cohort
    world.scheduler.exitRegionLookup world.channels
  { world with
    scheduler := { world.scheduler with gate := admitted.gate }
    channels := world.channels + 1
    superseded := world.superseded ++ admitted.superseded }

def afterDrain (world : TickWorld) (region : String) (cohortId : CohortId) (record : CohortRecord)
    (pairs : List (String × CohortId)) (liveCohortIds : List CohortId) : TickWorld :=
  let drained := world.scheduler.gate.drainReady region cohortId record world.scheduler.auditLog
    world.scheduler.exitRegionLookup
  { world with
    scheduler := { world.scheduler with gate := drained.gate, auditLog := drained.auditLog }
    phase := .looking pairs (pushLive liveCohortIds cohortId)
    sent := world.sent ++ drained.sent }

/-- One atomic step: of a request, or of the tick between two lock releases. -/
inductive Steps : TickWorld → TickAction → TickWorld → Prop
  | upsert {world cohortId record fault} : Steps world (.upsert cohortId record fault)
      { world with scheduler := { world.scheduler with
        cohorts := (world.scheduler.cohorts.upsert fault cohortId record).2 } }
  | request {world request cohort} : Steps world (.request request cohort) (world.afterRequest request cohort)
  | evictExpired {world faults now} : world.phase = .idle → Steps world (.evictExpired faults now)
      { world with scheduler := { world.scheduler with
        cohorts := (world.scheduler.cohorts.evictExpired faults now).2 } }
  | pendingBuckets {world} : world.phase = .idle → Steps world .pendingBuckets
      { world with phase := .looking world.scheduler.gate.pendingBuckets [] }
  | found {world region cohortId pairs live fault record} : world.phase = .looking ((region, cohortId) :: pairs) live →
      world.scheduler.cohorts.get fault cohortId = .ok (some record) →
      Steps world (.get fault) { world with phase := .draining region cohortId record pairs live }
  | missing {world region cohortId pairs live fault} : world.phase = .looking ((region, cohortId) :: pairs) live →
      world.scheduler.cohorts.get fault cohortId = .ok none →
      Steps world (.get fault) { world with phase := .looking pairs live }
  | failed {world region cohortId pairs live fault err} : world.phase = .looking ((region, cohortId) :: pairs) live →
      world.scheduler.cohorts.get fault cohortId = .error err →
      Steps world (.get fault) { world with phase := .idle }
  | drainReady {world region cohortId record pairs live} : world.phase = .draining region cohortId record pairs live →
      Steps world .drainReady (world.afterDrain region cohortId record pairs live)
  | cancelOrphans {world live} : world.phase = .looking [] live →
      Steps world (.cancelOrphans (world.scheduler.gate.cancelOrphans live).dropped) { world with
        scheduler := { world.scheduler with gate := (world.scheduler.gate.cancelOrphans live).gate }
        phase := .idle }

/-- The running tick will not see the cohort: it is neither collected as
live nor among the pairs still to look up. -/
def Exposed : TickPhase → CohortId → Prop
  | .idle, _ => False
  | .looking pairs live, cohortId => cohortId ∉ live ∧ ∀ region, (region, cohortId) ∉ pairs
  | .draining _ current _ pairs live, cohortId =>
    current ≠ cohortId ∧ cohortId ∉ live ∧ ∀ region, (region, cohortId) ∉ pairs

/-- The cohort is stored and does not expire before `now`. -/
def Live (now : Timestamp) (cohortId : CohortId) (world : TickWorld) : Prop :=
  ∃ record, world.scheduler.Stores cohortId record ∧ now ≤ record.rotationDeadline

/-- A step that keeps the cohort live and parks nobody out of the tick's sight. -/
def CalmStep (now : Timestamp) (cohortId : CohortId) (world : TickWorld) (action : TickAction)
    (next : TickWorld) : Prop :=
  world.Steps action next ∧ next.Live now cohortId ∧
    ∀ request cohort, action = .request request cohort → ¬ Exposed world.phase request.cohortId

/-- The waiter is parked, answered, or replaced by a retry of its peer. -/
def Kept (entry : PendingAdmission) (world : TickWorld) : Prop :=
  entry ∈ world.scheduler.gate.waiters ∨ entry ∈ world.sent.map Sent.waiter ∨ entry ∈ world.superseded

/-- While the cohort has a waiter, the tick has it in sight. -/
structure InSight (now : Timestamp) (cohortId : CohortId) (world : TickWorld) : Prop where
  live : world.Live now cohortId
  sight : ∀ entry ∈ world.scheduler.gate.waiters, entry.cohortId = cohortId → ¬ Exposed world.phase cohortId

theorem admit_waiters {gate : AdmissionGate} {request : AdmitRequest} {cohort : CohortRecord}
    {exitRegionLookup : ExitRegionLookup} {channel : ChannelId} :
    (∀ entry ∈ (gate.admitOrBucket request.peerId request.cohortId request.region cohort exitRegionLookup
        channel).gate.waiters, entry ∈ gate.waiters ∨ entry = ⟨request.peerId, request.cohortId, channel⟩) ∧
    ∀ entry ∈ gate.waiters,
      entry ∈ (gate.admitOrBucket request.peerId request.cohortId request.region cohort exitRegionLookup
        channel).gate.waiters ∨
      entry ∈ (gate.admitOrBucket request.peerId request.cohortId request.region cohort exitRegionLookup
        channel).superseded := by
  rcases gate.admitOrBucket_cases request.peerId request.cohortId request.region cohort exitRegionLookup channel
    with ⟨_, run⟩ | ⟨_, _, run⟩ | ⟨_, _, run⟩
  · rw [run]
    exact ⟨fun _ member => Or.inl member, fun _ member => Or.inl member⟩
  · rw [run]
    exact ⟨fun _ member => Or.inl member, fun _ member => Or.inl member⟩
  · rw [run]
    have parking := (Prod.mk.eta (p := upsertPendingEntry gate.pending request.region
      ⟨request.peerId, request.cohortId, channel⟩)).symm
    have whole := ((upsertPendingEntry_spec parking).2.2.1).map Prod.snd
    rw [List.map_append, List.map_map, List.map_cons] at whole
    have moved : ∀ entry, entry = ⟨request.peerId, request.cohortId, channel⟩ ∨ entry ∈ gate.waiters ↔ _ :=
      fun entry => List.mem_cons.symm.trans whole.mem_iff
    simp only [List.mem_append, Function.comp_def, List.map_id'] at moved
    refine ⟨fun entry member => ?_, fun entry member => ?_⟩
    · exact ((moved entry).mpr (Or.inl member)).symm
    · exact (moved entry).mp (Or.inr member)

theorem mem_afterDrain {world : TickWorld} {region : String} {cohortId : CohortId} {record : CohortRecord}
    {pairs : List (String × CohortId)} {live : List CohortId} {entry : PendingAdmission} :
    entry ∈ world.scheduler.gate.waiters ↔
      entry ∈ (world.afterDrain region cohortId record pairs live).scheduler.gate.waiters ∨
      entry ∈ (world.scheduler.gate.drainReady region cohortId record world.scheduler.auditLog
        world.scheduler.exitRegionLookup).sent.map Sent.waiter := by
  have spec := world.scheduler.gate.drainReady_accounts region cohortId record world.scheduler.auditLog
    world.scheduler.exitRegionLookup
  exact spec.whole.mem_iff.trans List.mem_append

/-- A drain answers only waiters of its own cohort. -/
theorem stays_afterDrain {world : TickWorld} {cohortId : CohortId} {entry : PendingAdmission}
    (waits : entry ∈ world.scheduler.gate.waiters) (apart : cohortId ≠ entry.cohortId) (region : String)
    (record : CohortRecord) (pairs : List (String × CohortId)) (live : List CohortId) :
    entry ∈ (world.afterDrain region cohortId record pairs live).scheduler.gate.waiters := by
  have spec := world.scheduler.gate.drainReady_accounts region cohortId record world.scheduler.auditLog
    world.scheduler.exitRegionLookup
  rcases mem_afterDrain.mp waits with stays | released
  · exact stays
  · obtain ⟨sent, isSent, rfl⟩ := List.mem_map.mp released
    exact absurd (spec.answered sent isSent).2.1.symm apart

theorem exposed_afterDrain {world : TickWorld} {cohortId other : CohortId} {live : List CohortId}
    {pairs : List (String × CohortId)} (apart : cohortId ≠ other) (unlisted : other ∉ live)
    (later : ∀ region, (region, other) ∉ pairs) (region : String) (record : CohortRecord) :
    Exposed (world.afterDrain region cohortId record pairs live).phase other := by
  refine ⟨?_, later⟩
  rw [RotationScheduler.mem_pushLive, not_or]
  exact ⟨unlisted, Ne.symm apart⟩

theorem mem_afterCancel {gate : AdmissionGate} {live : List CohortId} {entry : PendingAdmission} :
    (entry ∈ (gate.cancelOrphans live).gate.waiters ↔ entry ∈ gate.waiters ∧ entry.cohortId ∈ live) ∧
      (entry ∈ (gate.cancelOrphans live).dropped ↔ entry ∈ gate.waiters ∧ entry.cohortId ∉ live) := by
  obtain ⟨_, left, dropped, _⟩ := gate.cancelOrphans_spec live
  rw [dropped, AdmissionGate.waiters, left, AdmissionGate.waiters]
  simp only [List.mem_map, List.mem_filter, Bool.not_eq_true', List.contains_eq_mem, decide_eq_false_iff_not,
    decide_eq_true_eq]
  constructor
  · constructor
    · rintro ⟨waiter, ⟨member, inLive⟩, rfl⟩
      exact ⟨⟨waiter, member, rfl⟩, inLive⟩
    · rintro ⟨⟨waiter, member, rfl⟩, inLive⟩
      exact ⟨waiter, ⟨member, inLive⟩, rfl⟩
  · constructor
    · rintro ⟨waiter, ⟨member, orphaned⟩, rfl⟩
      exact ⟨⟨waiter, member, rfl⟩, orphaned⟩
    · rintro ⟨⟨waiter, member, rfl⟩, orphaned⟩
      exact ⟨waiter, ⟨member, orphaned⟩, rfl⟩

theorem InSight.step {now : Timestamp} {cohortId : CohortId} {world next : TickWorld} {action : TickAction}
    (inSight : world.InSight now cohortId) (calm : world.CalmStep now cohortId action next) :
    next.InSight now cohortId := by
  obtain ⟨steps, live, unexposed⟩ := calm
  refine ⟨live, fun entry member same => ?_⟩
  cases steps with
  | upsert => exact inSight.sight entry member same
  | @request request cohort =>
    rcases admit_waiters.1 entry member with old | new
    · exact inSight.sight entry old same
    · have parks := unexposed request cohort rfl
      rw [new] at same
      rwa [← same]
  | evictExpired idle =>
    change ¬ Exposed world.phase cohortId
    rw [idle]
    exact fun never => never
  | pendingBuckets idle =>
    obtain ⟨region, waits⟩ := AdmissionGate.mem_waiters.mp member
    have snapshotted : (region, cohortId) ∈ world.scheduler.gate.pendingBuckets :=
      AdmissionGate.mem_pendingBuckets.mpr ⟨entry, waits, same⟩
    exact fun exposed => exposed.2 region snapshotted
  | @found region current pairs live fault record looking atCohort =>
    have before := inSight.sight entry member same
    rw [looking] at before
    intro exposed
    refine before ⟨exposed.2.1, fun other inPairs => ?_⟩
    rcases List.mem_cons.mp inPairs with here | later
    · exact exposed.1 (Prod.mk.inj here).2.symm
    · exact exposed.2.2 other later
  | @missing region current pairs live fault looking atCohort =>
    have before := inSight.sight entry member same
    rw [looking] at before
    have apart : current ≠ cohortId := by
      rintro rfl
      obtain ⟨record, stored, _⟩ := inSight.live
      rw [RotationScheduler.Stores, readRow_none atCohort] at stored
      cases stored
    intro exposed
    refine before ⟨exposed.1, fun other inPairs => ?_⟩
    rcases List.mem_cons.mp inPairs with here | later
    · exact apart (Prod.mk.inj here).2.symm
    · exact exposed.2 other later
  | failed => exact fun never => never
  | @drainReady region current record pairs live draining =>
    have before := inSight.sight entry (mem_afterDrain.mpr (Or.inl member)) same
    rw [draining] at before
    intro exposed
    have outside := exposed.1
    rw [RotationScheduler.mem_pushLive, not_or] at outside
    exact before ⟨fun here => outside.2 here.symm, outside.1, exposed.2⟩
  | cancelOrphans => exact fun never => never

/-- A tick that has the waiter's cohort in sight does not drop the waiter. -/
theorem InSight.not_dropped {now : Timestamp} {world next : TickWorld} {entry : PendingAdmission}
    {dropped : List PendingAdmission} (inSight : world.InSight now entry.cohortId)
    (steps : world.Steps (.cancelOrphans dropped) next) : entry ∉ dropped := by
  cases steps with
  | @cancelOrphans live looking =>
    intro member
    obtain ⟨waits, orphaned⟩ := mem_afterCancel.2.mp member
    have sight := inSight.sight entry waits rfl
    rw [looking] at sight
    exact sight ⟨orphaned, fun _ none => nomatch none⟩

theorem Kept.step {world next : TickWorld} {action : TickAction} {entry : PendingAdmission}
    (kept : world.Kept entry) (steps : world.Steps action next)
    (spared : ∀ dropped, action = .cancelOrphans dropped → entry ∉ dropped) : next.Kept entry := by
  cases steps with
  | upsert | evictExpired | pendingBuckets | found | missing | failed => exact kept
  | @request request cohort =>
    rcases kept with waits | answered | replaced
    · rcases admit_waiters.2 entry waits with stays | superseded
      · exact Or.inl stays
      · exact Or.inr (Or.inr (List.mem_append_right _ superseded))
    · exact Or.inr (Or.inl answered)
    · exact Or.inr (Or.inr (List.mem_append_left _ replaced))
  | drainReady draining =>
    rcases kept with waits | answered | replaced
    · rcases mem_afterDrain.mp waits with stays | released
      · exact Or.inl stays
      · refine Or.inr (Or.inl ?_)
        rw [afterDrain, List.map_append]
        exact List.mem_append_right _ released
    · refine Or.inr (Or.inl ?_)
      rw [afterDrain, List.map_append]
      exact List.mem_append_left _ answered
    · exact Or.inr (Or.inr replaced)
  | @cancelOrphans live looking =>
    rcases kept with waits | answered | replaced
    · have alive : entry.cohortId ∈ live := by
        by_contra orphaned
        exact spared _ rfl (mem_afterCancel.2.mpr ⟨waits, orphaned⟩)
      exact Or.inl (mem_afterCancel.1.mpr ⟨waits, alive⟩)
    · exact Or.inr (Or.inl answered)
    · exact Or.inr (Or.inr replaced)

/-- From a state that has the waiter in sight, every calm run keeps it. -/
theorem kept_of_calm {now : Timestamp} {world last : TickWorld} {entry : PendingAdmission}
    {actions : List TickAction} (inSight : world.InSight now entry.cohortId) (kept : world.Kept entry)
    (run : Reach (CalmStep now entry.cohortId) world actions last) :
    last.InSight now entry.cohortId ∧ last.Kept entry ∧
      ∀ dropped, .cancelOrphans dropped ∈ actions → entry ∉ dropped := by
  have holds := run.invariant (I := fun world => world.InSight now entry.cohortId ∧ world.Kept entry)
    (L := fun action => ∀ dropped, action = .cancelOrphans dropped → entry ∉ dropped) ⟨inSight, kept⟩ (by
      rintro before action after ⟨sight, keeps⟩ calm
      have spared : ∀ dropped, action = .cancelOrphans dropped → entry ∉ dropped := by
        rintro dropped rfl
        exact sight.not_dropped calm.1
      exact ⟨⟨sight.step calm, keeps.step calm.1 spared⟩, spared⟩)
  exact ⟨holds.1.1, holds.1.2, fun dropped member => holds.2 _ member dropped rfl⟩

/-- Out of sight, the tick finishes by itself and drops the waiter, while
its cohort stays in the store untouched. -/
theorem exposed_dropped {now : Timestamp} {entry : PendingAdmission} (pairs : List (String × CohortId)) :
    ∀ {world : TickWorld} {live : List CohortId}, world.phase = .looking pairs live →
      world.Live now entry.cohortId → entry ∈ world.scheduler.gate.waiters →
      Exposed world.phase entry.cohortId →
      ∃ actions last dropped, Reach (CalmStep now entry.cohortId) world actions last ∧
        .cancelOrphans dropped ∈ actions ∧ entry ∈ dropped := by
  induction pairs with
  | nil =>
    intro world live looking alive waits exposed
    rw [looking] at exposed
    have steps := Steps.cancelOrphans looking
    refine ⟨_, _, _, Reach.single ⟨steps, alive, fun _ _ never => nomatch never⟩, List.mem_singleton_self _, ?_⟩
    exact mem_afterCancel.2.mpr ⟨waits, exposed.1⟩
  | cons pair pairs ih =>
    intro world live looking alive waits exposed
    obtain ⟨region, current⟩ := pair
    rw [looking] at exposed
    have apart : current ≠ entry.cohortId := by
      rintro rfl
      exact exposed.2 region List.mem_cons_self
    have later : ∀ other, (other, entry.cohortId) ∉ pairs := fun other member =>
      exposed.2 other (List.mem_cons_of_mem _ member)
    -- somebody stores a readable record for the next cohort, the tick finds it and drains
    let record : CohortRecord := ⟨[], [], 0, ""⟩
    let stored : TickWorld := { world with scheduler := { world.scheduler with
      cohorts := (world.scheduler.cohorts.upsert none current record).2 } }
    let holding : TickWorld := { stored with phase := .draining region current record pairs live }
    let drained : TickWorld := holding.afterDrain region current record pairs live
    have storedLive : stored.Live now entry.cohortId := by
      obtain ⟨kept, isStored, fresh⟩ := alive
      exact ⟨kept, (AList.lookup_insert_ne (Ne.symm apart)).trans isStored, fresh⟩
    have finds : stored.scheduler.cohorts.get none current = .ok (some record) := by
      have atCurrent : stored.scheduler.cohorts.cohorts.lookup current = some (.ok record) := AList.lookup_insert _
      rw [CohortStore.get, readRow, atCurrent]
      rfl
    have first : world.CalmStep now entry.cohortId (.upsert current record none) stored :=
      ⟨.upsert, storedLive, fun _ _ never => nomatch never⟩
    have second : stored.CalmStep now entry.cohortId (.get none) holding :=
      ⟨.found looking finds, storedLive, fun _ _ never => nomatch never⟩
    have third : holding.CalmStep now entry.cohortId .drainReady drained :=
      ⟨.drainReady rfl, storedLive, fun _ _ never => nomatch never⟩
    have held : entry ∈ holding.scheduler.gate.waiters := waits
    have stays : entry ∈ drained.scheduler.gate.waiters := stays_afterDrain held apart region record pairs live
    have unseen : Exposed drained.phase entry.cohortId := exposed_afterDrain apart exposed.1 later region record
    have resumes : drained.phase = .looking pairs (pushLive live current) := rfl
    have drainedLive : drained.Live now entry.cohortId := storedLive
    obtain ⟨actions, last, dropped, run, cancels, isDropped⟩ := ih resumes drainedLive stays unseen
    have opening := ((Reach.single first).next second).next third
    exact ⟨_, last, dropped, opening.trans run, List.mem_append_right _ cancels, isDropped⟩

theorem Exposed.dropped {now : Timestamp} {entry : PendingAdmission} {world : TickWorld}
    (exposed : Exposed world.phase entry.cohortId) (alive : world.Live now entry.cohortId)
    (waits : entry ∈ world.scheduler.gate.waiters) :
    ∃ actions last dropped, Reach (CalmStep now entry.cohortId) world actions last ∧
      .cancelOrphans dropped ∈ actions ∧ entry ∈ dropped := by
  cases phase : world.phase with
  | idle =>
    rw [phase] at exposed
    exact exposed.elim
  | looking pairs live => exact exposed_dropped pairs phase alive waits exposed
  | draining region current record pairs live =>
    rw [phase] at exposed
    have drained : world.CalmStep now entry.cohortId .drainReady (world.afterDrain region current record pairs live) :=
      ⟨.drainReady phase, alive, fun _ _ never => nomatch never⟩
    have resumes : (world.afterDrain region current record pairs live).phase =
        .looking pairs (pushLive live current) := rfl
    have stays := stays_afterDrain waits exposed.1 region record pairs live
    have unseen : Exposed (world.afterDrain region current record pairs live).phase entry.cohortId :=
      exposed_afterDrain exposed.1 exposed.2.1 exposed.2.2 region record
    obtain ⟨actions, last, dropped, run, cancels, isDropped⟩ := exposed_dropped pairs resumes alive stays unseen
    exact ⟨_, last, dropped, (Reach.single drained).trans run, List.mem_append_right _ cancels, isDropped⟩

/-- A waiter just parked for a live cohort is safe from the tick, in every
calm run that keeps the cohort live, exactly when the tick has its cohort in
sight at that moment. -/
theorem parked_kept_iff (now : Timestamp) (world parked : TickWorld) (request : AdmitRequest)
    (cohort : CohortRecord) (parks : world.Steps (.request request cohort) parked)
    (waits : ⟨request.peerId, request.cohortId, world.channels⟩ ∈ parked.scheduler.gate.waiters)
    (alive : parked.Live now request.cohortId) :
    (∀ actions last, Reach (CalmStep now request.cohortId) parked actions last →
      last.Kept ⟨request.peerId, request.cohortId, world.channels⟩ ∧
      ∀ dropped, .cancelOrphans dropped ∈ actions → ⟨request.peerId, request.cohortId, world.channels⟩ ∉ dropped) ↔
    ¬ Exposed world.phase request.cohortId := by
  have phase : parked.phase = world.phase := by
    cases parks
    rfl
  rw [← phase]
  constructor
  · intro safe exposed
    have entryExposed : Exposed parked.phase
        (PendingAdmission.mk request.peerId request.cohortId world.channels).cohortId := exposed
    obtain ⟨actions, last, dropped, run, cancels, isDropped⟩ := entryExposed.dropped alive waits
    exact (safe actions last run).2 dropped cancels isDropped
  · intro unexposed actions last run
    have sight : parked.InSight now request.cohortId := ⟨alive, fun _ _ _ => unexposed⟩
    have keeps : parked.Kept ⟨request.peerId, request.cohortId, world.channels⟩ := Or.inl waits
    exact (kept_of_calm sight keeps run).2

/-- The cohort of the counterexample, live for an hour. -/
def hourCohort : CohortRecord := ⟨[], [], Duration.minutes 60, ""⟩

/-- A tick has taken its snapshot of an empty wait list; a request then
stores cohort 8. -/
def snapshotTaken : TickWorld where
  scheduler := {
    registry := ⟨∅⟩
    cohorts := ⟨(∅ : Table CohortId (Stored CohortRecord)).insert ⟨8⟩ (.ok hourCohort)⟩
    gate := .new 2
    auditLog := none
    exitRegionLookup := fun _ => none
    heartbeatSlo := Duration.minutes 30 }
  phase := .looking [] []
  channels := 0
  sent := []
  superseded := []

def lateRequest : AdmitRequest := ⟨⟨1⟩, ⟨8⟩, "eu"⟩

theorem late_waiter_cancelled :
    Reach Steps { snapshotTaken with
        phase := .idle, scheduler := { snapshotTaken.scheduler with cohorts := ⟨∅⟩ } }
      [.pendingBuckets, .upsert ⟨8⟩ hourCohort none] snapshotTaken ∧
    ∃ parked last, snapshotTaken.Steps (.request lateRequest hourCohort) parked ∧
      ⟨⟨1⟩, ⟨8⟩, 0⟩ ∈ parked.scheduler.gate.waiters ∧ parked.Live (Duration.minutes 15) ⟨8⟩ ∧
      Reach (fun world action next => world.Steps action next ∧ next.Live (Duration.minutes 15) ⟨8⟩) parked
        [.cancelOrphans [⟨⟨1⟩, ⟨8⟩, 0⟩]] last ∧
      last.scheduler.gate.waiters = [] ∧ last.sent = [] ∧ last.superseded = [] := by
  have live : (snapshotTaken.afterRequest lateRequest hourCohort).Live (Duration.minutes 15) ⟨8⟩ :=
    ⟨hourCohort, rfl, by decide⟩
  have drops : ((snapshotTaken.afterRequest lateRequest hourCohort).scheduler.gate.cancelOrphans []).dropped =
      [⟨⟨1⟩, ⟨8⟩, 0⟩] := by decide
  have cancels := Steps.cancelOrphans
    (rfl : (snapshotTaken.afterRequest lateRequest hourCohort).phase = .looking [] [])
  rw [drops] at cancels
  exact ⟨(Reach.single (.pendingBuckets rfl)).next .upsert, _, _, .request, by decide, live,
    Reach.single ⟨cancels, live⟩, rfl, rfl, rfl⟩

theorem parked_kept_iff_lateRequest :
    (∀ actions last, Reach (CalmStep (Duration.minutes 15) ⟨8⟩) (snapshotTaken.afterRequest lateRequest hourCohort)
        actions last →
      last.Kept ⟨⟨1⟩, ⟨8⟩, 0⟩ ∧ ∀ dropped, .cancelOrphans dropped ∈ actions → ⟨⟨1⟩, ⟨8⟩, 0⟩ ∉ dropped) ↔
    ¬ Exposed snapshotTaken.phase ⟨8⟩ :=
  parked_kept_iff (Duration.minutes 15) snapshotTaken _ lateRequest hourCohort .request (by decide)
    ⟨hourCohort, rfl, by decide⟩

/-- The tick between two turns of its loop. -/
def ofLoop (scheduler : RotationScheduler) (pairs : List (String × CohortId)) (loop : Reconciliation)
    (channels : Nat) (superseded : List PendingAdmission) : TickWorld :=
  ⟨{ scheduler with gate := loop.gate, auditLog := loop.auditLog }, .looking pairs loop.liveCohortIds, channels,
    loop.sent, superseded⟩

/-- A finished loop is a run of the small steps with nobody in between. -/
theorem reconcilePairs_run {scheduler : RotationScheduler} {faults : TickFaults}
    {pairs : List (String × CohortId)} {before after : Reconciliation}
    (run : scheduler.reconcilePairs faults pairs before = (.ok (), after)) (channels : Nat)
    (superseded : List PendingAdmission) :
    ∃ actions, Reach Steps (ofLoop scheduler pairs before channels superseded) actions
      (ofLoop scheduler [] after channels superseded) := by
  induction pairs generalizing before with
  | nil =>
    cases run
    exact ⟨[], .start⟩
  | cons pair pairs ih =>
    obtain ⟨region, cohortId⟩ := pair
    unfold RotationScheduler.reconcilePairs at run
    split at run
    · cases run
    · rename_i missing
      obtain ⟨actions, rest⟩ := ih run
      have skips : (ofLoop scheduler ((region, cohortId) :: pairs) before channels superseded).Steps
          (.get (faults.get (region, cohortId))) (ofLoop scheduler pairs before channels superseded) :=
        .missing rfl missing
      exact ⟨_, (Reach.single skips).trans rest⟩
    · rename_i record found
      obtain ⟨actions, rest⟩ := ih run
      have finds : (ofLoop scheduler ((region, cohortId) :: pairs) before channels superseded).Steps
          (.get (faults.get (region, cohortId)))
          { ofLoop scheduler pairs before channels superseded with
            phase := .draining region cohortId record pairs before.liveCohortIds } := .found rfl found
      have drains : Steps { ofLoop scheduler pairs before channels superseded with
            phase := .draining region cohortId record pairs before.liveCohortIds } .drainReady
          (ofLoop scheduler pairs (scheduler.reconcilePair before region cohortId record) channels superseded) :=
        .drainReady rfl
      exact ⟨_, ((Reach.single finds).next drains).trans rest⟩

/-- A tick that returns is such a run: after the registry sweep it evicts,
takes its snapshot, works through it and cancels. -/
theorem tickOnce_run {scheduler : RotationScheduler} {faults : TickFaults} {now : Timestamp} {stats : RotationStats}
    (returns : (scheduler.tickOnce faults now).result = .ok stats) (channels : Nat)
    (superseded : List PendingAdmission) :
    ∃ actions, Reach Steps
      ⟨{ scheduler with registry := (scheduler.registry.evictStale faults.stale (now - scheduler.heartbeatSlo)).2 },
        .idle, channels, [], superseded⟩ actions
      ⟨(scheduler.tickOnce faults now).scheduler, .idle, channels, (scheduler.tickOnce faults now).sent, superseded⟩ := by
  have ticks := scheduler.tickOnce_ticks faults now
  generalize scheduler.tickOnce faults now = step at returns ticks ⊢
  cases ticks with
  | registryFailed | cohortsFailed | getFailed => exact nomatch returns
  | @completed registry _ cohorts _ loop stale expired finished =>
    rw [stale]
    obtain ⟨actions, loops⟩ := reconcilePairs_run finished channels superseded
    have evicts : Steps ⟨{ scheduler with registry := registry }, .idle, channels, [], superseded⟩
        (.evictExpired faults.expired now)
        ⟨{ scheduler with registry := registry, cohorts := cohorts }, .idle, channels, [], superseded⟩ := by
      have swept := @Steps.evictExpired ⟨{ scheduler with registry := registry }, .idle, channels, [], superseded⟩
        faults.expired now rfl
      dsimp only at swept
      rwa [expired] at swept
    have snapshots := Steps.pendingBuckets (rfl : (⟨{ scheduler with registry := registry, cohorts := cohorts }, .idle,
      channels, [], superseded⟩ : TickWorld).phase = .idle)
    have cancels := Steps.cancelOrphans (rfl : (ofLoop { scheduler with registry := registry, cohorts := cohorts } [] loop
      channels superseded).phase = .looking [] loop.liveCohortIds)
    exact ⟨_, (((Reach.single evicts).next snapshots).trans loops).next cancels⟩

end TickWorld

end BiBeam
