import Mathlib.Data.Finset.Card
import BiBeam.Coordinator.GateRuns
import BiBeam.Coordinator.RotationPost

namespace BiBeam

open WaitList

/-- What happens at a coordinator between and at ticks. -/
inductive RotationEvent
  | upsertPeer (fault : Option StoreError) (record : PeerRecord)
  | request (request : AdmitRequest) (cohort : CohortRecord) (channel : ChannelId) (fault : Option StoreError)
  | tick (faults : TickFaults) (now : Timestamp)

/-- A tick of a run, with the state it started from. -/
structure RunTick where
  before : RotationScheduler
  faults : TickFaults
  now : Timestamp
  step : TickStep

/-- The peer has a registry row that is not stale. -/
def PeerRegistry.heardSince (registry : PeerRegistry) (cutoff : Timestamp) (peerId : PeerId) : Bool :=
  match registry.peers.lookup peerId with
  | some (.ok record) => cutoff ≤ record.lastSeen
  | _ => false

theorem PeerRegistry.heardSince_iff {registry : PeerRegistry} {cutoff : Timestamp} {peerId : PeerId} :
    registry.heardSince cutoff peerId = true ↔
      ∃ record, registry.peers.lookup peerId = some (.ok record) ∧ cutoff ≤ record.lastSeen := by
  unfold heardSince
  split
  · rename_i record atPeer
    rw [decide_eq_true_eq]
    constructor
    · exact fun recent => ⟨record, atPeer, recent⟩
    · rintro ⟨other, same, recent⟩
      rw [atPeer] at same
      cases same
      exact recent
  · rename_i unreadable
    constructor
    · exact fun never => nomatch never
    · rintro ⟨record, atPeer, _⟩
      exact absurd atPeer (unreadable record)

namespace RotationScheduler

/-- An admission and, unless it was refused, the upsert of the updated record. -/
def admitAndPersist (scheduler : RotationScheduler) (request : AdmitRequest) (cohort : CohortRecord)
    (channel : ChannelId) (fault : Option StoreError) : RotationScheduler :=
  let admitted := scheduler.gate.admitOrBucket request.peerId request.cohortId request.region cohort
    scheduler.exitRegionLookup channel
  match admitted.outcome with
  | .regionMismatch _ _ => scheduler
  | .admitted _ | .bucketed _ => { scheduler with
      gate := admitted.gate
      cohorts := (scheduler.cohorts.upsert fault request.cohortId admitted.cohort).2 }

def ticksOf : RotationScheduler → List RotationEvent → List RunTick
  | _, [] => []
  | scheduler, .upsertPeer fault record :: events =>
    ticksOf { scheduler with registry := (scheduler.registry.upsert fault record).2 } events
  | scheduler, .request request cohort channel fault :: events =>
    ticksOf (scheduler.admitAndPersist request cohort channel fault) events
  | scheduler, .tick faults now :: events =>
    ⟨scheduler, faults, now, scheduler.tickOnce faults now⟩ ::
      ticksOf (scheduler.tickOnce faults now).scheduler events

theorem ticksOf_ticks {events : List RotationEvent} {scheduler : RotationScheduler} {tick : RunTick}
    (member : tick ∈ ticksOf scheduler events) : tick.before.Ticks tick.faults tick.now tick.step := by
  induction events generalizing scheduler with
  | nil => exact nomatch member
  | cons event events ih =>
    cases event with
    | upsertPeer => exact ih member
    | request => exact ih member
    | tick faults now =>
      rcases List.mem_cons.mp member with rfl | later
      · exact tickOnce_ticks scheduler faults now
      · exact ih later

/-- Every cohort that a tick would release from, unexpired, at the floor and
with a member waiting, has at least `floor` members with a recent heartbeat. -/
def LiveMembers (scheduler : RotationScheduler) (now : Timestamp) : Prop :=
  ∀ record region, ∀ entry ∈ bucket scheduler.gate.pending region,
    scheduler.Stores entry.cohortId record → now ≤ record.rotationDeadline →
    scheduler.gate.floor.toNat ≤ record.members.length → entry.peerId ∈ record.members →
    scheduler.gate.floor.toNat ≤ (record.members.toFinset.filter fun peerId =>
      scheduler.registry.heardSince (now - scheduler.heartbeatSlo) peerId).card

/-- The same of the waiters of some pairs only. -/
def LiveMembersAmong (scheduler : RotationScheduler) (pairs : List (String × CohortId)) (now : Timestamp) : Prop :=
  ∀ record region, ∀ entry ∈ bucket scheduler.gate.pending region, (region, entry.cohortId) ∈ pairs →
    scheduler.Stores entry.cohortId record → now ≤ record.rotationDeadline →
    scheduler.gate.floor.toNat ≤ record.members.length → entry.peerId ∈ record.members →
    scheduler.gate.floor.toNat ≤ (record.members.toFinset.filter fun peerId =>
      scheduler.registry.heardSince (now - scheduler.heartbeatSlo) peerId).card

/-- The pairs of the snapshot that a tick looks up before a lookup fails, if
its sweeps go through. -/
def lookedUp (scheduler : RotationScheduler) (faults : TickFaults) (now : Timestamp) : List (String × CohortId) :=
  match (scheduler.registry.evictStale faults.stale (now - scheduler.heartbeatSlo)).1,
    (scheduler.cohorts.evictExpired faults.expired now).1 with
  | .ok _, .ok _ => scheduler.gate.pendingBuckets.takeWhile fun pair => (faults.get pair).isNone
  | _, _ => []

end RotationScheduler

/-- Whatever cohort the tick answered a waiter of, at least `floor` of its
stored members are still registered after the tick. -/
def TickStep.ReleasesLive (step : TickStep) : Prop :=
  ∀ sent ∈ step.sent, ∃ record, step.scheduler.Stores sent.waiter.cohortId record ∧
    step.scheduler.gate.floor.toNat ≤ (record.members.toFinset.filter fun peerId =>
      (step.scheduler.registry.peers.lookup peerId).isSome).card

namespace RotationScheduler

section Loop

variable {scheduler : RotationScheduler} {faults : TickFaults} {pairs : List (String × CohortId)}
  {before after : Reconciliation}

/-- Where every row can be read, all that the loop does it has done when it
reaches the first lookup that fails. -/
theorem reconcilePairs_lookedUp {result : Except RotationError Unit}
    (readable : ∀ cohortId stored, scheduler.cohorts.cohorts.lookup cohortId = some stored →
      ∃ record, stored = .ok record)
    (run : scheduler.reconcilePairs faults pairs before = (result, after)) :
    scheduler.reconcilePairs faults (pairs.takeWhile fun pair => (faults.get pair).isNone) before = (.ok (), after) := by
  induction pairs generalizing before with
  | nil =>
    cases run
    rfl
  | cons pair pairs ih =>
    obtain ⟨region, cohortId⟩ := pair
    cases fault : faults.get (region, cohortId) with
    | some text =>
      rw [List.takeWhile_cons_of_neg (by rw [fault]; exact Bool.false_ne_true)]
      rw [reconcilePairs, CohortStore.get, readRow, fault] at run
      cases run
      rfl
    | none =>
      rw [List.takeWhile_cons_of_pos (by rw [fault]; rfl)]
      rw [reconcilePairs, CohortStore.get, readRow, fault] at run ⊢
      cases atCohort : scheduler.cohorts.cohorts.lookup cohortId with
      | none =>
        rw [atCohort] at run
        exact ih run
      | some stored =>
        obtain ⟨record, rfl⟩ := readable cohortId stored atCohort
        rw [atCohort] at run
        exact ih run

/-- A loop that finishes has looked up all of its pairs. -/
theorem takeWhile_of_finished (run : scheduler.reconcilePairs faults pairs before = (.ok (), after)) :
    (pairs.takeWhile fun pair => (faults.get pair).isNone) = pairs := by
  induction pairs generalizing before with
  | nil => rfl
  | cons pair pairs ih =>
    obtain ⟨region, cohortId⟩ := pair
    cases fault : faults.get (region, cohortId) with
    | some text =>
      rw [reconcilePairs, CohortStore.get, readRow, fault] at run
      cases run
    | none =>
      rw [List.takeWhile_cons_of_pos (by rw [fault]; rfl)]
      unfold reconcilePairs at run
      split at run
      · cases run
      · rw [ih run]
      · rw [ih run]

/-- A waiter leaves its bucket only by being answered. -/
theorem reconcilePairs_kept {result : Except RotationError Unit} {region : String} {entry : PendingAdmission}
    (run : scheduler.reconcilePairs faults pairs before = (result, after))
    (waits : entry ∈ bucket before.gate.pending region) :
    entry ∈ bucket after.gate.pending region ∨ entry ∈ after.sent.map Sent.waiter := by
  induction pairs generalizing before with
  | nil =>
    cases run
    exact Or.inl waits
  | cons pair pairs ih =>
    obtain ⟨current, cohortId⟩ := pair
    unfold reconcilePairs at run
    split at run
    · cases run
      exact Or.inl waits
    · exact ih run waits
    · rename_i record found
      have spec := before.gate.drainReady_accounts current cohortId record before.auditLog scheduler.exitRegionLookup
      rcases spec.kept region entry waits with stays | answered
      · exact ih run stays
      · obtain ⟨later, sends, _⟩ := (reconcilePairs_advances run).sends
        rw [sends, List.map_append]
        refine Or.inr (List.mem_append_left _ ?_)
        rw [reconcilePair, List.map_append]
        exact List.mem_append_right _ answered

/-- Whom the loop answers waited under one of its pairs. -/
theorem reconcilePairs_sent {result : Except RotationError Unit} {sent : Sent}
    (run : scheduler.reconcilePairs faults pairs before = (result, after)) (member : sent ∈ after.sent) :
    sent ∈ before.sent ∨ ∃ region, (region, sent.waiter.cohortId) ∈ pairs ∧
      sent.waiter ∈ bucket before.gate.pending region := by
  induction pairs generalizing before with
  | nil =>
    cases run
    exact Or.inl member
  | cons pair pairs ih =>
    obtain ⟨current, cohortId⟩ := pair
    unfold reconcilePairs at run
    split at run
    · cases run
      exact Or.inl member
    · exact (ih run).imp_right fun ⟨region, listed, waits⟩ => ⟨region, List.mem_cons_of_mem _ listed, waits⟩
    · rename_i record found
      have spec := before.gate.drainReady_accounts current cohortId record before.auditLog scheduler.exitRegionLookup
      rcases ih run with earlier | ⟨region, listed, waits⟩
      · rw [reconcilePair] at earlier
        rcases List.mem_append.mp earlier with old | now
        · exact Or.inl old
        · obtain ⟨waits, same, _⟩ := spec.answered sent now
          exact Or.inr ⟨current, by rw [same]; exact List.mem_cons_self, waits⟩
      · exact Or.inr ⟨region, List.mem_cons_of_mem _ listed, spec.fewer region _ waits⟩

/-- A finished loop answers exactly the members, waiting under its pairs, of
stored cohorts at the floor. -/
theorem mem_sent_iff (run : scheduler.reconcilePairs faults pairs before = (.ok (), after)) (none : before.sent = [])
    {entry : PendingAdmission} :
    entry ∈ after.sent.map Sent.waiter ↔ ∃ region record, (region, entry.cohortId) ∈ pairs ∧
      entry ∈ bucket before.gate.pending region ∧ scheduler.Stores entry.cohortId record ∧
      before.gate.floor.toNat ≤ record.members.length ∧ entry.peerId ∈ record.members := by
  constructor
  · rw [List.mem_map]
    rintro ⟨sent, member, rfl⟩
    obtain ⟨news, sends, _, _, answered⟩ := (reconcilePairs_advances run).sends
    rw [none, List.nil_append] at sends
    obtain ⟨record, stored, isMember, reached⟩ := answered sent (sends ▸ member)
    rcases reconcilePairs_sent run member with old | ⟨region, listed, waits⟩
    · rw [none] at old
      exact absurd old List.not_mem_nil
    · exact ⟨region, record, listed, waits, stored, reached, isMember⟩
  · rintro ⟨region, record, listed, waits, stored, reached, isMember⟩
    refine (reconcilePairs_kept run waits).resolve_left fun stays => ?_
    rcases (reconcilePairs_settles run).left _ listed record stored entry stays rfl with short | outside
    · exact absurd reached (Nat.not_le_of_lt short)
    · exact outside isMember

end Loop

/-- Of the registry's rows a sweep leaves those heard of since the cutoff. -/
theorem isSome_lookup_swept {registry after : PeerRegistry} {faults : RedbFaults PeerId} {cutoff : Timestamp}
    {evicted : Nat} (run : registry.evictStale faults cutoff = (.ok evicted, after)) (peerId : PeerId) :
    (after.peers.lookup peerId).isSome = registry.heardSince cutoff peerId := by
  have swept := evictStale_ok run
  rw [Bool.eq_iff_iff, PeerRegistry.heardSince_iff, Option.isSome_iff_exists]
  constructor
  · rintro ⟨row, atPeer⟩
    obtain ⟨record, rfl, fresh⟩ := swept.readable peerId row atPeer
    rw [decide_eq_false_iff_not, not_lt] at fresh
    exact ⟨record, swept_left swept atPeer, fresh⟩
  · rintro ⟨record, atPeer, recent⟩
    exact ⟨_, swept_kept swept atPeer (decide_eq_false (not_lt.mpr recent))⟩

/-- What the loop of a tick whose sweeps go through has released. -/
theorem sent_live_iff {scheduler : RotationScheduler} {faults : TickFaults} {now : Timestamp}
    {registry : PeerRegistry} {cohorts : CohortStore} {peersEvicted cohortsEvicted : Nat} {loop : Reconciliation}
    {result : Except RotationError Unit}
    (stale : scheduler.registry.evictStale faults.stale (now - scheduler.heartbeatSlo) = (.ok peersEvicted, registry))
    (expired : scheduler.cohorts.evictExpired faults.expired now = (.ok cohortsEvicted, cohorts))
    (run : { scheduler with registry := registry, cohorts := cohorts : RotationScheduler }.reconcilePairs faults
      scheduler.gate.pendingBuckets ⟨scheduler.gate, scheduler.auditLog, [], 0, []⟩ = (result, loop)) :
    (∀ sent ∈ loop.sent, ∃ record, cohorts.cohorts.lookup sent.waiter.cohortId = some (.ok record) ∧
      scheduler.gate.floor.toNat ≤ (record.members.toFinset.filter fun peerId =>
        (registry.peers.lookup peerId).isSome).card) ↔
    scheduler.LiveMembersAmong (scheduler.lookedUp faults now) now := by
  have rows := evictExpired_ok expired
  have finished := reconcilePairs_lookedUp (fun cohortId stored atCohort =>
    (rows.readable cohortId stored atCohort).imp fun _ => And.left) run
  have answers (entry : PendingAdmission) := @mem_sent_iff _ _ _ _ _ finished rfl entry
  have looked : scheduler.lookedUp faults now =
      scheduler.gate.pendingBuckets.takeWhile fun pair => (faults.get pair).isNone := by
    rw [lookedUp, stale, expired]
  simp only [isSome_lookup_swept stale, looked]
  constructor
  · intro live record region entry waits listed stored fresh reached isMember
    have kept := swept_kept rows stored (decide_eq_false (not_lt.mpr fresh))
    obtain ⟨sent, member, rfl⟩ :=
      List.mem_map.mp ((answers entry).mpr ⟨region, record, listed, waits, kept, reached, isMember⟩)
    obtain ⟨other, atCohort, enough⟩ := live sent member
    rw [kept] at atCohort
    cases atCohort
    exact enough
  · intro enough sent member
    obtain ⟨region, record, listed, waits, stored, reached, isMember⟩ :=
      (answers sent.waiter).mp (List.mem_map_of_mem member)
    obtain ⟨_, isRecord, fresh⟩ := rows.readable _ _ stored
    cases isRecord
    rw [decide_eq_false_iff_not, not_lt] at fresh
    have before := swept_left rows stored
    exact ⟨record, stored, enough record region sent.waiter waits listed before fresh reached isMember⟩

/-- A tick releases from live cohorts only exactly if those that it can release
from, among the pairs it gets to look up, have enough live members. -/
theorem Ticks.releases_iff {scheduler : RotationScheduler} {faults : TickFaults} {now : Timestamp}
    {step : TickStep} (ticks : scheduler.Ticks faults now step) :
    step.ReleasesLive ↔ scheduler.LiveMembersAmong (scheduler.lookedUp faults now) now := by
  cases ticks with
  | registryFailed stale =>
    have nobody : scheduler.lookedUp faults now = [] := by rw [lookedUp, stale]
    rw [nobody]
    exact iff_of_true (fun _ member => nomatch member) fun _ _ _ _ listed => nomatch listed
  | cohortsFailed stale expired =>
    have nobody : scheduler.lookedUp faults now = [] := by rw [lookedUp, stale, expired]
    rw [nobody]
    exact iff_of_true (fun _ member => nomatch member) fun _ _ _ _ listed => nomatch listed
  | getFailed stale expired run =>
    rw [← sent_live_iff stale expired run, ← (reconcilePairs_advances run).floor]
    rfl
  | completed stale expired run =>
    rw [← sent_live_iff stale expired run, ← (reconcilePairs_advances run).floor]
    rfl

theorem LiveMembers.among {scheduler : RotationScheduler} {now : Timestamp} (enough : scheduler.LiveMembers now)
    (pairs : List (String × CohortId)) : scheduler.LiveMembersAmong pairs now :=
  fun record region entry waits _ => enough record region entry waits

/-- A tick that returns has looked up the whole snapshot. -/
theorem Ticks.lookedUp_eq {scheduler : RotationScheduler} {faults : TickFaults} {now : Timestamp} {step : TickStep}
    {stats : RotationStats} (ticks : scheduler.Ticks faults now step) (returns : step.result = .ok stats) :
    scheduler.lookedUp faults now = scheduler.gate.pendingBuckets := by
  cases ticks with
  | registryFailed | cohortsFailed | getFailed => exact nomatch returns
  | completed stale expired run =>
    rw [lookedUp, stale, expired]
    exact takeWhile_of_finished run

/-- In every run, a tick releases only from cohorts with enough live members
if it starts with `LiveMembers`, and exactly then if it returns; of one that
fails, only the pairs that it has looked up count. -/
theorem releasesLive_iff (start : RotationScheduler) (events : List RotationEvent) :
    ∀ tick ∈ ticksOf start events,
      (tick.before.LiveMembers tick.now → tick.step.ReleasesLive) ∧
      (∀ stats, tick.step.result = .ok stats → (tick.step.ReleasesLive ↔ tick.before.LiveMembers tick.now)) ∧
      (tick.step.ReleasesLive ↔
        tick.before.LiveMembersAmong (tick.before.lookedUp tick.faults tick.now) tick.now) := by
  intro tick member
  have ticks := ticksOf_ticks member
  refine ⟨fun enough => ticks.releases_iff.mpr (enough.among _), fun stats returns => ?_, ticks.releases_iff⟩
  rw [ticks.releases_iff, ticks.lookedUp_eq returns]
  refine ⟨fun enough record region entry waits => ?_, fun enough => enough.among _⟩
  exact enough record region entry waits (AdmissionGate.mem_pendingBuckets.mpr ⟨entry, waits, rfl⟩)

/-- A gate with floor two and empty stores. -/
def emptyCoordinator : RotationScheduler where
  registry := ⟨∅⟩
  cohorts := ⟨∅⟩
  gate := .new 2
  auditLog := none
  exitRegionLookup := fun _ => none
  heartbeatSlo := Duration.minutes 30

/-- Two peers heartbeat once, join a cohort, and have both gone silent when
the tick at minute 45 releases the first of them. -/
def silentMembers : List RotationEvent :=
  [.upsertPeer none ⟨⟨1⟩, .v4 1 1, false, 0, 0, "eu", 0, none⟩,
   .upsertPeer none ⟨⟨2⟩, .v4 2 2, false, 0, 0, "eu", 0, none⟩,
   .request ⟨⟨1⟩, ⟨7⟩, "eu"⟩ ⟨[], [], Duration.minutes 60, ""⟩ 0 none,
   .request ⟨⟨2⟩, ⟨7⟩, "eu"⟩ ⟨[⟨1⟩], [], Duration.minutes 60, "eu"⟩ 1 none,
   .tick ⟨.none PeerId, .none CohortId, fun _ => none⟩ (Duration.minutes 45)]

/-- The one tick of that run. -/
def silentTick : RunTick :=
  let before := { emptyCoordinator with
    registry := ⟨((∅ : Table PeerId (Stored PeerRecord)).insert ⟨1⟩
      (.ok ⟨⟨1⟩, .v4 1 1, false, 0, 0, "eu", 0, none⟩)).insert ⟨2⟩
      (.ok ⟨⟨2⟩, .v4 2 2, false, 0, 0, "eu", 0, none⟩)⟩
    cohorts := ⟨((∅ : Table CohortId (Stored CohortRecord)).insert ⟨7⟩
      (.ok ⟨[⟨1⟩], [], Duration.minutes 60, "eu"⟩)).insert ⟨7⟩
      (.ok ⟨[⟨1⟩, ⟨2⟩], [], Duration.minutes 60, "eu"⟩)⟩
    gate := ⟨2, (∅ : WaitList).insert "eu" [⟨⟨1⟩, ⟨7⟩, 0⟩]⟩ }
  let faults : TickFaults := ⟨.none PeerId, .none CohortId, fun _ => none⟩
  ⟨before, faults, Duration.minutes 45, before.tickOnce faults (Duration.minutes 45)⟩

theorem ticksOf_silentMembers : ticksOf emptyCoordinator silentMembers = [silentTick] := rfl

theorem silentMembers_released : ∃ tick ∈ ticksOf emptyCoordinator silentMembers,
    tick.step.sent.map Sent.waiter = [⟨⟨1⟩, ⟨7⟩, 0⟩] ∧
    tick.step.scheduler.registry.peers = ∅ ∧ ¬ tick.step.ReleasesLive := by
  have empty : silentTick.step.scheduler.registry.peers = ∅ := AList.ext rfl
  refine ⟨silentTick, ?_, rfl, empty, fun releases => ?_⟩
  · rw [ticksOf_silentMembers]
    exact List.mem_singleton_self _
  · obtain ⟨record, _, enough⟩ := releases _ (List.mem_cons_self)
    rw [empty] at enough
    simp only [AList.lookup_empty, Option.isSome_none, Bool.false_eq_true, Finset.filter_false,
      Finset.card_empty] at enough
    exact absurd enough (by decide)

theorem releasesLive_iff_silentMembers :
    (silentTick.before.LiveMembers silentTick.now → silentTick.step.ReleasesLive) ∧
      (∀ stats, silentTick.step.result = .ok stats →
        (silentTick.step.ReleasesLive ↔ silentTick.before.LiveMembers silentTick.now)) ∧
      (silentTick.step.ReleasesLive ↔ silentTick.before.LiveMembersAmong
        (silentTick.before.lookedUp silentTick.faults silentTick.now) silentTick.now) :=
  releasesLive_iff emptyCoordinator silentMembers silentTick (List.mem_singleton_self _)

end RotationScheduler

end BiBeam
