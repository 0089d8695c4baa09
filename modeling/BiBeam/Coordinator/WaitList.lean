import BiBeam.Coordinator.AdmissionGate

namespace BiBeam

namespace WaitList

/-- The waiters of one region; a region without a row has none. -/
def bucket (waiters : WaitList) (region : String) : List PendingAdmission :=
  (waiters.lookup region).getD []

/-- Every parked waiter together with its region. -/
def waiting (waiters : WaitList) : List (String × PendingAdmission) :=
  waiters.entries.flatMap fun row => row.2.map fun entry => (row.1, entry)

/-- No region is kept for an empty bucket. -/
def NoEmptyBucket (waiters : WaitList) : Prop :=
  ∀ region, waiters.lookup region ≠ some []

theorem bucket_eq {waiters : WaitList} {region : String} {entries : List PendingAdmission}
    (atRegion : waiters.lookup region = some entries) : bucket waiters region = entries := by
  rw [bucket, atRegion, Option.getD_some]

theorem bucket_eq_nil {waiters : WaitList} {region : String} (absent : waiters.lookup region = none) :
    bucket waiters region = [] := by
  rw [bucket, absent, Option.getD_none]

theorem mem_waiting {waiters : WaitList} {region : String} {entry : PendingAdmission} :
    (region, entry) ∈ waiting waiters ↔ entry ∈ bucket waiters region := by
  simp only [waiting, List.mem_flatMap, List.mem_map, Prod.mk.injEq]
  constructor
  · rintro ⟨row, member, found, inRow, rfl, rfl⟩
    have atRow := AList.mem_entries_iff.mp member
    rwa [bucket_eq atRow]
  · intro member
    cases atRegion : waiters.lookup region with
    | none => simp [bucket_eq_nil atRegion] at member
    | some entries =>
      rw [bucket_eq atRegion] at member
      exact ⟨⟨region, entries⟩, AList.mem_entries_iff.mpr atRegion, entry, member, rfl, rfl⟩

theorem waiting_insert (waiters : WaitList) (region : String) (entries : List PendingAdmission) :
    waiting (waiters.insert region entries) =
      entries.map (fun entry => (region, entry)) ++ waiting (waiters.erase region) := by
  simp only [waiting, AList.entries_insert, List.flatMap_cons]
  rfl

/-- One region's waiters can be listed first. -/
theorem waiting_perm_bucket (waiters : WaitList) (region : String) :
    (waiting waiters).Perm
      ((bucket waiters region).map (fun entry => (region, entry)) ++ waiting (waiters.erase region)) := by
  cases atRegion : waiters.lookup region with
  | none => rw [bucket_eq_nil atRegion, AList.erase_of_lookup_none atRegion, List.map_nil, List.nil_append]
  | some entries =>
    have front := AList.entries_perm_erase atRegion
    rw [bucket_eq atRegion]
    exact front.flatMap_right _

@[simp] theorem bucket_insert (waiters : WaitList) (region other : String) (entries : List PendingAdmission) :
    bucket (waiters.insert region entries) other =
      if other = region then entries else bucket waiters other := by
  by_cases same : other = region
  · subst same
    simp [bucket]
  · simp [bucket, same]

@[simp] theorem bucket_erase (waiters : WaitList) (region other : String) :
    bucket (waiters.erase region) other = if other = region then [] else bucket waiters other := by
  by_cases same : other = region
  · subst same
    simp [bucket]
  · simp [bucket, same]

theorem noEmptyBucket_empty : NoEmptyBucket (∅ : WaitList) := by
  intro region
  simp

theorem NoEmptyBucket.insert {waiters : WaitList} (tidy : NoEmptyBucket waiters) {region : String}
    {entries : List PendingAdmission} (nonempty : entries ≠ []) :
    NoEmptyBucket (waiters.insert region entries) := by
  intro other
  by_cases same : other = region
  · subst same
    simpa using nonempty
  · rw [AList.lookup_insert_ne same]
    exact tidy other

theorem NoEmptyBucket.erase {waiters : WaitList} (tidy : NoEmptyBucket waiters) (region : String) :
    NoEmptyBucket (waiters.erase region) := by
  intro other
  by_cases same : other = region
  · subst same
    simp
  · rw [AList.lookup_erase_ne same]
    exact tidy other

@[simp] theorem bucket_retain_nonempty (waiters : WaitList) (region : String) :
    bucket (waiters.retain fun _ entries => !entries.isEmpty) region = bucket waiters region := by
  rw [bucket, bucket, AList.lookup_retain]
  cases atRegion : waiters.lookup region with
  | none => rfl
  | some entries => cases entries <;> rfl

@[simp] theorem bucket_mapVals_filter (waiters : WaitList) (keep : PendingAdmission → Bool) (region : String) :
    bucket (waiters.mapVals fun _ entries => entries.filter keep) region = (bucket waiters region).filter keep := by
  rw [bucket, bucket, AList.lookup_mapVals]
  cases waiters.lookup region <;> rfl

/-- Rows without waiters do not matter. -/
theorem waiting_retain_nonempty (waiters : WaitList) :
    waiting (waiters.retain fun _ entries => !entries.isEmpty) = waiting waiters := by
  simp only [waiting, AList.retain]
  induction waiters.entries with
  | nil => rfl
  | cons row rows ih =>
    obtain ⟨region, entries⟩ := row
    cases entries with
    | nil => simpa using ih
    | cons entry entries => simpa using ih

theorem waiting_mapVals_filter (waiters : WaitList) (keep : PendingAdmission → Bool) :
    waiting (waiters.mapVals fun _ entries => entries.filter keep) =
      (waiting waiters).filter fun waiter => keep waiter.2 := by
  simp only [waiting, AList.mapVals, List.flatMap_map, List.filter_flatMap, List.filter_map]
  rfl

end WaitList

open WaitList

/-- Parking rewrites one bucket and accounts for every waiter. -/
theorem upsertPendingEntry_spec {waiters after : WaitList} {region : String} {entry : PendingAdmission}
    {dropped : List PendingAdmission} (run : upsertPendingEntry waiters region entry = (after, dropped)) :
    (∀ other, bucket after other = if other = region
      then (bucket waiters region).filter (fun prior => !prior.sameRequest entry) ++ [entry]
      else bucket waiters other) ∧
    dropped = (bucket waiters region).filter (fun prior => prior.sameRequest entry) ∧
    ((region, entry) :: waiting waiters).Perm
      (waiting after ++ dropped.map fun prior => (region, prior)) ∧
    (NoEmptyBucket waiters → NoEmptyBucket after) := by
  obtain ⟨rfl, rfl⟩ := Prod.mk.inj run
  refine ⟨fun other => bucket_insert .., rfl, ?_, fun tidy => tidy.insert (by simp)⟩
  have front := waiting_perm_bucket waiters region
  have split := (List.filter_append_perm (fun prior => prior.sameRequest entry)
    (bucket waiters region)).map fun prior => (region, prior)
  rw [waiting_insert]
  change ((region, entry) :: waiting waiters).Perm
    (((bucket waiters region).filter (fun prior => !prior.sameRequest entry) ++ [entry]).map
      (fun prior => (region, prior)) ++ waiting (waiters.erase region) ++
      ((bucket waiters region).filter fun prior => prior.sameRequest entry).map fun prior => (region, prior))
  rw [List.map_append] at split ⊢
  generalize waiting waiters = whole at front ⊢
  generalize waiting (waiters.erase region) = others at front ⊢
  generalize (bucket waiters region).map _ = here at front split
  generalize List.map _ (List.filter (fun prior : PendingAdmission => prior.sameRequest entry) _) = gone at split ⊢
  generalize List.map _ (List.filter (fun prior : PendingAdmission => !prior.sameRequest entry) _) = kept at split ⊢
  simp only [List.map_cons, List.map_nil]
  grind

/-- Draining takes out exactly the matching waiters of one region. -/
theorem partitionWaitersFor_spec {waiters after : WaitList} {region : String} {cohortId : CohortId}
    {cohort : CohortRecord} {ready : List PendingAdmission}
    (run : partitionWaitersFor waiters region cohortId cohort = (ready, after)) :
    ready = (bucket waiters region).filter
      (fun entry => entry.cohortId = cohortId && cohort.members.contains entry.peerId) ∧
    (∀ other, bucket after other = if other = region
      then (bucket waiters region).filter
        (fun entry => !(entry.cohortId = cohortId && cohort.members.contains entry.peerId))
      else bucket waiters other) ∧
    (waiting waiters).Perm (ready.map (fun entry => (region, entry)) ++ waiting after) ∧
    (NoEmptyBucket waiters → NoEmptyBucket after) := by
  unfold partitionWaitersFor at run
  split at run
  · rename_i absent
    obtain ⟨rfl, rfl⟩ := Prod.mk.inj run
    have empty := bucket_eq_nil absent
    refine ⟨by rw [empty]; rfl, fun other => ?_, by simp, id⟩
    by_cases same : other = region
    · rw [same, empty, if_pos rfl]
      rfl
    · rw [if_neg same]
  · rename_i entries atRegion
    have found := bucket_eq atRegion
    rw [List.partition_eq_filter_filter, ← found] at run
    obtain ⟨rfl, rest⟩ := Prod.mk.inj run
    have front := waiting_perm_bucket waiters region
    have split := (List.filter_append_perm (fun entry : PendingAdmission =>
      entry.cohortId = cohortId && cohort.members.contains entry.peerId) (bucket waiters region)).map
        fun entry => (region, entry)
    rw [List.map_append] at split
    have whole := front.trans (split.symm.append_right _)
    rw [List.append_assoc] at whole
    split at rest
    · rename_i empty
      subst rest
      have none := List.isEmpty_iff.mp empty
      refine ⟨rfl, fun other => ?_, ?_, fun tidy => tidy.erase region⟩
      · rw [bucket_erase]
        by_cases same : other = region
        · rw [if_pos same, if_pos same]
          exact none.symm
        · rw [if_neg same, if_neg same]
      · refine whole.trans (List.Perm.of_eq ?_)
        congr 1
        change List.map _ (List.filter (not ∘ _) _) ++ _ = _
        rw [none]
        rfl
    · rename_i nonempty
      subst rest
      refine ⟨rfl, fun other => bucket_insert .., ?_, fun tidy => tidy.insert ?_⟩
      · rw [waiting_insert]
        exact whole
      · exact fun empty => nonempty (List.isEmpty_iff.mpr empty)

/-- Cancelling keeps the waiters of live cohorts, in order, and drops the rest. -/
theorem AdmissionGate.cancelOrphans_spec (gate : AdmissionGate) (live : List CohortId) :
    (∀ region, bucket (gate.cancelOrphans live).gate.pending region =
      (bucket gate.pending region).filter fun entry => live.contains entry.cohortId) ∧
    waiting (gate.cancelOrphans live).gate.pending =
      (waiting gate.pending).filter (fun waiter => live.contains waiter.2.cohortId) ∧
    (gate.cancelOrphans live).dropped =
      ((waiting gate.pending).filter fun waiter => !live.contains waiter.2.cohortId).map Prod.snd ∧
    NoEmptyBucket (gate.cancelOrphans live).gate.pending := by
  have tidied : (gate.cancelOrphans live).gate.pending =
      (gate.pending.mapVals fun _ entries => entries.filter fun entry => live.contains entry.cohortId).retain
        fun _ entries => !entries.isEmpty := by
    simp only [cancelOrphans, cancelOrphansInBucket, List.partition_eq_filter_filter]
    exact AList.eraseAll_collected (fun _ (entries : List PendingAdmission) => entries.isEmpty) _
  refine ⟨fun region => ?_, ?_, ?_, fun region => ?_⟩
  · rw [tidied, bucket_retain_nonempty, bucket_mapVals_filter]
  · rw [tidied, waiting_retain_nonempty, waiting_mapVals_filter]
  · simp only [cancelOrphans, waiting, cancelOrphansInBucket, List.partition_eq_filter_filter,
      List.filter_flatMap, List.map_flatMap, List.filter_map, List.map_map]
    refine congrArg (List.flatMap · _) (funext fun row => ?_)
    exact (List.map_id _).symm
  · rw [tidied, AList.lookup_retain]
    intro empty
    have nonempty := (Option.filter_eq_some_iff.mp empty).2
    simp at nonempty

end BiBeam
