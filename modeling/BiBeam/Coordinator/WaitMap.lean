import Mathlib.Data.Prod.Lex
import BiBeam.Lib.KeyedQueue
import BiBeam.Coordinator.GateSteps

namespace BiBeam

open WaitList

abbrev WaitKey := String × CohortId × PeerId

/-- What the wait list is for: at most one waiter, known by its channel, for
each region, cohort and peer. -/
abbrev WaitMap := WaitKey → Option ChannelId

namespace WaitMap

def park (map : WaitMap) (key : WaitKey) (channel : ChannelId) : WaitMap :=
  Function.update map key (some channel)

def remove (map : WaitMap) (gone : WaitKey → Bool) : WaitMap :=
  fun key => if gone key then none else map key

def keys (map : WaitMap) : Set WaitKey :=
  {key | map key ≠ none}

end WaitMap

def PendingAdmission.key (entry : PendingAdmission) : CohortId × PeerId :=
  (entry.cohortId, entry.peerId)

theorem PendingAdmission.sameRequest_eq (prior entry : PendingAdmission) :
    prior.sameRequest entry = decide (prior.key = entry.key) := by
  rw [sameRequest, key, key, ← Bool.decide_and]
  exact decide_eq_decide.mpr (Prod.mk.injEq ..).symm.to_iff

def waiterKey (waiter : String × PendingAdmission) : WaitKey :=
  (waiter.1, waiter.2.key)

namespace WaitList

/-- The abstract map that a wait list stands for. -/
def view (waiters : WaitList) : WaitMap := fun key =>
  (KeyedQueue.find PendingAdmission.key (bucket waiters key.1) key.2).map PendingAdmission.responseTx

/-- No two waiters of a region ask for the same cohort and peer. -/
def OneEach (waiters : WaitList) : Prop :=
  ∀ region, ((bucket waiters region).map PendingAdmission.key).Nodup

theorem mem_keys {waiters : WaitList} {key : WaitKey} :
    key ∈ (view waiters).keys ↔ ∃ entry ∈ bucket waiters key.1, entry.key = key.2 := by
  rw [WaitMap.keys, Set.mem_ofPred_eq, view, ne_eq, Option.map_eq_none_iff, ← ne_eq,
    KeyedQueue.find_isSome_iff, List.mem_map]

theorem mem_keys_waiting {waiters : WaitList} {key : WaitKey} :
    key ∈ (view waiters).keys ↔ ∃ waiter ∈ waiting waiters, waiterKey waiter = key := by
  rw [mem_keys]
  constructor
  · rintro ⟨entry, member, same⟩
    exact ⟨(key.1, entry), mem_waiting.mpr member, by rw [waiterKey, same]⟩
  · rintro ⟨⟨region, entry⟩, member, rfl⟩
    exact ⟨entry, mem_waiting.mp member, rfl⟩

/-- One waiter per key in every bucket makes all waiters' keys distinct. -/
theorem OneEach.nodup_keys {waiters : WaitList} (one : OneEach waiters) :
    ((waiting waiters).map waiterKey).Nodup := by
  have rows : ∀ row ∈ waiters.entries, (row.2.map fun entry => waiterKey (row.1, entry)).Nodup := by
    intro row member
    have here := one row.1
    rw [bucket_eq (AList.mem_entries_iff.mp member)] at here
    have lifted := here.map (f := fun key => (row.1, key)) fun first second same => (Prod.mk.inj same).2
    rw [List.map_map] at lifted
    exact lifted
  have apart : waiters.entries.Pairwise
      (Function.onFun List.Disjoint fun row => row.2.map fun entry => waiterKey (row.1, entry)) := by
    refine (List.nodupKeys_iff_pairwise.mp waiters.nodupKeys).imp fun {first second} differ key inFirst inSecond => ?_
    obtain ⟨_, _, rfl⟩ := List.mem_map.mp inFirst
    obtain ⟨_, _, same⟩ := List.mem_map.mp inSecond
    exact differ (Prod.mk.inj same).1.symm
  rw [waiting, List.map_flatMap]
  simp only [List.map_map]
  exact List.nodup_flatMap.mpr ⟨rows, apart⟩

/-- Waiters chosen by their keys are counted by those keys. -/
theorem OneEach.length_chosen {waiters : WaitList} (one : OneEach waiters) (chosen : WaitKey → Bool) :
    ((waiting waiters).filter fun waiter => chosen (waiterKey waiter)).length =
      {key ∈ (view waiters).keys | chosen key}.ncard := by
  refine KeyedQueue.length_eq_ncard (KeyedQueue.nodup_filter one.nodup_keys _) fun key => ?_
  rw [Set.mem_sep_iff, mem_keys_waiting, List.mem_map]
  constructor
  · rintro ⟨waiter, member, rfl⟩
    obtain ⟨inside, isChosen⟩ := List.mem_filter.mp member
    exact ⟨⟨waiter, inside, rfl⟩, isChosen⟩
  · rintro ⟨⟨waiter, inside, rfl⟩, isChosen⟩
    exact ⟨waiter, List.mem_filter.mpr ⟨inside, isChosen⟩, rfl⟩

end WaitList

namespace AdmissionGate

/-- The pending count is the number of waiters. -/
theorem pendingCount_eq (gate : AdmissionGate) : gate.pendingCount = (waiting gate.pending).length := by
  rw [pendingCount, waiting, List.length_flatMap]
  simp only [List.length_map]

theorem snapshot_eq (gate : AdmissionGate) : gate.snapshotPendingPairsUnderLock =
    (waiting gate.pending).map fun waiter => (waiter.1, waiter.2.cohortId) := by
  have collect (rows : List (Sigma fun _ : String => List PendingAdmission)) (acc : List (String × CohortId)) :
      rows.foldl (fun acc row => extendPairsFromBucket acc row.1 row.2) acc =
        acc ++ rows.flatMap fun row => row.2.map fun entry => (row.1, entry.cohortId) := by
    induction rows generalizing acc with
    | nil => simp
    | cons row rows ih => rw [List.foldl_cons, ih, extendPairsFromBucket, List.flatMap_cons, List.append_assoc]
  rw [snapshotPendingPairsUnderLock, collect, List.nil_append, waiting, List.map_flatMap]
  simp only [List.map_map]
  rfl

end AdmissionGate

theorem bucketLe_iff (left right : String × CohortId) : BucketLe left right ↔
    toLex (left.1, left.2.ulid.toNat) ≤ toLex (right.1, right.2.ulid.toNat) :=
  (Prod.Lex.toLex_le_toLex (x := (left.1, left.2.ulid.toNat)) (y := (right.1, right.2.ulid.toNat))).symm

instance : Std.Total BucketLe where
  total left right := by
    rw [bucketLe_iff, bucketLe_iff]
    exact le_total _ _

instance : IsTrans (String × CohortId) BucketLe where
  trans first second third before after := by
    rw [bucketLe_iff] at before after ⊢
    exact before.trans after

instance : Std.Antisymm BucketLe where
  antisymm left right before after := by
    rw [bucketLe_iff] at before after
    have same := toLex_inj.mp (le_antisymm before after)
    obtain ⟨region, cohort⟩ := left
    obtain ⟨region', cohort'⟩ := right
    obtain ⟨sameRegion, sameUlid⟩ := Prod.mk.inj same
    exact Prod.ext sameRegion (congrArg CohortId.mk (BitVec.eq_of_toNat_eq sameUlid))

namespace AdmissionGate

theorem mem_pendingBuckets {gate : AdmissionGate} {region : String} {cohortId : CohortId} :
    (region, cohortId) ∈ gate.pendingBuckets ↔ ∃ entry ∈ bucket gate.pending region, entry.cohortId = cohortId := by
  rw [pendingBuckets, SortDedup.mem, snapshot_eq, List.mem_map]
  constructor
  · rintro ⟨⟨region', entry⟩, member, same⟩
    obtain ⟨rfl, rfl⟩ := Prod.mk.inj same
    exact ⟨entry, mem_waiting.mp member, rfl⟩
  · rintro ⟨entry, member, rfl⟩
    exact ⟨(region, entry), mem_waiting.mpr member, rfl⟩

end AdmissionGate

/-- Parking puts the waiter under its key, replacing an earlier one. -/
theorem bucket_upsert {waiters after : WaitList} {region : String} {entry : PendingAdmission}
    {dropped : List PendingAdmission} (run : upsertPendingEntry waiters region entry = (after, dropped))
    (other : String) : bucket after other = if other = region
      then KeyedQueue.put PendingAdmission.key (bucket waiters region) entry else bucket waiters other := by
  rw [(upsertPendingEntry_spec run).1 other, KeyedQueue.put]
  simp only [PendingAdmission.sameRequest_eq, ne_eq, decide_not]

theorem view_upsert {waiters after : WaitList} {region : String} {entry : PendingAdmission}
    {dropped : List PendingAdmission} (run : upsertPendingEntry waiters region entry = (after, dropped)) :
    view after = (view waiters).park (region, entry.key) entry.responseTx := by
  funext ⟨other, key⟩
  rw [view, bucket_upsert run other, WaitMap.park, Function.update_apply]
  dsimp only
  by_cases here : other = region
  · rw [if_pos here, KeyedQueue.find_put, here]
    by_cases same : key = entry.key
    · rw [if_pos same, if_pos (by rw [same])]
      rfl
    · rw [if_neg same, if_neg fun both => same (Prod.mk.inj both).2]
      rfl
  · rw [if_neg here, if_neg fun both => here (Prod.mk.inj both).1]
    rfl

theorem oneEach_upsert {waiters after : WaitList} {region : String} {entry : PendingAdmission}
    {dropped : List PendingAdmission} (run : upsertPendingEntry waiters region entry = (after, dropped))
    (one : OneEach waiters) : OneEach after := by
  intro other
  rw [bucket_upsert run other]
  split
  · exact KeyedQueue.nodup_put (one region) entry
  · exact one other

/-- Filtering every bucket by a condition on the keys removes those keys. -/
theorem view_filter {waiters after : WaitList} (gone : WaitKey → Bool)
    (filtered : ∀ region, bucket after region =
      (bucket waiters region).filter fun entry => !gone (region, entry.key)) :
    view after = (view waiters).remove gone := by
  funext ⟨region, key⟩
  have kept := KeyedQueue.find_filter PendingAdmission.key
    (fun key => !gone (region, key)) (bucket waiters region) key
  rw [view, filtered region, kept, WaitMap.remove]
  cases gone (region, key) <;> rfl

theorem oneEach_filter {waiters after : WaitList} {keep : String → PendingAdmission → Bool}
    (filtered : ∀ region, bucket after region = (bucket waiters region).filter (keep region))
    (one : OneEach waiters) : OneEach after := by
  intro region
  rw [filtered region]
  exact KeyedQueue.nodup_filter (one region) _

/-- The keys a drain takes out. -/
def drainKeys (region : String) (cohortId : CohortId) (cohort : CohortRecord) (key : WaitKey) : Bool :=
  key.1 = region && (key.2.1 = cohortId && cohort.members.contains key.2.2)

theorem bucket_partition {waiters after : WaitList} {region : String} {cohortId : CohortId}
    {cohort : CohortRecord} {ready : List PendingAdmission}
    (run : partitionWaitersFor waiters region cohortId cohort = (ready, after)) (other : String) :
    bucket after other =
      (bucket waiters other).filter fun entry => !drainKeys region cohortId cohort (other, entry.key) := by
  rw [(partitionWaitersFor_spec run).2.1 other]
  by_cases here : other = region
  · rw [if_pos here, here]
    refine List.filter_congr fun entry _ => ?_
    rw [drainKeys, decide_eq_true rfl, Bool.true_and, PendingAdmission.key]
  · rw [if_neg here]
    refine (List.filter_eq_self.mpr fun entry _ => ?_).symm
    rw [drainKeys, decide_eq_false here, Bool.false_and, Bool.not_false]

/-- The keys a cancellation takes out. -/
def orphanKeys (live : List CohortId) (key : WaitKey) : Bool :=
  !live.contains key.2.1

theorem bucket_cancel (gate : AdmissionGate) (live : List CohortId) (region : String) :
    bucket (gate.cancelOrphans live).gate.pending region =
      (bucket gate.pending region).filter fun entry => !orphanKeys live (region, entry.key) := by
  rw [(gate.cancelOrphans_spec live).1 region]
  simp only [orphanKeys, Bool.not_not]
  rfl

end BiBeam
