import BiBeam.Coordinator.Cohorts
import BiBeam.Coordinator.Registry

namespace BiBeam

section Evict

variable {K V : Type} [DecidableEq K]

/-- What a sweep that went through did: every row was readable, and the rows
older than the cutoff, and only they, are gone and counted. -/
structure RemovedOlder (age : V → Timestamp) (cutoff : Timestamp) (before after : Table K (Stored V))
    (evicted : Nat) : Prop where
  readable : ∀ key stored, before.lookup key = some stored → ∃ record, stored = .ok record
  removed : ∀ key record, before.lookup key = some (.ok record) → age record < cutoff → after.lookup key = none
  kept : ∀ key, (∀ record, before.lookup key = some (.ok record) → cutoff ≤ age record) →
    after.lookup key = before.lookup key
  counted : evicted = (before.entries.filter fun row => row.2.expired fun record => age record < cutoff).length

/-- A sweep is exact and atomic: it fails and leaves every row, or removes the
older rows, and then a sweep up to the same or an earlier cutoff finds nothing. -/
structure ExactSweep (age : V → Timestamp)
    (sweep : RedbFaults K → Timestamp → Table K (Stored V) → Except StoreError Nat × Table K (Stored V)) : Prop where
  failed : ∀ faults cutoff before err after, sweep faults cutoff before = (.error err, after) → after = before
  swept : ∀ faults cutoff before evicted after, sweep faults cutoff before = (.ok evicted, after) →
    RemovedOlder age cutoff before after evicted
  again : ∀ faults cutoff before evicted after, sweep faults cutoff before = (.ok evicted, after) →
    ∀ faults' cutoff', cutoff' ≤ cutoff → (sweep faults' cutoff' after).2 = after ∧
      ∀ evicted', (sweep faults' cutoff' after).1 = .ok evicted' → evicted' = 0
  completes : ∀ cutoff before, (∀ row ∈ before.entries, ∃ record, row.2 = .ok record) →
    ∃ evicted, (sweep (.none K) cutoff before).1 = .ok evicted

theorem Swept.removedOlder {age : V → Timestamp} {cutoff : Timestamp} {before after : Table K (Stored V)}
    {evicted : Nat} (swept : Swept (fun record => age record < cutoff) before after evicted)
    (readable : ∀ row ∈ before.entries, ∃ record, row.2 = .ok record) :
    RemovedOlder age cutoff before after evicted := by
  refine ⟨fun key stored atKey => ?_, fun key record atKey older => ?_, fun key fresh => ?_, ?_⟩
  · exact readable _ (AList.mem_entries_iff.mpr atKey)
  · rw [swept.lookup, atKey, Option.filter_some, Stored.expired, decide_eq_true older]
    rfl
  · rw [swept.lookup]
    cases atKey : before.lookup key with
    | none => rfl
    | some stored =>
      obtain ⟨record, isRecord⟩ := readable _ (AList.mem_entries_iff.mpr atKey)
      dsimp only at isRecord
      rw [isRecord] at atKey ⊢
      rw [Option.filter_some, Stored.expired, decide_eq_false (not_lt.mpr (fresh record atKey))]
      rfl
  · have split := AList.length_retain (fun _ stored => Stored.expired (fun record => decide (age record < cutoff)) stored)
      before
    rw [← swept.kept] at split
    have counted := swept.counted
    omega

omit [DecidableEq K] in
theorem collectExpired_none (expired : V → Bool) {rows : List (Sigma fun _ : K => Stored V)}
    (readable : ∀ row ∈ rows, ∃ record, row.2 = .ok record) :
    ∃ keys, collectExpired (.none K) expired rows = .ok keys := by
  induction rows with
  | nil => exact ⟨[], rfl⟩
  | cons row rows ih =>
    obtain ⟨key, stored⟩ := row
    obtain ⟨record, isRecord⟩ := readable _ List.mem_cons_self
    obtain ⟨keys, rest⟩ := ih fun other member => readable other (List.mem_cons_of_mem _ member)
    dsimp only at isRecord
    refine ⟨if expired record then key :: keys else keys, ?_⟩
    rw [collectExpired, isRecord, rest]
    rfl

theorem removeCollected_none (keys : List K) (table : Table K (Stored V)) :
    removeCollected (.none K) keys table = .ok (table.eraseAll keys) := by
  induction keys generalizing table with
  | nil => rfl
  | cons key keys ih => exact ih (table.erase key)

/-- A sweep reads every row before it removes one. -/
theorem evict_readable {faults : RedbFaults K} {expired : V → Bool} {table remaining : Table K (Stored V)}
    {evicted : Nat} (run : evict faults expired table = (.ok evicted, remaining)) :
    ∀ row ∈ table.entries, ∃ record, row.2 = .ok record := by
  obtain ⟨keys, collected, _⟩ := Except.of_bind_ok (evict_collected run)
  exact (collectExpired_ok collected).2

theorem evict_none (expired : V → Bool) {table : Table K (Stored V)}
    (readable : ∀ row ∈ table.entries, ∃ record, row.2 = .ok record) :
    ∃ evicted, (evict (.none K) expired table).1 = .ok evicted := by
  obtain ⟨keys, collected⟩ := collectExpired_none expired readable
  refine ⟨keys.length, ?_⟩
  have swept : collectAndRemove (.none K) expired table = .ok (table.eraseAll keys, keys.length) := by
    rw [collectAndRemove, collected]
    change (do
      let remaining ← removeCollected (.none K) keys table
      return (remaining, keys.length)) = _
    rw [removeCollected_none]
    rfl
  unfold evict
  rw [swept]
  rfl

/-- Where no row is older than the cutoff a sweep changes nothing. -/
theorem evict_nothing {expired : V → Bool} {table : Table K (Stored V)}
    (fresh : ∀ row ∈ table.entries, row.2.expired expired = false) (faults : RedbFaults K) :
    (evict faults expired table).2 = table ∧
      ∀ evicted, (evict faults expired table).1 = .ok evicted → evicted = 0 := by
  cases run : evict faults expired table with
  | mk result remaining =>
    cases result with
    | error err => exact ⟨evict_error run, fun _ returns => nomatch returns⟩
    | ok evicted =>
      have swept := evict_ok run
      have all : remaining = table := by
        rw [swept.kept]
        apply AList.ext
        refine List.filter_eq_self.mpr fun row member => ?_
        dsimp only
        rw [fresh row member]
        rfl
      refine ⟨all, fun count returns => ?_⟩
      have counted := swept.counted
      rw [all] at counted
      cases returns
      omega

theorem evict_exactSweep (age : V → Timestamp) :
    ExactSweep age fun faults cutoff (before : Table K (Stored V)) =>
      evict faults (fun record => age record < cutoff) before := by
  refine ⟨fun faults cutoff before err after run => evict_error run, fun faults cutoff before evicted after run => ?_,
    fun faults cutoff before evicted after run faults' cutoff' earlier => ?_, fun cutoff before readable => ?_⟩
  · exact (evict_ok run).removedOlder (evict_readable run)
  · refine evict_nothing (fun row member => ?_) faults'
    obtain ⟨record, isRecord, fresh⟩ := (evict_ok run).readable row.1 row.2 (AList.mem_entries_iff.mp member)
    rw [decide_eq_false_iff_not, not_lt] at fresh
    rw [isRecord, Stored.expired, decide_eq_false (not_lt.mpr (earlier.trans fresh))]
  · exact evict_none _ readable

end Evict

/-- The registry's and the cohort store's evictions are exact and atomic. -/
theorem evictions_exact :
    ExactSweep PeerRecord.lastSeen (fun faults olderThan peers =>
      Prod.map id PeerRegistry.peers (PeerRegistry.evictStale ⟨peers⟩ faults olderThan)) ∧
    ExactSweep CohortRecord.rotationDeadline (fun faults now cohorts =>
      Prod.map id CohortStore.cohorts (CohortStore.evictExpired ⟨cohorts⟩ faults now)) :=
  ⟨evict_exactSweep PeerRecord.lastSeen, evict_exactSweep CohortRecord.rotationDeadline⟩

end BiBeam
