import BiBeam.Coordinator.WaitList

namespace BiBeam

open WaitList

/-- The saturating `u32` count compares with the floor as the true count does. -/
theorem floor_le_count (floor : UInt32) (count : Nat) :
    floor ≤ UInt32.ofNatClamp count ↔ floor.toNat ≤ count := by
  have small := floor.toNat_lt
  rw [UInt32.le_iff_toNat_le]
  by_cases fits : count < UInt32.size
  · rw [UInt32.toNat_ofNatClamp_of_lt fits]
  · have clamped := UInt32.toNat_ofNatClamp_of_le (Nat.le_of_not_lt fits)
    rw [clamped]
    have size : UInt32.size = 4294967296 := rfl
    omega

theorem count_lt_floor (floor : UInt32) (count : Nat) :
    UInt32.ofNatClamp count < floor ↔ count < floor.toNat := by
  rw [← not_iff_not, UInt32.not_lt, Nat.not_lt]
  exact floor_le_count floor count

namespace CohortRecord

/-- The record after an accepted admission. -/
def joined (cohort : CohortRecord) (peerId : PeerId) (region : String) : CohortRecord :=
  (cohort.stampRegion region).addMember peerId

/-- The admission check on the region tag. -/
def Accepts (cohort : CohortRecord) (region : String) : Prop :=
  cohort.region = "" ∨ cohort.region = region

@[simp] theorem stampRegion_members (cohort : CohortRecord) (region : String) :
    (cohort.stampRegion region).members = cohort.members := by
  unfold stampRegion
  split <;> rfl

@[simp] theorem addMember_region (cohort : CohortRecord) (peerId : PeerId) :
    (cohort.addMember peerId).region = cohort.region := by
  unfold addMember
  split <;> rfl

theorem stampRegion_region {cohort : CohortRecord} {region : String} (accepts : cohort.Accepts region) :
    (cohort.stampRegion region).region = region := by
  unfold stampRegion
  split
  · rfl
  · rename_i tagged
    exact accepts.resolve_left tagged

theorem joined_region {cohort : CohortRecord} {region : String} (accepts : cohort.Accepts region)
    (peerId : PeerId) : (cohort.joined peerId region).region = region := by
  rw [joined, addMember_region, stampRegion_region accepts]

theorem mem_joined {cohort : CohortRecord} {peerId other : PeerId} {region : String} :
    other ∈ (cohort.joined peerId region).members ↔ other ∈ cohort.members ∨ other = peerId := by
  unfold joined addMember
  split
  · rename_i already
    rw [stampRegion_members] at already ⊢
    constructor
    · exact Or.inl
    · rintro (member | rfl)
      · exact member
      · exact already
  · rw [List.mem_append, List.mem_singleton, stampRegion_members]

theorem joined_nodup {cohort : CohortRecord} (distinct : cohort.members.Nodup) (peerId : PeerId)
    (region : String) : (cohort.joined peerId region).members.Nodup := by
  unfold joined addMember
  split
  · rwa [stampRegion_members]
  · rename_i fresh
    rw [stampRegion_members] at fresh ⊢
    rw [List.nodup_append]
    refine ⟨distinct, List.nodup_singleton _, fun member inside other alone same => ?_⟩
    rw [List.mem_singleton] at alone
    rw [same, alone] at inside
    exact fresh inside

end CohortRecord

namespace AdmissionGate

/-- Everything an admission can do: refuse on the region tag, admit at or
above the floor, or park below it. -/
theorem admitOrBucket_cases (gate : AdmissionGate) (peerId : PeerId) (cohortId : CohortId) (region : String)
    (cohort : CohortRecord) (exitRegionLookup : ExitRegionLookup) (channel : ChannelId) :
    (¬ cohort.Accepts region ∧
      gate.admitOrBucket peerId cohortId region cohort exitRegionLookup channel =
        ⟨.regionMismatch cohort.region region, cohort, gate, []⟩) ∨
    (cohort.Accepts region ∧ gate.floor.toNat ≤ (cohort.joined peerId region).members.length ∧
      gate.admitOrBucket peerId cohortId region cohort exitRegionLookup channel =
        ⟨.admitted (buildResponse cohortId (cohort.joined peerId region) exitRegionLookup),
          cohort.joined peerId region, gate, []⟩) ∨
    (cohort.Accepts region ∧ (cohort.joined peerId region).members.length < gate.floor.toNat ∧
      gate.admitOrBucket peerId cohortId region cohort exitRegionLookup channel =
        ⟨.bucketed channel, cohort.joined peerId region,
          { gate with pending := (upsertPendingEntry gate.pending region ⟨peerId, cohortId, channel⟩).1 },
          (upsertPendingEntry gate.pending region ⟨peerId, cohortId, channel⟩).2⟩) := by
  unfold admitOrBucket
  split
  · rename_i refused
    exact Or.inl ⟨fun accepts => accepts.elim refused.1 refused.2, rfl⟩
  · rename_i accepted
    have accepts : cohort.Accepts region := by
      rcases Decidable.not_and_iff_or_not.mp accepted with blank | same
      · exact Or.inl (Decidable.not_not.mp blank)
      · exact Or.inr (Decidable.not_not.mp same)
    refine Or.inr ?_
    dsimp only
    split
    · rename_i reached
      exact Or.inl ⟨accepts, (floor_le_count ..).mp reached, rfl⟩
    · rename_i short
      have below := (count_lt_floor ..).mp (UInt32.not_le.mp short)
      exact Or.inr ⟨accepts, below, rfl⟩

/-- Everything a drain can do: nothing to the wait list below the floor,
and above it one response for each waiter taken out. -/
theorem drainReady_cases (gate : AdmissionGate) (region : String) (cohortId : CohortId) (cohort : CohortRecord)
    (auditLog : Option AuditLog) (exitRegionLookup : ExitRegionLookup) :
    (cohort.members.length < gate.floor.toNat ∧
      gate.drainReady region cohortId cohort auditLog exitRegionLookup =
        ⟨0, gate, gate.emitNoAnonymousPathIfPending region auditLog, []⟩) ∨
    (gate.floor.toNat ≤ cohort.members.length ∧
      gate.drainReady region cohortId cohort auditLog exitRegionLookup =
        ⟨(partitionWaitersFor gate.pending region cohortId cohort).1.length,
          { gate with pending := (partitionWaitersFor gate.pending region cohortId cohort).2 }, auditLog,
          (partitionWaitersFor gate.pending region cohortId cohort).1.map fun waiter =>
            ⟨waiter, buildResponse cohortId cohort exitRegionLookup⟩⟩) := by
  unfold drainReady
  dsimp only
  split
  · rename_i short
    exact Or.inl ⟨(count_lt_floor ..).mp short, rfl⟩
  · rename_i reached
    exact Or.inr ⟨(floor_le_count ..).mp (UInt32.not_lt.mp reached), rfl⟩

@[simp] theorem buildResponse_cohort (cohortId : CohortId) (cohort : CohortRecord)
    (exitRegionLookup : ExitRegionLookup) :
    (buildResponse cohortId cohort exitRegionLookup).cohort? = some cohortId := rfl

end AdmissionGate

end BiBeam
