import Mathlib.Logic.Function.Basic
import BiBeam.Coordinator.GateSteps

namespace BiBeam

open WaitList

/-- What a `MatchRequest` asks of the gate. -/
structure AdmitRequest where
  peerId : PeerId
  cohortId : CohortId
  region : String
deriving DecidableEq

/-- One call of the gate, on the cohort record its caller keeps in a slot. -/
inductive GateCall (σ : Type)
  | admitOrBucket (slot : σ) (request : AdmitRequest) (exitRegionLookup : ExitRegionLookup)
  | drainReady (slot : σ) (region : String) (cohortId : CohortId) (auditLog : Option AuditLog)
      (exitRegionLookup : ExitRegionLookup)
  | cancelOrphans (liveCohortIds : List CohortId)

/-- A response that left the gate, with the record the call was made on:
returned to the admitted peer, or sent on a parked waiter's channel. -/
inductive Delivery
  | returned (request : AdmitRequest) (response : MatchResponse) (cohort : CohortRecord)
  | sent (waiter : PendingAdmission) (response : MatchResponse) (cohort : CohortRecord)

/-- The gate, its callers' records, and the history of a run: the request
behind each channel, the accepted admissions, and what became of the waiters. -/
structure GateWorld (σ : Type) where
  gate : AdmissionGate
  records : σ → CohortRecord
  channels : List AdmitRequest
  admissions : List (σ × AdmitRequest)
  delivered : List Delivery
  superseded : List PendingAdmission
  cancelled : List PendingAdmission

/-- The waiters that got a response. -/
def Delivery.waiter? : Delivery → Option PendingAdmission
  | .returned .. => none
  | .sent waiter _ _ => some waiter

namespace GateWorld

variable {σ : Type}

def sentWaiters (world : GateWorld σ) : List PendingAdmission :=
  world.delivered.filterMap Delivery.waiter?

def init (floor : UInt32) (records : σ → CohortRecord) : GateWorld σ :=
  ⟨AdmissionGate.new floor, records, [], [], [], [], []⟩

variable [DecidableEq σ]

def step (world : GateWorld σ) : GateCall σ → GateWorld σ
  | .admitOrBucket slot request exitRegionLookup =>
    let admitted := world.gate.admitOrBucket request.peerId request.cohortId request.region
      (world.records slot) exitRegionLookup world.channels.length
    let after := { world with
      gate := admitted.gate
      records := Function.update world.records slot admitted.cohort
      superseded := world.superseded ++ admitted.superseded }
    match admitted.outcome with
    | .regionMismatch _ _ => after
    | .admitted response => { after with
        admissions := world.admissions ++ [(slot, request)]
        delivered := world.delivered ++ [.returned request response admitted.cohort] }
    | .bucketed _ => { after with
        admissions := world.admissions ++ [(slot, request)]
        channels := world.channels ++ [request] }
  | .drainReady slot region cohortId auditLog exitRegionLookup =>
    let drained := world.gate.drainReady region cohortId (world.records slot) auditLog exitRegionLookup
    { world with
      gate := drained.gate
      delivered := world.delivered ++ drained.sent.map fun sent =>
        .sent sent.waiter sent.response (world.records slot) }
  | .cancelOrphans liveCohortIds =>
    let cancelled := world.gate.cancelOrphans liveCohortIds
    { world with gate := cancelled.gate, cancelled := world.cancelled ++ cancelled.dropped }

/-- The world after a run of calls on a fresh gate. -/
def after (floor : UInt32) (records : σ → CohortRecord) (calls : List (GateCall σ)) : GateWorld σ :=
  calls.foldl step (init floor records)

/-- What each call can do to the world, one constructor per branch. -/
inductive Effect (world : GateWorld σ) : GateCall σ → GateWorld σ → Prop
  | refused {slot request exitRegionLookup} : ¬ (world.records slot).Accepts request.region →
      Effect world (.admitOrBucket slot request exitRegionLookup) world
  | admitted {slot request exitRegionLookup cohort} : (world.records slot).Accepts request.region →
      cohort = (world.records slot).joined request.peerId request.region →
      world.gate.floor.toNat ≤ cohort.members.length →
      Effect world (.admitOrBucket slot request exitRegionLookup) { world with
        records := Function.update world.records slot cohort
        admissions := world.admissions ++ [(slot, request)]
        delivered := world.delivered ++
          [.returned request (buildResponse request.cohortId cohort exitRegionLookup) cohort] }
  | parked {slot request exitRegionLookup cohort pending dropped} :
      (world.records slot).Accepts request.region →
      cohort = (world.records slot).joined request.peerId request.region →
      cohort.members.length < world.gate.floor.toNat →
      upsertPendingEntry world.gate.pending request.region
        ⟨request.peerId, request.cohortId, world.channels.length⟩ = (pending, dropped) →
      Effect world (.admitOrBucket slot request exitRegionLookup) { world with
        gate := { world.gate with pending := pending }
        records := Function.update world.records slot cohort
        admissions := world.admissions ++ [(slot, request)]
        channels := world.channels ++ [request]
        superseded := world.superseded ++ dropped }
  | underFloor {slot region cohortId auditLog exitRegionLookup} :
      (world.records slot).members.length < world.gate.floor.toNat →
      Effect world (.drainReady slot region cohortId auditLog exitRegionLookup) world
  | released {slot region cohortId auditLog exitRegionLookup ready pending} :
      world.gate.floor.toNat ≤ (world.records slot).members.length →
      partitionWaitersFor world.gate.pending region cohortId (world.records slot) = (ready, pending) →
      Effect world (.drainReady slot region cohortId auditLog exitRegionLookup) { world with
        gate := { world.gate with pending := pending }
        delivered := world.delivered ++ ready.map fun waiter =>
          .sent waiter (buildResponse cohortId (world.records slot) exitRegionLookup) (world.records slot) }
  | cancelled {liveCohortIds} : Effect world (.cancelOrphans liveCohortIds) { world with
        gate := (world.gate.cancelOrphans liveCohortIds).gate
        cancelled := world.cancelled ++ (world.gate.cancelOrphans liveCohortIds).dropped }

theorem step_effect (world : GateWorld σ) (call : GateCall σ) : world.Effect call (world.step call) := by
  cases call with
  | admitOrBucket slot request exitRegionLookup =>
    rcases world.gate.admitOrBucket_cases request.peerId request.cohortId request.region
      (world.records slot) exitRegionLookup world.channels.length with
      ⟨refuses, run⟩ | ⟨accepts, reached, run⟩ | ⟨accepts, short, run⟩
    · have unchanged : world.step (.admitOrBucket slot request exitRegionLookup) = world := by
        simp only [step, run, Function.update_eq_self, List.append_nil]
      rw [unchanged]
      exact .refused refuses
    · simp only [step, run, List.append_nil]
      exact .admitted accepts rfl reached
    · simp only [step, run]
      exact .parked accepts rfl short rfl
  | drainReady slot region cohortId auditLog exitRegionLookup =>
    rcases world.gate.drainReady_cases region cohortId (world.records slot) auditLog exitRegionLookup with
      ⟨short, run⟩ | ⟨reached, run⟩
    · have unchanged : world.step (.drainReady slot region cohortId auditLog exitRegionLookup) = world := by
        simp only [step, run, List.map_nil, List.append_nil]
      rw [unchanged]
      exact .underFloor short
    · simp only [step, run, List.map_map]
      exact .released reached rfl
  | cancelOrphans liveCohortIds => exact .cancelled

/-- What holds of a fresh gate before any call, and survives every effect,
holds after every run, for the calls of that run. -/
theorem after_induction {I : List (GateCall σ) → GateWorld σ → Prop} {floor : UInt32}
    {records : σ → CohortRecord} (atStart : I [] (init floor records))
    (kept : ∀ {calls world call next}, I calls world → world.Effect call next → I (calls ++ [call]) next)
    (calls : List (GateCall σ)) : I calls (after floor records calls) := by
  induction calls using List.reverseRecOn with
  | nil => exact atStart
  | append_singleton calls call ih =>
    rw [after, List.foldl_append, List.foldl_cons, List.foldl_nil]
    exact kept ih (step_effect _ call)

theorem after_invariant {I : GateWorld σ → Prop} {floor : UInt32} {records : σ → CohortRecord}
    (atStart : I (init floor records))
    (kept : ∀ {world call next}, I world → world.Effect call next → I next)
    (calls : List (GateCall σ)) : I (after floor records calls) :=
  after_induction (I := fun _ world => I world) atStart kept calls

theorem after_floor (floor : UInt32) (records : σ → CohortRecord) (calls : List (GateCall σ)) :
    (after floor records calls).gate.floor = floor := by
  refine after_invariant (I := fun world => world.gate.floor = floor) rfl ?_ calls
  intro world call next same effect
  cases effect <;> exact same

/-- The request that is waiting on a channel. -/
def asker? (channels : List AdmitRequest) (waiter : PendingAdmission) : Option AdmitRequest :=
  channels[waiter.responseTx]?

theorem asker?_append {channels : List AdmitRequest} {waiter : PendingAdmission} {request : AdmitRequest}
    (asked : asker? channels waiter = some request) (newest : AdmitRequest) :
    asker? (channels ++ [newest]) waiter = some request := by
  have bound := (List.getElem?_eq_some_iff.mp asked).1
  rw [asker?, List.getElem?_append_left bound]
  exact asked

theorem asker?_newest (channels : List AdmitRequest) (peerId : PeerId) (cohortId : CohortId)
    (newest : AdmitRequest) :
    asker? (channels ++ [newest]) ⟨peerId, cohortId, channels.length⟩ = some newest :=
  List.getElem?_concat_length

/-- A waiter sits in the bucket of the region it asked for, under the peer
and the cohort of the request that made its channel. -/
def ParkedAsAsked (world : GateWorld σ) : Prop :=
  ∀ region entry, entry ∈ bucket world.gate.pending region →
    asker? world.channels entry = some ⟨entry.peerId, entry.cohortId, region⟩

theorem ParkedAsAsked.step {world next : GateWorld σ} {call : GateCall σ} (asked : world.ParkedAsAsked)
    (effect : world.Effect call next) : next.ParkedAsAsked := by
  cases effect with
  | refused | admitted | underFloor => exact asked
  | @parked slot request _ cohort pending dropped _ _ _ parking =>
    intro region entry member
    rw [(upsertPendingEntry_spec parking).1 region] at member
    split at member
    · rename_i here
      rcases List.mem_append.mp member with old | new
      · have before := asked request.region entry (List.mem_of_mem_filter old)
        rw [here]
        exact asker?_append before request
      · rw [List.mem_singleton.mp new, here]
        exact asker?_newest ..
    · exact asker?_append (asked region entry member) request
  | released _ draining =>
    intro region entry member
    rw [(partitionWaitersFor_spec draining).2.1 region] at member
    split at member
    · rename_i here
      rw [here]
      exact asked _ entry (List.mem_of_mem_filter member)
    · exact asked region entry member
  | cancelled =>
    intro region entry member
    rw [(world.gate.cancelOrphans_spec _).1 region] at member
    exact asked region entry (List.mem_of_mem_filter member)

theorem after_parkedAsAsked (floor : UInt32) (records : σ → CohortRecord) (calls : List (GateCall σ)) :
    (after floor records calls).ParkedAsAsked := by
  refine after_invariant (fun region entry member => ?_) (fun asked effect => asked.step effect) calls
  simp [init, AdmissionGate.new, bucket] at member

end GateWorld

end BiBeam
