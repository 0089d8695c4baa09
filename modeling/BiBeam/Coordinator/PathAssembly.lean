import BiBeam.Coordinator.Multihop

namespace BiBeam

inductive ClientLookup
  | found (client : ClientHandle)
  | missingWgKey
  | unknown
deriving DecidableEq

/-- What the live cohort state answers to one assembly, which asks each
question at most once. -/
structure RegionView where
  exitsIn : String → List ExitCandidate
  forwardersIn : String → List ForwarderCandidate
  client : PeerId → ClientLookup

inductive MultiHopPathError
  | noAnonymousPathAvailable (region : String)
  | unknownClient (peerId : PeerId)
  | missingClientWgKey (peerId : PeerId)
deriving DecidableEq

structure MultiHopBuilder where
  perPositionFloor : Nat
deriving DecidableEq

/-- The first candidate that sees more flows than the floor. -/
def firstBusy {α : Type} (cohortSize : α → Nat) (perPositionFloor : Nat) (candidates : List α) : Option α :=
  candidates.find? fun candidate => perPositionFloor < cohortSize candidate

namespace MultiHopBuilder

def resolveClient (peerId : PeerId) (view : RegionView) : Except MultiHopPathError ClientHandle :=
  match view.client peerId with
  | .found client => .ok client
  | .missingWgKey => .error (.missingClientWgKey peerId)
  | .unknown => .error (.unknownClient peerId)

def pickBusyExit (perPositionFloor : Nat) (requestedRegion : String) (view : RegionView) : Option ExitCandidate :=
  firstBusy ExitCandidate.cohortSize perPositionFloor (view.exitsIn requestedRegion)

def pickBusyForwarder (perPositionFloor : Nat) (requestedRegion : String) (view : RegionView) :
    Option ForwarderCandidate :=
  firstBusy ForwarderCandidate.cohortSize perPositionFloor (view.forwardersIn requestedRegion)

/-- `cohort` is the fresh id that the call draws. -/
def buildSingleHop (now : Timestamp) (cohort : CohortId) (exit : ExitCandidate) : SingleHopMatch where
  cohort := cohort
  exitSet := [exit.nodeId]
  exitRegions := ∅
  rotationDeadline := leaseDeadlineNow now

/-- The clock and the fresh ids are those that the call reads and draws. -/
def assemble (builder : MultiHopBuilder) (now : Timestamp) (cohort : CohortId) (mint : Nat → ChainId)
    (request : MatchRequest) (requestedRegion : String) (view : RegionView) :
    Except MultiHopPathError MatchResponse := do
  let client ← resolveClient request.peerId view
  match pickBusyExit builder.perPositionFloor requestedRegion view with
  | none => .error (.noAnonymousPathAvailable requestedRegion)
  | some exit =>
    match pickBusyForwarder builder.perPositionFloor requestedRegion view with
    | none => .ok (.singleHop (buildSingleHop now cohort exit))
    | some forwarder => .ok (.multiHopAssignment (buildMultiHop now mint client [forwarder] exit))

end MultiHopBuilder

/-- A way to the exit through the forwarders before it, none for a direct one. -/
structure FlowPath where
  exit : ExitCandidate
  forwarders : List ForwarderCandidate

namespace FlowPath

/-- Every position is a candidate that the region offers. -/
def OfferedBy (path : FlowPath) (view : RegionView) (region : String) : Prop :=
  path.exit ∈ view.exitsIn region ∧ ∀ forwarder ∈ path.forwarders, forwarder ∈ view.forwardersIn region

/-- Every position sees `floor` other flows. -/
def MeetsFloor (path : FlowPath) (floor : Nat) : Prop :=
  floor ≤ path.exit.cohortSize ∧ ∀ forwarder ∈ path.forwarders, floor ≤ forwarder.cohortSize

theorem MeetsFloor.mono {path : FlowPath} {lower upper : Nat} (meets : path.MeetsFloor upper)
    (bound : lower ≤ upper) : path.MeetsFloor lower :=
  ⟨bound.trans meets.1, fun forwarder member => bound.trans (meets.2 forwarder member)⟩

end FlowPath

namespace MultiHopBuilder

section

variable {α : Type} {cohortSize : α → Nat} {floor : Nat} {candidates : List α}

theorem firstBusy_eq_some {candidate : α} (picked : firstBusy cohortSize floor candidates = some candidate) :
    candidate ∈ candidates ∧ floor < cohortSize candidate := by
  have busy := List.find?_some (p := fun candidate => floor < cohortSize candidate) picked
  exact ⟨List.mem_of_find?_eq_some picked, of_decide_eq_true busy⟩

theorem firstBusy_eq_none :
    firstBusy cohortSize floor candidates = none ↔ ∀ candidate ∈ candidates, cohortSize candidate ≤ floor := by
  simp only [firstBusy, List.find?_eq_none, decide_eq_true_eq, Nat.not_lt]

/-- Whether some candidate meets the floor does not hang on candidates that
see exactly the floor. -/
def ClearOf (cohortSize : α → Nat) (floor : Nat) (candidates : List α) : Prop :=
  (∃ candidate ∈ candidates, cohortSize candidate = floor) → ∃ candidate ∈ candidates, floor < cohortSize candidate

theorem clearOf_of_busy {candidate : α} (member : candidate ∈ candidates) (busy : floor < cohortSize candidate) :
    ClearOf cohortSize floor candidates :=
  fun _ => ⟨candidate, member, busy⟩

/-- When no candidate sees more than the floor, being clear of it means that
every candidate is below it. -/
theorem clearOf_iff_below (low : ∀ candidate ∈ candidates, cohortSize candidate ≤ floor) :
    ClearOf cohortSize floor candidates ↔ ∀ candidate ∈ candidates, ¬ floor ≤ cohortSize candidate := by
  constructor
  · intro clear candidate member meets
    have equal := Nat.le_antisymm (low candidate member) meets
    obtain ⟨busy, inside, above⟩ := clear ⟨candidate, member, equal⟩
    exact Nat.not_lt.mpr (low busy inside) above
  · intro below ⟨candidate, member, equal⟩
    exact absurd equal.ge (below candidate member)

end

section

variable {builder : MultiHopBuilder} {now : Timestamp} {cohort : CohortId} {mint : Nat → ChainId}
  {request : MatchRequest} {region : String} {view : RegionView}

/-- Everything an assembly can answer, one constructor per branch. -/
inductive Answer (builder : MultiHopBuilder) (now : Timestamp) (cohort : CohortId) (mint : Nat → ChainId)
    (request : MatchRequest) (region : String) (view : RegionView) : Except MultiHopPathError MatchResponse → Prop
  | unknown : view.client request.peerId = .unknown →
      Answer builder now cohort mint request region view (.error (.unknownClient request.peerId))
  | missingKey : view.client request.peerId = .missingWgKey →
      Answer builder now cohort mint request region view (.error (.missingClientWgKey request.peerId))
  | refused {client} : view.client request.peerId = .found client →
      (∀ exit ∈ view.exitsIn region, exit.cohortSize ≤ builder.perPositionFloor) →
      Answer builder now cohort mint request region view (.error (.noAnonymousPathAvailable region))
  | direct {client exit} : view.client request.peerId = .found client →
      exit ∈ view.exitsIn region → builder.perPositionFloor < exit.cohortSize →
      (∀ forwarder ∈ view.forwardersIn region, forwarder.cohortSize ≤ builder.perPositionFloor) →
      Answer builder now cohort mint request region view (.ok (.singleHop (buildSingleHop now cohort exit)))
  | throughHub {client exit forwarder} : view.client request.peerId = .found client →
      exit ∈ view.exitsIn region → builder.perPositionFloor < exit.cohortSize →
      forwarder ∈ view.forwardersIn region → builder.perPositionFloor < forwarder.cohortSize →
      Answer builder now cohort mint request region view
        (.ok (.multiHopAssignment (buildMultiHop now mint client [forwarder] exit)))

theorem assemble_answer (builder : MultiHopBuilder) (now : Timestamp) (cohort : CohortId) (mint : Nat → ChainId)
    (request : MatchRequest) (region : String) (view : RegionView) :
    Answer builder now cohort mint request region view
      (builder.assemble now cohort mint request region view) := by
  unfold assemble resolveClient
  cases lookup : view.client request.peerId with
  | unknown => exact .unknown lookup
  | missingWgKey => exact .missingKey lookup
  | found client =>
    cases atExit : pickBusyExit builder.perPositionFloor region view with
    | none => exact .refused lookup (firstBusy_eq_none.mp atExit)
    | some exit =>
      obtain ⟨offered, busy⟩ := firstBusy_eq_some atExit
      cases atForwarder : pickBusyForwarder builder.perPositionFloor region view with
      | none => exact .direct lookup offered busy (firstBusy_eq_none.mp atForwarder)
      | some forwarder =>
        obtain ⟨hub, carries⟩ := firstBusy_eq_some atForwarder
        exact .throughHub lookup offered busy hub carries

/-- The response sends the client's flow along the path. -/
inductive Carries (now : Timestamp) (cohort : CohortId) (mint : Nat → ChainId) (client : ClientHandle) :
    MatchResponse → FlowPath → Prop
  | direct {exit} : Carries now cohort mint client (.singleHop (buildSingleHop now cohort exit)) ⟨exit, []⟩
  | throughHubs {exit forwarders} : forwarders ≠ [] → Carries now cohort mint client
      (.multiHopAssignment (buildMultiHop now mint client forwarders exit)) ⟨exit, forwarders⟩

/-- What the floor asks of a call's result, `cohortSize` being the number of
other flows: it refuses just when no exit meets the floor, a path meets the
floor at every position, and it is direct only when no forwarder meets it. -/
structure RespectsFloor (floor : Nat) (now : Timestamp) (cohort : CohortId) (mint : Nat → ChainId)
    (request : MatchRequest) (region : String) (view : RegionView)
    (result : Except MultiHopPathError MatchResponse) : Prop where
  refuses : (∃ named, result = .error (.noAnonymousPathAvailable named)) ↔
    (∃ client, view.client request.peerId = .found client) ∧
      ∀ exit ∈ view.exitsIn region, ¬ floor ≤ exit.cohortSize
  covers : ∀ response, result = .ok response →
    ∃ client path, view.client request.peerId = .found client ∧ Carries now cohort mint client response path ∧
      path.OfferedBy view region ∧ path.MeetsFloor floor
  direct : ∀ single, result = .ok (.singleHop single) →
    ∀ forwarder ∈ view.forwardersIn region, ¬ floor ≤ forwarder.cohortSize

/-- The client's call is settled by candidates on either side of the floor:
exits that see exactly the floor do not matter, and, past a busy exit, nor do
such forwarders. -/
def ClearOfFloor (floor : Nat) (request : MatchRequest) (region : String) (view : RegionView) : Prop :=
  ∀ client, view.client request.peerId = .found client →
    ClearOf ExitCandidate.cohortSize floor (view.exitsIn region) ∧
    ((∃ exit ∈ view.exitsIn region, floor < exit.cohortSize) →
      ClearOf ForwarderCandidate.cohortSize floor (view.forwardersIn region))

variable {result : Except MultiHopPathError MatchResponse}

/-- A path that is returned is one flow above the floor at every position. -/
theorem Answer.covers (answer : Answer builder now cohort mint request region view result)
    (response : MatchResponse) (made : result = .ok response) :
    ∃ client path, view.client request.peerId = .found client ∧ Carries now cohort mint client response path ∧
      path.OfferedBy view region ∧ path.MeetsFloor (builder.perPositionFloor + 1) := by
  cases answer with
  | unknown | missingKey | refused => cases made
  | @direct client exit found offered busy =>
    cases made
    exact ⟨client, ⟨exit, []⟩, found, .direct, ⟨offered, List.forall_mem_nil _⟩, busy, List.forall_mem_nil _⟩
  | @throughHub client exit forwarder found offered busy hub carries =>
    cases made
    have one : [forwarder] ≠ [] := List.cons_ne_nil forwarder []
    refine ⟨client, ⟨exit, [forwarder]⟩, found, .throughHubs one, ⟨offered, ?_⟩, busy, ?_⟩
    · exact List.forall_mem_singleton.mpr hub
    · exact List.forall_mem_singleton.mpr carries

/-- Without a registered key nothing is asked of the region. -/
theorem respectsFloor_of_unresolved (lost : ∀ client, view.client request.peerId ≠ .found client)
    {error : MultiHopPathError} (other : ∀ named, error ≠ .noAnonymousPathAvailable named) {floor : Nat} :
    RespectsFloor floor now cohort mint request region view (.error error) where
  refuses := by
    refine iff_of_false (fun refused => ?_) fun asks => ?_
    · obtain ⟨named, same⟩ := refused
      exact other named (Except.error.inj same)
    · obtain ⟨⟨client, found⟩, _⟩ := asks
      exact lost client found
  covers _ made := by cases made
  direct _ made := by cases made

/-- What assembly really enforces: a floor of one flow more. -/
theorem Answer.respectsFloor_succ (answer : Answer builder now cohort mint request region view result) :
    RespectsFloor (builder.perPositionFloor + 1) now cohort mint request region view result := by
  have covers := answer.covers
  cases answer with
  | unknown lookup => exact respectsFloor_of_unresolved (by simp [lookup]) (by simp)
  | missingKey lookup => exact respectsFloor_of_unresolved (by simp [lookup]) (by simp)
  | @refused client found low =>
    have below : ∀ exit ∈ view.exitsIn region, ¬ builder.perPositionFloor + 1 ≤ exit.cohortSize :=
      fun exit member => Nat.not_lt.mpr (low exit member)
    exact ⟨iff_of_true ⟨region, rfl⟩ ⟨⟨client, found⟩, below⟩, covers, fun _ made => by cases made⟩
  | @direct client exit found offered busy low =>
    exact ⟨iff_of_false (by simp) fun asks => asks.2 exit offered busy, covers,
      fun _ _ forwarder member => Nat.not_lt.mpr (low forwarder member)⟩
  | @throughHub client exit forwarder found offered busy hub carries =>
    exact ⟨iff_of_false (by simp) fun asks => asks.2 exit offered busy, covers, fun _ made => by cases made⟩

theorem Answer.respectsFloor_iff (answer : Answer builder now cohort mint request region view result) :
    RespectsFloor builder.perPositionFloor now cohort mint request region view result ↔
      ClearOfFloor builder.perPositionFloor request region view := by
  have covers (response : MatchResponse) (made : result = .ok response) :
      ∃ client path, view.client request.peerId = .found client ∧ Carries now cohort mint client response path ∧
        path.OfferedBy view region ∧ path.MeetsFloor builder.perPositionFloor := by
    obtain ⟨client, path, found, carries, offered, meets⟩ := answer.covers response made
    exact ⟨client, path, found, carries, offered, meets.mono (Nat.le_succ _)⟩
  cases answer with
  | unknown lookup =>
    have lost (client : ClientHandle) : view.client request.peerId ≠ .found client := by simp [lookup]
    exact iff_of_true (respectsFloor_of_unresolved lost (by simp)) fun client found => absurd found (lost client)
  | missingKey lookup =>
    have lost (client : ClientHandle) : view.client request.peerId ≠ .found client := by simp [lookup]
    exact iff_of_true (respectsFloor_of_unresolved lost (by simp)) fun client found => absurd found (lost client)
  | @refused client found low =>
    have noneBusy : ¬ ∃ exit ∈ view.exitsIn region, builder.perPositionFloor < exit.cohortSize :=
      fun ⟨exit, member, busy⟩ => Nat.not_lt.mpr (low exit member) busy
    constructor
    · intro respects _ _
      have below := (respects.refuses.mp ⟨region, rfl⟩).2
      exact ⟨(clearOf_iff_below low).mpr below, fun busy => absurd busy noneBusy⟩
    · intro clear
      have below := (clearOf_iff_below low).mp (clear client found).1
      exact ⟨iff_of_true ⟨region, rfl⟩ ⟨⟨client, found⟩, below⟩, covers, fun _ made => by cases made⟩
  | @direct client exit found offered busy low =>
    constructor
    · intro respects _ _
      have below := respects.direct _ rfl
      exact ⟨clearOf_of_busy offered busy, fun _ => (clearOf_iff_below low).mpr below⟩
    · intro clear
      have below := (clearOf_iff_below low).mp ((clear client found).2 ⟨exit, offered, busy⟩)
      exact ⟨iff_of_false (by simp) fun asks => asks.2 exit offered busy.le, covers, fun _ _ => below⟩
  | @throughHub client exit forwarder found offered busy hub carries =>
    have respects : RespectsFloor builder.perPositionFloor now cohort mint request region view
        (.ok (.multiHopAssignment (buildMultiHop now mint client [forwarder] exit))) :=
      ⟨iff_of_false (by simp) fun asks => asks.2 exit offered busy.le, covers, fun _ made => by cases made⟩
    exact iff_of_true respects fun _ _ => ⟨clearOf_of_busy offered busy, fun _ => clearOf_of_busy hub carries⟩

theorem assemble_respectsFloor_succ (builder : MultiHopBuilder) (now : Timestamp) (cohort : CohortId)
    (mint : Nat → ChainId) (request : MatchRequest) (region : String) (view : RegionView) :
    RespectsFloor (builder.perPositionFloor + 1) now cohort mint request region view
      (builder.assemble now cohort mint request region view) :=
  (assemble_answer builder now cohort mint request region view).respectsFloor_succ

/-- Assembly respects the floor on exactly the calls that are settled by
candidates on either side of it. -/
theorem assemble_respectsFloor_iff (builder : MultiHopBuilder) (now : Timestamp) (cohort : CohortId)
    (mint : Nat → ChainId) (request : MatchRequest) (region : String) (view : RegionView) :
    RespectsFloor builder.perPositionFloor now cohort mint request region view
      (builder.assemble now cohort mint request region view) ↔
      ClearOfFloor builder.perPositionFloor request region view :=
  (assemble_answer builder now cohort mint request region view).respectsFloor_iff

/-- The region's one exit sees as many other flows as the canonical floor asks. -/
def exitAtFloor : RegionView where
  exitsIn _ := [⟨⟨2⟩, ⟨.replicate 32 2⟩, .v4 0xC0000202 51820, 29⟩]
  forwardersIn _ := []
  client _ := .found ⟨⟨.replicate 32 1⟩, .v4 0xC0000201 41443⟩

theorem exitAtFloor_refused :
    (MultiHopBuilder.mk 29).assemble 0 ⟨9⟩ (fun _ => ⟨5⟩) ⟨⟨1⟩, 0⟩ "us-east" exitAtFloor =
      .error (.noAnonymousPathAvailable "us-east") ∧
    ¬ RespectsFloor 29 0 ⟨9⟩ (fun _ => ⟨5⟩) ⟨⟨1⟩, 0⟩ "us-east" exitAtFloor
      ((MultiHopBuilder.mk 29).assemble 0 ⟨9⟩ (fun _ => ⟨5⟩) ⟨⟨1⟩, 0⟩ "us-east" exitAtFloor) := by
  refine ⟨rfl, fun respects => ?_⟩
  have below := (respects.refuses.mp ⟨"us-east", rfl⟩).2
  exact below _ (List.mem_singleton_self _) le_rfl

end

end MultiHopBuilder

end BiBeam
