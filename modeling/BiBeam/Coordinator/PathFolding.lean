import BiBeam.Coordinator.LeaseChain
import BiBeam.Coordinator.PathAssembly

namespace BiBeam

namespace FlowPath

/-- The parties of a path, told apart by node and by socket; of the client only
the socket is known. -/
structure Unfolded (path : FlowPath) (client : ClientHandle) : Prop where
  exit_client : path.exit.addr ≠ client.addr
  forwarder_client : ∀ forwarder ∈ path.forwarders, forwarder.addr ≠ client.addr
  forwarder_exit : ∀ forwarder ∈ path.forwarders,
    forwarder.nodeId ≠ path.exit.nodeId ∧ forwarder.addr ≠ path.exit.addr
  forwarders : path.forwarders.Pairwise fun first second =>
    first.nodeId ≠ second.nodeId ∧ first.addr ≠ second.addr

/-- Each lease relays between two sockets, neither of them its forwarder's own. -/
def LeasesApart (path : FlowPath) (leases : List ForwarderLease) : Prop :=
  ∀ (i : Nat) (forwarder : ForwarderCandidate) (lease : ForwarderLease),
    path.forwarders[i]? = some forwarder → leases[i]? = some lease →
      lease.allowedSrc ≠ forwarder.addr ∧ lease.allowedDst ≠ forwarder.addr ∧ lease.allowedSrc ≠ lease.allowedDst

end FlowPath

namespace MultiHopBuilder

/-- The candidate is the first in the list that sees more flows than the floor. -/
def FirstAbove {α : Type} (cohortSize : α → Nat) (floor : Nat) (candidates : List α) (candidate : α) : Prop :=
  ∃ earlier later, candidates = earlier ++ candidate :: later ∧ floor < cohortSize candidate ∧
    ∀ passed ∈ earlier, cohortSize passed ≤ floor

theorem firstBusy_eq_some_iff {α : Type} {cohortSize : α → Nat} {floor : Nat} {candidates : List α}
    {candidate : α} :
    firstBusy cohortSize floor candidates = some candidate ↔ FirstAbove cohortSize floor candidates candidate := by
  rw [firstBusy, List.find?_eq_some_iff_append]
  constructor
  · rintro ⟨busy, earlier, later, split, passed⟩
    exact ⟨earlier, later, split, by simpa using busy, by simpa using passed⟩
  · rintro ⟨earlier, later, split, busy, passed⟩
    exact ⟨by simpa using busy, earlier, later, split, by simpa using passed⟩

section

variable {builder : MultiHopBuilder} {now : Timestamp} {cohort : CohortId} {mint : Nat → ChainId}
  {request : MatchRequest} {region : String} {view : RegionView}

/-- An assignment is returned exactly through the first exit and the first
forwarder above the floor, each found without a look at the other. -/
theorem assemble_multiHop_iff {assignment : MultiHopAssignment} :
    builder.assemble now cohort mint request region view = .ok (.multiHopAssignment assignment) ↔
      ∃ client exit forwarder, view.client request.peerId = .found client ∧
        FirstAbove ExitCandidate.cohortSize builder.perPositionFloor (view.exitsIn region) exit ∧
        FirstAbove ForwarderCandidate.cohortSize builder.perPositionFloor (view.forwardersIn region) forwarder ∧
        assignment = buildMultiHop now mint client [forwarder] exit := by
  simp only [← firstBusy_eq_some_iff]
  unfold assemble resolveClient
  cases view.client request.peerId with
  | unknown => exact iff_of_false nofun fun ⟨_, _, _, found, _⟩ => nomatch found
  | missingWgKey => exact iff_of_false nofun fun ⟨_, _, _, found, _⟩ => nomatch found
  | found client =>
    cases atExit : pickBusyExit builder.perPositionFloor region view with
    | none =>
      exact iff_of_false nofun fun ⟨_, _, _, _, picked, _⟩ => nomatch atExit.symm.trans picked
    | some exit =>
      cases atForwarder : pickBusyForwarder builder.perPositionFloor region view with
      | none =>
        exact iff_of_false nofun fun ⟨_, _, _, _, _, picked, _⟩ => nomatch atForwarder.symm.trans picked
      | some forwarder =>
        constructor
        · intro made
          cases made
          exact ⟨client, exit, forwarder, rfl, atExit, atForwarder, rfl⟩
        · rintro ⟨_, _, _, found, exitPicked, forwarderPicked, rfl⟩
          cases found
          cases atExit.symm.trans exitPicked
          cases atForwarder.symm.trans forwarderPicked
          rfl

/-- The parties of an assignment through one forwarder can be read off it. -/
theorem buildMultiHop_parties {client : ClientHandle} {forwarder : ForwarderCandidate} {exit : ExitCandidate}
    {path : FlowPath}
    (carries : Carries now cohort mint client
      (.multiHopAssignment (buildMultiHop now mint client [forwarder] exit)) path) :
    path.exit.nodeId = exit.nodeId ∧ path.exit.addr = exit.addr ∧
      ∃ hub, path.forwarders = [hub] ∧ hub.nodeId = forwarder.nodeId ∧ hub.addr = forwarder.addr := by
  obtain ⟨final, hubs⟩ := path
  generalize made : buildMultiHop now mint client [forwarder] exit = assignment at carries
  cases carries with
  | throughHubs something =>
    have node : exit.nodeId = final.nodeId := congrArg MultiHopAssignment.exit made
    have chain := congrArg MultiHopAssignment.forwarderChain made
    match hubs with
    | [] => exact absurd rfl something
    | [hub] =>
      have endpoint : forwarder.addr = hub.addr :=
        congrArg (fun assignment => assignment.clientWgConfig.peerEndpoint) made
      simp only [buildMultiHop, buildLeaseChain, leasesFrom, List.cons.injEq, ForwarderLease.mk.injEq] at chain
      obtain ⟨⟨holder, _, _, destination, _⟩, _⟩ := chain
      exact ⟨node.symm, destination.symm, hub, rfl, holder.symm, endpoint.symm⟩
    | hub :: next :: more =>
      have short : 1 = more.length + 1 + 1 := by
        simpa only [buildMultiHop, buildLeaseChain, length_leasesFrom, List.length_cons, List.length_nil]
          using congrArg List.length chain
      omega

/-- Every assignment that the call returns keeps its parties, and the two ends
of each of its leases, apart. -/
def NeverFolds (builder : MultiHopBuilder) (now : Timestamp) (cohort : CohortId) (mint : Nat → ChainId)
    (request : MatchRequest) (region : String) (view : RegionView) : Prop :=
  ∀ assignment client path,
    builder.assemble now cohort mint request region view = .ok (.multiHopAssignment assignment) →
    view.client request.peerId = .found client →
    Carries now cohort mint client (.multiHopAssignment assignment) path →
    path.Unfolded client ∧ path.LeasesApart assignment.forwarderChain

/-- The region's first exit and first forwarder above the floor are two nodes,
and their sockets and the client's are three. -/
def PicksApart (builder : MultiHopBuilder) (request : MatchRequest) (region : String) (view : RegionView) : Prop :=
  ∀ client exit forwarder, view.client request.peerId = .found client →
    FirstAbove ExitCandidate.cohortSize builder.perPositionFloor (view.exitsIn region) exit →
    FirstAbove ForwarderCandidate.cohortSize builder.perPositionFloor (view.forwardersIn region) forwarder →
    exit.addr ≠ client.addr ∧ forwarder.addr ≠ client.addr ∧
      forwarder.nodeId ≠ exit.nodeId ∧ forwarder.addr ≠ exit.addr

/-- A path is folded exactly in a region that lists one party first for two positions. -/
theorem assemble_neverFolds_iff (builder : MultiHopBuilder) (now : Timestamp) (cohort : CohortId)
    (mint : Nat → ChainId) (request : MatchRequest) (region : String) (view : RegionView) :
    NeverFolds builder now cohort mint request region view ↔ PicksApart builder request region view := by
  constructor
  · intro never client exit forwarder found firstExit firstForwarder
    have made : builder.assemble now cohort mint request region view =
        .ok (.multiHopAssignment (buildMultiHop now mint client [forwarder] exit)) :=
      assemble_multiHop_iff.mpr ⟨client, exit, forwarder, found, firstExit, firstForwarder, rfl⟩
    have one : [forwarder] ≠ [] := List.cons_ne_nil forwarder []
    obtain ⟨unfolded, _⟩ := never _ client ⟨exit, [forwarder]⟩ made found (.throughHubs one)
    obtain ⟨node, addr⟩ := unfolded.forwarder_exit forwarder (List.mem_singleton_self _)
    exact ⟨unfolded.exit_client, unfolded.forwarder_client forwarder (List.mem_singleton_self _), node, addr⟩
  · intro apart assignment client path made found carries
    obtain ⟨asker, exit, forwarder, lookup, firstExit, firstForwarder, rfl⟩ := assemble_multiHop_iff.mp made
    cases found.symm.trans lookup
    obtain ⟨exitClient, forwarderClient, node, addr⟩ := apart client exit forwarder found firstExit firstForwarder
    obtain ⟨exitNode, exitAddr, hub, through, hubNode, hubAddr⟩ := buildMultiHop_parties carries
    constructor
    · constructor
      case exit_client => rwa [exitAddr]
      case forwarder_client => rwa [through, List.forall_mem_singleton, hubAddr]
      case forwarder_exit =>
        rw [through, List.forall_mem_singleton, hubNode, hubAddr, exitNode, exitAddr]
        exact ⟨node, addr⟩
      case forwarders =>
        rw [through]
        exact List.pairwise_singleton _ hub
    · intro i holder lease inPath inChain
      rw [through] at inPath
      cases i with
      | succ i => cases inPath
      | zero =>
        cases inPath
        cases inChain
        rw [hubAddr]
        exact ⟨forwarderClient.symm, addr.symm, exitClient.symm⟩

end

/-- A region whose only exit is bucketed as a forwarder as well. -/
def hubIsExit : RegionView where
  exitsIn _ := [⟨⟨2⟩, ⟨.replicate 32 2⟩, .v4 0xC0000202 51820, 30⟩]
  forwardersIn _ := [⟨⟨2⟩, .v4 0xC0000202 51820, 30⟩]
  client _ := .found ⟨⟨.replicate 32 1⟩, .v4 0xC0000201 41443⟩

/-- The client is sent to the exit as its own forwarder. -/
theorem hubIsExit_folds :
    ¬ NeverFolds ⟨29⟩ 0 ⟨9⟩ (fun _ => ⟨5⟩) ⟨⟨1⟩, 0⟩ "us-east" hubIsExit := by
  intro never
  have one : [ForwarderCandidate.mk ⟨2⟩ (.v4 0xC0000202 51820) 30] ≠ [] := List.cons_ne_nil _ []
  obtain ⟨unfolded, _⟩ := never _ _ _ rfl rfl (.throughHubs one)
  obtain ⟨node, _⟩ := unfolded.forwarder_exit _ (List.mem_singleton_self _)
  exact node rfl

end MultiHopBuilder

end BiBeam
