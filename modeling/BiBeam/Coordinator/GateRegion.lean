import BiBeam.Coordinator.GateRuns

namespace BiBeam

open WaitList

/-- The call uses the record of the cohort it names. -/
def GateCall.Keyed : GateCall CohortId → Prop
  | .admitOrBucket slot request _ => slot = request.cohortId
  | .drainReady slot _ cohortId _ _ => slot = cohortId
  | .cancelOrphans _ => True

/-- The region under which a call asks to join the cohort. -/
def GateCall.asks? (cohortId : CohortId) : GateCall CohortId → Option String
  | .admitOrBucket slot request _ => if slot = cohortId then some request.region else none
  | .drainReady .. => none
  | .cancelOrphans _ => none

/-- The regions asked for in a run, in order. -/
def askedRegions (cohortId : CohortId) (calls : List (GateCall CohortId)) : List String :=
  calls.filterMap (GateCall.asks? cohortId)

/-- The first region string that is not the "untagged" sentinel. -/
def firstTag (asked : List String) : String :=
  (asked.find? fun region => region ≠ "").getD ""

theorem firstTag_append (asked : List String) (region : String) :
    firstTag (asked ++ [region]) = if firstTag asked = "" then region else firstTag asked := by
  unfold firstTag
  rw [List.find?_append]
  cases found : asked.find? fun region => region ≠ "" with
  | some tag =>
    have nonempty : tag ≠ "" := by simpa using List.find?_some found
    simp [nonempty]
  | none =>
    by_cases blank : region = ""
    · simp [blank]
    · simp [blank]

theorem firstTag_ne_empty {asked : List String} {region : String} (member : region ∈ asked)
    (nonempty : region ≠ "") : firstTag asked ≠ "" := by
  unfold firstTag
  cases found : asked.find? fun region => region ≠ "" with
  | some tag => simpa using List.find?_some found
  | none =>
    have blank := List.find?_eq_none.mp found region member
    simp [nonempty] at blank

theorem head?_blank {asked : List String} (untagged : firstTag asked = "") :
    (asked ++ [""]).head? = some "" := by
  cases asked with
  | nil => rfl
  | cons region asked =>
    by_cases blank : region = ""
    · rw [blank]
      rfl
    · exact absurd untagged (firstTag_ne_empty List.mem_cons_self blank)

theorem firstTag_blank {asked : List String} (blank : ∀ region ∈ asked, region = "") : firstTag asked = "" := by
  unfold firstTag
  rw [List.find?_eq_none.mpr fun region member => by simp [blank region member]]
  rfl

namespace GateWorld

/-- The admissions into one cohort's record that the gate accepted. -/
def admissionsOf (world : GateWorld CohortId) (cohortId : CohortId) : List AdmitRequest :=
  (world.admissions.filter fun admission => admission.1 = cohortId).map Prod.snd

/-- No union of regions: the cohort's members came in under one region
string, and whoever is released against the cohort was parked under it. -/
def RegionPure (world : GateWorld CohortId) (cohortId : CohortId) : Prop :=
  (∀ first ∈ world.admissionsOf cohortId, ∀ second ∈ world.admissionsOf cohortId,
    first.region = second.region) ∧
  ∀ waiter response cohort, Delivery.sent waiter response cohort ∈ world.delivered →
    response.cohort? = some cohortId → ∃ parked, asker? world.channels waiter = some parked ∧
      ∀ admitted ∈ world.admissionsOf cohortId, parked.region = admitted.region

/-- Who is in the record and under which regions they came, against the
regions asked for so far. -/
structure RegionHistory (cohortId : CohortId) (asked : List String) (world : GateWorld CohortId) : Prop where
  tag : (world.records cohortId).region = firstTag asked
  members : ∀ peer, peer ∈ (world.records cohortId).members ↔
    ∃ admitted ∈ world.admissionsOf cohortId, admitted.peerId = peer
  regions : ∀ admitted ∈ world.admissionsOf cohortId,
    admitted.region ≠ "" ∧ admitted.region = firstTag asked ∨ admitted.region = "" ∧ asked.head? = some ""
  first : ∀ region, asked.head? = some region → ∃ admitted ∈ world.admissionsOf cohortId, admitted.region = region
  tagged : firstTag asked ≠ "" → ∃ admitted ∈ world.admissionsOf cohortId, admitted.region = firstTag asked

theorem admissionsOf_accepted (world : GateWorld CohortId) (slot cohortId : CohortId) (request : AdmitRequest) :
    ((world.admissions ++ [(slot, request)]).filter fun admission => admission.1 = cohortId).map Prod.snd =
      if slot = cohortId then world.admissionsOf cohortId ++ [request] else world.admissionsOf cohortId := by
  by_cases here : slot = cohortId <;> simp [admissionsOf, here]

/-- An admission that the record accepts extends the history. -/
theorem RegionHistory.accepted {world next : GateWorld CohortId} {cohortId : CohortId} {asked : List String}
    {request : AdmitRequest} (history : world.RegionHistory cohortId asked)
    (accepts : (world.records cohortId).Accepts request.region)
    (record : next.records cohortId = (world.records cohortId).joined request.peerId request.region)
    (admissions : next.admissionsOf cohortId = world.admissionsOf cohortId ++ [request]) :
    next.RegionHistory cohortId (asked ++ [request.region]) := by
  have accepts' := accepts
  rw [CohortRecord.Accepts, history.tag] at accepts'
  have tag' : firstTag (asked ++ [request.region]) = request.region := by
    rw [firstTag_append]
    split
    · rfl
    · rename_i nonempty
      exact accepts'.resolve_left nonempty
  refine ⟨?_, fun peer => ?_, fun admitted member => ?_, fun region head => ?_, fun _ => ?_⟩
  · rw [record, CohortRecord.joined_region accepts, tag']
  · rw [record, CohortRecord.mem_joined, history.members peer, admissions]
    simp only [List.mem_append, List.mem_singleton, or_and_right, exists_or, exists_eq_left]
    rw [@eq_comm _ peer]
  · rw [admissions] at member
    rw [tag']
    rcases List.mem_append.mp member with old | new
    · rcases history.regions admitted old with ⟨nonempty, same⟩ | ⟨blank, head⟩
      · rw [same] at nonempty
        exact Or.inl ⟨same ▸ nonempty, same.trans (accepts'.resolve_left nonempty)⟩
      · refine Or.inr ⟨blank, ?_⟩
        rw [List.head?_append, head]
        rfl
    · rw [List.mem_singleton.mp new]
      by_cases blank : request.region = ""
      · rw [blank] at accepts' ⊢
        exact Or.inr ⟨rfl, head?_blank (or_self_iff.mp accepts')⟩
      · exact Or.inl ⟨blank, rfl⟩
  · rw [admissions]
    rw [List.head?_append] at head
    cases before : asked.head? with
    | some earlier =>
      rw [before] at head
      obtain ⟨admitted, member, same⟩ := history.first earlier before
      rw [Option.some.inj head] at same
      exact ⟨admitted, List.mem_append_left _ member, same⟩
    | none =>
      rw [before] at head
      cases Option.some.inj head
      exact ⟨request, List.mem_append_right _ (List.mem_singleton_self _), rfl⟩
  · rw [admissions, tag']
    exact ⟨request, List.mem_append_right _ (List.mem_singleton_self _), rfl⟩

/-- An admission that the record refuses leaves the history as it is. -/
theorem RegionHistory.refused {world : GateWorld CohortId} {cohortId : CohortId} {asked : List String}
    {region : String} (history : world.RegionHistory cohortId asked)
    (refuses : ¬ (world.records cohortId).Accepts region) :
    world.RegionHistory cohortId (asked ++ [region]) := by
  have tagged : firstTag asked ≠ "" := fun untagged => refuses (Or.inl (history.tag.trans untagged))
  have tag' : firstTag (asked ++ [region]) = firstTag asked := by rw [firstTag_append, if_neg tagged]
  have head' : (asked ++ [region]).head? = asked.head? := by
    cases asked with
    | nil => exact absurd rfl tagged
    | cons => rfl
  constructor
  · rw [tag', history.tag]
  · exact history.members
  · rw [tag', head']
    exact history.regions
  · rw [head']
    exact history.first
  · rw [tag']
    exact history.tagged

/-- Calls that change neither the record nor its admissions keep the history. -/
theorem RegionHistory.frame {world next : GateWorld CohortId} {cohortId : CohortId} {asked : List String}
    (history : world.RegionHistory cohortId asked) (record : next.records cohortId = world.records cohortId)
    (admissions : next.admissionsOf cohortId = world.admissionsOf cohortId) :
    next.RegionHistory cohortId asked := by
  constructor
  · rw [record, history.tag]
  · rw [record, admissions]
    exact history.members
  · rw [admissions]
    exact history.regions
  · rw [admissions]
    exact history.first
  · rw [admissions]
    exact history.tagged

theorem RegionHistory.step {world next : GateWorld CohortId} {cohortId : CohortId} {asked : List String}
    {call : GateCall CohortId} (history : world.RegionHistory cohortId asked) (effect : world.Effect call next) :
    next.RegionHistory cohortId (asked ++ (call.asks? cohortId).toList) := by
  have join {slot : CohortId} {request : AdmitRequest} {after : GateWorld CohortId}
      (accepts : (world.records slot).Accepts request.region)
      (records : after.records = Function.update world.records slot
        ((world.records slot).joined request.peerId request.region))
      (admissions : after.admissions = world.admissions ++ [(slot, request)]) :
      after.RegionHistory cohortId (asked ++ (if slot = cohortId then some request.region else none).toList) := by
    have entries := admissionsOf_accepted world slot cohortId request
    rw [← admissions] at entries
    by_cases here : slot = cohortId
    · subst here
      rw [if_pos rfl] at entries ⊢
      refine history.accepted accepts ?_ entries
      rw [records, Function.update_self]
    · rw [if_neg here] at entries ⊢
      rw [Option.toList_none, List.append_nil]
      refine history.frame ?_ entries
      rw [records, Function.update_of_ne (Ne.symm here)]
  cases effect with
  | @refused slot request _ refuses =>
    by_cases here : slot = cohortId
    · subst here
      simpa [GateCall.asks?] using history.refused refuses
    · simpa [GateCall.asks?, here] using history
  | admitted accepts joins _ =>
    subst joins
    exact join accepts rfl rfl
  | parked accepts joins _ _ =>
    subst joins
    exact join accepts rfl rfl
  | underFloor | released | cancelled =>
    rw [GateCall.asks?, Option.toList_none, List.append_nil]
    exact history.frame rfl rfl

/-- Channels come from accepted admissions, and a response put its receiver
into the cohort its channel was made for. -/
structure ChannelHistory (world : GateWorld CohortId) : Prop where
  asked : world.ParkedAsAsked
  channels : ∀ request ∈ world.channels, request ∈ world.admissionsOf request.cohortId
  answers : ∀ waiter response cohort, Delivery.sent waiter response cohort ∈ world.delivered →
    ∃ parked, asker? world.channels waiter = some parked ∧ response.cohort? = some parked.cohortId

theorem ChannelHistory.step {world next : GateWorld CohortId} {call : GateCall CohortId}
    (history : world.ChannelHistory) (keyed : call.Keyed) (effect : world.Effect call next) :
    next.ChannelHistory := by
  have asked := history.asked.step effect
  cases effect with
  | refused | underFloor => exact history
  | @admitted slot request _ cohort _ _ _ =>
    refine ⟨asked, fun other member => ?_, fun waiter response record member => ?_⟩
    · have before := history.channels other member
      rw [admissionsOf, admissionsOf_accepted]
      split
      · exact List.mem_append_left _ before
      · exact before
    · rcases List.mem_append.mp member with old | new
      · exact history.answers waiter response record old
      · cases List.mem_singleton.mp new
  | @parked slot request _ cohort pending dropped _ _ _ _ =>
    refine ⟨asked, fun other member => ?_, fun waiter response record member => ?_⟩
    · rw [admissionsOf, admissionsOf_accepted]
      rcases List.mem_append.mp member with old | new
      · have before := history.channels other old
        split
        · exact List.mem_append_left _ before
        · exact before
      · have same : slot = request.cohortId := keyed
        rw [List.mem_singleton.mp new, if_pos same]
        exact List.mem_append_right _ (List.mem_singleton_self _)
    · obtain ⟨parked, asks, named⟩ := history.answers waiter response record member
      exact ⟨parked, asker?_append asks request, named⟩
  | @released slot region cohortId _ exitRegionLookup ready pending _ draining =>
    refine ⟨asked, history.channels, fun waiter response record member => ?_⟩
    rcases List.mem_append.mp member with old | new
    · exact history.answers waiter response record old
    · obtain ⟨released, isReady, same⟩ := List.mem_map.mp new
      cases same
      rw [(partitionWaitersFor_spec draining).1, List.mem_filter, Bool.and_eq_true, decide_eq_true_eq] at isReady
      obtain ⟨waits, sameCohort, _⟩ := isReady
      refine ⟨_, history.asked region waiter waits, ?_⟩
      rw [AdmissionGate.buildResponse_cohort, sameCohort]
  | cancelled => exact ⟨asked, history.channels, history.answers⟩

theorem after_history (floor : UInt32) {records : CohortId → CohortRecord} {cohortId : CohortId}
    (blank : (records cohortId).members = [] ∧ (records cohortId).region = "")
    {calls : List (GateCall CohortId)} (keyed : ∀ call ∈ calls, call.Keyed) :
    (after floor records calls).RegionHistory cohortId (askedRegions cohortId calls) ∧
      (after floor records calls).ChannelHistory := by
  have fresh : (init floor records).RegionHistory cohortId [] := by
    have none := blank.1
    refine ⟨blank.2, fun peer => ?_, fun _ member => ?_, fun _ head => ?_, fun tagged => absurd rfl tagged⟩
    · simp [init, admissionsOf, none]
    · exact absurd member List.not_mem_nil
    · exact absurd head.symm (Option.some_ne_none _)
  have silent : (init floor records).ChannelHistory :=
    ⟨after_parkedAsAsked floor records [], fun _ member => absurd member List.not_mem_nil,
      fun _ _ _ member => absurd member List.not_mem_nil⟩
  have grow (calls : List (GateCall CohortId)) (call : GateCall CohortId) :
      askedRegions cohortId (calls ++ [call]) = askedRegions cohortId calls ++ (call.asks? cohortId).toList := by
    rw [askedRegions, List.filterMap_append]
    cases asks : call.asks? cohortId <;> simp [askedRegions, asks]
  refine after_induction (I := fun calls world => (∀ call ∈ calls, call.Keyed) →
    world.RegionHistory cohortId (askedRegions cohortId calls) ∧ world.ChannelHistory)
    (fun _ => ⟨fresh, silent⟩) ?_ calls keyed
  intro calls world call next inv effect keyed
  obtain ⟨regions, channels⟩ := inv fun other member => keyed other (List.mem_append_left _ member)
  have last := keyed call (List.mem_append_right _ (List.mem_singleton_self _))
  rw [grow]
  exact ⟨regions.step effect, channels.step last effect⟩

/-- Purity holds exactly when no peer asked under the empty region first
and another under a region later; the record's members are exactly the
peers of its accepted admissions. -/
theorem regionPure_iff (floor : UInt32) (records : CohortId → CohortRecord) (cohortId : CohortId)
    (blank : (records cohortId).members = [] ∧ (records cohortId).region = "")
    (calls : List (GateCall CohortId)) (keyed : ∀ call ∈ calls, call.Keyed) :
    (∀ peer, peer ∈ ((after floor records calls).records cohortId).members ↔
      ∃ admitted ∈ (after floor records calls).admissionsOf cohortId, admitted.peerId = peer) ∧
    ((after floor records calls).RegionPure cohortId ↔
      ((askedRegions cohortId calls).head? = some "" → ∀ region ∈ askedRegions cohortId calls, region = "")) := by
  obtain ⟨regions, channels⟩ := after_history floor blank keyed
  refine ⟨regions.members, fun pure head region member => ?_, fun condition => ?_⟩
  · by_contra nonempty
    have tagged := firstTag_ne_empty member nonempty
    obtain ⟨blankly, atBlank, underBlank⟩ := regions.first "" head
    obtain ⟨tag, atTag, underTag⟩ := regions.tagged tagged
    have same := pure.1 blankly atBlank tag atTag
    rw [underBlank, underTag] at same
    exact tagged same.symm
  · have one : ∀ admitted ∈ (after floor records calls).admissionsOf cohortId,
        admitted.region = firstTag (askedRegions cohortId calls) := by
      intro admitted member
      rcases regions.regions admitted member with ⟨_, same⟩ | ⟨empty, head⟩
      · exact same
      · rw [empty, firstTag_blank (condition head)]
    refine ⟨fun first atFirst second atSecond => ?_, fun waiter response record sent named => ?_⟩
    · rw [one first atFirst, one second atSecond]
    · obtain ⟨parked, asks, cohort⟩ := channels.answers waiter response record sent
      rw [named] at cohort
      have made := channels.channels parked (List.mem_of_getElem? asks)
      rw [← Option.some.inj cohort] at made
      refine ⟨parked, asks, fun admitted member => ?_⟩
      rw [one parked made, one admitted member]

/-- Peer 1 declared no region, peer 2 declared one, and the cohort takes both. -/
def undeclaredFirst : List (GateCall CohortId) :=
  [.admitOrBucket ⟨7⟩ ⟨⟨1⟩, ⟨7⟩, ""⟩ fun _ => none, .admitOrBucket ⟨7⟩ ⟨⟨2⟩, ⟨7⟩, "us-east"⟩ fun _ => none]

theorem undeclaredFirst_mixes_regions :
    (∀ call ∈ undeclaredFirst, call.Keyed) ∧
      ((after 30 (fun _ => ⟨[], [], 0, ""⟩) undeclaredFirst).records ⟨7⟩).members = [⟨1⟩, ⟨2⟩] ∧
      (after 30 (fun _ => ⟨[], [], 0, ""⟩) undeclaredFirst).admissionsOf ⟨7⟩ =
        [⟨⟨1⟩, ⟨7⟩, ""⟩, ⟨⟨2⟩, ⟨7⟩, "us-east"⟩] ∧
      ¬ (after 30 (fun _ => ⟨[], [], 0, ""⟩) undeclaredFirst).RegionPure ⟨7⟩ := by
  have both : (after 30 (fun _ => ⟨[], [], 0, ""⟩) undeclaredFirst).admissionsOf ⟨7⟩ =
      [⟨⟨1⟩, ⟨7⟩, ""⟩, ⟨⟨2⟩, ⟨7⟩, "us-east"⟩] := by decide
  refine ⟨by simp [undeclaredFirst, GateCall.Keyed], by decide, both, fun pure => ?_⟩
  have same := pure.1
  rw [both] at same
  exact absurd (same _ (List.mem_cons_self ..) _ (List.mem_cons_of_mem _ (List.mem_cons_self ..))) (by decide)

theorem regionPure_iff_undeclaredFirst :
    (∀ peer, peer ∈ ((after 30 (fun _ => ⟨[], [], 0, ""⟩) undeclaredFirst).records ⟨7⟩).members ↔
      ∃ admitted ∈ (after 30 (fun _ => ⟨[], [], 0, ""⟩) undeclaredFirst).admissionsOf ⟨7⟩,
        admitted.peerId = peer) ∧
    ((after 30 (fun _ => ⟨[], [], 0, ""⟩) undeclaredFirst).RegionPure ⟨7⟩ ↔
      ((askedRegions ⟨7⟩ undeclaredFirst).head? = some "" →
        ∀ region ∈ askedRegions ⟨7⟩ undeclaredFirst, region = "")) :=
  regionPure_iff 30 _ ⟨7⟩ ⟨rfl, rfl⟩ undeclaredFirst (by simp [undeclaredFirst, GateCall.Keyed])

end GateWorld

end BiBeam
