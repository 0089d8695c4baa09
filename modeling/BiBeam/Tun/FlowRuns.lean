import BiBeam.Tun.FlowLog

namespace BiBeam

namespace FlowWorld

variable {n : Nat} {shardOf : FlowKey → Fin n}

/-- What the calls of a run were given, and the shards that one of them has
swept so far with the flows retired there. -/
def gcCalls (events : List FlowEvent) : List (UInt64 × UInt64) :=
  events.filterMap fun
    | .gc nowSecs idleSecs => some (nowSecs, idleSecs)
    | _ => none

def sweptBy (call : Nat) (events : List FlowEvent) : List (Nat × List FlowKey) :=
  events.filterMap fun
    | .sweep sweeper shard retired => if sweeper = call then some (shard, retired) else none
    | _ => none

theorem gcCalls_concat (events : List FlowEvent) (event : FlowEvent) :
    gcCalls (events ++ [event]) = gcCalls events ++ gcCalls [event] :=
  List.filterMap_append

theorem sweptBy_concat (call : Nat) (events : List FlowEvent) (event : FlowEvent) :
    sweptBy call (events ++ [event]) = sweptBy call events ++ sweptBy call [event] :=
  List.filterMap_append

/-- A touched table is what the log with the touch sums up to. -/
theorem lookup_touch_summary {table : FlowTable} {log : FlowLog}
    (summed : ∀ key, table.lookup key = FlowState.summary (log key)) (touched key : FlowKey) (touch : Touch)
    {credit : FlowState → FlowState} (credits : ∀ state, { credit state with lastSeen := touch.stamp } = state.credit touch) :
    (table.touch touched credit touch.stamp).lookup key =
      FlowState.summary (Function.update log touched (log touched ++ [touch]) key) := by
  rw [FlowTable.lookup_touch]
  by_cases same : key = touched
  · rw [if_pos same, same, Function.update_self, FlowState.summary_concat, summed, credits]
  · rw [if_neg same, Function.update_of_ne same, summed]

/-- The table is what the log of touches sums up to. -/
theorem Step.summary {world next : FlowWorld} {event : FlowEvent} {log : FlowLog} (step : Step shardOf world event next)
    (summed : ∀ key, world.table.lookup key = FlowState.summary (log key)) (key : FlowKey) :
    next.table.lookup key = FlowState.summary (event.record log key) := by
  cases step with
  | @touchIn touched bytes stamp =>
    exact lookup_touch_summary summed touched key ⟨.inbound, bytes, stamp⟩ fun _ => rfl
  | @touchOut touched bytes stamp =>
    exact lookup_touch_summary summed touched key ⟨.outbound, bytes, stamp⟩ fun _ => rfl
  | gc | gcReturn => exact summed key
  | sweep =>
    rw [FlowTable.lookup_sweepShard, FlowEvent.record, summed]
    dsimp only
    split <;> rfl

theorem run_summary {events : List FlowEvent} {world : FlowWorld} (run : Reach (Step shardOf) init events world)
    (key : FlowKey) : world.table.lookup key = FlowState.summary (touchesSince events key) := by
  induction run generalizing key with
  | start => rfl
  | next _ stepped ih =>
    rw [touchesSince_concat]
    exact stepped.summary ih key

/-- What a call knows about itself is what it was given and has done. -/
structure CallTold (events : List FlowEvent) (k : Nat) (call : GcCall) : Prop where
  given : ∃ nowSecs idleSecs, (gcCalls events)[k]? = some (nowSecs, idleSecs) ∧
    call.cutoff = nowSecs.saturatingSub idleSecs
  inTurn : (sweptBy k events).map Prod.fst = List.range call.shard
  counted : call.dropped = ((sweptBy k events).map fun swept => swept.2.length).sum

structure Told (events : List FlowEvent) (world : FlowWorld) : Prop where
  calls : world.calls.length = (gcCalls events).length
  unbegun : ∀ k, world.calls.length ≤ k → sweptBy k events = []
  told : ∀ k call, world.calls[k]? = some call → CallTold events k call

/-- An event that serves one call at most and begins none. -/
theorem Told.serve {events : List FlowEvent} {world next : FlowWorld} {event : FlowEvent} (told : Told events world)
    (noCall : gcCalls [event] = []) (same : next.calls.length = world.calls.length)
    (noSweep : ∀ k, next.calls.length ≤ k → sweptBy k [event] = [])
    (served : ∀ k call, next.calls[k]? = some call →
      world.calls[k]? = some call ∧ sweptBy k [event] = [] ∨ CallTold (events ++ [event]) k call) :
    Told (events ++ [event]) next := by
  have calls : gcCalls (events ++ [event]) = gcCalls events := by rw [gcCalls_concat, noCall, List.append_nil]
  constructor
  case calls => rw [same, calls, told.calls]
  case unbegun =>
    intro k beyond
    rw [sweptBy_concat, noSweep k beyond, told.unbegun k (same ▸ beyond)]
    rfl
  case told =>
    intro k call atCall
    rcases served k call atCall with ⟨before, unserved⟩ | now
    · have swept : sweptBy k (events ++ [event]) = sweptBy k events := by
        rw [sweptBy_concat, unserved, List.append_nil]
      obtain ⟨given, inTurn, counted⟩ := told.told k call before
      exact ⟨by rwa [calls], by rwa [swept], by rwa [swept]⟩
    · exact now

theorem Told.begin_ {events : List FlowEvent} {world : FlowWorld} {nowSecs idleSecs : UInt64}
    (told : Told events world) : Told (events ++ [.gc nowSecs idleSecs])
      { world with calls := world.calls ++ [⟨nowSecs.saturatingSub idleSecs, 0, 0, false⟩] } := by
  have calls : gcCalls (events ++ [.gc nowSecs idleSecs]) = gcCalls events ++ [(nowSecs, idleSecs)] :=
    gcCalls_concat _ _
  have swept (k : Nat) : sweptBy k (events ++ [.gc nowSecs idleSecs]) = sweptBy k events := by
    rw [sweptBy_concat]
    exact List.append_nil _
  constructor
  case calls => rw [calls, List.length_append, List.length_append, told.calls]; rfl
  case unbegun =>
    intro k beyond
    rw [List.length_append] at beyond
    rw [swept]
    exact told.unbegun k (by omega)
  case told =>
    intro k call atCall
    rcases Nat.lt_or_ge k world.calls.length with old | new
    · obtain ⟨⟨givenNow, givenIdle, given, cutoff⟩, inTurn, counted⟩ :=
        told.told k call (by rwa [List.getElem?_append_left old] at atCall)
      refine ⟨⟨givenNow, givenIdle, ?_, cutoff⟩, by rwa [swept], by rwa [swept]⟩
      rw [calls, List.getElem?_append_left (told.calls ▸ old)]
      exact given
    · have last : k = world.calls.length := by
        have inside := (List.getElem?_eq_some_iff.mp atCall).1
        rw [List.length_append, List.length_singleton] at inside
        omega
      rw [last, List.getElem?_concat_length] at atCall
      cases atCall
      refine ⟨⟨nowSecs, idleSecs, ?_, rfl⟩, ?_, ?_⟩
      · rw [calls, last, told.calls, List.getElem?_concat_length]
      · rw [swept, told.unbegun k new]
        rfl
      · rw [swept, told.unbegun k new]
        rfl

theorem Told.step {events : List FlowEvent} {world next : FlowWorld} {event : FlowEvent} (told : Told events world)
    (step : Step shardOf world event next) : Told (events ++ [event]) next := by
  cases step with
  | touchIn | touchOut => exact told.serve rfl rfl (fun _ _ => rfl) fun k call atCall => Or.inl ⟨atCall, rfl⟩
  | gc => exact told.begin_
  | @sweep k call atCall room =>
    have inside := (List.getElem?_eq_some_iff.mp atCall).1
    refine told.serve rfl (List.length_set ..) (fun other beyond => ?_) fun other found atFound => ?_
    · rw [List.length_set] at beyond
      simp only [sweptBy, List.filterMap_cons, if_neg (show k ≠ other by omega), List.filterMap_nil]
    · by_cases same : k = other
      · subst same
        rw [List.getElem?_set_self inside] at atFound
        cases atFound
        obtain ⟨⟨nowSecs, idleSecs, given, cutoff⟩, inTurn, counted⟩ := told.told k call atCall
        have swept (retired : List FlowKey) : sweptBy k (events ++ [.sweep k call.shard retired]) =
            sweptBy k events ++ [(call.shard, retired)] := by
          rw [sweptBy_concat]
          simp [sweptBy]
        refine Or.inr ⟨⟨nowSecs, idleSecs, ?_, cutoff⟩, ?_, ?_⟩
        · rw [gcCalls_concat]
          exact (List.append_nil (gcCalls events)).symm ▸ given
        · rw [swept, List.map_append, inTurn, List.range_succ]
          rfl
        · rw [swept, List.map_append, List.sum_append, ← counted]
          simp
      · rw [List.getElem?_set_ne same] at atFound
        exact Or.inl ⟨atFound, by simp [sweptBy, same]⟩
  | @gcReturn k call atCall done unreturned =>
    have inside := (List.getElem?_eq_some_iff.mp atCall).1
    refine told.serve rfl (List.length_set ..) (fun _ _ => rfl) fun other found atFound => ?_
    by_cases same : k = other
    · subst same
      rw [List.getElem?_set_self inside] at atFound
      cases atFound
      have swept : sweptBy k (events ++ [.gcReturn k call.dropped]) = sweptBy k events := by
        rw [sweptBy_concat]
        exact List.append_nil _
      obtain ⟨⟨nowSecs, idleSecs, given, cutoff⟩, inTurn, counted⟩ := told.told k call atCall
      refine Or.inr ⟨⟨nowSecs, idleSecs, ?_, cutoff⟩, by rwa [swept], by rwa [swept]⟩
      rw [gcCalls_concat]
      exact (List.append_nil (gcCalls events)).symm ▸ given
    · rw [List.getElem?_set_ne same] at atFound
      exact Or.inl ⟨atFound, rfl⟩

theorem run_told {events : List FlowEvent} {world : FlowWorld} (run : Reach (Step shardOf) init events world) :
    Told events world := by
  induction run with
  | start => exact ⟨rfl, fun _ _ => rfl, fun _ _ atCall => by cases atCall⟩
  | next _ stepped ih => exact ih.step stepped

/-- A call that nothing interrupts sweeps the shards it has left. -/
theorem sweeps_run {remaining : Nat} {world : FlowWorld} {k : Nat} {call : GcCall}
    (atCall : world.calls[k]? = some call) (left : call.shard + remaining = n) (unreturned : call.returned = false) :
    ∃ events final, Reach (Step shardOf) world
        (events ++ [.gcReturn k (call.dropped +
          (world.table.entries.filter (FlowTable.dropsFrom shardOf call.cutoff call.shard)).length)]) final ∧
      final.table.entries =
        world.table.entries.filter fun row => !FlowTable.dropsFrom shardOf call.cutoff call.shard row := by
  induction remaining generalizing world call with
  | zero =>
    have nothing (row : Sigma fun _ : FlowKey => FlowState) :
        FlowTable.dropsFrom shardOf call.cutoff call.shard row = false := by
      have inside := (shardOf row.1).isLt
      rw [FlowTable.dropsFrom, decide_eq_false (by omega), Bool.false_and]
    have none : world.table.entries.filter (FlowTable.dropsFrom shardOf call.cutoff call.shard) = [] :=
      List.filter_eq_nil_iff.mpr fun row _ => by simp [nothing]
    have returns := @Step.gcReturn n shardOf world k call atCall left unreturned
    rw [none]
    exact ⟨[], _, .single returns, (List.filter_eq_self.mpr fun row _ => by simp [nothing]).symm⟩
  | succ remaining ih =>
    have inside := (List.getElem?_eq_some_iff.mp atCall).1
    have sweeps := @Step.sweep n shardOf world k call atCall (by omega)
    let later : GcCall := ⟨call.cutoff, call.shard + 1,
      call.dropped + (world.table.sweepShard shardOf call.cutoff call.shard).1.length, call.returned⟩
    obtain ⟨events, final, run, table⟩ := @ih
      ⟨(world.table.sweepShard shardOf call.cutoff call.shard).2, world.calls.set k later⟩ later
      (List.getElem?_set_self inside) (by simp only [later]; omega) unreturned
    have whole := (Reach.single sweeps).trans run
    simp only [later, Nat.add_assoc, FlowTable.length_sweepShard] at whole
    exact ⟨_ :: events, final, whole, table.trans (FlowTable.entries_sweepShard _ _ _)⟩

/-- `gc` is what a call does that nothing interrupts. -/
theorem gc_run (shardOf : FlowKey → Fin n) (world : FlowWorld) (nowSecs idleSecs : UInt64) :
    ∃ events final, Reach (Step shardOf) world
        (events ++ [.gcReturn world.calls.length (world.table.gc nowSecs idleSecs).1]) final ∧
      final.table = (world.table.gc nowSecs idleSecs).2 := by
  have begins := @Step.gc n shardOf world nowSecs idleSecs
  obtain ⟨events, final, run, table⟩ := @sweeps_run n shardOf n
    ⟨world.table, world.calls ++ [⟨nowSecs.saturatingSub idleSecs, 0, 0, false⟩]⟩ world.calls.length _
    (List.getElem?_concat_length ..) (Nat.zero_add n) rfl
  have all : FlowTable.dropsFrom shardOf (nowSecs.saturatingSub idleSecs) 0 =
      fun row => !FlowTable.keep (nowSecs.saturatingSub idleSecs) row.2 := by
    funext row
    rw [FlowTable.dropsFrom, decide_eq_true (Nat.zero_le _), Bool.true_and]
  have whole := (Reach.single begins).trans run
  simp only [all, Nat.zero_add, Bool.not_not] at whole table
  exact ⟨_ :: events, final, whole, AList.ext table⟩

/-- The table tracks the flows that were touched since they were last retired,
and counts just these touches. -/
structure Accounts (table : FlowTable) (log : FlowLog) : Prop where
  tracked : ∀ key, table.lookup key = none ↔ log key = []
  counted : ∀ key state, table.lookup key = some state → ∀ direction,
    (state.counter direction).toNat = totalBytes direction (log key) % 2 ^ 64

/-- The touch is stamped within the idle window of a sweep; the subtraction stops at zero. -/
def Recent (nowSecs idleSecs : UInt64) (touch : Touch) : Prop :=
  nowSecs.toNat - idleSecs.toNat ≤ touch.stamp.toNat

/-- Of a shard, a sweep retires the flows that no touch has stamped within its idle window. -/
structure RetiresExactly (shardOf : FlowKey → Fin n) (shard : Nat) (nowSecs idleSecs : UInt64) (log : FlowLog)
    (retired : List FlowKey) : Prop where
  nodup : retired.Nodup
  exactly_ : ∀ key, key ∈ retired ↔
    (shardOf key).val = shard ∧ log key ≠ [] ∧ ∀ touch ∈ log key, ¬ Recent nowSecs idleSecs touch

/-- What a run owes: the accounts are right whenever one looks, each sweep of a
shard retires exactly the idle flows and leaves the others alone, and a call
returns, after a sweep of every shard, the number of flows it retired. -/
structure FlowLaw (shardOf : FlowKey → Fin n) (events : List FlowEvent) : Prop where
  accounts : ∀ before after world, events = before ++ after → Reach (Step shardOf) init before world →
    Accounts world.table (touchesSince before)
  retires : ∀ before call shard retired after nowSecs idleSecs,
    events = before ++ .sweep call shard retired :: after → (gcCalls before)[call]? = some (nowSecs, idleSecs) →
    RetiresExactly shardOf shard nowSecs idleSecs (touchesSince before) retired
  spares : ∀ before call shard retired after world next, events = before ++ .sweep call shard retired :: after →
    Reach (Step shardOf) init before world → Step shardOf world (.sweep call shard retired) next →
    ∀ key, key ∉ retired → next.table.lookup key = world.table.lookup key
  returns : ∀ before call dropped after, events = before ++ .gcReturn call dropped :: after →
    (sweptBy call before).map Prod.fst = List.range n ∧
      dropped = ((sweptBy call before).map fun swept => swept.2.length).sum

/-- Of every flow in the shard, the touch that came last is recent if any touch is. -/
def LastIsRecent (shardOf : FlowKey → Fin n) (shard : Nat) (nowSecs idleSecs : UInt64) (log : FlowLog) : Prop :=
  ∀ key last, (shardOf key).val = shard → (log key).getLast? = some last →
    (∃ touch ∈ log key, Recent nowSecs idleSecs touch) → Recent nowSecs idleSecs last

theorem run_accounts {events : List FlowEvent} {world : FlowWorld} (run : Reach (Step shardOf) init events world) :
    Accounts world.table (touchesSince events) where
  tracked key := by rw [run_summary run, FlowState.summary_eq_none]
  counted key state atKey := by
    rw [run_summary run] at atKey
    exact FlowState.summary_counter atKey

theorem Step.spares {world next : FlowWorld} {call shard : Nat} {retired : List FlowKey}
    (step : Step shardOf world (.sweep call shard retired) next) {key : FlowKey} (kept : key ∉ retired) :
    next.table.lookup key = world.table.lookup key := by
  cases step with
  | sweep => rw [FlowTable.lookup_sweepShard, if_neg kept]

/-- What a sweep retires in fact: the flows whose last touch is not recent. -/
theorem run_retired {events : List FlowEvent} {world next : FlowWorld} {call shard : Nat} {retired : List FlowKey}
    {nowSecs idleSecs : UInt64} (run : Reach (Step shardOf) init events world)
    (step : Step shardOf world (.sweep call shard retired) next)
    (given : (gcCalls events)[call]? = some (nowSecs, idleSecs)) (key : FlowKey) :
    key ∈ retired ↔ (shardOf key).val = shard ∧
      ∃ last, (touchesSince events key).getLast? = some last ∧ ¬ Recent nowSecs idleSecs last := by
  cases step with
  | sweep atCall room =>
    obtain ⟨now, idle, same, cutoff⟩ := ((run_told run).told _ _ atCall).given
    obtain ⟨rfl, rfl⟩ := Prod.mk.inj (Option.some.inj (given.symm.trans same))
    rw [FlowTable.mem_retired, run_summary run, cutoff]
    refine and_congr_right fun _ => ?_
    simp only [Recent, UInt64.lt_iff_toNat_lt, UInt64.toNat_saturatingSub, Nat.not_le]
    constructor
    · rintro ⟨state, summed, stale⟩
      obtain ⟨last, atLast, seen⟩ := FlowState.summary_lastSeen summed
      exact ⟨last, atLast, seen ▸ stale⟩
    · rintro ⟨last, atLast, stale⟩
      cases summed : FlowState.summary (touchesSince events key) with
      | none =>
        rw [FlowState.summary_eq_none.mp summed] at atLast
        cases atLast
      | some state =>
        obtain ⟨found, same, seen⟩ := FlowState.summary_lastSeen summed
        cases atLast.symm.trans same
        exact ⟨state, rfl, seen ▸ stale⟩

theorem sweep_retires_iff {events : List FlowEvent} {world next : FlowWorld} {call shard : Nat}
    {retired : List FlowKey} {nowSecs idleSecs : UInt64} (run : Reach (Step shardOf) init events world)
    (step : Step shardOf world (.sweep call shard retired) next)
    (given : (gcCalls events)[call]? = some (nowSecs, idleSecs)) :
    RetiresExactly shardOf shard nowSecs idleSecs (touchesSince events) retired ↔
      LastIsRecent shardOf shard nowSecs idleSecs (touchesSince events) := by
  have fact := run_retired run step given
  constructor
  · intro retires key last inShard atLast ⟨touch, member, recent⟩
    by_contra stale
    obtain ⟨_, _, idle⟩ := (retires.exactly_ key).mp ((fact key).mpr ⟨inShard, last, atLast, stale⟩)
    exact idle touch member recent
  · intro lastIsRecent
    constructor
    case nodup =>
      cases step with
      | sweep => exact FlowTable.nodup_retired _ _ _
    case exactly_ =>
      intro key
      rw [fact]
      refine and_congr_right fun inShard => ?_
      constructor
      · rintro ⟨last, atLast, stale⟩
        exact ⟨List.ne_nil_of_mem (List.mem_of_getLast? atLast), fun touch member recent =>
          stale (lastIsRecent key last inShard atLast ⟨touch, member, recent⟩)⟩
      · rintro ⟨something, idle⟩
        have atLast := List.getLast?_eq_some_getLast something
        exact ⟨_, atLast, idle _ (List.getLast_mem something)⟩

/-- A run keeps the law exactly when no sweep meets a flow whose last touch is
stamped before the idle window of the sweep and an earlier one within it. -/
theorem flowLaw_iff {events : List FlowEvent} {world : FlowWorld} (run : Reach (Step shardOf) init events world) :
    FlowLaw shardOf events ↔ ∀ before call shard retired after nowSecs idleSecs,
      events = before ++ .sweep call shard retired :: after → (gcCalls before)[call]? = some (nowSecs, idleSecs) →
      LastIsRecent shardOf shard nowSecs idleSecs (touchesSince before) := by
  constructor
  · intro law before call shard retired after nowSecs idleSecs cut given
    obtain ⟨middle, front, rest⟩ := Reach.split (cut ▸ run)
    obtain ⟨next, step, _⟩ := rest.uncons
    exact (sweep_retires_iff front step given).mp (law.retires _ _ _ _ _ _ _ cut given)
  · intro agree
    constructor
    case accounts => exact fun before after world _ front => run_accounts front
    case retires =>
      intro before call shard retired after nowSecs idleSecs cut given
      obtain ⟨middle, front, rest⟩ := Reach.split (cut ▸ run)
      obtain ⟨next, step, _⟩ := rest.uncons
      exact (sweep_retires_iff front step given).mpr (agree _ _ _ _ _ _ _ cut given)
    case spares => exact fun _ _ _ _ _ _ _ _ _ step key kept => step.spares kept
    case returns =>
      intro before call dropped after cut
      obtain ⟨middle, front, rest⟩ := Reach.split (cut ▸ run)
      obtain ⟨next, step, _⟩ := rest.uncons
      cases step with
      | gcReturn atCall done =>
        obtain ⟨_, inTurn, counted⟩ := (run_told front).told _ _ atCall
        exact ⟨done ▸ inTurn, counted⟩

def oneShard (_ : FlowKey) : Fin 1 :=
  0

def dnsFlow : FlowKey :=
  ⟨17, .v4 0x0A000001, 1000, .v4 0x0A000002, 53⟩

/-- A flow touched once and swept in time. -/
def touchedInTime : List FlowEvent :=
  [.touch dnsFlow .inbound 100 1000, .gc 1030 60, .sweep 0 0 [], .gcReturn 0 0]

theorem flowLaw_iff_touchedInTime : FlowLaw oneShard touchedInTime := by
  have retired : (FlowTable.sweepShard (FlowTable.touchIn ∅ dnsFlow 100 1000) oneShard 970 0).1 = [] := by decide
  have swept := @Step.sweep 1 oneShard ⟨FlowTable.touchIn ∅ dnsFlow 100 1000, [⟨970, 0, 0, false⟩]⟩ 0
    ⟨970, 0, 0, false⟩ rfl Nat.one_pos
  simp only [retired] at swept
  have run : Reach (Step oneShard) init touchedInTime _ :=
    (((Reach.start.next .touchIn).next .gc).next swept).next
      (@Step.gcReturn 1 oneShard _ 0 ⟨970, 1, 0, false⟩ rfl rfl rfl)
  refine (flowLaw_iff run).mpr fun before call shard retired after nowSecs idleSecs cut _ key last _ atLast recent => ?_
  have front : before = [.touch dnsFlow .inbound 100 1000, .gc 1030 60] := by
    rcases before with _ | ⟨first, _ | ⟨second, _ | ⟨third, _ | ⟨fourth, more⟩⟩⟩⟩ <;> simp_all [touchedInTime]
  have log : touchesSince before key = if key = dnsFlow then [⟨.inbound, 100, 1000⟩] else [] := by
    rw [front]
    simp [touchesSince, FlowEvent.record, Function.update_apply]
  obtain ⟨touch, member, inTime⟩ := recent
  rw [log] at atLast member
  by_cases same : key = dnsFlow
  · rw [if_pos same] at atLast member
    cases atLast
    rwa [List.mem_singleton.mp member] at inTime
  · rw [if_neg same] at member
    cases member

/-- A flow whose touch in time is followed by one with an old stamp. -/
def touchedOutOfOrder : List FlowEvent :=
  [.touch dnsFlow .inbound 100 1000, .touch dnsFlow .outbound 100 100, .gc 1000 60, .sweep 0 0 [dnsFlow]]

theorem touchedOutOfOrder_retired :
    (∃ world, Reach (Step oneShard) init touchedOutOfOrder world) ∧ ¬ FlowLaw oneShard touchedOutOfOrder := by
  constructor
  · have retired : (FlowTable.sweepShard (FlowTable.touchOut (FlowTable.touchIn ∅ dnsFlow 100 1000) dnsFlow 100 100)
        oneShard 940 0).1 = [dnsFlow] := by decide
    have swept := @Step.sweep 1 oneShard
      ⟨FlowTable.touchOut (FlowTable.touchIn ∅ dnsFlow 100 1000) dnsFlow 100 100, [⟨940, 0, 0, false⟩]⟩ 0
      ⟨940, 0, 0, false⟩ rfl Nat.one_pos
    simp only [retired] at swept
    exact ⟨_, (((Reach.start.next .touchIn).next .touchOut).next .gc).next swept⟩
  · intro law
    obtain ⟨_, exact_⟩ := law.retires (touchedOutOfOrder.take 3) 0 0 [dnsFlow] [] 1000 60 rfl rfl
    obtain ⟨_, _, idle⟩ := (exact_ dnsFlow).mp (List.mem_singleton_self _)
    exact idle ⟨.inbound, 100, 1000⟩ (by decide) (by rw [Recent]; decide)

end FlowWorld

end BiBeam
