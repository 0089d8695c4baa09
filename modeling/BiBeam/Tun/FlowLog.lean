import Mathlib.Logic.Function.Basic
import BiBeam.Tun.Flow

namespace BiBeam

structure Touch where
  direction : FlowDirection
  bytes : UInt64
  stamp : UInt64
deriving DecidableEq

/-- The touches of every flow since it was last retired, oldest first; a flow
without any is not tracked. -/
abbrev FlowLog := FlowKey → List Touch

def FlowEvent.record (log : FlowLog) : FlowEvent → FlowLog
  | touch key direction bytes stamp => Function.update log key (log key ++ [⟨direction, bytes, stamp⟩])
  | sweep _ _ retired => fun key => if key ∈ retired then [] else log key
  | gc _ _ => log
  | gcReturn _ _ => log

def touchesSince (events : List FlowEvent) : FlowLog :=
  events.foldl FlowEvent.record fun _ => []

def totalBytes (direction : FlowDirection) (touches : List Touch) : Nat :=
  ((touches.filter fun touch => touch.direction = direction).map fun touch => touch.bytes.toNat).sum

theorem touchesSince_concat (events : List FlowEvent) (event : FlowEvent) :
    touchesSince (events ++ [event]) = event.record (touchesSince events) := by
  rw [touchesSince, List.foldl_append]
  rfl

theorem totalBytes_concat (direction : FlowDirection) (touches : List Touch) (touch : Touch) :
    totalBytes direction (touches ++ [touch]) =
      totalBytes direction touches + if touch.direction = direction then touch.bytes.toNat else 0 := by
  rw [totalBytes, List.filter_append, List.map_append, List.sum_append, ← totalBytes]
  by_cases same : touch.direction = direction
  · simp [same]
  · simp [same]

namespace FlowState

def credit (state : FlowState) (touch : Touch) : FlowState :=
  match touch.direction with
  | .inbound => { state with bytesIn := state.bytesIn + touch.bytes, lastSeen := touch.stamp }
  | .outbound => { state with bytesOut := state.bytesOut + touch.bytes, lastSeen := touch.stamp }

/-- The state that touches leave behind, if there are any. -/
def summary (touches : List Touch) : Option FlowState :=
  if touches = [] then none else some (touches.foldl credit fresh)

theorem summary_eq_none {touches : List Touch} : summary touches = none ↔ touches = [] := by
  unfold summary
  split
  · exact iff_of_true rfl ‹_›
  · exact iff_of_false nofun ‹_›

theorem summary_concat (touches : List Touch) (touch : Touch) :
    summary (touches ++ [touch]) = some (((summary touches).getD fresh).credit touch) := by
  have something : touches ++ [touch] ≠ [] := List.append_ne_nil_of_right_ne_nil _ (List.cons_ne_nil _ _)
  have before : (summary touches).getD fresh = touches.foldl credit fresh := by
    unfold summary
    split
    · rename_i empty
      rw [empty]
      rfl
    · rfl
  rw [summary, if_neg something, List.foldl_append, before]
  rfl

/-- The bytes counted in one direction. -/
def counter (state : FlowState) : FlowDirection → UInt64
  | .inbound => state.bytesIn
  | .outbound => state.bytesOut

theorem counter_credit (state : FlowState) (touch : Touch) (direction : FlowDirection) :
    (state.credit touch).counter direction =
      state.counter direction + if touch.direction = direction then touch.bytes else 0 := by
  unfold credit
  cases touch.direction <;> cases direction <;> simp [counter]

theorem counter_credited (touches : List Touch) (direction : FlowDirection) :
    ((touches.foldl credit fresh).counter direction).toNat = totalBytes direction touches % 2 ^ 64 := by
  induction touches using List.reverseRecOn with
  | nil => cases direction <;> rfl
  | append_singleton touches touch ih =>
    rw [List.foldl_append, List.foldl_cons, List.foldl_nil, counter_credit, UInt64.toNat_add, ih, totalBytes_concat]
    by_cases same : touch.direction = direction
    · rw [if_pos same, if_pos same, Nat.mod_add_mod]
    · rw [if_neg same, if_neg same, UInt64.toNat_zero, Nat.mod_add_mod]

theorem lastSeen_credit (state : FlowState) (touch : Touch) : (state.credit touch).lastSeen = touch.stamp := by
  unfold credit
  cases touch.direction <;> rfl

theorem summary_counter {touches : List Touch} {state : FlowState} (summed : summary touches = some state)
    (direction : FlowDirection) : (state.counter direction).toNat = totalBytes direction touches % 2 ^ 64 := by
  unfold summary at summed
  split at summed
  · cases summed
  · rw [← Option.some.inj summed, counter_credited]

/-- The time of a flow is the stamp of the touch that came last. -/
theorem summary_lastSeen {touches : List Touch} {state : FlowState} (summed : summary touches = some state) :
    ∃ last, touches.getLast? = some last ∧ state.lastSeen = last.stamp := by
  rcases List.eq_nil_or_concat' touches with rfl | ⟨front, last, rfl⟩
  · cases summed
  · rw [summary_concat] at summed
    exact ⟨last, List.getLast?_concat, by rw [← Option.some.inj summed, lastSeen_credit]⟩

end FlowState

namespace FlowTable

variable {n : Nat} {shardOf : FlowKey → Fin n}

theorem lookup_touch (table : FlowTable) (key other : FlowKey) (credit : FlowState → FlowState) (nowSecs : UInt64) :
    (table.touch key credit nowSecs).lookup other =
      if other = key then some { credit ((table.lookup key).getD .fresh) with lastSeen := nowSecs }
      else table.lookup other := by
  by_cases same : other = key
  · rw [if_pos same, same, touch, AList.lookup_insert]
  · rw [if_neg same, touch, AList.lookup_insert_ne same]

theorem mem_retired {table : FlowTable} {cutoff : UInt64} {shard : Nat} {key : FlowKey} :
    key ∈ (table.sweepShard shardOf cutoff shard).1 ↔
      (shardOf key).val = shard ∧ ∃ state, table.lookup key = some state ∧ state.lastSeen < cutoff := by
  simp only [sweepShard, List.mem_map, List.mem_filter, Bool.and_eq_true, decide_eq_true_eq, keep, Bool.not_eq_true',
    decide_eq_false_iff_not, UInt64.not_le]
  constructor
  · rintro ⟨⟨key, state⟩, ⟨row, inShard, stale⟩, rfl⟩
    exact ⟨inShard, state, AList.mem_entries_iff.mp row, stale⟩
  · rintro ⟨inShard, state, atKey, stale⟩
    exact ⟨⟨key, state⟩, ⟨AList.mem_entries_iff.mpr atKey, inShard, stale⟩, rfl⟩

theorem nodup_retired (table : FlowTable) (cutoff : UInt64) (shard : Nat) :
    (table.sweepShard shardOf cutoff shard).1.Nodup :=
  table.nodupKeys.sublist List.filter_sublist

theorem lookup_sweepShard (table : FlowTable) (cutoff : UInt64) (shard : Nat) (key : FlowKey) :
    (table.sweepShard shardOf cutoff shard).2.lookup key =
      if key ∈ (table.sweepShard shardOf cutoff shard).1 then none else table.lookup key := by
  have left : (table.sweepShard shardOf cutoff shard).2.lookup key = (table.lookup key).filter fun state =>
      !(decide ((shardOf key).val = shard) && !keep cutoff state) := AList.lookup_retain _ _ _
  rw [left]
  cases atKey : table.lookup key with
  | none => split <;> rfl
  | some state =>
    have retired : key ∈ (table.sweepShard shardOf cutoff shard).1 ↔
        (shardOf key).val = shard ∧ state.lastSeen < cutoff := by
      rw [mem_retired, atKey]
      simp
    rw [Option.filter_some]
    by_cases drops : (shardOf key).val = shard ∧ state.lastSeen < cutoff
    · rw [if_pos (retired.mpr drops), if_neg (by simp [keep, drops])]
    · rw [if_neg (mt retired.mp drops), if_pos]
      rw [not_and, UInt64.not_lt] at drops
      simpa [keep, ← imp_iff_not_or] using drops

/-- The rows that a sweep has still to drop when it is about to take a shard. -/
def dropsFrom (shardOf : FlowKey → Fin n) (cutoff : UInt64) (shard : Nat) (row : Sigma fun _ : FlowKey => FlowState) :
    Bool :=
  decide (shard ≤ (shardOf row.1).val) && !keep cutoff row.2

/-- One shard's share of the rows. -/
theorem dropsFrom_succ (shardOf : FlowKey → Fin n) (cutoff : UInt64) (shard : Nat)
    (row : Sigma fun _ : FlowKey => FlowState) :
    dropsFrom shardOf cutoff shard row =
      ((decide ((shardOf row.1).val = shard) && !keep cutoff row.2) || dropsFrom shardOf cutoff (shard + 1) row) := by
  rw [dropsFrom, dropsFrom, ← Bool.and_or_distrib_right, ← Bool.decide_or]
  congr 2
  rw [eq_iff_iff]
  omega

theorem entries_sweepShard (table : FlowTable) (cutoff : UInt64) (shard : Nat) :
    ((table.sweepShard shardOf cutoff shard).2.entries.filter fun row => !dropsFrom shardOf cutoff (shard + 1) row) =
      table.entries.filter fun row => !dropsFrom shardOf cutoff shard row := by
  simp only [sweepShard, AList.retain, List.filter_filter, dropsFrom_succ shardOf cutoff shard, Bool.not_or]
  exact List.filter_congr fun row _ => Bool.and_comm _ _

theorem length_sweepShard (table : FlowTable) (cutoff : UInt64) (shard : Nat) :
    (table.sweepShard shardOf cutoff shard).1.length +
        ((table.sweepShard shardOf cutoff shard).2.entries.filter (dropsFrom shardOf cutoff (shard + 1))).length =
      (table.entries.filter (dropsFrom shardOf cutoff shard)).length := by
  simp only [sweepShard, AList.retain, List.filter_filter, List.length_map]
  apply List.length_filter_split
  · intro row
    rw [dropsFrom_succ]
    cases decide ((shardOf row.1).val = shard) && !keep cutoff row.2 <;> simp
  · intro row here
    rw [here]
    simp

end FlowTable

end BiBeam
