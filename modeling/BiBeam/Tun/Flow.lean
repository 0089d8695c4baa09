import BiBeam.Core.Ids
import BiBeam.Lib.Reach
import BiBeam.Lib.Saturating
import BiBeam.Lib.Table

namespace BiBeam

structure FlowKey where
  proto : UInt8
  src : IpAddr
  srcPort : UInt16
  dst : IpAddr
  dstPort : UInt16
deriving DecidableEq

structure FlowState where
  bytesIn : UInt64
  bytesOut : UInt64
  lastSeen : UInt64
deriving DecidableEq

def FlowState.fresh : FlowState :=
  ⟨0, 0, 0⟩

abbrev FlowTable := Table FlowKey FlowState

namespace FlowTable

/-- The entry's state credited and stamped under the shard's lock; a key that
is unknown starts with a fresh state. -/
def touch (table : FlowTable) (key : FlowKey) (credit : FlowState → FlowState) (nowSecs : UInt64) : FlowTable :=
  let entry := (table.lookup key).getD .fresh
  table.insert key { credit entry with lastSeen := nowSecs }

def touchOut (table : FlowTable) (key : FlowKey) (bytes nowSecs : UInt64) : FlowTable :=
  table.touch key (fun state => { state with bytesOut := state.bytesOut + bytes }) nowSecs

def touchIn (table : FlowTable) (key : FlowKey) (bytes nowSecs : UInt64) : FlowTable :=
  table.touch key (fun state => { state with bytesIn := state.bytesIn + bytes }) nowSecs

def keep (cutoff : UInt64) (state : FlowState) : Bool :=
  decide (cutoff ≤ state.lastSeen)

/-- The number of dropped flows and the table that is left. -/
def gc (table : FlowTable) (nowSecs idleSecs : UInt64) : Nat × FlowTable :=
  let cutoff := nowSecs.saturatingSub idleSecs
  ((table.entries.filter fun row => !keep cutoff row.2).length, table.retain fun _ state => keep cutoff state)

/-- The part of a sweep that holds one shard's lock: the flows it drops and the
table that is left. -/
def sweepShard {n : Nat} (table : FlowTable) (shardOf : FlowKey → Fin n) (cutoff : UInt64) (shard : Nat) :
    List FlowKey × FlowTable :=
  let drops (key : FlowKey) (state : FlowState) : Bool := decide ((shardOf key).val = shard) && !keep cutoff state
  ((table.entries.filter fun row => drops row.1 row.2).map Sigma.fst, table.retain fun key state => !drops key state)

end FlowTable

/-- A sweep under way: the shard it takes next and what it has dropped so far. -/
structure GcCall where
  cutoff : UInt64
  shard : Nat
  dropped : Nat
  returned : Bool

structure FlowWorld where
  table : FlowTable
  calls : List GcCall

inductive FlowDirection
  | inbound
  | outbound
deriving DecidableEq

/-- What the tasks that share a table do, and what they see of it: the flows
that a sweep drops from a shard and the number that it returns. -/
inductive FlowEvent
  | touch (key : FlowKey) (direction : FlowDirection) (bytes stamp : UInt64)
  | gc (nowSecs idleSecs : UInt64)
  | sweep (call shard : Nat) (retired : List FlowKey)
  | gcReturn (call dropped : Nat)

namespace FlowWorld

def init : FlowWorld :=
  ⟨∅, []⟩

/-- The map locks one shard at a time: a touch happens within its key's shard,
and a sweep goes through the shards in turn, so that touches come between. -/
inductive Step {n : Nat} (shardOf : FlowKey → Fin n) : FlowWorld → FlowEvent → FlowWorld → Prop
  | touchIn {world key bytes stamp} : Step shardOf world (.touch key .inbound bytes stamp)
      { world with table := world.table.touchIn key bytes stamp }
  | touchOut {world key bytes stamp} : Step shardOf world (.touch key .outbound bytes stamp)
      { world with table := world.table.touchOut key bytes stamp }
  | gc {world nowSecs idleSecs} : Step shardOf world (.gc nowSecs idleSecs)
      { world with calls := world.calls ++ [⟨nowSecs.saturatingSub idleSecs, 0, 0, false⟩] }
  | sweep {world k call} : world.calls[k]? = some call → call.shard < n →
      Step shardOf world (.sweep k call.shard (world.table.sweepShard shardOf call.cutoff call.shard).1)
        ⟨(world.table.sweepShard shardOf call.cutoff call.shard).2, world.calls.set k
          { call with
            shard := call.shard + 1
            dropped := call.dropped + (world.table.sweepShard shardOf call.cutoff call.shard).1.length }⟩
  | gcReturn {world k call} : world.calls[k]? = some call → call.shard = n → call.returned = false →
      Step shardOf world (.gcReturn k call.dropped)
        { world with calls := world.calls.set k { call with returned := true } }

end FlowWorld

end BiBeam
