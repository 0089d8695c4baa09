import BiBeam.Lib.Except
import BiBeam.Lib.Table
import BiBeam.Protocol.Multihop

namespace BiBeam

/-- A stored value as its decoder sees it. -/
abbrev Stored (V : Type) := Except PostcardError V

inductive StoreError
  | redb (text : String)
  | codec (err : PostcardError)
deriving DecidableEq

/-- The points at which redb may report a failure inside one write transaction. -/
structure RedbFaults (K : Type) where
  beginWrite : Option String
  openTable : Option String
  row : K → Option String
  remove : K → Option String
  commit : Option String

/-- No redb call fails. -/
def RedbFaults.none (K : Type) : RedbFaults K :=
  ⟨.none, .none, fun _ => .none, fun _ => .none, .none⟩

def redbTry : Option String → Except StoreError Unit
  | none => .ok ()
  | some text => .error (.redb text)

def decodeRow {V : Type} : Stored V → Except StoreError V
  | .ok record => .ok record
  | .error err => .error (.codec err)

/-- A row is dropped by a sweep when it decodes to an expired record. -/
def Stored.expired {V : Type} (expired : V → Bool) : Stored V → Bool
  | .ok record => expired record
  | .error _ => false

variable {K V : Type} [DecidableEq K]

def collectExpired (faults : RedbFaults K) (expired : V → Bool) :
    List (Sigma fun _ : K => Stored V) → Except StoreError (List K)
  | [] => .ok []
  | ⟨key, stored⟩ :: rows => do
    redbTry (faults.row key)
    let record ← decodeRow stored
    let keys ← collectExpired faults expired rows
    return if expired record then key :: keys else keys

def removeCollected (faults : RedbFaults K) :
    List K → Table K (Stored V) → Except StoreError (Table K (Stored V))
  | [], table => .ok table
  | key :: keys, table => do
    redbTry (faults.remove key)
    removeCollected faults keys (table.erase key)

def collectAndRemove (faults : RedbFaults K) (expired : V → Bool) (table : Table K (Stored V)) :
    Except StoreError (Table K (Stored V) × Nat) := do
  let keys ← collectExpired faults expired table.entries
  let remaining ← removeCollected faults keys table
  return (remaining, keys.length)

/-- One write transaction: the swept table replaces the old one only when
the commit succeeds, and an abandoned transaction leaves every row as it was. -/
def evict (faults : RedbFaults K) (expired : V → Bool) (table : Table K (Stored V)) :
    Except StoreError Nat × Table K (Stored V) :=
  let transaction : Except StoreError (Table K (Stored V) × Nat) := do
    redbTry faults.beginWrite
    redbTry faults.openTable
    let swept ← collectAndRemove faults expired table
    redbTry faults.commit
    return swept
  match transaction with
  | .ok (remaining, evicted) => (.ok evicted, remaining)
  | .error err => (.error err, table)

/-- One write transaction that inserts or replaces a row. -/
def insertRow (fault : Option StoreError) (key : K) (record : V) (table : Table K (Stored V)) :
    Except StoreError Unit × Table K (Stored V) :=
  match fault with
  | some err => (.error err, table)
  | none => (.ok (), table.insert key (.ok record))

/-- One read transaction that looks a row up and decodes it. -/
def readRow (fault : Option String) (key : K) (table : Table K (Stored V)) :
    Except StoreError (Option V) := do
  redbTry fault
  match table.lookup key with
  | none => return none
  | some stored => return some (← decodeRow stored)

theorem decodeRow_ok {V : Type} {stored : Stored V} {record : V} (run : decodeRow stored = .ok record) :
    stored = .ok record := by
  cases stored <;> cases run
  rfl

omit [DecidableEq K] in
theorem collectExpired_ok {faults : RedbFaults K} {expired : V → Bool}
    {rows : List (Sigma fun _ : K => Stored V)} {keys : List K}
    (run : collectExpired faults expired rows = .ok keys) :
    keys = (rows.filter fun row => row.2.expired expired).map Sigma.fst ∧
      ∀ row ∈ rows, ∃ record, row.2 = .ok record := by
  induction rows generalizing keys with
  | nil =>
    cases run
    exact ⟨rfl, fun _ member => nomatch member⟩
  | cons row rows ih =>
    obtain ⟨key, stored⟩ := row
    obtain ⟨_, _, run⟩ := Except.of_bind_ok run
    obtain ⟨record, decoded, run⟩ := Except.of_bind_ok run
    obtain ⟨tail, rest, run⟩ := Except.of_bind_ok run
    obtain ⟨collected, decodes⟩ := ih rest
    have here := decodeRow_ok decoded
    refine ⟨?_, List.forall_mem_cons.mpr ⟨⟨record, here⟩, decodes⟩⟩
    rw [here, ← Except.ok.inj run, collected]
    cases old : expired record <;> simp [Stored.expired, old]

theorem removeCollected_ok {faults : RedbFaults K} {keys : List K} {table remaining : Table K (Stored V)}
    (run : removeCollected faults keys table = .ok remaining) : remaining = table.eraseAll keys := by
  induction keys generalizing table with
  | nil => cases run; rfl
  | cons key keys ih =>
    obtain ⟨_, _, run⟩ := Except.of_bind_ok run
    exact ih run

/-- What a successful sweep leaves: the rows that are not expired, all of
them readable, and the number of the others. -/
structure Swept (expired : V → Bool) (table remaining : Table K (Stored V)) (evicted : Nat) : Prop where
  kept : remaining = table.retain fun _ stored => !stored.expired expired
  counted : evicted + remaining.entries.length = table.entries.length
  readable : ∀ key stored, remaining.lookup key = some stored →
    ∃ record, stored = .ok record ∧ expired record = false

theorem Swept.lookup {expired : V → Bool} {table remaining : Table K (Stored V)} {evicted : Nat}
    (swept : Swept expired table remaining evicted) (key : K) :
    remaining.lookup key = (table.lookup key).filter fun stored => !stored.expired expired := by
  rw [swept.kept, AList.lookup_retain]

theorem collectAndRemove_ok {faults : RedbFaults K} {expired : V → Bool}
    {table remaining : Table K (Stored V)} {evicted : Nat}
    (run : collectAndRemove faults expired table = .ok (remaining, evicted)) :
    Swept expired table remaining evicted := by
  obtain ⟨keys, collected, run⟩ := Except.of_bind_ok run
  obtain ⟨rest, removed, run⟩ := Except.of_bind_ok run
  cases Except.ok.inj run
  obtain ⟨isExpired, decodes⟩ := collectExpired_ok collected
  have swept := AList.eraseAll_collected (fun _ stored => Stored.expired expired stored) table
  rw [← isExpired, ← removeCollected_ok removed] at swept
  have split := AList.length_retain (fun _ stored => Stored.expired expired stored) table
  rw [← swept] at split
  refine ⟨swept, ?_, fun key stored atKey => ?_⟩
  · rw [isExpired, List.length_map]
    omega
  · rw [swept, AList.lookup_retain, Option.filter_eq_some_iff] at atKey
    obtain ⟨record, isRecord⟩ := decodes _ (AList.mem_entries_iff.mpr atKey.1)
    dsimp only at isRecord
    have fresh := atKey.2
    rw [isRecord] at fresh
    exact ⟨record, isRecord, by simpa [Stored.expired] using fresh⟩

/-- A sweep that goes through commits what it collected and removed. -/
theorem evict_collected {faults : RedbFaults K} {expired : V → Bool} {table remaining : Table K (Stored V)}
    {evicted : Nat} (run : evict faults expired table = (.ok evicted, remaining)) :
    collectAndRemove faults expired table = .ok (remaining, evicted) := by
  unfold evict at run
  dsimp only at run
  split at run
  · rename_i swept count transaction
    cases run
    obtain ⟨_, _, transaction⟩ := Except.of_bind_ok transaction
    obtain ⟨_, _, transaction⟩ := Except.of_bind_ok transaction
    obtain ⟨pair, collected, transaction⟩ := Except.of_bind_ok transaction
    obtain ⟨_, _, transaction⟩ := Except.of_bind_ok transaction
    cases Except.ok.inj transaction
    exact collected
  · cases run

theorem evict_ok {faults : RedbFaults K} {expired : V → Bool} {table remaining : Table K (Stored V)}
    {evicted : Nat} (run : evict faults expired table = (.ok evicted, remaining)) :
    Swept expired table remaining evicted :=
  collectAndRemove_ok (evict_collected run)

theorem evict_error {faults : RedbFaults K} {expired : V → Bool} {table remaining : Table K (Stored V)}
    {err : StoreError} (run : evict faults expired table = (.error err, remaining)) : remaining = table := by
  unfold evict at run
  dsimp only at run
  split at run <;> cases run
  rfl

theorem readRow_some {fault : Option String} {key : K} {table : Table K (Stored V)} {record : V}
    (run : readRow fault key table = .ok (some record)) : table.lookup key = some (.ok record) := by
  obtain ⟨_, _, run⟩ := Except.of_bind_ok run
  cases atKey : table.lookup key with
  | none => rw [atKey] at run; cases run
  | some stored =>
    rw [atKey] at run
    obtain ⟨found, decoded, run⟩ := Except.of_bind_ok run
    cases run
    rw [decodeRow_ok decoded]

theorem readRow_none {fault : Option String} {key : K} {table : Table K (Stored V)}
    (run : readRow fault key table = .ok none) : table.lookup key = none := by
  obtain ⟨_, _, run⟩ := Except.of_bind_ok run
  cases atKey : table.lookup key with
  | none => rfl
  | some stored =>
    rw [atKey] at run
    obtain ⟨found, _, run⟩ := Except.of_bind_ok run
    cases run

end BiBeam
