import BiBeam.Coordinator.Cohorts
import BiBeam.Discovery.Records

namespace BiBeam

/-- The rows as the database holds them. -/
abbrev ByteTable (K : Type) := Table K (List UInt8)

section

variable {V : Type} (wire : Wire PostcardError V)

/-- `postcard::from_bytes`: bytes behind the value are not looked at. -/
def fromBytes (bytes : List UInt8) : Stored V :=
  (wire.read bytes).map Prod.fst

variable {K : Type} [DecidableEq K]

/-- The record is encoded before the transaction begins. -/
def insertBytes (fault : Option String) (key : K) (record : V) (rows : ByteTable K) :
    Except StoreError Unit × ByteTable K :=
  match wire.write record with
  | .error err => (.error (.codec err), rows)
  | .ok encoded =>
    match fault with
    | some text => (.error (.redb text), rows)
    | none => (.ok (), rows.insert key encoded)

def readBytes (fault : Option String) (key : K) (rows : ByteTable K) : Except StoreError (Option V) := do
  redbTry fault
  match rows.lookup key with
  | none => return none
  | some bytes => return some (← decodeRow (fromBytes wire bytes))

def collectExpiredBytes (faults : RedbFaults K) (expired : V → Bool) :
    List (Sigma fun _ : K => List UInt8) → Except StoreError (List K)
  | [] => .ok []
  | ⟨key, bytes⟩ :: rows => do
    redbTry (faults.row key)
    let record ← decodeRow (fromBytes wire bytes)
    let keys ← collectExpiredBytes faults expired rows
    return if expired record then key :: keys else keys

def removeBytes (faults : RedbFaults K) : List K → ByteTable K → Except StoreError (ByteTable K)
  | [], rows => .ok rows
  | key :: keys, rows => do
    redbTry (faults.remove key)
    removeBytes faults keys (rows.erase key)

def evictBytes (faults : RedbFaults K) (expired : V → Bool) (rows : ByteTable K) :
    Except StoreError Nat × ByteTable K :=
  let transaction : Except StoreError (ByteTable K × Nat) := do
    redbTry faults.beginWrite
    redbTry faults.openTable
    let keys ← collectExpiredBytes wire faults expired rows.entries
    let remaining ← removeBytes faults keys rows
    redbTry faults.commit
    return (remaining, keys.length)
  match transaction with
  | .ok (remaining, evicted) => (.ok evicted, remaining)
  | .error err => (.error err, rows)

/-- What the database says while it is called for one key after the other. -/
def redbTryAll (faults : K → Option String) : List K → Except StoreError Unit
  | [] => .ok ()
  | key :: keys => do
    redbTry (faults key)
    redbTryAll faults keys

/-- What it says of a sweep that reads the rows at `present` and removes those at `keys`. -/
def RedbFaults.sweeping (faults : RedbFaults K) (present keys : List K) : Except StoreError Unit := do
  redbTry faults.beginWrite
  redbTry faults.openTable
  redbTryAll faults.row present
  redbTryAll faults.remove keys
  redbTry faults.commit

/-- The rows as their decoder sees them. -/
def decoded (rows : ByteTable K) : Table K (Stored V) :=
  rows.mapVals fun _ bytes => fromBytes wire bytes

end

section

variable {V K : Type} [DecidableEq K] {wire : Wire PostcardError V}

theorem fromBytes_write {record : V} {encoded : List UInt8} (written : wire.write record = .ok encoded) :
    fromBytes wire encoded = wire.back record := by
  have back := wire.returns written []
  rw [List.append_nil] at back
  rw [fromBytes, back]
  cases wire.back record <;> rfl

omit [DecidableEq K] in
theorem collectExpiredBytes_eq (faults : RedbFaults K) (expired : V → Bool)
    (rows : List (Sigma fun _ : K => List UInt8)) :
    collectExpiredBytes wire faults expired rows =
      collectExpired faults expired (rows.map fun row => ⟨row.1, fromBytes wire row.2⟩) := by
  induction rows with
  | nil => rfl
  | cons row rest ih => rw [collectExpiredBytes, List.map_cons, collectExpired, ih]

theorem removeBytes_decoded (faults : RedbFaults K) (keys : List K) (rows : ByteTable K) :
    (removeBytes faults keys rows).map (decoded wire) = removeCollected faults keys (decoded wire rows) := by
  induction keys generalizing rows with
  | nil => rfl
  | cons key keys ih =>
    rw [removeBytes, removeCollected]
    cases redbTry (faults.remove key) with
    | error err => rfl
    | ok =>
      change (removeBytes faults keys (rows.erase key)).map (decoded wire) = removeCollected faults keys _
      rw [ih, decoded, AList.mapVals_erase]
      rfl

/-- A sweep of the bytes is a sweep of what they decode to. -/
theorem evictBytes_decoded (faults : RedbFaults K) (expired : V → Bool) (rows : ByteTable K) :
    Prod.map id (decoded wire) (evictBytes wire faults expired rows) = evict faults expired (decoded wire rows) := by
  have collected : collectExpiredBytes wire faults expired rows.entries =
      collectExpired faults expired (decoded wire rows).entries := collectExpiredBytes_eq faults expired rows.entries
  rw [evictBytes, evict, collectAndRemove, collected]
  cases redbTry faults.beginWrite with
  | error err => rfl
  | ok =>
    cases redbTry faults.openTable with
    | error err => rfl
    | ok =>
      cases collectExpired faults expired (decoded wire rows).entries with
      | error err => rfl
      | ok keys =>
        have removed : (removeBytes faults keys rows).map (decoded wire) =
          removeCollected faults keys (decoded wire rows) := removeBytes_decoded faults keys rows
        dsimp only [bind, Except.bind]
        rw [← removed]
        cases removeBytes faults keys rows with
        | error err => rfl
        | ok remaining => cases redbTry faults.commit <;> rfl

theorem insertBytes_decoded (fault : Option String) (key : K) {record returned : V} {encoded : List UInt8}
    (written : wire.write record = .ok encoded) (back : wire.back record = .ok returned) (rows : ByteTable K) :
    Prod.map id (decoded wire) (insertBytes wire fault key record rows) =
      insertRow (fault.map .redb) key returned (decoded wire rows) := by
  rw [insertBytes, written]
  cases fault with
  | some text => rfl
  | none =>
    change (_, decoded wire (rows.insert key encoded)) = (_, (decoded wire rows).insert key (.ok returned))
    rw [decoded, AList.mapVals_insert, fromBytes_write written, back]
    rfl

theorem readBytes_decoded (fault : Option String) (key : K) (rows : ByteTable K) :
    readBytes wire fault key rows = readRow fault key (decoded wire rows) := by
  rw [readBytes, readRow, decoded, AList.lookup_mapVals]
  cases rows.lookup key <;> rfl

omit [DecidableEq K] in
/-- Rows that all decode are read unless the database fails at one of them. -/
theorem collectExpired_decodes {faults : RedbFaults K} {expired : V → Bool} {rows : List (Sigma fun _ : K => Stored V)}
    (decodes : ∀ row ∈ rows, ∃ record, row.2 = .ok record) :
    collectExpired faults expired rows = (redbTryAll faults.row (rows.map Sigma.fst)).map fun _ =>
      (rows.filter fun row => row.2.expired expired).map Sigma.fst := by
  induction rows with
  | nil => rfl
  | cons row rows ih =>
    obtain ⟨key, stored⟩ := row
    obtain ⟨record, here⟩ := decodes _ List.mem_cons_self
    dsimp only at here
    rw [collectExpired, here, ih fun row member => decodes row (List.mem_cons_of_mem _ member), List.map_cons,
      redbTryAll]
    cases redbTry (faults.row key) with
    | error err => rfl
    | ok =>
      dsimp only [bind, Except.bind, decodeRow]
      cases redbTryAll faults.row (rows.map Sigma.fst) with
      | error err => rfl
      | ok => cases old : expired record <;> simp [Except.map, Stored.expired, old, pure, Except.pure]

theorem removeCollected_eq (faults : RedbFaults K) (keys : List K) (table : Table K (Stored V)) :
    removeCollected faults keys table = (redbTryAll faults.remove keys).map fun _ => table.eraseAll keys := by
  induction keys generalizing table with
  | nil => rfl
  | cons key keys ih =>
    rw [removeCollected, ih, redbTryAll]
    cases redbTry (faults.remove key) <;> rfl

/-- Over rows that all decode a sweep fails exactly by the database. -/
theorem evict_decodes {faults : RedbFaults K} {expired : V → Bool} {table : Table K (Stored V)}
    (decodes : ∀ row ∈ table.entries, ∃ record, row.2 = .ok record) :
    (evict faults expired table).1 =
      (faults.sweeping table.keys ((table.entries.filter fun row => row.2.expired expired).map Sigma.fst)).map
        fun _ => ((table.entries.filter fun row => row.2.expired expired).map Sigma.fst).length := by
  have keys : table.entries.map Sigma.fst = table.keys := rfl
  rw [evict, collectAndRemove, collectExpired_decodes decodes, keys, RedbFaults.sweeping]
  cases redbTry faults.beginWrite with
  | error err => rfl
  | ok =>
    cases redbTry faults.openTable with
    | error err => rfl
    | ok =>
      cases redbTryAll faults.row table.keys with
      | error err => rfl
      | ok =>
        dsimp only [bind, Except.bind, Except.map]
        rw [removeCollected_eq]
        cases redbTryAll faults.remove ((table.entries.filter fun row => row.2.expired expired).map Sigma.fst) with
        | error err => rfl
        | ok => cases redbTry faults.commit <;> rfl

end

/-- An operation on the rows, with what the database reports inside its transaction. -/
inductive RowOp (K V : Type)
  | upsert (fault : Option String) (key : K) (record : V)
  | get (fault : Option String) (key : K)
  | evict (faults : RedbFaults K) (before : Timestamp)

inductive RowResult (V : Type)
  | stored (result : Except StoreError Unit)
  | found (result : Except StoreError (Option V))
  | evicted (result : Except StoreError Nat)

section

variable {V K : Type} [DecidableEq K] (wire : Wire PostcardError V) (stamp : V → Timestamp)

def RowOp.run (rows : ByteTable K) : RowOp K V → RowResult V × ByteTable K
  | .upsert fault key record => Prod.map .stored id (insertBytes wire fault key record rows)
  | .get fault key => (.found (readBytes wire fault key rows), rows)
  | .evict faults before => Prod.map .evicted id (evictBytes wire faults (fun record => stamp record < before) rows)

/-- Operations one after the other, with what each returned. -/
def runRows : ByteTable K → List (RowOp K V) → List (RowOp K V × RowResult V)
  | _, [] => []
  | rows, op :: rest => (op, (op.run wire stamp rows).1) :: runRows (op.run wire stamp rows).2 rest

variable (returned : V → V)

/-- What one more operation does to what is known to be at each key. -/
def remember (held : K → Option V) : RowOp K V × RowResult V → K → Option V
  | (.upsert _ key record, .stored (.ok _)) => Function.update held key (some (returned record))
  | (.evict _ before, .evicted (.ok _)) => fun key => (held key).filter fun record => !decide (stamp record < before)
  | _ => held

/-- What the operations so far leave at each key. -/
def live (history : List (RowOp K V × RowResult V)) : K → Option V :=
  history.foldl (remember stamp returned) fun _ => none

/-- An operation answers by what is at its key: a read returns it, an upsert
fails before its transaction if the record has no encoding, a sweep counts
what is too old, and a read or a sweep fails exactly by the failures that the
database reports to it. -/
def Answers (held : K → Option V) : RowOp K V → RowResult V → Prop
  | .get fault key, .found result => result = (redbTry fault).map fun _ => held key
  | .upsert fault _ record, .stored result => result = (wire.write record).mapError .codec >>= fun _ => redbTry fault
  | .evict faults before, .evicted result => ∃ present keys : List K, present.Nodup ∧
      (∀ key, key ∈ present ↔ ∃ record, held key = some record) ∧ keys.Sublist present ∧
      (∀ key, key ∈ keys ↔ ∃ record, held key = some record ∧ stamp record < before) ∧
      result = (faults.sweeping present keys).map fun _ => keys.length
  | _, _ => False

variable {wire stamp returned} {rows : ByteTable K} {held : K → Option V}

/-- The rows decode to what is known to be there. -/
def Shows (wire : Wire PostcardError V) (rows : ByteTable K) (held : K → Option V) : Prop :=
  ∀ key, (decoded wire rows).lookup key = (held key).map .ok

theorem Shows.decodes (shows_ : Shows wire rows held) :
    ∀ row ∈ (decoded wire rows).entries, ∃ record, row.2 = .ok record := by
  rintro ⟨key, stored⟩ member
  have found := shows_ key
  rw [AList.mem_entries_iff.mp member] at found
  obtain ⟨record, _, same⟩ := Option.map_eq_some_iff.mp found.symm
  exact ⟨record, same.symm⟩

theorem Shows.mem_iff (shows_ : Shows wire rows held) (key : K) (record : V) :
    (⟨key, .ok record⟩ : Sigma fun _ : K => Stored V) ∈ (decoded wire rows).entries ↔ held key = some record := by
  rw [AList.mem_entries_iff, shows_ key]
  simp

theorem run_upsert (backs : ∀ record, wire.back record = .ok (returned record)) (shows_ : Shows wire rows held)
    (fault : Option String) (key : K) (record : V) :
    Answers wire stamp held (.upsert fault key record) ((RowOp.upsert fault key record).run wire stamp rows).1 ∧
      Shows wire ((RowOp.upsert fault key record).run wire stamp rows).2
        (remember stamp returned held (.upsert fault key record, ((RowOp.upsert fault key record).run wire stamp rows).1)) := by
  cases written : wire.write record with
  | error err =>
    rw [RowOp.run, insertBytes, written]
    exact ⟨by rw [Prod.map_fst, Answers, written]; rfl, shows_⟩
  | ok encoded =>
    have stored := insertBytes_decoded fault key written (backs record) rows
    cases fault with
    | some text =>
      rw [RowOp.run, insertBytes, written]
      exact ⟨by rw [Prod.map_fst, Answers, written]; rfl, shows_⟩
    | none =>
      rw [RowOp.run, insertBytes, written]
      refine ⟨by rw [Prod.map_fst, Answers, written]; rfl, fun other => ?_⟩
      rw [insertBytes, written] at stored
      have after := congrArg Prod.snd stored
      change decoded wire (rows.insert key encoded) = (decoded wire rows).insert key (.ok (returned record)) at after
      change (decoded wire (rows.insert key encoded)).lookup other = (Function.update held key _ other).map .ok
      rw [after]
      by_cases same : other = key
      · subst same
        rw [AList.lookup_insert, Function.update_self]
        rfl
      · rw [AList.lookup_insert_ne same, Function.update_of_ne same]
        exact shows_ other

theorem run_get (shows_ : Shows wire rows held) (fault : Option String) (key : K) :
    Answers wire stamp held (.get fault key) ((RowOp.get fault key).run wire stamp rows).1 := by
  rw [RowOp.run, Answers, readBytes_decoded, readRow, shows_ key]
  cases fault with
  | some text => rfl
  | none => cases held key <;> rfl

/-- The rows that a sweep removes are those whose records are too old. -/
theorem Shows.expired_keys (shows_ : Shows wire rows held) (expired : V → Bool) (key : K) :
    key ∈ ((decoded wire rows).entries.filter fun row => row.2.expired expired).map Sigma.fst ↔
      ∃ record, held key = some record ∧ expired record = true := by
  rw [List.mem_map]
  constructor
  · rintro ⟨⟨other, stored⟩, member, rfl⟩
    obtain ⟨present, old⟩ := List.mem_filter.mp member
    obtain ⟨record, same⟩ := shows_.decodes _ present
    dsimp only at same old
    rw [same] at present old
    exact ⟨record, (shows_.mem_iff other record).mp present, old⟩
  · rintro ⟨record, here, old⟩
    exact ⟨⟨key, .ok record⟩, List.mem_filter.mpr ⟨(shows_.mem_iff key record).mpr here, old⟩, rfl⟩

theorem Shows.mem_keys_iff (shows_ : Shows wire rows held) (key : K) :
    key ∈ (decoded wire rows).keys ↔ ∃ record, held key = some record := by
  have found := congrArg Option.isSome (shows_ key)
  rw [Option.isSome_map] at found
  rw [← AList.mem_keys, ← AList.lookup_isSome, found, Option.isSome_iff_exists]

theorem run_evict (shows_ : Shows wire rows held) (faults : RedbFaults K) (before : Timestamp) :
    Answers wire stamp held (.evict faults before) ((RowOp.evict faults before).run wire stamp rows).1 ∧
      Shows wire ((RowOp.evict faults before).run wire stamp rows).2
        (remember stamp returned held (.evict faults before, ((RowOp.evict faults before).run wire stamp rows).1)) := by
  have swept : Prod.map id (decoded wire) (evictBytes wire faults (fun record => decide (stamp record < before)) rows) =
      evict faults (fun record => decide (stamp record < before)) (decoded wire rows) := evictBytes_decoded faults _ rows
  have answered : (evictBytes wire faults (fun record => decide (stamp record < before)) rows).1 = _ :=
    (congrArg Prod.fst swept).trans (evict_decodes shows_.decodes)
  rw [RowOp.run]
  constructor
  · refine ⟨(decoded wire rows).keys, _, (decoded wire rows).keys_nodup, shows_.mem_keys_iff,
      List.filter_sublist.map _, fun key => ?_, answered⟩
    exact (shows_.expired_keys (fun record => decide (stamp record < before)) key).trans (by simp)
  · rcases outcome : evictBytes wire faults (fun record => decide (stamp record < before)) rows with ⟨err | count, remaining⟩
    · rw [outcome] at swept
      have failed := swept.symm
      change evict _ _ _ = (.error err, decoded wire remaining) at failed
      intro key
      change (decoded wire remaining).lookup key = (held key).map .ok
      rw [evict_error failed]
      exact shows_ key
    · rw [outcome] at swept
      have done := swept.symm
      change evict _ _ _ = (.ok count, decoded wire remaining) at done
      intro key
      change (decoded wire remaining).lookup key = ((held key).filter _).map .ok
      rw [(evict_ok done).lookup, shows_ key]
      cases held key with
      | none => rfl
      | some record => cases old : decide (stamp record < before) <;> simp [Option.filter, Stored.expired, old]

theorem run_answers (backs : ∀ record, wire.back record = .ok (returned record)) (shows_ : Shows wire rows held)
    (op : RowOp K V) :
    Answers wire stamp held op (op.run wire stamp rows).1 ∧
      Shows wire (op.run wire stamp rows).2 (remember stamp returned held (op, (op.run wire stamp rows).1)) := by
  cases op with
  | upsert fault key record => exact run_upsert backs shows_ fault key record
  | get fault key => exact ⟨run_get shows_ fault key, shows_⟩
  | evict faults before => exact run_evict shows_ faults before

/-- Along a run from empty rows, every operation answers by the history before it. -/
def Replays (wire : Wire PostcardError V) (stamp : V → Timestamp) (returned : V → V) (ops : List (RowOp K V)) : Prop :=
  ∀ before op result after, runRows wire stamp ∅ ops = before ++ (op, result) :: after →
    Answers wire stamp (live stamp returned before) op result

theorem runRows_replays (backs : ∀ record, wire.back record = .ok (returned record)) (ops : List (RowOp K V)) :
    Replays wire stamp returned ops := by
  have general : ∀ (ops : List (RowOp K V)) (rows : ByteTable K) (held : K → Option V)
      (before after : List (RowOp K V × RowResult V)) (op : RowOp K V) (result : RowResult V), Shows wire rows held →
      runRows wire stamp rows ops = before ++ (op, result) :: after →
      Answers wire stamp (before.foldl (remember stamp returned) held) op result := by
    intro ops
    induction ops with
    | nil => exact fun _ _ before _ _ _ _ parts => absurd parts.symm (by simp [runRows])
    | cons first rest ih =>
      intro rows held before after op result shows_ parts
      obtain ⟨answers, next⟩ := run_answers backs shows_ first
      cases before with
      | nil =>
        obtain ⟨here, _⟩ := List.cons.inj parts
        cases here
        exact answers
      | cons row before =>
        obtain ⟨here, later⟩ := List.cons.inj parts
        rw [← here]
        exact ih _ _ before after op result next later
  exact fun before op result after parts => general ops ∅ _ before after op result (fun _ => rfl) parts

end

namespace PeerRegistry

inductive Op
  | upsert (fault : Option String) (record : PeerRecord)
  | get (fault : Option String) (peerId : PeerId)
  | evictStale (faults : RedbFaults PeerId) (olderThan : Timestamp)

/-- Each operation on the registry is one on its rows, under the record's own identifier. -/
def Op.onRows : Op → RowOp PeerId PeerRecord
  | .upsert fault record => .upsert fault record.peerId record
  | .get fault peerId => .get fault peerId
  | .evictStale faults olderThan => .evict faults olderThan

def returned (record : PeerRecord) : PeerRecord :=
  { record with addrHint := record.addrHint.unscoped }

/-- The registry over its bytes returns for a peer the last record that was
stored and not swept since, without the scope of its address, and never fails
to decode a row of its own. -/
theorem registry_replays (texts : WireTexts) (base64 : Base64) (ops : List Op) :
    Replays (texts.peerRecord base64) PeerRecord.lastSeen returned (ops.map Op.onRows) :=
  runRows_replays (fun record => texts.peerRecord_back base64 record) _

def quietPeer : PeerRecord :=
  ⟨⟨0⟩, .v4 0 0, false, 0, 0, "", 0, none⟩

/-- A peer that is read, that outlives a sweep of a full disk, is read again,
is swept and is gone. -/
def sweptHistory : List (RowOp PeerId PeerRecord × RowResult PeerRecord) :=
  [(.upsert none ⟨0⟩ quietPeer, .stored (.ok ())), (.get none ⟨0⟩, .found (.ok (some quietPeer))),
    (.evict { RedbFaults.none PeerId with openTable := some "disk full" } 1, .evicted (.error (.redb "disk full"))),
    (.get none ⟨0⟩, .found (.ok (some quietPeer))), (.evict (.none PeerId) 1, .evicted (.ok 1)),
    (.get none ⟨0⟩, .found (.ok none))]

theorem registry_replays_swept :
    let wire := zeroTexts.peerRecord Base64.standard
    runRows wire PeerRecord.lastSeen ∅ (sweptHistory.map Prod.fst) = sweptHistory ∧
      Answers wire PeerRecord.lastSeen (live PeerRecord.lastSeen returned (sweptHistory.take 2))
        (.evict { RedbFaults.none PeerId with openTable := some "disk full" } 1) (.evicted (.error (.redb "disk full"))) ∧
      Answers wire PeerRecord.lastSeen (live PeerRecord.lastSeen returned (sweptHistory.take 4))
        (.evict (.none PeerId) 1) (.evicted (.ok 1)) := by
  let ops : List Op := [.upsert none quietPeer, .get none ⟨0⟩,
    .evictStale { RedbFaults.none PeerId with openTable := some "disk full" } 1, .get none ⟨0⟩,
    .evictStale (.none PeerId) 1, .get none ⟨0⟩]
  have replays := registry_replays zeroTexts Base64.standard ops
  exact ⟨rfl, replays (sweptHistory.take 2) _ _ (sweptHistory.drop 3) rfl,
    replays (sweptHistory.take 4) _ _ (sweptHistory.drop 5) rfl⟩

end PeerRegistry

namespace CohortStore

inductive Op
  | upsert (fault : Option String) (cohort : CohortId) (record : CohortRecord)
  | get (fault : Option String) (cohort : CohortId)
  | evictExpired (faults : RedbFaults CohortId) (now : Timestamp)

def Op.onRows : Op → RowOp CohortId CohortRecord
  | .upsert fault cohort record => .upsert fault cohort record
  | .get fault cohort => .get fault cohort
  | .evictExpired faults now => .evict faults now

def recordWire (texts : WireTexts) : Wire PostcardError CohortRecord :=
  ((postcard.sequence texts.peerId).pair ((postcard.sequence texts.nodeId).pair
    (texts.timestamp.pair postcard.text))).as
    (fun record => (record.members, record.exits, record.rotationDeadline, record.region))
    fun (members, exits, deadline, region) => ⟨members, exits, deadline, region⟩

theorem recordWire_back (texts : WireTexts) (record : CohortRecord) :
    (recordWire texts).back record = .ok record := by
  have members : (postcard.sequence texts.peerId).back record.members = .ok record.members :=
    postcard.sequence_keeps_iff.mpr fun _ _ => rfl
  have exits : (postcard.sequence texts.nodeId).back record.exits = .ok record.exits := texts.nodeIds_keep record.exits
  exact Wire.as_back (Wire.pair_back members (Wire.pair_back exits (Wire.pair_back rfl rfl)))

/-- The cohort store over its bytes returns what was stored last and not swept since. -/
theorem cohorts_replay (texts : WireTexts) (ops : List Op) :
    Replays (recordWire texts) CohortRecord.rotationDeadline id (ops.map Op.onRows) :=
  runRows_replays (recordWire_back texts) _

end CohortStore

end BiBeam
