import BiBeam.Coordinator.Audit
import BiBeam.Coordinator.RowBytes

namespace BiBeam

/-- The rows of a table in the order of their keys' bytes. -/
def inKeyOrder {V : Type} (rows : Table Ulid V) : List (Sigma fun _ : Ulid => V) :=
  rows.entries.mergeSort fun left right => decide (left.1.toBytes ≤ right.1.toBytes)

theorem inKeyOrder_increasing {V : Type} (rows : Table Ulid V) :
    (inKeyOrder rows).Pairwise fun left right => left.1 < right.1 := by
  have sorted : (inKeyOrder rows).Pairwise fun left right => decide (left.1.toBytes ≤ right.1.toBytes) = true :=
    List.pairwise_mergeSort (fun left middle right below above => by
        simp only [decide_eq_true_eq] at below above ⊢
        exact List.le_trans below above)
      (fun left right => by
        simp only [Bool.or_eq_true, decide_eq_true_eq]
        exact List.le_total _ _) _
  have apart : (inKeyOrder rows).Pairwise fun left right => left.1 ≠ right.1 :=
    ((List.mergeSort_perm rows.entries _).pairwise_iff Ne.symm).mpr (List.pairwise_map.mp rows.nodupKeys)
  refine (sorted.and apart).imp fun {left right} both => ?_
  have notAbove : ¬ right.1 < left.1 := fun above => of_decide_eq_true both.1 (Ulid.toBytes_lt_iff.mpr above)
  have different : left.1.toNat ≠ right.1.toNat := fun same => both.2 (BitVec.eq_of_toNat_eq same)
  rw [BitVec.lt_def] at notAbove ⊢
  omega

namespace AuditKind

def wire : Wire PostcardError AuditKind :=
  postcard.enumeration [
    { wire := postcard.raw 0
      make := fun _ => .admission
      take? := fun | .admission => some [] | _ => none },
    { wire := postcard.raw 0
      make := fun _ => .rotation
      take? := fun | .rotation => some [] | _ => none },
    { wire := postcard.raw 0
      make := fun _ => .tokenIssued
      take? := fun | .tokenIssued => some [] | _ => none },
    { wire := postcard.raw 0
      make := fun _ => .inviteRedeemed
      take? := fun | .inviteRedeemed => some [] | _ => none },
    { wire := postcard.text.pair uint32Wire
      make := fun found => .noAnonymousPathAvailable found.1 found.2
      take? := fun | .noAnonymousPathAvailable region count => some (region, count) | _ => none },
    { wire := postcard.text.pair postcard.text
      make := fun found => .regionMismatch found.1 found.2
      take? := fun | .regionMismatch declared observed => some (declared, observed) | _ => none }]

theorem wire_back (kind : AuditKind) : wire.back kind = .ok kind := by
  cases kind <;> rfl

end AuditKind

namespace AuditEntry

def tokenWire : Wire PostcardError (Option String) :=
  postcard.option (.other "DeserializeBadOption") postcard.text

def wire (texts : WireTexts) : Wire PostcardError AuditEntry :=
  (texts.timestamp.pair (AuditKind.wire.pair (tokenWire.pair (tokenWire.pair postcard.text)))).as
    (fun entry => (entry.capturedAt, entry.kind, entry.peerToken, entry.ipToken, entry.detailJson))
    fun (time, kind, peer, ip, detail) => ⟨time, kind, peer, ip, detail⟩

theorem wire_back (texts : WireTexts) (entry : AuditEntry) : (wire texts).back entry = .ok entry := by
  have token (token : Option String) : tokenWire.back token = .ok token := postcard.option_keeps postcard.text_keeps token
  exact Wire.as_back (Wire.pair_back rfl (Wire.pair_back (AuditKind.wire_back entry.kind)
    (Wire.pair_back (token entry.peerToken) (Wire.pair_back (token entry.ipToken) rfl))))

end AuditEntry

/-- The points at which redb may report a failure while a table is read. -/
structure ReadFaults where
  opening : Option String
  row : Ulid → Option String

/-- What the database says of a read of the rows at these keys. -/
def ReadFaults.reading (faults : ReadFaults) (keys : List Ulid) : Except StoreError Unit := do
  redbTry faults.opening
  redbTryAll faults.row keys

/-- A call on the log, with the clock and the random bits that an append draws its key from. -/
inductive AuditOp
  | append (fault : Option String) (timestampMs : Nat) (random : BitVec 80) (entry : AuditEntry)
  | snapshot (faults : ReadFaults)

inductive AuditResult
  | appended (result : Except StoreError Unit)
  | told (result : Except StoreError (List AuditEntry))

namespace AuditRows

variable (wire : Wire PostcardError AuditEntry)

def append (fault : Option String) (timestampMs : Nat) (random : BitVec 80) (entry : AuditEntry)
    (rows : ByteTable Ulid) : Except StoreError Unit × ByteTable Ulid :=
  insertBytes wire fault (.fromParts timestampMs random) entry rows

def readRows (faults : Ulid → Option String) :
    List (Sigma fun _ : Ulid => List UInt8) → Except StoreError (List AuditEntry)
  | [] => .ok []
  | ⟨key, bytes⟩ :: rest => do
    redbTry (faults key)
    let row ← decodeRow (fromBytes wire bytes)
    let rows ← readRows faults rest
    return row :: rows

def snapshot (faults : ReadFaults) (rows : ByteTable Ulid) : Except StoreError (List AuditEntry) := do
  redbTry faults.opening
  readRows wire faults.row (inKeyOrder rows)

def call (rows : ByteTable Ulid) : AuditOp → AuditResult × ByteTable Ulid
  | .append fault timestampMs random entry => Prod.map .appended id (append wire fault timestampMs random entry rows)
  | .snapshot faults => (.told (snapshot wire faults rows), rows)

/-- Calls one after the other, with what each returned. -/
def run : ByteTable Ulid → List AuditOp → List (AuditOp × AuditResult)
  | _, [] => []
  | rows, op :: rest => (op, (call wire rows op).1) :: run (call wire rows op).2 rest

/-- The entries that were appended, with their keys and oldest first. -/
def committed (history : List (AuditOp × AuditResult)) : List (Ulid × AuditEntry) :=
  history.filterMap fun step =>
    match step with
    | (.append _ timestampMs random entry, .appended (.ok ())) => some (.fromParts timestampMs random, entry)
    | _ => none

/-- The entry committed last under a key. -/
def lastAt (entries : List (Ulid × AuditEntry)) (key : Ulid) : Option AuditEntry :=
  entries.reverse.lookup key

/-- The rows that a snapshot of these entries shows: for each key its last
entry, by the milliseconds of the keys. -/
structure Shown (entries rows : List (Ulid × AuditEntry)) : Prop where
  each : ∀ key entry, (key, entry) ∈ rows ↔ lastAt entries key = some entry
  once : (rows.map Prod.fst).Nodup
  chronological : rows.Pairwise fun earlier later => earlier.1.timestampMs ≤ later.1.timestampMs
  whole : (entries.map Prod.fst).Nodup → rows.Perm entries
  inOrder : (entries.Pairwise fun earlier later => earlier.1 < later.1) → rows = entries

/-- What callers of the log get, over all that was committed before; calls fail
exactly by the failures that the database reports to them. -/
structure Chronicles (history : List (AuditOp × AuditResult)) : Prop where
  appended : ∀ before fault timestampMs random entry result after,
    history = before ++ (.append fault timestampMs random entry, .appended result) :: after →
    result = (wire.write entry).mapError .codec >>= fun _ => redbTry fault
  told : ∀ before faults result after, history = before ++ (.snapshot faults, .told result) :: after →
    ∃ rows, Shown (committed before) rows ∧
      result = (faults.reading (rows.map Prod.fst)).map fun _ => rows.map Prod.snd
  stamped : ∀ row ∈ committed history, ∃ fault timestampMs random,
    (.append fault timestampMs random row.2, .appended (.ok ())) ∈ history ∧ row.1.timestampMs = timestampMs % 2 ^ 48

variable {wire : Wire PostcardError AuditEntry} {rows : ByteTable Ulid} {entries : List (Ulid × AuditEntry)}

theorem committed_append (before after : List (AuditOp × AuditResult)) :
    committed (before ++ after) = committed before ++ committed after :=
  List.filterMap_append

theorem committed_stamped {history : List (AuditOp × AuditResult)} {row : Ulid × AuditEntry}
    (member : row ∈ committed history) : ∃ fault timestampMs random,
      (.append fault timestampMs random row.2, .appended (.ok ())) ∈ history ∧
        row.1.timestampMs = timestampMs % 2 ^ 48 := by
  obtain ⟨⟨op, result⟩, there, made⟩ := List.mem_filterMap.mp member
  split at made
  · rename_i fault timestampMs random entry eq
    cases eq
    cases made
    exact ⟨fault, timestampMs, random, there, Ulid.timestampMs_fromParts _ _⟩
  · cases made

theorem lastAt_concat (entries : List (Ulid × AuditEntry)) (key other : Ulid) (entry : AuditEntry) :
    lastAt (entries ++ [(key, entry)]) other = if other = key then some entry else lastAt entries other := by
  rw [lastAt, List.reverse_append, List.reverse_singleton, List.singleton_append, List.lookup_cons, lastAt]
  by_cases same : other = key
  · simp [same]
  · simp [same, beq_false_of_ne same]

/-- One call: an append that succeeds is remembered under its key. -/
theorem call_shows (backs : ∀ entry, wire.back entry = .ok entry) (shows_ : Shows wire rows (lastAt entries))
    (op : AuditOp) :
    Shows wire (call wire rows op).2 (lastAt (entries ++ committed [(op, (call wire rows op).1)])) := by
  cases op with
  | snapshot faults => rwa [committed, List.filterMap_cons_none rfl, List.filterMap_nil, List.append_nil]
  | append fault timestampMs random entry =>
    have failed : committed [(.append fault timestampMs random entry,
        (call wire rows (.append fault timestampMs random entry)).1)] = [] →
        (call wire rows (.append fault timestampMs random entry)).2 = rows →
        Shows wire (call wire rows (.append fault timestampMs random entry)).2 (lastAt (entries ++ committed
          [(.append fault timestampMs random entry, (call wire rows (.append fault timestampMs random entry)).1)])) := by
      intro nothing same
      rwa [nothing, same, List.append_nil]
    cases written : wire.write entry with
    | error err => exact failed (by simp [call, append, insertBytes, written, committed]) (by simp [call, append, insertBytes, written])
    | ok encoded =>
      cases fault with
      | some text => exact failed (by simp [call, append, insertBytes, written, committed]) (by simp [call, append, insertBytes, written])
      | none =>
        have stored := congrArg Prod.snd (insertBytes_decoded none (.fromParts timestampMs random) written (backs entry) rows)
        intro key
        have kept : committed [(.append none timestampMs random entry,
            (call wire rows (.append none timestampMs random entry)).1)] = [(.fromParts timestampMs random, entry)] := by
          simp [call, append, insertBytes, written, committed]
        rw [kept, lastAt_concat]
        change (decoded wire (insertBytes wire none (.fromParts timestampMs random) entry rows).2).lookup key = _
        rw [Prod.map_snd] at stored
        rw [stored]
        change ((decoded wire rows).insert (.fromParts timestampMs random) (.ok entry)).lookup key = _
        by_cases same : key = .fromParts timestampMs random
        · rw [if_pos same, same, AList.lookup_insert]
          rfl
        · rw [if_neg same, AList.lookup_insert_ne same, shows_ key]

theorem run_step (backs : ∀ entry, wire.back entry = .ok entry) (shows_ : Shows wire rows (lastAt entries))
    {ops : List AuditOp} {before after : List (AuditOp × AuditResult)} {step : AuditOp × AuditResult}
    (parts : run wire rows ops = before ++ step :: after) :
    ∃ here, Shows wire here (lastAt (entries ++ committed before)) ∧ step.2 = (call wire here step.1).1 := by
  induction ops generalizing rows entries before with
  | nil => exact absurd parts.symm (List.append_ne_nil_of_right_ne_nil _ (List.cons_ne_nil _ _))
  | cons op ops ih =>
    rw [run] at parts
    cases before with
    | nil =>
      obtain ⟨rfl, _⟩ := List.cons.inj parts
      exact ⟨rows, by rwa [committed, List.filterMap_nil, List.append_nil], rfl⟩
    | cons first before =>
      obtain ⟨rfl, later⟩ := List.cons.inj parts
      obtain ⟨here, there, same⟩ := ih (call_shows backs shows_ op) later
      refine ⟨here, ?_, same⟩
      rwa [List.append_assoc, ← committed_append] at there

/-- Rows that all decode are read as what they decode to, unless redb fails. -/
theorem readRows_decoded (faults : Ulid → Option String) {stored : List (Sigma fun _ : Ulid => List UInt8)}
    {values : List (Ulid × AuditEntry)}
    (decodes : stored.map (fun row => (row.1, fromBytes wire row.2)) = values.map fun row => (row.1, .ok row.2)) :
    readRows wire faults stored = (redbTryAll faults (values.map Prod.fst)).map fun _ => values.map Prod.snd := by
  induction stored generalizing values with
  | nil =>
    rw [List.map_eq_nil_iff.mp decodes.symm]
    rfl
  | cons row stored ih =>
    cases values with
    | nil => cases decodes
    | cons value values =>
      obtain ⟨here, later⟩ := List.cons.inj decodes
      obtain ⟨sameKey, decoded⟩ := Prod.mk.inj here
      rw [readRows, decoded, ih later, List.map_cons, List.map_cons, redbTryAll, sameKey]
      cases redbTry (faults value.1) with
      | error err => rfl
      | ok =>
        dsimp only [bind, Except.bind, decodeRow]
        cases redbTryAll faults (values.map Prod.fst) <;> rfl

/-- The values of rows that all decode. -/
theorem exists_decoded {stored : List (Sigma fun _ : Ulid => List UInt8)}
    (decodes : ∀ row ∈ stored, ∃ entry, fromBytes wire row.2 = .ok entry) : ∃ values : List (Ulid × AuditEntry),
      stored.map (fun row => (row.1, fromBytes wire row.2)) = values.map fun row => (row.1, .ok row.2) := by
  induction stored with
  | nil => exact ⟨[], rfl⟩
  | cons row stored ih =>
    obtain ⟨entry, here⟩ := decodes row List.mem_cons_self
    obtain ⟨values, later⟩ := ih fun other member => decodes other (List.mem_cons_of_mem _ member)
    exact ⟨(row.1, entry) :: values, by rw [List.map_cons, List.map_cons, later, here]⟩

theorem lookup_eq_some_of_nodup {pairs : List (Ulid × AuditEntry)} (once : (pairs.map Prod.fst).Nodup) {key : Ulid}
    {entry : AuditEntry} : pairs.lookup key = some entry ↔ (key, entry) ∈ pairs := by
  induction pairs with
  | nil => simp
  | cons pair pairs ih =>
    obtain ⟨first, value⟩ := pair
    rw [List.map_cons, List.nodup_cons] at once
    rw [List.lookup_cons, List.mem_cons, Prod.mk.injEq]
    by_cases same : key = first
    · subst same
      have fresh : (key, entry) ∉ pairs := fun member => once.1 (List.mem_map.mpr ⟨_, member, rfl⟩)
      simp [fresh, eq_comm]
    · simp [same, ih once.2, beq_false_of_ne same]

theorem nodup_of_increasing {pairs : List (Ulid × AuditEntry)}
    (increasing : pairs.Pairwise fun earlier later => earlier.1 < later.1) : (pairs.map Prod.fst).Nodup := by
  rw [List.Nodup, List.pairwise_map]
  refine increasing.imp fun {earlier later} below same => ?_
  rw [same] at below
  exact BitVec.lt_irrefl _ below

theorem shown_of_lastAt {rows : List (Ulid × AuditEntry)}
    (increasing : rows.Pairwise fun earlier later => earlier.1 < later.1)
    (each : ∀ key entry, (key, entry) ∈ rows ↔ lastAt entries key = some entry) : Shown entries rows := by
  have once := nodup_of_increasing increasing
  have whole : (entries.map Prod.fst).Nodup → rows.Perm entries := by
    intro apart
    have reversed : (entries.reverse.map Prod.fst).Nodup := by
      rw [List.map_reverse]
      exact List.nodup_reverse.mpr apart
    refine (List.perm_ext_iff_of_nodup once.of_map apart.of_map).mpr fun ⟨key, entry⟩ => ?_
    rw [each, lastAt, lookup_eq_some_of_nodup reversed, List.mem_reverse]
  refine ⟨each, once, increasing.imp fun below => Ulid.timestampMs_mono below, whole, fun ordered => ?_⟩
  refine List.Perm.eq_of_pairwise (fun left right _ _ below above => ?_) increasing ordered
    (whole (nodup_of_increasing ordered))
  exact absurd (BitVec.lt_trans below above) (BitVec.lt_irrefl _)

theorem snapshot_shown (shows_ : Shows wire rows (lastAt entries)) (faults : ReadFaults) :
    ∃ told, Shown entries told ∧
      snapshot wire faults rows = (faults.reading (told.map Prod.fst)).map fun _ => told.map Prod.snd := by
  have perm : (inKeyOrder rows).Perm rows.entries := List.mergeSort_perm _ _
  have inDecoded (row : Sigma fun _ : Ulid => List UInt8) (member : row ∈ inKeyOrder rows) :
      (⟨row.1, fromBytes wire row.2⟩ : Sigma fun _ : Ulid => Stored AuditEntry) ∈ (decoded wire rows).entries :=
    List.mem_map_of_mem (perm.mem_iff.mp member)
  obtain ⟨told, values⟩ := exists_decoded fun row member => shows_.decodes _ (inDecoded row member)
  have keys : told.map Prod.fst = (inKeyOrder rows).map Sigma.fst := by
    have firsts := congrArg (List.map Prod.fst) values
    rw [List.map_map, List.map_map] at firsts
    exact firsts.symm
  have increasing : told.Pairwise fun earlier later => earlier.1 < later.1 := by
    have sorted := List.pairwise_map.mpr (inKeyOrder_increasing rows)
    rw [← keys] at sorted
    exact List.pairwise_map.mp sorted
  have each : ∀ key entry, (key, entry) ∈ told ↔ lastAt entries key = some entry := by
    intro key entry
    rw [← shows_.mem_iff key entry]
    have listed : (key, entry) ∈ told ↔ (key, (.ok entry : Stored AuditEntry)) ∈ told.map fun row => (row.1, .ok row.2) := by
      simp
    rw [listed, ← values]
    simp only [List.mem_map, Prod.mk.injEq, decoded, AList.mapVals, Sigma.mk.injEq, heq_eq_eq, perm.mem_iff]
  refine ⟨told, shown_of_lastAt increasing each, ?_⟩
  rw [snapshot, ReadFaults.reading, readRows_decoded faults.row values]
  cases redbTry faults.opening <;> rfl

end AuditRows

/-- The log of the gate and of the rotation is the list of the entries committed
here, oldest first, as long as both meet the same failures. -/
theorem AuditLog.append_committed {wire : Wire PostcardError AuditEntry} {rows : ByteTable Ulid}
    {history : List (AuditOp × AuditResult)} {log : AuditLog} {fault : Option String} {timestampMs : Nat}
    {random : BitVec 80} {entry : AuditEntry}
    (same : log.rows = (AuditRows.committed history).map Prod.snd)
    (alike : (AuditRows.append wire fault timestampMs random entry rows).1 =
      (log.appends log.calls).2.elim (.ok ()) .error) :
    (AuditRows.append wire fault timestampMs random entry rows).1 = (log.append entry).1 ∧
      (log.append entry).2.rows = (AuditRows.committed (history ++ [(.append fault timestampMs random entry,
        (AuditRows.call wire rows (.append fault timestampMs random entry)).1)])).map Prod.snd := by
  have told : (AuditRows.call wire rows (.append fault timestampMs random entry)).1 =
      .appended (AuditRows.append wire fault timestampMs random entry rows).1 := rfl
  rw [AuditRows.committed_append, List.map_append, ← same, told, alike, AuditLog.append]
  cases (log.appends log.calls).2 with
  | some err => exact ⟨rfl, (List.append_nil _).symm⟩
  | none => exact ⟨rfl, rfl⟩

/-- Whatever is appended and read in turn, a snapshot of the operator log is
complete, unchanged and in the order of the clock, and an append touches no
other row. -/
theorem AuditLog.snapshots_chronicle (texts : WireTexts) (ops : List AuditOp) :
    AuditRows.Chronicles (AuditEntry.wire texts) (AuditRows.run (AuditEntry.wire texts) ∅ ops) := by
  have empty : Shows (AuditEntry.wire texts) (∅ : ByteTable Ulid) (AuditRows.lastAt []) := fun _ => rfl
  refine ⟨?_, ?_, fun row member => AuditRows.committed_stamped member⟩
  · intro before fault timestampMs random entry result after parts
    obtain ⟨here, _, same⟩ := AuditRows.run_step (AuditEntry.wire_back texts) empty parts
    rw [AuditRows.call, AuditRows.append, insertBytes] at same
    cases written : (AuditEntry.wire texts).write entry with
    | error err =>
      rw [written] at same
      cases same
      rfl
    | ok encoded =>
      rw [written] at same
      cases fault with
      | some text => cases same; rfl
      | none => cases same; rfl
  · intro before faults result after parts
    obtain ⟨here, shows_, same⟩ := AuditRows.run_step (AuditEntry.wire_back texts) empty parts
    cases same
    exact AuditRows.snapshot_shown shows_ faults

def epochEntry (kind : AuditKind) : AuditEntry :=
  ⟨0, kind, none, none, "\x7b\x7d"⟩

/-- A read that fails at one of the rows. -/
def badRow : ReadFaults :=
  ⟨none, fun key => if key = .fromParts 5 7 then some "read failed" else none⟩

/-- Two appends under one key and one before it, a read that fails and one that does not. -/
def collidingHistory : List (AuditOp × AuditResult) :=
  [(.append none 5 7 (epochEntry .admission), .appended (.ok ())),
    (.append none 5 7 (epochEntry .rotation), .appended (.ok ())),
    (.append none 4 9 (epochEntry .tokenIssued), .appended (.ok ())),
    (.snapshot badRow, .told (.error (.redb "read failed"))),
    (.snapshot ⟨none, fun _ => none⟩, .told (.ok [epochEntry .tokenIssued, epochEntry .rotation]))]

theorem collidingHistory_run :
    AuditRows.run (AuditEntry.wire zeroTexts) ∅ (collidingHistory.map Prod.fst) = collidingHistory := by
  let wire := AuditEntry.wire zeroTexts
  let first := (AuditRows.append wire none 5 7 (epochEntry .admission) ∅).2
  let second := (AuditRows.append wire none 5 7 (epochEntry .rotation) first).2
  let rows := (AuditRows.append wire none 4 9 (epochEntry .tokenIssued) second).2
  have sorted : inKeyOrder rows = rows.entries := List.mergeSort_of_pairwise (by decide)
  change _ :: _ :: _ :: (AuditOp.snapshot badRow, AuditResult.told (AuditRows.snapshot wire badRow rows)) ::
    (AuditOp.snapshot ⟨none, fun _ => none⟩, AuditResult.told (AuditRows.snapshot wire ⟨none, fun _ => none⟩ rows)) :: [] = _
  rw [AuditRows.snapshot, AuditRows.snapshot, sorted]
  rfl

theorem AuditLog.snapshots_chronicle_colliding :
    AuditRows.run (AuditEntry.wire zeroTexts) ∅ (collidingHistory.map Prod.fst) = collidingHistory ∧
      AuditRows.Chronicles (AuditEntry.wire zeroTexts) collidingHistory :=
  ⟨collidingHistory_run,
    collidingHistory_run ▸ AuditLog.snapshots_chronicle zeroTexts (collidingHistory.map Prod.fst)⟩

end BiBeam
