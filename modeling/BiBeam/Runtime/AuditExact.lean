import BiBeam.Runtime.RedactionLayer

namespace BiBeam

/-- One kind of personal value that the layer looks for: its field, the values
that a plain string and a value given with % or ? show raw, its redaction and
the warning. -/
structure Watch (V : Type) where
  name : String
  fromStr : String → Option V
  fromDebug : String → Option V
  token : V → String
  warn : String → Event

namespace Watch

variable {V : Type} (watch : Watch V)

/-- The raw value that a field carries. -/
def raw? (field : Field) : Option V :=
  if field.name = watch.name then
    match field.value with
    | .str value => watch.fromStr value
    | .debug text => watch.fromDebug text
  else none

/-- The layer warns exactly of the raw values, and each warning carries the token of one of them. -/
structure Exact (event : Event) (emitted : List Event) : Prop where
  warns : (∃ token, watch.warn token ∈ emitted) ↔ ∃ field ∈ event.fields, ∃ value, watch.raw? field = some value
  tokens : ∀ token, watch.warn token ∈ emitted →
    ∃ field ∈ event.fields, ∃ value, watch.raw? field = some value ∧ token = watch.token value

/-- A plain string that is the text of a value. -/
def RawString (field : Field) : Prop :=
  field.name = watch.name ∧ ∃ value found, field.value = .str value ∧ watch.fromStr value = some found

/-- Behind every field that was given with % or ? a plain string gives a raw value away. -/
def Covered (fields : List Field) : Prop :=
  ∀ before text after, fields = before ++ ⟨watch.name, .debug text⟩ :: after → ∃ later ∈ after, watch.RawString later

/-- The token that a field leaves with the visitor. -/
def leaked? (field : Field) : Option String :=
  if field.name = watch.name then
    match field.value with
    | .str value => (watch.fromStr value).map watch.token
    | .debug _ => some sentinelDebugShape
  else none

/-- The token that the whole event leaves: the last one. -/
def leaked (fields : List Field) : Option String :=
  (fields.filterMap watch.leaked?).getLast?

variable {watch}

theorem leaked_append (front : List Field) (field : Field) :
    watch.leaked (front ++ [field]) = (watch.leaked? field).or (watch.leaked front) := by
  rw [leaked, leaked, List.filterMap_append]
  cases token : watch.leaked? field with
  | none => rw [List.filterMap_cons_none token, List.filterMap_nil, List.append_nil, Option.none_or]
  | some token' => rw [List.filterMap_cons_some token, List.filterMap_nil, List.getLast?_concat, Option.some_or]

theorem RawString.leaked? {field : Field} (rawString : watch.RawString field) :
    ∃ value, watch.raw? field = some value ∧ watch.leaked? field = some (watch.token value) := by
  obtain ⟨named, value, found, isStr, parsed⟩ := rawString
  refine ⟨found, ?_, ?_⟩
  · rw [raw?, if_pos named, isStr]
    exact parsed
  · rw [Watch.leaked?, if_pos named, isStr]
    exact congrArg (Option.map watch.token) parsed

/-- What leaves a token with the visitor: a raw string, or anything given with % or ?. -/
theorem leaked?_cases {field : Field} {token : String} (left : watch.leaked? field = some token) :
    watch.RawString field ∨ token = sentinelDebugShape ∧ ∃ text, field = ⟨watch.name, .debug text⟩ := by
  obtain ⟨name, value⟩ := field
  rw [leaked?] at left
  split at left
  · rename_i named
    cases value with
    | str value =>
      obtain ⟨found, parsed, _⟩ := Option.map_eq_some_iff.mp left
      exact Or.inl ⟨named, value, found, rfl, parsed⟩
    | debug text =>
      cases left
      cases named
      exact Or.inr ⟨rfl, text, rfl⟩
  · cases left

theorem leaked?_of_raw {field : Field} {value : V} (isRaw : watch.raw? field = some value) :
    ∃ token, watch.leaked? field = some token := by
  rw [raw?] at isRaw
  split at isRaw
  · rename_i named
    rw [leaked?, if_pos named]
    cases shape : field.value with
    | str text =>
      rw [shape] at isRaw
      exact ⟨_, congrArg (Option.map watch.token) isRaw⟩
    | debug text => exact ⟨_, rfl⟩
  · cases isRaw

/-- Where every debug shape is covered, the last token is that of a raw string. -/
theorem Covered.leaked {fields : List Field} (covered : watch.Covered fields) {token : String}
    (left : watch.leaked fields = some token) :
    ∃ field ∈ fields, ∃ value, watch.raw? field = some value ∧ token = watch.token value := by
  obtain ⟨front, isLast⟩ := List.getLast?_eq_some_iff.mp left
  obtain ⟨before, rest, rfl, _, ending⟩ := List.filterMap_eq_append_iff.mp isLast
  obtain ⟨skipped, field, after, rfl, _, here, nothing⟩ := List.filterMap_eq_cons_iff.mp ending
  have member : field ∈ before ++ (skipped ++ field :: after) := by simp
  rcases leaked?_cases here with rawString | ⟨_, text, rfl⟩
  · obtain ⟨value, isRaw, isToken⟩ := rawString.leaked?
    rw [here] at isToken
    exact ⟨field, member, value, isRaw, Option.some.inj isToken⟩
  · obtain ⟨later, inside, rawString⟩ := covered (before ++ skipped) text after (List.append_assoc ..).symm
    obtain ⟨value, _, isToken⟩ := rawString.leaked?
    have none := List.filterMap_eq_nil_iff.mp nothing later inside
    rw [none] at isToken
    cases isToken

/-- Where a debug shape is not covered, the sentinel is the token that is left. -/
theorem leaked_sentinel {before after : List Field} {text : String}
    (open_ : ∀ later ∈ after, ¬watch.RawString later) :
    watch.leaked (before ++ ⟨watch.name, .debug text⟩ :: after) = some sentinelDebugShape := by
  have here : watch.leaked? ⟨watch.name, .debug text⟩ = some sentinelDebugShape := if_pos rfl
  have behind : ∀ token ∈ after.filterMap watch.leaked?, token = sentinelDebugShape := by
    intro token member
    obtain ⟨later, inside, left⟩ := List.mem_filterMap.mp member
    exact ((leaked?_cases left).resolve_left (open_ later inside)).1
  rw [leaked, List.filterMap_append, List.filterMap_cons_some here, List.getLast?_append_cons]
  cases last : (after.filterMap watch.leaked?).getLast? with
  | none => rw [List.getLast?_cons, last]; rfl
  | some token =>
    rw [List.getLast?_cons, last, behind token (List.mem_of_getLast? last)]
    rfl

/-- The audit of an event that is not the layer's own, given the warnings that it makes. -/
theorem exact_iff_covered {event : Event} {emitted : List Event}
    (warned : ∀ token, watch.warn token ∈ emitted ↔ watch.leaked event.fields = some token)
    (apart : ∀ value, watch.token value ≠ sentinelDebugShape) :
    watch.Exact event emitted ↔ watch.Covered event.fields := by
  constructor
  · intro exact before text after parts
    by_contra uncovered
    have left : watch.leaked event.fields = some sentinelDebugShape := by
      rw [parts]
      exact leaked_sentinel fun later inside rawString => uncovered ⟨later, inside, rawString⟩
    obtain ⟨_, _, value, _, isToken⟩ := exact.tokens _ ((warned _).mpr left)
    exact apart value isToken.symm
  · intro covered
    refine ⟨⟨?_, ?_⟩, fun token member => covered.leaked ((warned token).mp member)⟩
    · rintro ⟨token, member⟩
      obtain ⟨field, inside, value, isRaw, _⟩ := covered.leaked ((warned token).mp member)
      exact ⟨field, inside, value, isRaw⟩
    · rintro ⟨field, inside, value, isRaw⟩
      obtain ⟨token, left⟩ := leaked?_of_raw isRaw
      have some := List.mem_filterMap.mpr ⟨field, inside, left⟩
      obtain ⟨last, isLast⟩ := List.getLast?_isSome.mpr (List.ne_nil_of_mem some) |> Option.isSome_iff_exists.mp
      exact ⟨last, (warned last).mpr isLast⟩

/-- An event that causes no warning is audited exactly when no field of it is raw. -/
theorem exact_nil_iff {event : Event} :
    watch.Exact event [] ↔ ∀ field ∈ event.fields, watch.raw? field = none := by
  constructor
  · intro exact field inside
    by_contra isRaw
    obtain ⟨value, isRaw⟩ := Option.ne_none_iff_exists'.mp isRaw
    obtain ⟨_, member⟩ := exact.warns.mpr ⟨field, inside, value, isRaw⟩
    cases member
  · intro clean
    refine ⟨⟨fun ⟨_, member⟩ => (nomatch member), fun ⟨field, inside, value, isRaw⟩ => ?_⟩,
      fun _ member => (nomatch member)⟩
    rw [clean field inside] at isRaw
    cases isRaw

end Watch

/-- The raw values that the text of a value given with % or ? shows. -/
structure DebugReading where
  peerId : String → Option PeerId
  ip : String → Option IpAddr

variable (libs : AdmissionLibs) (texts : PiiTexts) (shown : DebugReading) (key : RedactionKey)

def peerIdWatch : Watch PeerId where
  name := fieldPeerId
  fromStr := texts.peerIdFromStr
  fromDebug := shown.peerId
  token := redactPeerId libs key
  warn := warnPeerId

def ipWatch : Watch IpAddr where
  name := fieldIp
  fromStr := texts.ipFromStr
  fromDebug := shown.ip
  token := redactIp libs key
  warn := warnIp

variable {libs texts key}

/-- The visitor keeps one slot for each kind of value, and a field fills at most one of them. -/
theorem AuditVisitor.record_eq (visitor : AuditVisitor) (field : Field) :
    visitor.record libs texts key field =
      ⟨((peerIdWatch libs texts shown key).leaked? field).or visitor.leakedPeerId,
        ((ipWatch libs texts shown key).leaked? field).or visitor.leakedIp⟩ := by
  obtain ⟨name, value⟩ := field
  have apart : fieldPeerId ≠ fieldIp := by decide
  cases value with
  | debug text =>
    by_cases peer : name = fieldPeerId
    · simp [record, recordDebug, Watch.leaked?, peerIdWatch, ipWatch, peer, apart]
    · by_cases addr : name = fieldIp <;>
        simp [record, recordDebug, Watch.leaked?, peerIdWatch, ipWatch, peer, addr, apart.symm]
  | str value =>
    by_cases peer : name = fieldPeerId
    · cases parsed : texts.peerIdFromStr value <;>
        simp [record, recordStr, Watch.leaked?, peerIdWatch, ipWatch, peer, apart, parsed]
    · by_cases addr : name = fieldIp
      · cases parsed : texts.ipFromStr value <;>
          simp [record, recordStr, Watch.leaked?, peerIdWatch, ipWatch, addr, apart.symm, parsed]
      · simp [record, recordStr, Watch.leaked?, peerIdWatch, ipWatch, peer, addr]

/-- What the visitor has collected at the end of an event. -/
theorem foldl_record (fields : List Field) :
    fields.foldl (AuditVisitor.record libs texts key) ⟨none, none⟩ =
      ⟨(peerIdWatch libs texts shown key).leaked fields, (ipWatch libs texts shown key).leaked fields⟩ := by
  induction fields using List.reverseRecOn with
  | nil => rfl
  | append_singleton front field ih =>
    rw [List.foldl_append, ih, Watch.leaked_append, Watch.leaked_append]
    exact AuditVisitor.record_eq shown _ field

/-- A token is sixteen hex digits, so it is never the sentinel. -/
theorem redactBytes_ne_sentinel (input : List UInt8) : redactBytes libs key input ≠ sentinelDebugShape := by
  have digits : ∀ nibble < 16, hexDigit nibble ≠ '<' := by decide
  intro same
  have member : '<' ∈ (redactBytes libs key input).toList := by
    rw [same]
    decide
  rw [redactBytes, toHex, String.toList_ofList, List.mem_flatMap] at member
  obtain ⟨byte, _, member⟩ := member
  have small := byte.toNat_lt
  rcases List.mem_cons.mp member with high | low
  · exact digits _ (by omega) high.symm
  · exact digits _ (by omega) (List.mem_singleton.mp low).symm

theorem warnPeerId_mem (event : Event) (other : event.target ≠ redactionAuditTarget) (token : String) :
    warnPeerId token ∈ onEvent libs texts key event ↔
      (peerIdWatch libs texts shown key).leaked event.fields = some token := by
  rw [onEvent, if_neg other, foldl_record shown]
  simp [warnPeerId, warnIp, warnLeak]

theorem warnIp_mem (event : Event) (other : event.target ≠ redactionAuditTarget) (token : String) :
    warnIp token ∈ onEvent libs texts key event ↔
      (ipWatch libs texts shown key).leaked event.fields = some token := by
  rw [onEvent, if_neg other, foldl_record shown]
  simp [warnPeerId, warnIp, warnLeak]

/-- The layer does not warn of its own warnings. -/
theorem onEvent_own {event warning : Event} (emitted : warning ∈ onEvent libs texts key event) :
    onEvent libs texts key warning = [] := by
  have own : warning.target = redactionAuditTarget := by
    rw [onEvent] at emitted
    split at emitted
    · cases emitted
    · rcases List.mem_append.mp emitted with peer | addr
      · obtain ⟨_, _, rfl⟩ := Option.map_eq_some_iff.mp (Option.mem_toList.mp peer)
        rfl
      · obtain ⟨_, _, rfl⟩ := Option.map_eq_some_iff.mp (Option.mem_toList.mp addr)
        rfl
  rw [onEvent, if_pos own]

variable (libs texts key)

/-- Both kinds of value are audited exactly, and the layer's own warnings cause no others. -/
structure AuditedExactly (event : Event) : Prop where
  peerId : (peerIdWatch libs texts shown key).Exact event (onEvent libs texts key event)
  ip : (ipWatch libs texts shown key).Exact event (onEvent libs texts key event)
  own : ∀ warning ∈ onEvent libs texts key event, onEvent libs texts key warning = []

/-- An event on the layer's own target is audited exactly when nothing in it is
raw. Any other event is when each of its peer ids and addresses that was given
with % or ? is followed by a raw one in a plain string. -/
theorem auditedExactly_iff (event : Event) :
    AuditedExactly libs texts shown key event ↔
      if event.target = redactionAuditTarget then
        ∀ field ∈ event.fields, (peerIdWatch libs texts shown key).raw? field = none ∧
          (ipWatch libs texts shown key).raw? field = none
      else
        (peerIdWatch libs texts shown key).Covered event.fields ∧ (ipWatch libs texts shown key).Covered event.fields := by
  split
  · rename_i own
    have silent : onEvent libs texts key event = [] := if_pos own
    constructor
    · rintro ⟨peerId, ip, _⟩ field inside
      rw [silent] at peerId ip
      exact ⟨Watch.exact_nil_iff.mp peerId field inside, Watch.exact_nil_iff.mp ip field inside⟩
    · intro clean
      refine ⟨?_, ?_, fun _ => onEvent_own⟩
      · rw [silent]
        exact Watch.exact_nil_iff.mpr fun field inside => (clean field inside).1
      · rw [silent]
        exact Watch.exact_nil_iff.mpr fun field inside => (clean field inside).2
  · rename_i other
    have peers := @Watch.exact_iff_covered _ (peerIdWatch libs texts shown key) _ _ (warnPeerId_mem shown event other)
      fun _ => redactBytes_ne_sentinel _
    have addrs := @Watch.exact_iff_covered _ (ipWatch libs texts shown key) _ _ (warnIp_mem shown event other)
      fun _ => redactBytes_ne_sentinel _
    constructor
    · rintro ⟨peerId, ip, _⟩
      exact ⟨peers.mp peerId, addrs.mp ip⟩
    · rintro ⟨peerId, ip⟩
      exact ⟨peers.mpr peerId, addrs.mpr ip, fun _ => onEvent_own⟩

def crockfordDigits : List Char :=
  "0123456789ABCDEFGHJKMNPQRSTVWXYZ".toList

/-- The ULID library reads 26 digits of base 32 in either case. -/
def ulidFromString (text : String) : Option Ulid :=
  if text.toList.length = 26 then
    (text.toList.mapM fun c => crockfordDigits.idxOf? c.toUpper).map fun digits =>
      BitVec.ofNat 128 (digits.foldl (fun value digit => 32 * value + digit) 0)
  else none

def abLibs : AdmissionLibs where
  verifies _ _ _ := false
  rfc3339 := unixEpochText
  debugTimestamp _ := "Timestamp(1970-01-01 0:00:00.0 +00:00:00)"
  blake3 _ := Vector.replicate 32 0xab
  keyedHash _ _ := Vector.replicate 32 0xab
  ipText _ := "203.0.113.4"

def ulidTexts : PiiTexts where
  peerIdFromStr text := (ulidFromString text).map PeerId.mk
  ipFromStr _ := none

def displayReading : DebugReading where
  peerId text := (ulidFromString text).map PeerId.mk
  ip _ := none

def zeroKey : RedactionKey :=
  ⟨Vector.replicate 32 0⟩

/-- The call form that the module prescribes, as the tunnel's telemetry uses it. -/
def handshakeStarted : Event :=
  ⟨"bibeam_transport", [⟨"message", .debug "wg handshake init dispatched"⟩,
    ⟨fieldPeerId, .debug (redact abLibs zeroKey (.peer ⟨1⟩))⟩, ⟨"event", .str "wg_handshake_started"⟩]⟩

theorem handshakeStarted_warned :
    onEvent abLibs ulidTexts zeroKey handshakeStarted = [warnPeerId sentinelDebugShape] ∧
      (∀ field ∈ handshakeStarted.fields, (peerIdWatch abLibs ulidTexts displayReading zeroKey).raw? field = none) ∧
      ¬AuditedExactly abLibs ulidTexts displayReading zeroKey handshakeStarted := by
  have warned : onEvent abLibs ulidTexts zeroKey handshakeStarted = [warnPeerId sentinelDebugShape] := by decide
  have clean : ∀ field ∈ handshakeStarted.fields,
      (peerIdWatch abLibs ulidTexts displayReading zeroKey).raw? field = none := by decide
  refine ⟨warned, clean, fun exact => ?_⟩
  obtain ⟨field, inside, value, isRaw⟩ := exact.peerId.warns.mp ⟨_, warned ▸ List.mem_cons_self⟩
  rw [clean field inside] at isRaw
  cases isRaw

end BiBeam
