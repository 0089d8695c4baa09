import Mathlib.Data.List.Infix
import BiBeam.Lib.Except

/-- A writer of values and a reader that takes one value off the front of its
input. What a written value is read back as is part of the format: a format
may lose something, or refuse what it wrote. -/
structure Wire (ε α : Type) where
  write : α → Except ε (List UInt8)
  read : List UInt8 → Except ε (α × List UInt8)
  back : α → Except ε α
  /-- The reader decides by the bytes it takes. -/
  decides : ∀ {input value rest}, read input = .ok (value, rest) →
    ∃ taken, input = taken ++ rest ∧ ∀ other, read (taken ++ other) = .ok (value, other)
  /-- A written value is read back, whatever follows it. -/
  returns : ∀ {value bytes}, write value = .ok bytes →
    ∀ rest, read (bytes ++ rest) = (back value).map fun value => (value, rest)

namespace Wire

variable {ε α β κ : Type}

/-- The format reads a value back as it was. -/
def Keeps (wire : Wire ε α) (value : α) : Prop :=
  wire.back value = .ok value

/-- The format has bytes for the value. -/
def Writes (wire : Wire ε α) (value : α) : Prop :=
  ∃ bytes, wire.write value = .ok bytes

theorem read_append {wire : Wire ε α} {input rest : List UInt8} {value : α} (run : wire.read input = .ok (value, rest))
    (more : List UInt8) : wire.read (input ++ more) = .ok (value, rest ++ more) := by
  obtain ⟨taken, rfl, again⟩ := wire.decides run
  rw [List.append_assoc]
  exact again (rest ++ more)

/-- Cut anywhere, an input that is taken whole is no longer accepted. -/
theorem eq_of_read_prefix {wire : Wire ε α} {input start rest : List UInt8} {value other : α}
    (whole : wire.read input = .ok (value, [])) (cut : start <+: input) (run : wire.read start = .ok (other, rest)) :
    start = input := by
  obtain ⟨missing, rfl⟩ := cut
  have longer := read_append run missing
  rw [whole] at longer
  have none : rest ++ missing = [] := (Prod.mk.inj (Except.ok.inj longer)).2.symm
  rw [(List.append_eq_nil_iff.mp none).2, List.append_nil]

/-- Two values that survive and are written alike are the same. -/
theorem Keeps.write_inj {wire : Wire ε α} {left right : α} {bytes : List UInt8} (keepsLeft : wire.Keeps left)
    (keepsRight : wire.Keeps right) (writeLeft : wire.write left = .ok bytes)
    (writeRight : wire.write right = .ok bytes) : left = right := by
  have first := wire.returns writeLeft []
  have second := wire.returns writeRight []
  rw [keepsLeft] at first
  rw [keepsRight, first] at second
  exact (Prod.mk.inj (Except.ok.inj second)).1

/-- The format with no values. -/
def never (refused : ε) : Wire ε α where
  write _ := .error refused
  read _ := .error refused
  back _ := .error refused
  decides run := by cases run
  returns run := by cases run

/-- Another type written through the values of a format: `prepare` may refuse
to write and `accept` to take what was read. -/
def through (wire : Wire ε α) (prepare : β → Except ε α) (accept : α → Except ε β) : Wire ε β where
  write value := prepare value >>= wire.write
  read input := do
    let (raw, rest) ← wire.read input
    let value ← accept raw
    return (value, rest)
  back value := do
    let raw ← prepare value
    let raw ← wire.back raw
    accept raw
  decides {input value rest} run := by
    obtain ⟨⟨raw, left⟩, taking, run⟩ := Except.of_bind_ok run
    obtain ⟨found, accepted, run⟩ := Except.of_bind_ok run
    cases Except.ok.inj run
    obtain ⟨taken, split, again⟩ := wire.decides taking
    refine ⟨taken, split, fun other => ?_⟩
    rw [again other]
    change (accept raw >>= fun value => Except.ok (value, other)) = _
    rw [accepted]
    rfl
  returns {value bytes} run rest := by
    obtain ⟨raw, prepared, written⟩ := Except.of_bind_ok run
    rw [wire.returns written rest, prepared]
    change _ = ((wire.back raw >>= accept).map fun value => (value, rest))
    cases wire.back raw with
    | error err => rfl
    | ok raw => cases accept raw <;> rfl

/-- Another spelling of the same values. -/
def as (wire : Wire ε α) (unpack : β → α) (pack : α → β) : Wire ε β :=
  wire.through (fun value => .ok (unpack value)) fun raw => .ok (pack raw)

/-- A type written through a format that keeps everything, and read back by
the inverse of how it is written. -/
def lossless (wire : Wire ε α) (keeps : ∀ raw, wire.Keeps raw) (prepare : β → Except ε α) (accept : α → Except ε β)
    (inverse : ∀ {value raw}, prepare value = .ok raw → accept raw = .ok value) : Wire ε β where
  write := (wire.through prepare accept).write
  read := (wire.through prepare accept).read
  back value := .ok value
  decides := (wire.through prepare accept).decides
  returns {value bytes} run rest := by
    have back := (wire.through prepare accept).returns run rest
    obtain ⟨raw, prepared, _⟩ := Except.of_bind_ok run
    have same : (wire.through prepare accept).back value = .ok value := by
      change (prepare value >>= fun raw => wire.back raw >>= accept) = _
      rw [prepared]
      change (wire.back raw >>= accept) = _
      rw [keeps raw]
      exact inverse prepared
    rw [same] at back
    exact back

/-- One value after the other. -/
def pair (first : Wire ε α) (second : Wire ε β) : Wire ε (α × β) where
  write value := do
    let front ← first.write value.1
    let behind ← second.write value.2
    return front ++ behind
  read input := do
    let (left, rest) ← first.read input
    let (right, rest) ← second.read rest
    return ((left, right), rest)
  back value := do
    let left ← first.back value.1
    let right ← second.back value.2
    return (left, right)
  decides {input value rest} run := by
    obtain ⟨⟨left, middle⟩, taking, run⟩ := Except.of_bind_ok run
    obtain ⟨⟨right, last⟩, takingNext, run⟩ := Except.of_bind_ok run
    cases Except.ok.inj run
    obtain ⟨taken, rfl, again⟩ := first.decides taking
    obtain ⟨takenNext, rfl, againNext⟩ := second.decides takingNext
    refine ⟨taken ++ takenNext, (List.append_assoc ..).symm, fun other => ?_⟩
    rw [List.append_assoc, again (takenNext ++ other)]
    change (second.read (takenNext ++ other) >>= fun found => Except.ok ((left, found.1), found.2)) = _
    rw [againNext other]
    rfl
  returns {value bytes} run rest := by
    obtain ⟨front, writing, run⟩ := Except.of_bind_ok run
    obtain ⟨behind, writingNext, run⟩ := Except.of_bind_ok run
    cases Except.ok.inj run
    rw [List.append_assoc, first.returns writing]
    cases first.back value.1 with
    | error err => rfl
    | ok left =>
      change (second.read (behind ++ rest) >>= fun found => Except.ok ((left, found.1), found.2)) = _
      rw [second.returns writingNext]
      cases second.back value.2 <;> rfl

theorem pair_write {first : Wire ε α} {second : Wire ε β} {value : α × β} {front behind : List UInt8}
    (writeFirst : first.write value.1 = .ok front) (writeSecond : second.write value.2 = .ok behind) :
    (first.pair second).write value = .ok (front ++ behind) := by
  change (first.write value.1 >>= fun front => second.write value.2 >>= fun behind => Except.ok (front ++ behind)) = _
  rw [writeFirst, writeSecond]
  rfl

theorem pair_writes_iff {first : Wire ε α} {second : Wire ε β} {value : α × β} :
    (first.pair second).Writes value ↔ first.Writes value.1 ∧ second.Writes value.2 := by
  constructor
  · rintro ⟨bytes, run⟩
    obtain ⟨front, writeFirst, run⟩ := Except.of_bind_ok run
    obtain ⟨behind, writeSecond, _⟩ := Except.of_bind_ok run
    exact ⟨⟨front, writeFirst⟩, behind, writeSecond⟩
  · rintro ⟨⟨front, writeFirst⟩, behind, writeSecond⟩
    exact ⟨front ++ behind, pair_write writeFirst writeSecond⟩

/-- A key that says how the value after it is written. -/
def keyed (head : Wire ε κ) (keeps : ∀ key, head.Keeps key) (keyOf : β → κ) (body : κ → Wire ε β) : Wire ε β where
  write value := do
    let front ← head.write (keyOf value)
    let behind ← (body (keyOf value)).write value
    return front ++ behind
  read input := do
    let (key, rest) ← head.read input
    (body key).read rest
  back value := (body (keyOf value)).back value
  decides {input value rest} run := by
    obtain ⟨⟨key, middle⟩, taking, further⟩ := Except.of_bind_ok run
    obtain ⟨taken, rfl, again⟩ := head.decides taking
    obtain ⟨takenNext, rfl, againNext⟩ := (body key).decides further
    refine ⟨taken ++ takenNext, (List.append_assoc ..).symm, fun other => ?_⟩
    rw [List.append_assoc, again (takenNext ++ other)]
    exact againNext other
  returns {value bytes} run rest := by
    obtain ⟨front, writing, run⟩ := Except.of_bind_ok run
    obtain ⟨behind, writingNext, run⟩ := Except.of_bind_ok run
    cases Except.ok.inj run
    rw [List.append_assoc, head.returns writing, keeps]
    exact (body (keyOf value)).returns writingNext rest

/-- Exactly `count` bytes. -/
def exactly (unexpectedEnd refused : ε) (count : Nat) : Wire ε (List UInt8) where
  write bytes := if bytes.length = count then .ok bytes else .error refused
  read input := if count ≤ input.length then .ok (input.take count, input.drop count) else .error unexpectedEnd
  back bytes := .ok bytes
  decides {input value rest} run := by
    split at run
    · rename_i enough
      cases Except.ok.inj run
      refine ⟨input.take count, (List.take_append_drop ..).symm, fun other => ?_⟩
      have length : (input.take count).length = count := List.length_take_of_le enough
      rw [if_pos (by rw [List.length_append]; omega), List.take_left' length, List.drop_left' length]
    · cases run
  returns {bytes written} run rest := by
    split at run
    · rename_i length
      cases Except.ok.inj run
      rw [if_pos (by rw [List.length_append]; omega), List.take_left' length, List.drop_left' length]
      rfl
    · cases run

section Repeated

variable (wire : Wire ε α)

def writeAll : List α → Except ε (List UInt8)
  | [] => .ok []
  | value :: values => do
    let front ← wire.write value
    let behind ← writeAll values
    return front ++ behind

def readAll : Nat → List UInt8 → Except ε (List α × List UInt8)
  | 0, input => .ok ([], input)
  | count + 1, input => do
    let (value, rest) ← wire.read input
    let (values, rest) ← readAll count rest
    return (value :: values, rest)

def backAll : List α → Except ε (List α)
  | [] => .ok []
  | value :: values => do
    let value ← wire.back value
    let values ← backAll values
    return value :: values

theorem readAll_decides {count : Nat} {input rest : List UInt8} {values : List α}
    (run : wire.readAll count input = .ok (values, rest)) :
    ∃ taken, input = taken ++ rest ∧ ∀ other, wire.readAll count (taken ++ other) = .ok (values, other) := by
  induction count generalizing input values with
  | zero =>
    cases Except.ok.inj run
    exact ⟨[], rfl, fun _ => rfl⟩
  | succ count ih =>
    obtain ⟨⟨value, middle⟩, taking, run⟩ := Except.of_bind_ok run
    obtain ⟨⟨others, last⟩, takingNext, run⟩ := Except.of_bind_ok run
    cases Except.ok.inj run
    obtain ⟨taken, rfl, again⟩ := wire.decides taking
    obtain ⟨takenNext, rfl, againNext⟩ := ih takingNext
    refine ⟨taken ++ takenNext, (List.append_assoc ..).symm, fun other => ?_⟩
    rw [List.append_assoc, readAll, again (takenNext ++ other)]
    change (wire.readAll count (takenNext ++ other) >>= fun found => Except.ok (value :: found.1, found.2)) = _
    rw [againNext other]
    rfl

theorem readAll_writeAll {values : List α} {bytes : List UInt8} (run : wire.writeAll values = .ok bytes)
    (rest : List UInt8) :
    wire.readAll values.length (bytes ++ rest) = (wire.backAll values).map fun values => (values, rest) := by
  induction values generalizing bytes with
  | nil =>
    cases Except.ok.inj run
    rfl
  | cons value values ih =>
    obtain ⟨front, writing, run⟩ := Except.of_bind_ok run
    obtain ⟨behind, writingNext, run⟩ := Except.of_bind_ok run
    cases Except.ok.inj run
    rw [List.append_assoc, List.length_cons, readAll, wire.returns writing, backAll]
    cases wire.back value with
    | error err => rfl
    | ok value =>
      change (wire.readAll values.length (behind ++ rest) >>=
        fun found => Except.ok (value :: found.1, found.2)) = _
      rw [ih writingNext]
      cases wire.backAll values <;> rfl

/-- Exactly `count` values one after the other. -/
def repeated (refused : ε) (count : Nat) : Wire ε (List α) where
  write values := if values.length = count then wire.writeAll values else .error refused
  read := wire.readAll count
  back := wire.backAll
  decides run := wire.readAll_decides run
  returns {values bytes} run rest := by
    split at run
    · rename_i length
      rw [← length]
      exact wire.readAll_writeAll run rest
    · cases run

end Repeated

/-- One alternative of a sum type. -/
structure Variant (ε β : Type) where
  {payload : Type}
  wire : Wire ε payload
  make : payload → β
  take? : β → Option payload

def Variant.toWire (refused : ε) (variant : Variant ε β) : Wire ε β :=
  variant.wire.through (fun value => (variant.take? value).elim (.error refused) .ok) fun payload =>
    .ok (variant.make payload)

/-- A number for the alternative, then its payload. -/
def oneOf (tag : Wire ε Nat) (keeps : ∀ index, tag.Keeps index) (refused : ε) (variants : List (Variant ε β)) :
    Wire ε β :=
  tag.keyed keeps (fun value => variants.findIdx fun variant => (variant.take? value).isSome) fun index =>
    (variants[index]?).elim (never refused) (Variant.toWire refused)

theorem as_back {wire : Wire ε α} {unpack : β → α} {pack : α → β} {value : β} {raw : α}
    (back : wire.back (unpack value) = .ok raw) : (wire.as unpack pack).back value = .ok (pack raw) := by
  change (wire.back (unpack value) >>= fun raw => Except.ok (pack raw)) = _
  rw [back]
  rfl

theorem pair_back {first : Wire ε α} {second : Wire ε β} {value : α × β} {left : α} {right : β}
    (backLeft : first.back value.1 = .ok left) (backRight : second.back value.2 = .ok right) :
    (first.pair second).back value = .ok (left, right) := by
  change (first.back value.1 >>= fun left => second.back value.2 >>= fun right => Except.ok (left, right)) = _
  rw [backLeft, backRight]
  rfl

section Keeps

theorem as_keeps_iff {wire : Wire ε α} {unpack : β → α} {pack : α → β} (packed : ∀ value, pack (unpack value) = value)
    (unpacked : ∀ raw, unpack (pack raw) = raw) (value : β) :
    (wire.as unpack pack).Keeps value ↔ wire.Keeps (unpack value) := by
  change (wire.back (unpack value) >>= fun raw => Except.ok (pack raw)) = .ok value ↔ _
  rw [Except.bind_eq_ok_iff]
  constructor
  · rintro ⟨raw, back, same⟩
    rw [← Except.ok.inj same, unpacked] at back
    rwa [← Except.ok.inj same, unpacked]
  · exact fun keeps => ⟨unpack value, keeps, by rw [packed]⟩

@[simp] theorem lossless_keeps {wire : Wire ε α} {keeps : ∀ raw, wire.Keeps raw} {prepare : β → Except ε α}
    {accept : α → Except ε β} {inverse : ∀ {value raw}, prepare value = .ok raw → accept raw = .ok value} (value : β) :
    (wire.lossless keeps prepare accept inverse).Keeps value :=
  rfl

@[simp] theorem exactly_keeps (unexpectedEnd refused : ε) (count : Nat) (bytes : List UInt8) :
    (exactly unexpectedEnd refused count).Keeps bytes :=
  rfl

@[simp] theorem pair_keeps_iff {first : Wire ε α} {second : Wire ε β} {value : α × β} :
    (first.pair second).Keeps value ↔ first.Keeps value.1 ∧ second.Keeps value.2 := by
  change (first.back value.1 >>= fun left => second.back value.2 >>= fun right => Except.ok (left, right)) = _ ↔ _
  simp only [Except.bind_eq_ok_iff]
  constructor
  · rintro ⟨left, backLeft, right, backRight, same⟩
    rw [← Except.ok.inj same]
    rw [← Except.ok.inj same] at backLeft backRight
    exact ⟨backLeft, backRight⟩
  · exact fun both => ⟨value.1, both.1, value.2, both.2, rfl⟩

theorem keyed_keeps_iff {head : Wire ε κ} {keeps : ∀ key, head.Keeps key} {keyOf : β → κ} {body : κ → Wire ε β}
    {value : β} : (head.keyed keeps keyOf body).Keeps value ↔ (body (keyOf value)).Keeps value :=
  Iff.rfl

theorem backAll_cons {wire : Wire ε α} {value : α} {values : List α} :
    wire.backAll (value :: values) = .ok (value :: values) ↔
      wire.Keeps value ∧ wire.backAll values = .ok values := by
  change (wire.back value >>= fun first => wire.backAll values >>= fun rest => Except.ok (first :: rest)) = _ ↔ _
  simp only [Except.bind_eq_ok_iff]
  constructor
  · rintro ⟨first, back, rest, backRest, same⟩
    obtain ⟨rfl, rfl⟩ := List.cons.inj (Except.ok.inj same)
    exact ⟨back, backRest⟩
  · exact fun both => ⟨value, both.1, values, both.2, rfl⟩

@[simp] theorem repeated_keeps_iff {wire : Wire ε α} {refused : ε} {count : Nat} {values : List α} :
    (wire.repeated refused count).Keeps values ↔ ∀ value ∈ values, wire.Keeps value := by
  change wire.backAll values = .ok values ↔ _
  induction values with
  | nil => exact ⟨fun _ value member => absurd member List.not_mem_nil, fun _ => rfl⟩
  | cons value values ih => rw [backAll_cons, List.forall_mem_cons, ih]

/-- A value survives as an alternative when its payload survives. -/
theorem oneOf_keeps_iff {tag : Wire ε Nat} {keeps : ∀ index, tag.Keeps index} {refused : ε}
    {variants : List (Variant ε β)} {value : β} {wire : Wire ε α} {make : α → β} {take? : β → Option α} {payload : α}
    (chosen : variants[variants.findIdx fun variant => (variant.take? value).isSome]? = some ⟨wire, make, take?⟩)
    (taken : take? value = some payload) (made : ∀ other, make other = value ↔ other = payload) :
    (oneOf tag keeps refused variants).Keeps value ↔ wire.Keeps payload := by
  rw [oneOf, keyed_keeps_iff, chosen]
  change ((take? value).elim (.error refused) .ok >>= fun raw => wire.back raw >>= fun raw =>
    Except.ok (make raw)) = .ok value ↔ _
  rw [taken]
  change (wire.back payload >>= fun raw => Except.ok (make raw)) = .ok value ↔ _
  rw [Except.bind_eq_ok_iff]
  constructor
  · rintro ⟨raw, back, same⟩
    rw [(made raw).mp (Except.ok.inj same)] at back
    exact back
  · exact fun keeps => ⟨payload, keeps, congrArg Except.ok ((made payload).mpr rfl)⟩

end Keeps

end Wire
