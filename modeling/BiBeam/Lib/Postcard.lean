import Mathlib.Algebra.Order.Ring.Nat
import BiBeam.Lib.BigEndian
import BiBeam.Lib.Table
import BiBeam.Lib.Wire

/-- A type with a text form, which some of its values may lack. -/
structure TextForm (α : Type) where
  print : α → Option String
  parse : String → Option α
  parse_print : ∀ {value text}, print value = some text → parse text = some value
  /-- A text is no longer than an index can tell. -/
  fits : ∀ {value text}, print value = some text → text.utf8ByteSize < 2 ^ 64

/-- The text form of a single value. -/
def TextForm.only {α : Type} [DecidableEq α] (known : α) (text : String) (short : text.utf8ByteSize < 2 ^ 64) :
    TextForm α where
  print value := if value = known then some text else none
  parse found := if found = text then some known else none
  parse_print {value found} same := by
    split at same
    · rename_i here
      rw [← Option.some.inj same, if_pos rfl, here]
    · cases same
  fits {value found} same := by
    split at same
    · rwa [← Option.some.inj same]
    · cases same

/-- A text form with one more value, under a text that had no meaning. -/
def TextForm.insert {α : Type} [DecidableEq α] (form : TextForm α) (known : α) (text : String)
    (fresh : form.parse text = none) (short : text.utf8ByteSize < 2 ^ 64) : TextForm α where
  print value := if value = known then some text else form.print value
  parse found := if found = text then some known else form.parse found
  parse_print {value found} same := by
    split at same
    · rename_i here
      rw [← Option.some.inj same, if_pos rfl, here]
    · have back := form.parse_print same
      rwa [if_neg]
      rintro rfl
      rw [fresh] at back
      cases back
  fits {value found} same := by
    split at same
    · rwa [← Option.some.inj same]
    · exact form.fits same

/-- The failures that a format of this family reports. -/
structure Postcard (ε : Type) where
  unexpectedEnd : ε
  badVarint : ε
  badBool : ε
  badUtf8 : ε
  /-- A value refused to be written. -/
  serCustom : ε
  /-- A value refused to be read. -/
  deCustom : ε

namespace Postcard

variable {ε α β κ : Type}

/-- The groups of seven bits in front of the last one, and what the last one may be. -/
structure IntSize where
  more : Nat
  lastMax : Nat
  fits : lastMax < 128

namespace IntSize

def u16 : IntSize := ⟨2, 3, by decide⟩

def u32 : IntSize := ⟨4, 15, by decide⟩

def u64 : IntSize := ⟨9, 1, by decide⟩

def bound (size : IntSize) : Nat :=
  (size.lastMax + 1) * 128 ^ size.more

end IntSize

/-- Seven bits a byte, lowest first, the high bit set on every byte but the last. -/
def encodeVarint : Nat → Nat → List UInt8
  | 0, n => [UInt8.ofNat n]
  | more + 1, n => if n < 128 then [UInt8.ofNat n] else UInt8.ofNat (n % 128 + 128) :: encodeVarint more (n / 128)

def decodeVarint (format : Postcard ε) (lastMax : Nat) : Nat → List UInt8 → Except ε (Nat × List UInt8)
  | _, [] => .error format.unexpectedEnd
  | 0, byte :: rest => if byte.toNat ≤ lastMax then .ok (byte.toNat, rest) else .error format.badVarint
  | more + 1, byte :: rest =>
    if byte.toNat < 128 then
      .ok (byte.toNat, rest)
    else do
      let (high, rest) ← decodeVarint format lastMax more rest
      return (byte.toNat % 128 + 128 * high, rest)

theorem decodeVarint_decides (format : Postcard ε) {lastMax more value : Nat} {input rest : List UInt8}
    (run : format.decodeVarint lastMax more input = .ok (value, rest)) :
    ∃ taken, input = taken ++ rest ∧ ∀ other, format.decodeVarint lastMax more (taken ++ other) = .ok (value, other) := by
  induction more generalizing input value with
  | zero =>
    cases input with
    | nil => cases run
    | cons byte bytes =>
      rw [decodeVarint] at run
      split at run
      · rename_i small
        cases Except.ok.inj run
        exact ⟨[byte], rfl, fun other => if_pos small⟩
      · cases run
  | succ more ih =>
    cases input with
    | nil => cases run
    | cons byte bytes =>
      rw [decodeVarint] at run
      split at run
      · rename_i last
        cases Except.ok.inj run
        exact ⟨[byte], rfl, fun other => if_pos last⟩
      · rename_i goesOn
        obtain ⟨⟨high, left⟩, taking, run⟩ := Except.of_bind_ok run
        cases Except.ok.inj run
        obtain ⟨taken, rfl, again⟩ := ih taking
        refine ⟨byte :: taken, rfl, fun other => ?_⟩
        rw [List.cons_append, decodeVarint, if_neg goesOn, again other]
        rfl

theorem decodeVarint_encodeVarint (format : Postcard ε) {lastMax : Nat} (fits : lastMax < 128) {more n : Nat}
    (small : n < (lastMax + 1) * 128 ^ more) (rest : List UInt8) :
    format.decodeVarint lastMax more (encodeVarint more n ++ rest) = .ok (n, rest) := by
  induction more generalizing n with
  | zero =>
    have byte : (UInt8.ofNat n).toNat = n := by
      rw [UInt8.toNat_ofNat']
      omega
    rw [encodeVarint, List.singleton_append, decodeVarint, byte, if_pos (by omega)]
  | succ more ih =>
    rw [encodeVarint]
    by_cases last : n < 128
    · have byte : (UInt8.ofNat n).toNat = n := by
        rw [UInt8.toNat_ofNat']
        omega
      rw [if_pos last, List.singleton_append, decodeVarint, byte, if_pos last]
    · have byte : (UInt8.ofNat (n % 128 + 128)).toNat = n % 128 + 128 := by
        rw [UInt8.toNat_ofNat']
        omega
      have high : n / 128 < (lastMax + 1) * 128 ^ more := by
        rw [Nat.div_lt_iff_lt_mul (by decide), Nat.mul_assoc, ← Nat.pow_succ]
        exact small
      rw [if_neg last, List.cons_append, decodeVarint, byte, if_neg (by omega), ih high]
      change Except.ok ((n % 128 + 128) % 128 + 128 * (n / 128), rest) = _
      congr 2
      omega

variable (format : Postcard ε)

def unsigned (size : IntSize) : Wire ε Nat where
  write n := if n < size.bound then .ok (encodeVarint size.more n) else .error format.serCustom
  read := format.decodeVarint size.lastMax size.more
  back n := .ok n
  decides run := format.decodeVarint_decides run
  returns {n bytes} run rest := by
    split at run
    · rename_i small
      cases Except.ok.inj run
      exact format.decodeVarint_encodeVarint size.fits small rest
    · cases run

@[simp] theorem unsigned_keeps (size : IntSize) (n : Nat) : (format.unsigned size).Keeps n :=
  rfl

/-- A list length as it is written. -/
def length : Wire ε Nat :=
  format.unsigned .u64

def raw (count : Nat) : Wire ε (List UInt8) :=
  .exactly format.unexpectedEnd format.serCustom count

/-- An array of bytes, without a length. -/
def byteArray (count : Nat) : Wire ε (Vector UInt8 count) :=
  (format.raw count).lossless (fun _ => rfl) (fun bytes => .ok bytes.toList)
    (fun bytes => if length : bytes.length = count then .ok ⟨bytes.toArray, length⟩ else .error format.deCustom)
    (by
      intro bytes written same
      cases Except.ok.inj same
      rw [dif_pos bytes.length_toList]
      rfl)

/-- An unsigned integer as its bytes, most significant first. -/
def octets (count : Nat) : Wire ε (BitVec (8 * count)) :=
  (format.raw count).lossless (fun _ => rfl) (fun value => .ok (BigEndian.bytes count value.toNat))
    (fun bytes => .ok (BitVec.ofNat _ (BigEndian.value bytes)))
    (by
      intro value written same
      cases Except.ok.inj same
      have width : 256 ^ count = 2 ^ (8 * count) := by rw [Nat.pow_mul]
      rw [BigEndian.value_bytes, width, Nat.mod_eq_of_lt value.isLt, BitVec.ofNat_toNat, BitVec.setWidth_eq])

/-- An unsigned integer as a variable-length integer. -/
def word (size : IntSize) (width : Nat) : Wire ε (BitVec width) :=
  (format.unsigned size).lossless (format.unsigned_keeps size) (fun value => .ok value.toNat)
    (fun n => .ok (BitVec.ofNat width n))
    (by
      intro value n same
      cases Except.ok.inj same
      rw [BitVec.ofNat_toNat, BitVec.setWidth_eq])

def bool : Wire ε Bool :=
  (format.raw 1).lossless (fun _ => rfl) (fun flag => .ok [if flag then 1 else 0])
    (fun bytes => if bytes = [0] then .ok false else if bytes = [1] then .ok true else .error format.badBool)
    (by
      intro flag written same
      cases Except.ok.inj same
      cases flag <;> rfl)

/-- A byte string with its length in front. -/
def byteString : Wire ε (List UInt8) :=
  format.length.keyed (format.unsigned_keeps _) List.length format.raw

@[simp] theorem byteString_keeps (bytes : List UInt8) : format.byteString.Keeps bytes :=
  rfl

/-- The bytes of a text decode to it. -/
theorem fromUTF8_bytes (text : String) :
    String.fromUTF8? text.toByteArray.data.toList.toByteArray = some text := by
  have bytes : text.toByteArray.data.toList.toByteArray = text.toByteArray := by
    apply ByteArray.ext
    apply Array.ext'
    rw [List.toList_data_toByteArray]
  rw [bytes, String.fromUTF8?, dif_pos text.isValidUTF8]
  rfl

def text : Wire ε String :=
  format.byteString.lossless format.byteString_keeps (fun text => .ok text.toByteArray.data.toList)
    (fun bytes => (String.fromUTF8? bytes.toByteArray).elim (.error format.badUtf8) .ok)
    (by
      intro text written same
      cases Except.ok.inj same
      rw [fromUTF8_bytes]
      rfl)

@[simp] theorem text_keeps (text : String) : format.text.Keeps text :=
  rfl

/-- A value written as its text. -/
def printed (form : TextForm α) : Wire ε α :=
  format.text.lossless format.text_keeps (fun value => (form.print value).elim (.error format.serCustom) .ok)
    (fun text => (form.parse text).elim (.error format.deCustom) .ok)
    (by
      intro value text same
      cases printed : form.print value with
      | none => rw [printed] at same; cases same
      | some found =>
        rw [printed] at same
        cases Except.ok.inj same
        rw [form.parse_print printed]
        rfl)

theorem byteString_writes {bytes : List UInt8} (fits : bytes.length < 2 ^ 64) : format.byteString.Writes bytes := by
  refine ⟨encodeVarint IntSize.u64.more bytes.length ++ bytes, ?_⟩
  have small : bytes.length < IntSize.u64.bound := fits
  change (((if bytes.length < IntSize.u64.bound then .ok (encodeVarint IntSize.u64.more bytes.length)
    else .error format.serCustom : Except ε (List UInt8)) >>= fun front =>
    (if bytes.length = bytes.length then .ok bytes else .error format.serCustom : Except ε (List UInt8)) >>=
      fun behind => Except.ok (front ++ behind))) = _
  rw [if_pos small, if_pos rfl]
  rfl

theorem text_writes {text : String} (fits : text.utf8ByteSize < 2 ^ 64) : format.text.Writes text :=
  format.byteString_writes fits

theorem printed_writes_iff {form : TextForm α} {value : α} :
    (format.printed form).Writes value ↔ (form.print value).isSome := by
  change (∃ bytes, ((form.print value).elim (.error format.serCustom) .ok >>= format.text.write) = .ok bytes) ↔ _
  cases printed : form.print value with
  | none => exact ⟨fun ⟨_, run⟩ => (by cases run), fun some => absurd some Bool.false_ne_true⟩
  | some text =>
    obtain ⟨bytes, run⟩ := format.text_writes (form.fits printed)
    exact ⟨fun _ => rfl, fun _ => ⟨bytes, run⟩⟩

/-- A sequence with its length in front. -/
def sequence (wire : Wire ε α) : Wire ε (List α) :=
  format.length.keyed (format.unsigned_keeps _) List.length (wire.repeated format.serCustom)

@[simp] theorem sequence_keeps_iff {wire : Wire ε α} {values : List α} :
    (format.sequence wire).Keeps values ↔ ∀ value ∈ values, wire.Keeps value :=
  Wire.keyed_keeps_iff.trans Wire.repeated_keeps_iff

/-- A map as the sequence of its rows. -/
def map [DecidableEq κ] (key : Wire ε κ) (value : Wire ε α) (keeps : ∀ row, (key.pair value).Keeps row) :
    Wire ε (Table κ α) :=
  (format.sequence (key.pair value)).lossless (fun rows => format.sequence_keeps_iff.mpr fun row _ => keeps row)
    (fun table => .ok (table.entries.map fun row => (row.1, row.2)))
    (fun rows => .ok (AList.collect (rows.map fun row => ⟨row.1, row.2⟩)))
    (by
      intro table rows same
      cases Except.ok.inj same
      rw [List.map_map]
      exact congrArg Except.ok ((congrArg AList.collect (List.map_id _)).trans (AList.collect_entries table)))

/-- A sum type: the number of the alternative in front of its payload. -/
def enumeration (variants : List (Wire.Variant ε β)) : Wire ε β :=
  .oneOf (format.unsigned .u32) (format.unsigned_keeps _) format.deCustom variants

theorem enumeration_keeps_iff {variants : List (Wire.Variant ε β)} {value : β} {wire : Wire ε α} {make : α → β}
    {take? : β → Option α} {payload : α}
    (chosen : variants[variants.findIdx fun variant => (variant.take? value).isSome]? = some ⟨wire, make, take?⟩)
    (taken : take? value = some payload) (made : ∀ other, make other = value ↔ other = payload) :
    (format.enumeration variants).Keeps value ↔ wire.Keeps payload :=
  Wire.oneOf_keeps_iff chosen taken made

/-- A number in one byte. -/
def octet : Wire ε Nat :=
  (format.raw 1).lossless (fun _ => rfl) (fun n => if n < 256 then .ok [UInt8.ofNat n] else .error format.serCustom)
    (fun bytes => .ok (BigEndian.value bytes))
    (by
      intro n bytes same
      split at same
      · rename_i small
        cases Except.ok.inj same
        change Except.ok (256 * 0 + (UInt8.ofNat n).toNat) = _
        rw [UInt8.toNat_ofNat', Nat.mul_zero, Nat.zero_add, Nat.mod_eq_of_lt small]
      · cases same)

/-- An optional value: a byte that says whether it is there in front of it. -/
def option (badOption : ε) (wire : Wire ε α) : Wire ε (Option α) :=
  .oneOf format.octet (fun _ => rfl) badOption [
    { wire := format.raw 0
      make := fun _ => none
      take? := fun | none => some [] | some _ => none },
    { wire
      make := some
      take? := id }]

theorem option_keeps {badOption : ε} {wire : Wire ε α} (keeps : ∀ value, wire.Keeps value) (value : Option α) :
    (format.option badOption wire).Keeps value := by
  cases value with
  | none => rfl
  | some value =>
    have there : (format.option badOption wire).Keeps (some value) ↔ wire.Keeps value :=
      Wire.oneOf_keeps_iff rfl rfl fun _ => Option.some_inj
    exact there.mpr (keeps value)

end Postcard
