import BiBeam.Transport.Stun

namespace BiBeam

namespace Stun

/-- An attribute on the wire, with the bytes that pad it to a multiple of four. -/
structure Attribute where
  type : BitVec 16
  value : List UInt8
  padding : List UInt8
  fits : value.length < 2 ^ 16
  padded : padding.length = (4 - value.length % 4) % 4

/-- A word on the wire, most significant byte first. -/
def wordBytes (width : Nat) (word : BitVec (8 * width)) : List UInt8 :=
  BigEndian.bytes width word.toNat

/-- The type and the length in front of an attribute's value. -/
def attributeHead (type : BitVec 16) (length : Nat) : List UInt8 :=
  wordBytes 2 type ++ wordBytes 2 (BitVec.ofNat 16 length)

def Attribute.bytes (attr : Attribute) : List UInt8 :=
  attributeHead attr.type attr.value.length ++ (attr.value ++ attr.padding)

def messageHead (msgLen : Nat) (txnId : TxnId) : List UInt8 :=
  wordBytes 2 messageTypeBindingSuccess ++
    (wordBytes 2 (BitVec.ofNat 16 msgLen) ++ (wordBytes 4 magicCookie ++ txnId.toList))

@[simp] theorem length_wordBytes (width : Nat) (word : BitVec (8 * width)) : (wordBytes width word).length = width :=
  BigEndian.length_bytes width word.toNat

@[simp] theorem length_attributeHead (type : BitVec 16) (length : Nat) : (attributeHead type length).length = 4 := by
  simp [attributeHead]

@[simp] theorem length_messageHead (msgLen : Nat) (txnId : TxnId) : (messageHead msgLen txnId).length = 20 := by
  simp [messageHead]

theorem ofNat_value_wordBytes (width : Nat) (word : BitVec (8 * width)) :
    BitVec.ofNat (8 * width) (BigEndian.value (wordBytes width word)) = word := by
  have power : 256 ^ width = 2 ^ (8 * width) := by rw [Nat.pow_mul]
  apply BitVec.eq_of_toNat_eq
  rw [BitVec.toNat_ofNat, wordBytes, BigEndian.value_bytes, power, Nat.mod_mod, Nat.mod_eq_of_lt word.isLt]

theorem wordBytes_ofNat_value {width : Nat} {digits : List UInt8} (size : digits.length = width) :
    wordBytes width (BitVec.ofNat (8 * width) (BigEndian.value digits)) = digits := by
  have small := BigEndian.value_lt digits
  have power : 2 ^ (8 * width) = 256 ^ width := by rw [Nat.pow_mul]
  rw [size] at small
  rw [wordBytes, BitVec.toNat_ofNat, power, Nat.mod_eq_of_lt small, ← size, BigEndian.bytes_value]

/-- The word read at an index is the one whose bytes stand there. -/
theorem wordAt_eq_some_iff {width i : Nat} {bytes : List UInt8} {word : BitVec (8 * width)} :
    wordAt width bytes i = some word ↔ Slice.get bytes i (i + width) = some (wordBytes width word) := by
  rw [wordAt, Option.map_eq_some_iff]
  constructor
  · rintro ⟨digits, got, rfl⟩
    obtain ⟨_, _, _, _, stop⟩ := Slice.get_eq_some_iff.mp got
    rw [wordBytes_ofNat_value (by omega), got]
  · intro got
    exact ⟨_, got, ofNat_value_wordBytes width word⟩

theorem wordAt_append (width : Nat) (front : List UInt8) (word : BitVec (8 * width)) (back : List UInt8) :
    wordAt width (front ++ (wordBytes width word ++ back)) front.length = some word := by
  have got := Slice.get_append front (wordBytes width word) back
  rw [length_wordBytes] at got
  exact wordAt_eq_some_iff.mpr got

theorem exists_wordAt {width i : Nat} {bytes : List UInt8} (inside : i + width ≤ bytes.length) :
    ∃ word, wordAt width bytes i = some word := by
  obtain ⟨digits, got, _⟩ := Slice.exists_get (Nat.le_add_right i width) inside
  exact ⟨_, by rw [wordAt, got, Option.map_some]⟩

/-- Combining with the mask a second time gives the bytes back. -/
theorem xorAt_append (front back : List UInt8) {octets mask : List UInt8} (size : octets.length = mask.length) :
    xorAt (front ++ (List.zipWith (· ^^^ ·) octets mask ++ back)) front.length mask = some octets := by
  induction mask generalizing front octets with
  | nil => rw [List.eq_nil_of_length_eq_zero size, xorAt]
  | cons key rest ih =>
    obtain ⟨octet, more, rfl⟩ := List.exists_cons_of_length_eq_add_one size
    have later := ih (front ++ [octet ^^^ key]) (Nat.succ.inj size)
    rw [List.append_assoc, List.singleton_append, List.length_append, List.length_singleton] at later
    rw [List.zipWith_cons_cons, List.cons_append, xorAt, later, List.getElem?_append_right le_rfl, Nat.sub_self,
      List.getElem?_cons_zero]
    have twice : octet ^^^ key ^^^ key = octet := by rw [UInt8.xor_assoc, UInt8.xor_self, UInt8.xor_zero]
    simp only [Option.bind_eq_bind, Option.bind_some, twice]

theorem exists_xorAt {value mask : List UInt8} {i : Nat} (inside : i + mask.length ≤ value.length) :
    ∃ octets, xorAt value i mask = some octets := by
  induction mask generalizing i with
  | nil => exact ⟨[], rfl⟩
  | cons key rest ih =>
    rw [List.length_cons] at inside
    obtain ⟨octets, later⟩ := ih (show i + 1 + rest.length ≤ value.length by omega)
    have here := List.getElem?_eq_getElem (show i < value.length by omega)
    exact ⟨_, by rw [xorAt, here, later]; rfl⟩

/-- Other attributes, an XOR-MAPPED-ADDRESS attribute, and what follows it. -/
def mappedBody (others : List Attribute) (value rest : List UInt8) : List UInt8 :=
  others.flatMap Attribute.bytes ++ (attributeHead attrXorMappedAddress value.length ++ (value ++ rest))

/-- The first XOR-MAPPED-ADDRESS attribute of the body holds the value. -/
def MappedIn (body value : List UInt8) : Prop :=
  ∃ others rest, body = mappedBody others value rest ∧ value.length < 2 ^ 16 ∧
    ∀ attr ∈ others, attr.type ≠ attrXorMappedAddress

theorem MappedIn.ne_nil {body value : List UInt8} (mapped : MappedIn body value) : body ≠ [] := by
  rintro rfl
  obtain ⟨others, rest, split, _⟩ := mapped
  have length := congrArg List.length split
  simp only [mappedBody, List.length_nil, List.length_append, length_attributeHead] at length
  omega

theorem MappedIn.behind {body value : List UInt8} (attr : Attribute) (other : attr.type ≠ attrXorMappedAddress)
    (mapped : MappedIn body value) : MappedIn (attr.bytes ++ body) value := by
  obtain ⟨others, rest, split, fits, apart⟩ := mapped
  refine ⟨attr :: others, rest, ?_, fits, List.forall_mem_cons.mpr ⟨other, apart⟩⟩
  rw [split, mappedBody, mappedBody, List.flatMap_cons, List.append_assoc]

section Scan

variable {front rest value : List UInt8} {type : BitVec 16}

/-- One step of the scan, at an attribute that lies inside the body. -/
theorem findFrom_attribute (fits : value.length < 2 ^ 16) :
    findFrom (front ++ (attributeHead type value.length ++ (value ++ rest))) front.length =
      if type = attrXorMappedAddress then some (.ok value)
      else findFrom (front ++ (attributeHead type value.length ++ (value ++ rest)))
        (front.length + 4 + value.length + (4 - value.length % 4) % 4) := by
  have atType := wordAt_append 2 front type (wordBytes 2 (BitVec.ofNat 16 value.length) ++ (value ++ rest))
  have atLen := wordAt_append 2 (front ++ wordBytes 2 type) (BitVec.ofNat 16 value.length) (value ++ rest)
  have atValue := Slice.get_append (front ++ attributeHead type value.length) value rest
  have len : (BitVec.ofNat 16 value.length).toNat = value.length := by
    rw [BitVec.toNat_ofNat, Nat.mod_eq_of_lt fits]
  rw [List.length_append, length_wordBytes, List.append_assoc] at atLen
  rw [List.length_append, length_attributeHead, List.append_assoc] at atValue
  have whole : front ++ (attributeHead type value.length ++ (value ++ rest)) =
      front ++ (wordBytes 2 type ++ (wordBytes 2 (BitVec.ofNat 16 value.length) ++ (value ++ rest))) := by
    rw [attributeHead, List.append_assoc]
  have long : front.length + 4 + value.length ≤
      (front ++ (attributeHead type value.length ++ (value ++ rest))).length := by
    simp only [List.length_append, length_attributeHead]
    omega
  rw [← whole] at atType atLen
  rw [findFrom, if_pos (by omega), atType, atLen]
  simp only [Option.bind_eq_bind, Option.bind_some, len]
  rw [if_neg (by omega), atValue]
  rfl

/-- What follows an attribute, past some bytes of padding. -/
theorem drop_attribute (padding : Nat) :
    (front ++ (attributeHead type value.length ++ (value ++ rest))).drop (front.length + 4 + value.length + padding) =
      rest.drop padding := by
  have start : front.length + 4 + value.length = (front ++ (attributeHead type value.length ++ value)).length := by
    simp only [List.length_append, length_attributeHead]
    omega
  have whole : front ++ (attributeHead type value.length ++ (value ++ rest)) =
      (front ++ (attributeHead type value.length ++ value)) ++ rest := by
    simp only [List.append_assoc]
  rw [← List.drop_drop, start, whole, List.drop_left]

theorem findFrom_others (front : List UInt8) (others : List Attribute)
    (apart : ∀ attr ∈ others, attr.type ≠ attrXorMappedAddress) :
    findFrom (front ++ (others.flatMap Attribute.bytes ++ rest)) front.length =
      findFrom (front ++ (others.flatMap Attribute.bytes ++ rest))
        (front ++ others.flatMap Attribute.bytes).length := by
  induction others generalizing front with
  | nil => rw [List.flatMap_nil, List.append_nil]
  | cons attr more ih =>
    obtain ⟨here, later⟩ := List.forall_mem_cons.mp apart
    have step := ih (front ++ attr.bytes) later
    have whole : front ++ ((attr :: more).flatMap Attribute.bytes ++ rest) =
        front ++ (attributeHead attr.type attr.value.length ++
          (attr.value ++ (attr.padding ++ (more.flatMap Attribute.bytes ++ rest)))) := by
      simp only [List.flatMap_cons, Attribute.bytes, List.append_assoc]
    have place : (front ++ attr.bytes).length =
        front.length + 4 + attr.value.length + (4 - attr.value.length % 4) % 4 := by
      simp only [Attribute.bytes, List.length_append, length_attributeHead, attr.padded]
      omega
    rw [whole, findFrom_attribute attr.fits, if_neg here, ← place, ← whole]
    rw [List.append_assoc] at step
    rw [List.flatMap_cons, List.append_assoc, step]
    simp only [List.append_assoc]

/-- What stands at a cursor with room for the head of an attribute. -/
theorem attribute_at {body : List UInt8} {cursor : Nat} (inside : cursor + 4 ≤ body.length) :
    (∃ text, findFrom body cursor = some (.error (.responseMalformed text))) ∨
      ∃ front type value rest, body = front ++ (attributeHead type value.length ++ (value ++ rest)) ∧
        front.length = cursor ∧ value.length < 2 ^ 16 := by
  obtain ⟨type, atType⟩ := @exists_wordAt 2 cursor body (by omega)
  obtain ⟨len, atLen⟩ := @exists_wordAt 2 (cursor + 2) body (by omega)
  by_cases overruns : body.length < cursor + 4 + len.toNat
  · refine Or.inl ⟨"attribute extends past body", ?_⟩
    rw [findFrom, if_pos inside, atType, atLen]
    simp only [Option.bind_eq_bind, Option.bind_some]
    rw [if_pos overruns]
  · right
    obtain ⟨value, got, size⟩ := Slice.exists_get (Nat.le_add_right (cursor + 4) len.toNat) (Nat.le_of_not_lt overruns)
    rw [Nat.add_sub_cancel_left] at size
    have head := Slice.get_trans (wordAt_eq_some_iff.mp atType) (wordAt_eq_some_iff.mp atLen)
    obtain ⟨front, rest, split, place, _⟩ := Slice.get_eq_some_iff.mp (Slice.get_trans head got)
    have counted : BitVec.ofNat 16 value.length = len := by rw [size, BitVec.ofNat_toNat, BitVec.setWidth_eq]
    refine ⟨front, type, value, rest, ?_, place, size ▸ len.isLt⟩
    rw [split, attributeHead, counted, List.append_assoc]

/-- The scan ends without an access outside the body, and what it finds is the
value of the first attribute of its type. -/
theorem findFrom_sound (body : List UInt8) (cursor : Nat) :
    ∃ result, findFrom body cursor = some result ∧ ∀ value, result = .ok value → MappedIn (body.drop cursor) value := by
  induction left : body.length - cursor using Nat.strongRecOn generalizing cursor with
  | ind remaining ih =>
    by_cases inside : cursor + 4 ≤ body.length
    · rcases attribute_at inside with ⟨text, failed⟩ | ⟨front, type, value, rest, split, place, fits⟩
      · exact ⟨_, failed, fun value found => by cases found⟩
      · have step := @findFrom_attribute front rest value type fits
        have here : body.drop cursor = attributeHead type value.length ++ (value ++ rest) := by
          rw [split, ← place, List.drop_left]
        rw [← split, place] at step
        by_cases mapped : type = attrXorMappedAddress
        · rw [if_pos mapped] at step
          refine ⟨_, step, fun found same => ?_⟩
          cases same
          exact ⟨[], rest, by rw [here, mapped, mappedBody, List.flatMap_nil, List.nil_append], fits,
            List.forall_mem_nil _⟩
        · rw [if_neg mapped] at step
          obtain ⟨result, scanned, sound⟩ :=
            ih _ (by omega) (cursor + 4 + value.length + (4 - value.length % 4) % 4) rfl
          refine ⟨result, step.trans scanned, fun found same => ?_⟩
          have later := sound found same
          rw [← place, split, drop_attribute] at later
          have long := List.drop_eq_nil_iff.not.mp later.ne_nil
          have padded : (rest.take ((4 - value.length % 4) % 4)).length = (4 - value.length % 4) % 4 := by
            rw [List.length_take]
            omega
          have behind := later.behind ⟨type, value, rest.take ((4 - value.length % 4) % 4), fits, padded⟩ mapped
          rwa [Attribute.bytes, List.append_assoc, List.append_assoc, List.take_append_drop, ← here] at behind
    · refine ⟨.error (.responseMalformed "XOR-MAPPED-ADDRESS attribute missing"), ?_, fun value found => by cases found⟩
      rw [findFrom, if_neg inside]

/-- The scan finds the attribute wherever it stands. -/
theorem findXorMappedAddress_complete {body : List UInt8} (mapped : MappedIn body value) :
    findXorMappedAddress body = some (.ok value) := by
  obtain ⟨others, rest, rfl, fits, apart⟩ := mapped
  have skipped := @findFrom_others (attributeHead attrXorMappedAddress value.length ++ (value ++ rest)) [] others apart
  rw [List.nil_append, List.nil_append] at skipped
  rw [findXorMappedAddress, mappedBody]
  refine skipped.trans ?_
  rw [findFrom_attribute fits, if_pos rfl]

end Scan

end Stun

end BiBeam
