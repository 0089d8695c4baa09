import BiBeam.Tun.OptionWalk

namespace BiBeam

theorem onesComplementAdd_toNat (left right : UInt16) :
    (onesComplementAdd left right).toNat = OnesComplement.add 65535 left.toNat right.toNat := by
  have smallLeft := left.toNat_lt
  have smallRight := right.toNat_lt
  have sum : (left.toUInt32 + right.toUInt32).toNat = left.toNat + right.toNat := by
    rw [UInt32.toNat_add, UInt16.toNat_toUInt32, UInt16.toNat_toUInt32]
    exact Nat.mod_eq_of_lt (by omega)
  have low : ((left.toUInt32 + right.toUInt32) &&& (0xffff : UInt32)).toNat = (left.toNat + right.toNat) % 65536 := by
    rw [UInt32.toNat_and, sum]
    exact Nat.and_two_pow_sub_one_eq_mod _ 16
  have carry : ((left.toUInt32 + right.toUInt32) >>> (16 : UInt32)).toNat = (left.toNat + right.toNat) / 65536 := by
    rw [UInt32.toNat_shiftRight, sum, Nat.shiftRight_eq_div_pow]
    rfl
  rw [onesComplementAdd, UInt32.toNat_toUInt16, UInt32.toNat_add, low, carry, OnesComplement.add]
  split <;> omega

/-- The update keeps the sum of a checksum and the field it covers, up to
multiples of the all-ones word. -/
theorem incrementalUpdate_mod (oldCheck oldValue newValue : UInt16) :
    ((incrementalUpdate oldCheck oldValue newValue).toNat + newValue.toNat) % 65535 =
      (oldCheck.toNat + oldValue.toNat) % 65535 := by
  have smallCheck := oldCheck.toNat_lt
  have smallOld := oldValue.toNat_lt
  have smallNew := newValue.toNat_lt
  rw [incrementalUpdate, UInt16.toNat_not, onesComplementAdd_toNat, onesComplementAdd_toNat, UInt16.toNat_not,
    UInt16.toNat_not, UInt16.size]
  unfold OnesComplement.add
  split <;> split <;> omega

theorem u16FromBeBytes_toNat (high low : UInt8) : (u16FromBeBytes high low).toNat = 256 * high.toNat + low.toNat := by
  have smallHigh := high.toNat_lt
  have smallLow := low.toNat_lt
  rw [u16FromBeBytes, UInt16.toNat_ofNat']
  exact Nat.mod_eq_of_lt (by omega)

theorem highByte_toNat (word : UInt16) : (highByte word).toNat = word.toNat / 256 := by
  have small := word.toNat_lt
  rw [highByte, UInt8.toNat_ofNat']
  exact Nat.mod_eq_of_lt (by omega)

theorem lowByte_toNat (word : UInt16) : (lowByte word).toNat = word.toNat % 256 :=
  UInt8.toNat_ofNat' ..

section Walk

variable {packet : List UInt8} {targetMss : UInt16} {headerLen cursor : Nat}

/-- What the walk does: it rewrites the first MSS option because its value is
too large, or it leaves the packet and, unless it fails, found no such option. -/
def Walked (packet : List UInt8) (targetMss : UInt16) (headerLen cursor : Nat)
    (result : Except TunError Bool × List UInt8) : Prop :=
  (∃ offset, cursor + offset + 4 ≤ headerLen ∧
    MssAt (optionsFrom packet headerLen cursor) offset
      (u16FromBeBytes (byteAt packet (cursor + offset + 2)) (byteAt packet (cursor + offset + 3))) ∧
    targetMss < u16FromBeBytes (byteAt packet (cursor + offset + 2)) (byteAt packet (cursor + offset + 3)) ∧
    result = (.ok true, rewriteMss packet targetMss (cursor + offset))) ∨
  result.2 = packet ∧ ∀ found, result.1 = .ok found →
    ∀ offset value, MssAt (optionsFrom packet headerLen cursor) offset value → value ≤ targetMss

theorem walkOptions_spec (fits : headerLen ≤ packet.length) :
    Walked packet targetMss headerLen cursor (walkOptions packet targetMss headerLen cursor) := by
  have walked := @walkOptions_result packet targetMss headerLen cursor fits
  generalize walkOptions packet targetMss headerLen cursor = result at walked ⊢
  cases walked with
  | fails => exact Or.inr ⟨rfl, fun found answer => by cases answer⟩
  | clear _ small => exact Or.inr ⟨rfl, fun found answer => small⟩
  | rewrites inside reading above => exact Or.inl ⟨_, inside, reading, above, rfl⟩

end Walk

/-- The words of the segment and the sum over the pseudo-header add up to the
all-ones word. -/
def ChecksumValid (pseudoHeader : UInt16) (segment : List UInt8) : Prop :=
  OnesComplement.sum 65535 pseudoHeader.toNat (OnesComplement.words segment) = 65535

instance (pseudoHeader : UInt16) (segment : List UInt8) : Decidable (ChecksumValid pseudoHeader segment) :=
  inferInstanceAs (Decidable (OnesComplement.sum 65535 pseudoHeader.toNat (OnesComplement.words segment) = 65535))

section Checksum

open OnesComplement

variable {packet : List UInt8} {targetMss pseudoHeader : UInt16} {cursor i : Nat}

theorem byteAt_set_ne {j : Nat} (byte : UInt8) (apart : i ≠ j) : byteAt (packet.set i byte) j = byteAt packet j := by
  rw [byteAt, byteAt, List.getD_eq_getElem?_getD, List.getD_eq_getElem?_getD, List.getElem?_set_ne apart]

theorem sum_set (packet : List UInt8) (i : Nat) (byte : UInt8) (inside : i < packet.length) :
    (words (packet.set i byte)).sum + weight i * (byteAt packet i).toNat = (words packet).sum + weight i * byte.toNat :=
  sum_words_set packet byte inside

theorem checksumValid_iff (nonzero : byteAt packet i ≠ 0) : ChecksumValid pseudoHeader packet ↔
    (pseudoHeader.toNat + (words packet).sum) % 65535 = 0 := by
  have small := pseudoHeader.toNat_lt
  have inside : i < packet.length := by
    by_contra outside
    refine nonzero ?_
    rw [byteAt, List.getD_eq_getElem?_getD, List.getElem?_eq_none (Nat.le_of_not_lt outside)]
    rfl
  have part := weight_mul_le packet inside
  have counted : 0 < weight i * (packet.getD i 0).toNat := by
    refine Nat.mul_pos ?_ (Nat.pos_of_ne_zero fun zero => nonzero (UInt8.toNat_inj.mp zero))
    unfold weight
    split <;> omega
  exact sum_eq_top_iff (by omega) (words_le packet) (by omega)

/-- The rewriting changes the two bytes of the value and the checksum. -/
theorem byteAt_rewriteMss (beyond : cursor + 2 ≠ i ∧ cursor + 3 ≠ i)
    (notChecksum : tcpChecksumOffset ≠ i ∧ tcpChecksumOffset + 1 ≠ i) :
    byteAt (rewriteMss packet targetMss cursor) i = byteAt packet i := by
  rw [rewriteMss, byteAt_set_ne _ notChecksum.2, byteAt_set_ne _ notChecksum.1, byteAt_set_ne _ beyond.2,
    byteAt_set_ne _ beyond.1]

/-- What the sum of the words gains when the value and the checksum are rewritten. -/
theorem sum_rewriteMss (behind : tcpMinHeaderLen ≤ cursor) (inside : cursor + 4 ≤ packet.length) :
    ∃ newCheck : UInt16,
      (newCheck.toNat + targetMss.toNat) % 65535 = (256 * (byteAt packet 16).toNat + (byteAt packet 17).toNat +
        (256 * (byteAt packet (cursor + 2)).toNat + (byteAt packet (cursor + 3)).toNat)) % 65535 ∧
      (words (rewriteMss packet targetMss cursor)).sum + weight (cursor + 2) * (byteAt packet (cursor + 2)).toNat +
          weight (cursor + 3) * (byteAt packet (cursor + 3)).toNat + 256 * (byteAt packet 16).toNat +
          (byteAt packet 17).toNat =
        (words packet).sum + weight (cursor + 2) * (targetMss.toNat / 256) +
          weight (cursor + 3) * (targetMss.toNat % 256) + newCheck.toNat := by
  have header : tcpMinHeaderLen = 20 := rfl
  have checksum : tcpChecksumOffset = 16 := rfl
  have checksumLow : tcpChecksumOffset + 1 = 17 := rfl
  have same := incrementalUpdate_mod (u16FromBeBytes (byteAt packet 16) (byteAt packet 17))
    (u16FromBeBytes (byteAt packet (cursor + 2)) (byteAt packet (cursor + 3))) targetMss
  refine ⟨incrementalUpdate (u16FromBeBytes (byteAt packet 16) (byteAt packet 17))
    (u16FromBeBytes (byteAt packet (cursor + 2)) (byteAt packet (cursor + 3))) targetMss, ?_, ?_⟩
  · rw [same, u16FromBeBytes_toNat, u16FromBeBytes_toNat]
  · rw [rewriteMss, checksumLow, checksum]
    generalize incrementalUpdate (u16FromBeBytes (byteAt packet 16) (byteAt packet 17))
      (u16FromBeBytes (byteAt packet (cursor + 2)) (byteAt packet (cursor + 3))) targetMss = newCheck
    have value := sum_set packet (cursor + 2) (highByte targetMss) (by omega)
    have value' := sum_set (packet.set (cursor + 2) (highByte targetMss)) (cursor + 3) (lowByte targetMss)
      (by rw [List.length_set]; omega)
    have check := sum_set ((packet.set (cursor + 2) (highByte targetMss)).set (cursor + 3) (lowByte targetMss)) 16
      (highByte newCheck) (by rw [List.length_set, List.length_set]; omega)
    have check' := sum_set (((packet.set (cursor + 2) (highByte targetMss)).set (cursor + 3) (lowByte targetMss)).set 16
      (highByte newCheck)) 17 (lowByte newCheck) (by rw [List.length_set, List.length_set, List.length_set]; omega)
    rw [byteAt_set_ne _ (by omega), lowByte_toNat] at value'
    rw [byteAt_set_ne _ (by omega), byteAt_set_ne _ (by omega), highByte_toNat, weight_of_even rfl] at check
    rw [byteAt_set_ne _ (by omega), byteAt_set_ne _ (by omega), byteAt_set_ne _ (by omega), lowByte_toNat,
      weight_of_odd rfl] at check'
    rw [highByte_toNat] at value
    have split := Nat.div_add_mod newCheck.toNat 256
    omega

/-- A rewritten segment stays valid exactly when the value stands at an even
index, or the change of the value is the same in both halves of a word. -/
theorem rewriteMss_valid_iff {value : UInt16} (behind : tcpMinHeaderLen ≤ cursor) (inside : cursor + 4 ≤ packet.length)
    (flags : byteAt packet tcpFlagsOffset ≠ 0)
    (isValue : value = u16FromBeBytes (byteAt packet (cursor + 2)) (byteAt packet (cursor + 3)))
    (above : targetMss < value) (valid : ChecksumValid pseudoHeader packet) :
    ChecksumValid pseudoHeader (rewriteMss packet targetMss cursor) ↔
      cursor % 2 = 0 ∨ 257 ∣ value.toNat - targetMss.toNat := by
  have header : tcpMinHeaderLen = 20 := rfl
  have checksum : tcpChecksumOffset = 16 := rfl
  have offset : tcpFlagsOffset = 13 := rfl
  have kept : byteAt (rewriteMss packet targetMss cursor) tcpFlagsOffset ≠ 0 := by
    rw [byteAt_rewriteMss (by omega) (by omega)]
    exact flags
  rw [checksumValid_iff flags] at valid
  rw [checksumValid_iff kept]
  have larger : targetMss.toNat < value.toNat := UInt16.lt_iff_toNat_lt.mp above
  have digits : value.toNat = 256 * (byteAt packet (cursor + 2)).toNat + (byteAt packet (cursor + 3)).toNat := by
    rw [isValue, u16FromBeBytes_toNat]
  obtain ⟨newCheck, update, gained⟩ := @sum_rewriteMss packet targetMss cursor behind inside
  have split := Nat.div_add_mod targetMss.toNat 256
  rcases Nat.mod_two_eq_zero_or_one cursor with even | odd
  · rw [weight_of_even (by omega), weight_of_odd (by omega)] at gained
    refine iff_of_true ?_ (Or.inl even)
    omega
  · rw [weight_of_odd (by omega), weight_of_even (by omega)] at gained
    -- Swapped bytes weigh 256 times as much, so 255 times the change is left over.
    have left : (pseudoHeader.toNat + (words (rewriteMss packet targetMss cursor)).sum +
        255 * (value.toNat - targetMss.toNat)) % 65535 = 0 := by omega
    rw [or_iff_right (by omega)]
    constructor
    · intro zero
      omega
    · rintro ⟨factor, change⟩
      omega

end Checksum

/-- The length of the header as the data offset tells it. -/
def tcpHeaderLen (packet : List UInt8) : Nat :=
  (byteAt packet tcpDataOffsetByte >>> 4).toNat * 4

/-- An MSS option that is too large and stands where its rewriting is not
what the checksum update accounts for. -/
def Misaligned (packet : List UInt8) (targetMss : UInt16) : Prop :=
  byteAt packet tcpFlagsOffset &&& tcpFlagSyn ≠ 0 ∧
    ∃ offset value, MssAt (optionsFrom packet (tcpHeaderLen packet) tcpMinHeaderLen) offset value ∧
      targetMss < value ∧ offset % 2 = 1 ∧ ¬ 257 ∣ value.toNat - targetMss.toNat

/-- Clamping keeps the checksum of a segment valid unless the MSS option is
misaligned. -/
theorem clampTcpMss_valid_iff (pseudoHeader targetMss : UInt16) (packet : List UInt8) (found : Bool)
    (valid : ChecksumValid pseudoHeader packet) (answer : (clampTcpMss packet targetMss).1 = .ok found) :
    ChecksumValid pseudoHeader (clampTcpMss packet targetMss).2 ↔ ¬ Misaligned packet targetMss := by
  unfold clampTcpMss at answer ⊢
  split at answer
  · cases answer
  · rename_i long
    rw [if_neg long]
    dsimp only at answer ⊢
    split at answer
    · rename_i notSyn
      rw [if_pos notSyn]
      exact iff_of_true valid fun misaligned => misaligned.1 notSyn
    · rename_i syn
      rw [if_neg syn]
      split at answer
      · cases answer
      · rename_i inRange
        rw [if_neg inRange]
        have fits : tcpHeaderLen packet ≤ packet.length := by
          rw [tcpHeaderLen]
          omega
        have flags : byteAt packet tcpFlagsOffset ≠ 0 := fun zero => syn (by rw [zero]; rfl)
        have walked := @walkOptions_spec packet targetMss (tcpHeaderLen packet) tcpMinHeaderLen fits
        obtain ⟨offset, inside, reading, above, rewritten⟩ | ⟨kept, small⟩ := walked
        · have result := rewriteMss_valid_iff (Nat.le_add_right tcpMinHeaderLen offset) (by omega) flags rfl above valid
          have even : (tcpMinHeaderLen + offset) % 2 = offset % 2 := by
            rw [show tcpMinHeaderLen = 20 from rfl]
            omega
          rw [even] at result
          change ChecksumValid pseudoHeader (walkOptions packet targetMss (tcpHeaderLen packet) tcpMinHeaderLen).2 ↔ _
          rw [rewritten, result]
          constructor
          · rintro aligned ⟨_, other, value, again, _, odd, apart⟩
            obtain ⟨rfl, rfl⟩ := reading.unique again
            exact aligned.elim (by omega) apart
          · intro aligned
            by_contra misaligned
            rw [not_or] at misaligned
            exact aligned ⟨syn, offset, _, reading, above, by omega, misaligned.2⟩
        · change ChecksumValid pseudoHeader (walkOptions packet targetMss (tcpHeaderLen packet) tcpMinHeaderLen).2 ↔ _
          rw [kept]
          refine iff_of_true valid ?_
          rintro ⟨_, offset, value, reading, above, _⟩
          exact absurd (small found answer offset value reading) (UInt16.not_le.mpr above)

/-- A SYN whose only option is an MSS of 1460. -/
def alignedSyn : List UInt8 :=
  [0, 1, 0, 2, 0, 0, 0, 0, 0, 0, 0, 0, 96, 2, 255, 255, 152, 66, 0, 0, 2, 4, 5, 180]

theorem alignedSyn_aligned : ¬ Misaligned alignedSyn 1280 := by
  rintro ⟨_, offset, value, reading, _, odd, _⟩
  have options : optionsFrom alignedSyn (tcpHeaderLen alignedSyn) tcpMinHeaderLen = [2, 4, 5, 180] := by decide
  rw [options] at reading
  have first := reading.of_mss.1
  omega

theorem clampTcpMss_valid_iff_alignedSyn : ChecksumValid 0 (clampTcpMss alignedSyn 1280).2 :=
  (clampTcpMss_valid_iff 0 1280 alignedSyn true (by decide) (by decide +kernel)).mpr alignedSyn_aligned

/-- The same SYN with a no-operation before the MSS option. -/
def shiftedSyn : List UInt8 :=
  [0, 1, 0, 2, 0, 0, 0, 0, 0, 0, 0, 0, 112, 2, 255, 255, 214, 242, 0, 0, 1, 2, 4, 5, 180, 0, 0, 0]

theorem shiftedSyn_invalidated : ChecksumValid 0 shiftedSyn ∧ (clampTcpMss shiftedSyn 1280).1 = .ok true ∧
    ¬ ChecksumValid 0 (clampTcpMss shiftedSyn 1280).2 := by
  decide +kernel

end BiBeam
