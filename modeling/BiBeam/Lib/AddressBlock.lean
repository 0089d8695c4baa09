import Mathlib.Data.BitVec

namespace AddressBlock

variable {w : Nat}

/-- The first address of a block: all bits behind the prefix are zero. -/
def network (addr : BitVec w) (prefixLen : Nat) : BitVec w :=
  addr &&& BitVec.allOnes w <<< (w - prefixLen)

/-- The last address of a block: all bits behind the prefix are one. -/
def broadcast (addr : BitVec w) (prefixLen : Nat) : BitVec w :=
  addr ||| BitVec.allOnes w >>> prefixLen

/-- The block from its first address to its last. -/
def contains (addr : BitVec w) (prefixLen : Nat) (other : BitVec w) : Bool :=
  decide (network addr prefixLen ≤ other) && decide (other ≤ broadcast addr prefixLen)

/-- Two addresses begin with the same bits. -/
def SamePrefix (prefixLen : Nat) (addr other : BitVec w) : Prop :=
  addr.toNat / 2 ^ (w - prefixLen) = other.toNat / 2 ^ (w - prefixLen)

theorem toNat_network (addr : BitVec w) (prefixLen : Nat) :
    (network addr prefixLen).toNat = addr.toNat / 2 ^ (w - prefixLen) * 2 ^ (w - prefixLen) := by
  have cleared : network addr prefixLen = (addr >>> (w - prefixLen)) <<< (w - prefixLen) := by
    apply BitVec.eq_of_getLsbD_eq
    intro i inside
    rw [network, BitVec.getLsbD_and, BitVec.getLsbD_shiftLeft, BitVec.getLsbD_shiftLeft, BitVec.getLsbD_allOnes,
      BitVec.getLsbD_ushiftRight]
    by_cases behind : i < w - prefixLen
    · simp [behind]
    · have back : w - prefixLen + (i - (w - prefixLen)) = i := by omega
      have within : i - (w - prefixLen) < w := by omega
      simp [behind, inside, back, within]
  have small := addr.isLt
  have floor := Nat.div_mul_le_self addr.toNat (2 ^ (w - prefixLen))
  rw [cleared, BitVec.toNat_shiftLeft, BitVec.toNat_ushiftRight, Nat.shiftRight_eq_div_pow, Nat.shiftLeft_eq,
    Nat.mod_eq_of_lt (by omega)]

theorem toNat_broadcast (addr : BitVec w) {prefixLen : Nat} (fits : prefixLen ≤ w) :
    (broadcast addr prefixLen).toNat =
      addr.toNat / 2 ^ (w - prefixLen) * 2 ^ (w - prefixLen) + (2 ^ (w - prefixLen) - 1) := by
  have raised : broadcast addr prefixLen = network addr prefixLen ||| BitVec.allOnes w >>> prefixLen := by
    apply BitVec.eq_of_getLsbD_eq
    intro i inside
    rw [broadcast, network, BitVec.getLsbD_or, BitVec.getLsbD_or, BitVec.getLsbD_and, BitVec.getLsbD_shiftLeft,
      BitVec.getLsbD_ushiftRight, BitVec.getLsbD_allOnes, BitVec.getLsbD_allOnes]
    by_cases behind : i < w - prefixLen
    · have low : prefixLen + i < w := by omega
      simp [low]
    · have within : i - (w - prefixLen) < w := by omega
      simp [behind, inside, within]
  have low : (BitVec.allOnes w >>> prefixLen).toNat = 2 ^ (w - prefixLen) - 1 := by
    rw [BitVec.toNat_ushiftRight, BitVec.toNat_allOnes, Nat.shiftRight_eq_div_pow]
    have split : 2 ^ w = 2 ^ (w - prefixLen) * 2 ^ prefixLen := by
      rw [← Nat.pow_add, Nat.sub_add_cancel fits]
    have some_ : 0 < 2 ^ (w - prefixLen) * 2 ^ prefixLen := Nat.mul_pos (Nat.two_pow_pos _) (Nat.two_pow_pos _)
    have step : 0 < 2 ^ prefixLen := Nat.two_pow_pos _
    rw [split]
    apply Nat.div_eq_of_lt_le
    · rw [Nat.sub_mul, Nat.one_mul]
      omega
    · rw [Nat.sub_add_cancel (Nat.two_pow_pos _)]
      omega
  have below : 2 ^ (w - prefixLen) - 1 < 2 ^ (w - prefixLen) := Nat.sub_lt (Nat.two_pow_pos _) Nat.one_pos
  rw [raised, BitVec.toNat_or, toNat_network, low, Nat.mul_comm, ← Nat.two_pow_add_eq_or_of_lt below]

/-- An address lies in a block exactly when it has the block's prefix. -/
theorem contains_iff {addr other : BitVec w} {prefixLen : Nat} (fits : prefixLen ≤ w) :
    contains addr prefixLen other = true ↔ SamePrefix prefixLen addr other := by
  rw [contains, Bool.and_eq_true, decide_eq_true_eq, decide_eq_true_eq, BitVec.le_def, BitVec.le_def, toNat_network,
    toNat_broadcast addr fits, SamePrefix]
  have pos : 0 < 2 ^ (w - prefixLen) := Nat.two_pow_pos _
  generalize 2 ^ (w - prefixLen) = unit at pos
  have split := Nat.div_add_mod other.toNat unit
  have small := Nat.mod_lt other.toNat pos
  rw [Nat.mul_comm] at split
  constructor
  · rintro ⟨above, below⟩
    apply Nat.le_antisymm
    · exact (Nat.le_div_iff_mul_le pos).mpr above
    · exact Nat.lt_succ_iff.mp ((Nat.div_lt_iff_lt_mul pos).mpr (by rw [Nat.succ_mul]; omega))
  · intro same
    rw [same]
    omega

end AddressBlock
