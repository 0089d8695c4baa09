import Mathlib.Data.List.Induction
import Mathlib.Tactic.Ring

namespace BigEndian

/-- The number a byte string spells, most significant byte first. -/
def value (bytes : List UInt8) : Nat :=
  bytes.foldl (fun high byte => 256 * high + byte.toNat) 0

/-- The low `width` bytes of a number, most significant first. -/
def bytes : Nat → Nat → List UInt8
  | 0, _ => []
  | width + 1, n => bytes width (n / 256) ++ [UInt8.ofNat n]

@[simp] theorem length_bytes (width n : Nat) : (bytes width n).length = width := by
  induction width generalizing n with
  | zero => rfl
  | succ width ih => simp [bytes, ih]

theorem value_concat (high : List UInt8) (low : UInt8) :
    value (high ++ [low]) = 256 * value high + low.toNat := by
  simp [value, List.foldl_append]

theorem value_lt (digits : List UInt8) : value digits < 256 ^ digits.length := by
  induction digits using List.reverseRecOn with
  | nil => decide
  | append_singleton high low ih =>
    have small := low.toNat_lt
    rw [value_concat, List.length_append, List.length_singleton, Nat.pow_succ]
    omega

theorem value_cons (digit : UInt8) (digits : List UInt8) :
    value (digit :: digits) = digit.toNat * 256 ^ digits.length + value digits := by
  induction digits using List.reverseRecOn with
  | nil => simp [value]
  | append_singleton high low ih =>
    rw [← List.cons_append, value_concat, value_concat, ih, List.length_append, List.length_singleton, Nat.pow_succ]
    ring

/-- Strings of one length are in the order of the numbers they spell. -/
theorem lt_iff_value_lt {digits others : List UInt8} (same : digits.length = others.length) :
    digits < others ↔ value digits < value others := by
  induction digits generalizing others with
  | nil =>
    rw [List.eq_nil_of_length_eq_zero same.symm]
    simp
  | cons digit digits ih =>
    cases others with
    | nil => cases same
    | cons other others =>
      have lengths : digits.length = others.length := Nat.succ_inj.mp same
      have small := value_lt digits
      have less := value_lt others
      rw [List.cons_lt_cons_iff, ih lengths, value_cons, value_cons, UInt8.lt_iff_toNat_lt, ← UInt8.toNat_inj]
      rw [lengths] at small ⊢
      generalize 256 ^ others.length = unit at small less
      constructor
      · rintro (above | ⟨level, below⟩)
        · have more : (digit.toNat + 1) * unit ≤ other.toNat * unit := Nat.mul_le_mul_right unit above
          rw [Nat.add_mul] at more
          omega
        · rw [level]
          omega
      · intro below
        rcases Nat.lt_trichotomy digit.toNat other.toNat with above | level | under
        · exact Or.inl above
        · rw [level] at below
          exact Or.inr ⟨level, by omega⟩
        · have more : (other.toNat + 1) * unit ≤ digit.toNat * unit := Nat.mul_le_mul_right unit under
          rw [Nat.add_mul] at more
          omega

/-- Reading back what was written gives the number modulo the width. -/
theorem value_bytes (width n : Nat) : value (bytes width n) = n % 256 ^ width := by
  induction width generalizing n with
  | zero => simp [bytes, value, Nat.mod_one]
  | succ width ih =>
    have split : n % 256 ^ (width + 1) = n % 256 + 256 * (n / 256 % 256 ^ width) := by
      rw [Nat.pow_succ, Nat.mul_comm (256 ^ width) 256, Nat.mod_mul]
    rw [bytes, value_concat, ih, UInt8.toNat_ofNat', split]
    omega

/-- Writing back what was read gives the same bytes. -/
theorem bytes_value (digits : List UInt8) : bytes digits.length (value digits) = digits := by
  induction digits using List.reverseRecOn with
  | nil => rfl
  | append_singleton high low ih =>
    have small := low.toNat_lt
    have quotient : (256 * value high + low.toNat) / 256 = value high := by omega
    rw [List.length_append, List.length_singleton, bytes, value_concat, quotient, ih]
    congr 2
    apply UInt8.toNat_inj.mp
    rw [UInt8.toNat_ofNat']
    omega

end BigEndian
