import Mathlib.Algebra.BigOperators.Group.List.Basic
import Mathlib.Tactic.Ring

namespace OnesComplement

section Sums

variable (top : Nat)

/-- Addition of words up to `top` in which a carry out is added back. -/
def add (left right : Nat) : Nat :=
  if left + right ≤ top then left + right else left + right - top

/-- The sum of words, one after the other. -/
def sum (start : Nat) (words : List Nat) : Nat :=
  words.foldl (add top) start

variable {top}

theorem add_mod (left right : Nat) : add top left right % top = (left + right) % top := by
  unfold add
  split
  · rfl
  · rename_i carries
    exact (Nat.mod_eq_sub_mod (by omega)).symm

theorem add_le {left right : Nat} (leftWord : left ≤ top) (rightWord : right ≤ top) : add top left right ≤ top := by
  unfold add
  split <;> omega

theorem add_eq_zero_iff {left right : Nat} : add top left right = 0 ↔ left + right = 0 := by
  unfold add
  split <;> omega

theorem sum_mod (start : Nat) (words : List Nat) : sum top start words % top = (start + words.sum) % top := by
  induction words generalizing start with
  | nil => rfl
  | cons word words ih =>
    rw [sum, List.foldl_cons, ← sum, ih, List.sum_cons, ← Nat.add_assoc, Nat.add_mod, add_mod, ← Nat.add_mod]

theorem sum_le {start : Nat} {words : List Nat} (startWord : start ≤ top) (bounded : ∀ word ∈ words, word ≤ top) :
    sum top start words ≤ top := by
  induction words generalizing start with
  | nil => exact startWord
  | cons word words ih =>
    rw [List.forall_mem_cons] at bounded
    exact ih (add_le startWord bounded.1) bounded.2

theorem sum_eq_zero_iff {start : Nat} {words : List Nat} : sum top start words = 0 ↔ start + words.sum = 0 := by
  induction words generalizing start with
  | nil => rfl
  | cons word words ih =>
    rw [sum, List.foldl_cons, ← sum, ih, List.sum_cons]
    have here := @add_eq_zero_iff top start word
    omega

/-- The words sum to the all-ones word exactly when their sum is a positive
multiple of it. -/
theorem sum_eq_top_iff {start : Nat} {words : List Nat} (startWord : start ≤ top)
    (bounded : ∀ word ∈ words, word ≤ top) (positive : start + words.sum ≠ 0) :
    sum top start words = top ↔ (start + words.sum) % top = 0 := by
  have inside := sum_le startWord bounded
  have same := @sum_mod top start words
  have nonzero : sum top start words ≠ 0 := fun zero => positive (sum_eq_zero_iff.mp zero)
  rw [← same]
  constructor
  · intro full
    rw [full, Nat.mod_self]
  · intro multiple
    obtain ⟨factor, product⟩ := Nat.dvd_of_mod_eq_zero multiple
    have one : factor = 1 := by
      rcases factor with _ | _ | factor
      · omega
      · rfl
      · rw [Nat.mul_add, Nat.mul_add] at product
        omega
    rw [product, one, Nat.mul_one]

end Sums

/-- The sixteen-bit words of a byte string, padded with a zero byte. -/
def words : List UInt8 → List Nat
  | [] => []
  | [high] => [256 * high.toNat]
  | high :: low :: rest => (256 * high.toNat + low.toNat) :: words rest

/-- What a byte at an index counts for in its word. -/
def weight (i : Nat) : Nat :=
  if i % 2 = 0 then 256 else 1

theorem weight_of_even {i : Nat} (even : i % 2 = 0) : weight i = 256 :=
  if_pos even

theorem weight_of_odd {i : Nat} (odd : i % 2 = 1) : weight i = 1 :=
  if_neg (by omega)

theorem words_le (bytes : List UInt8) : ∀ word ∈ words bytes, word ≤ 65535 := by
  induction bytes using words.induct with
  | case1 => exact fun word member => absurd member List.not_mem_nil
  | case2 high =>
    have small := high.toNat_lt
    rw [words, List.forall_mem_singleton]
    omega
  | case3 high low rest ih =>
    have small := high.toNat_lt
    have smallLow := low.toNat_lt
    rw [words, List.forall_mem_cons]
    exact ⟨by omega, ih⟩

/-- What the sum of the words gains when one byte is replaced. -/
theorem sum_words_set (bytes : List UInt8) {i : Nat} (byte : UInt8) (inside : i < bytes.length) :
    (words (bytes.set i byte)).sum + weight i * (bytes.getD i 0).toNat =
      (words bytes).sum + weight i * byte.toNat := by
  induction bytes using words.induct generalizing i with
  | case1 => exact absurd inside (Nat.not_lt_zero i)
  | case2 high =>
    obtain rfl : i = 0 := by
      rw [List.length_singleton] at inside
      omega
    rw [weight_of_even rfl]
    simp only [List.set_cons_zero, words, List.sum_singleton, List.getD_cons_zero]
    omega
  | case3 high low rest ih =>
    rcases i with _ | _ | i
    · rw [weight_of_even rfl]
      simp only [List.set_cons_zero, words, List.sum_cons, List.getD_cons_zero]
      omega
    · rw [weight_of_odd rfl]
      simp only [List.set_cons_succ, List.set_cons_zero, words, List.sum_cons, List.getD_cons_succ,
        List.getD_cons_zero]
      omega
    · have later := @ih i (by
        rw [List.length_cons, List.length_cons] at inside
        omega)
      have same : weight (i + 1 + 1) = weight i := by
        rcases Nat.mod_two_eq_zero_or_one i with even | odd
        · rw [weight_of_even even, weight_of_even (by omega)]
        · rw [weight_of_odd odd, weight_of_odd (by omega)]
      simp only [List.set_cons_succ, words, List.sum_cons, List.getD_cons_succ, same]
      omega

theorem weight_mul_le (bytes : List UInt8) {i : Nat} (inside : i < bytes.length) :
    weight i * (bytes.getD i 0).toNat ≤ (words bytes).sum := by
  have emptied := sum_words_set bytes 0 inside
  rw [UInt8.toNat_zero, Nat.mul_zero, Nat.add_zero] at emptied
  omega

end OnesComplement
