import Mathlib.Data.UInt

/-- Subtraction that stops at zero. -/
def UInt32.saturatingSub (a b : UInt32) : UInt32 :=
  if a < b then 0 else a - b

/-- Addition that stops at the largest value. -/
def UInt32.saturatingAdd (a b : UInt32) : UInt32 :=
  if 2 ^ 32 ≤ a.toNat + b.toNat then UInt32.ofNat (2 ^ 32 - 1) else a + b

def UInt64.saturatingSub (a b : UInt64) : UInt64 :=
  if a < b then 0 else a - b

@[simp] theorem UInt32.toNat_saturatingSub (a b : UInt32) : (a.saturatingSub b).toNat = a.toNat - b.toNat := by
  unfold saturatingSub
  split
  · rename_i below
    have small := UInt32.lt_iff_toNat_lt.mp below
    change 0 = _
    omega
  · rename_i enough
    exact UInt32.toNat_sub_of_le a b (UInt32.not_lt.mp enough)

@[simp] theorem UInt32.toNat_saturatingAdd (a b : UInt32) :
    (a.saturatingAdd b).toNat = min (a.toNat + b.toNat) (2 ^ 32 - 1) := by
  unfold saturatingAdd
  split
  · rename_i wraps
    rw [Nat.min_eq_right (by omega)]
    rfl
  · rename_i fits
    rw [UInt32.toNat_add, Nat.mod_eq_of_lt (by omega)]
    omega

@[simp] theorem UInt64.toNat_saturatingSub (a b : UInt64) : (a.saturatingSub b).toNat = a.toNat - b.toNat := by
  unfold saturatingSub
  split
  · rename_i below
    have small := UInt64.lt_iff_toNat_lt.mp below
    change 0 = _
    omega
  · rename_i enough
    exact UInt64.toNat_sub_of_le a b (UInt64.not_lt.mp enough)

def UInt64.saturatingAdd (a b : UInt64) : UInt64 :=
  if 2 ^ 64 ≤ a.toNat + b.toNat then UInt64.ofNat (2 ^ 64 - 1) else a + b

@[simp] theorem UInt64.toNat_saturatingAdd (a b : UInt64) :
    (a.saturatingAdd b).toNat = min (a.toNat + b.toNat) (2 ^ 64 - 1) := by
  unfold saturatingAdd
  split
  · rename_i wraps
    rw [Nat.min_eq_right (by omega)]
    rfl
  · rename_i fits
    rw [UInt64.toNat_add, Nat.mod_eq_of_lt (by omega)]
    omega
