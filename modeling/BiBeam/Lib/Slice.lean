import Mathlib.Data.List.Basic

universe u

namespace Slice

variable {α : Type u}

/-- The stretch from `start` up to `stop`; nothing when it does not lie inside. -/
def get (whole : List α) (start stop : Nat) : Option (List α) :=
  if start ≤ stop ∧ stop ≤ whole.length then some ((whole.drop start).take (stop - start)) else none

variable {whole middle : List α} {start stop : Nat}

theorem get_eq_some_iff : get whole start stop = some middle ↔
    ∃ front back, whole = front ++ (middle ++ back) ∧ front.length = start ∧ stop = start + middle.length := by
  unfold get
  constructor
  · intro got
    split at got
    · rename_i inside
      have taken := Option.some.inj got
      refine ⟨whole.take start, (whole.drop start).drop (stop - start), ?_, ?_, ?_⟩
      · rw [← taken, List.take_append_drop, List.take_append_drop]
      · rw [List.length_take]
        omega
      · rw [← taken, List.length_take, List.length_drop]
        omega
    · cases got
  · rintro ⟨front, back, rfl, rfl, rfl⟩
    rw [if_pos, List.drop_left, Nat.add_sub_cancel_left, List.take_left]
    simp only [List.length_append]
    omega

/-- A stretch between what stands before and after it. -/
theorem get_append (front middle back : List α) :
    get (front ++ (middle ++ back)) front.length (front.length + middle.length) = some middle :=
  get_eq_some_iff.mpr ⟨front, back, rfl, rfl, rfl⟩

theorem exists_get (ordered : start ≤ stop) (inside : stop ≤ whole.length) :
    ∃ middle, get whole start stop = some middle ∧ middle.length = stop - start := by
  refine ⟨_, if_pos ⟨ordered, inside⟩, ?_⟩
  rw [List.length_take, List.length_drop]
  omega

theorem get_whole (whole : List α) : get whole 0 whole.length = some whole :=
  get_eq_some_iff.mpr ⟨[], [], by simp⟩

/-- Two stretches that meet are one. -/
theorem get_trans {first second : List α} {mid : Nat} (before : get whole start mid = some first)
    (after : get whole mid stop = some second) : get whole start stop = some (first ++ second) := by
  obtain ⟨front, back, split, place, stops⟩ := get_eq_some_iff.mp before
  obtain ⟨front', back', split', place', stops'⟩ := get_eq_some_iff.mp after
  have same : (front ++ first) ++ back = front' ++ (second ++ back') := by
    rw [List.append_assoc, ← split, split']
  have meets : front ++ first = front' := List.append_inj_left same (by rw [List.length_append]; omega)
  refine get_eq_some_iff.mpr ⟨front, back', ?_, place, ?_⟩
  · rw [split', ← meets]
    simp only [List.append_assoc]
  · rw [List.length_append]
    omega

end Slice
