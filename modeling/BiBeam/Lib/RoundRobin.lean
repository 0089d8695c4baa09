import Mathlib.Data.Nat.ModEq
import Mathlib.Data.List.Nodup

namespace RoundRobin

/-- The position whose turn it is, some turns after the start, among `n` in a circle. -/
def turn (n start offset : Nat) : Nat :=
  (start + offset) % n

variable {n start : Nat}

/-- Within one round no position has its turn twice. -/
theorem turn_ne {first second : Nat} (later : first < second) (round : second < first + n) :
    turn n start first ≠ turn n start second := by
  intro same
  have congruent : first ≡ second [MOD n] := Nat.ModEq.add_left_cancel' start same
  have multiple : n ∣ second - first := (Nat.modEq_iff_dvd' later.le).mp congruent
  have reaches := Nat.le_of_dvd (by omega) multiple
  omega

theorem nodup_turns {count : Nat} (round : count ≤ n) : ((List.range count).map (turn n start)).Nodup := by
  rw [List.Nodup, List.pairwise_map, List.pairwise_iff_getElem]
  intro first second inside bound later
  rw [List.length_range] at bound
  rw [List.getElem_range, List.getElem_range]
  exact turn_ne later (by omega)

/-- Where the turns are taken one after the other, any `n` consecutive ones
fall to different positions. -/
theorem nodup_window {turns : List Nat}
    (inTurn : ∀ i (inside : i < turns.length), turns[i] = turn n start i) (first : Nat) :
    ((turns.drop first).take n).Nodup := by
  rw [List.Nodup, List.pairwise_iff_getElem]
  intro i j inside bound later
  simp only [List.length_take, List.length_drop] at inside bound
  rw [List.getElem_take, List.getElem_take, List.getElem_drop, List.getElem_drop,
    inTurn _ (by omega), inTurn _ (by omega)]
  exact turn_ne (by omega) (by omega)

end RoundRobin
