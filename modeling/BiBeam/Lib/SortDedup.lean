import Mathlib.Data.List.Sort
import Mathlib.Data.List.Destutter

universe u

variable {α : Type u} [DecidableEq α]

/-- Sort, then drop adjacent repetitions. -/
def sortDedup (le : α → α → Prop) [DecidableRel le] (items : List α) : List α :=
  (items.insertionSort le).destutter (· ≠ ·)

namespace SortDedup

variable {le : α → α → Prop} [DecidableRel le] [Std.Total le] [IsTrans α le] [Std.Antisymm le]

theorem eq_dedup (items : List α) : sortDedup le items = (items.insertionSort le).dedup :=
  (List.pairwise_insertionSort le items).destutter_eq_dedup

/-- No item is lost. -/
theorem mem {items : List α} {item : α} : item ∈ sortDedup le items ↔ item ∈ items := by
  rw [eq_dedup, List.mem_dedup, List.mem_insertionSort]

theorem nodup (items : List α) : (sortDedup le items).Nodup := by
  rw [eq_dedup]
  exact List.nodup_dedup _

omit [Std.Antisymm le] in
theorem sorted (items : List α) : (sortDedup le items).Pairwise le :=
  (List.pairwise_insertionSort le items).sublist (List.destutter_sublist (· ≠ ·) _)

end SortDedup
