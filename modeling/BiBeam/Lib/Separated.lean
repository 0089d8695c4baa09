import Mathlib.Data.List.Basic

universe u v

namespace List

variable {α : Type u} {β : Type v}

theorem intercalate_eq_flatMap (sep first : List α) (rest : List (List α)) :
    sep.intercalate (first :: rest) = first ++ rest.flatMap (sep ++ ·) := by
  induction rest generalizing first with
  | nil => rw [intercalate_singleton, flatMap_nil, append_nil]
  | cons second rest ih =>
    calc sep.intercalate (first :: second :: rest)
        = first ++ sep ++ sep.intercalate (second :: rest) := intercalate_cons_cons
      _ = first ++ sep ++ (second ++ rest.flatMap (sep ++ ·)) := by rw [ih second]
      _ = first ++ (second :: rest).flatMap (sep ++ ·) := by simp only [flatMap_cons, append_assoc]

theorem flatMap_intercalate (write : α → List β) (sep : List α) (lists : List (List α)) :
    (sep.intercalate lists).flatMap write = (sep.flatMap write).intercalate (lists.map (flatMap write)) := by
  cases lists with
  | nil => rfl
  | cons first rest =>
    rw [map_cons, intercalate_eq_flatMap, intercalate_eq_flatMap, flatMap_append, flatMap_assoc, flatMap_map]
    simp only [flatMap_append]

theorem forall_mem_intercalate {good : α → Prop} {sep : List α} {lists : List (List α)}
    (between : ∀ a ∈ sep, good a) (inside : ∀ list ∈ lists, ∀ a ∈ list, good a) :
    ∀ a ∈ sep.intercalate lists, good a := by
  cases lists with
  | nil => exact fun _ member => absurd member not_mem_nil
  | cons first rest =>
    intro a member
    rw [intercalate_eq_flatMap, mem_append, mem_flatMap] at member
    rcases member with front | ⟨list, behind, member⟩
    · exact inside first mem_cons_self a front
    · rcases mem_append.mp member with mark | member
      · exact between a mark
      · exact inside list (mem_cons_of_mem _ behind) a member

theorem filter_intercalate (keep : α → Bool) (sep : List α) (lists : List (List α)) :
    (sep.intercalate lists).filter keep = (sep.filter keep).intercalate (lists.map (filter keep)) := by
  cases lists with
  | nil => rfl
  | cons first rest =>
    rw [map_cons, intercalate_eq_flatMap, intercalate_eq_flatMap, filter_append, filter_flatMap, flatMap_map]
    simp only [filter_append]

/-- What tells the elements apart tells the lists apart. -/
theorem map_eq_of_tells {γ : Type*} {f : α → β} {g : α → γ} (tells : ∀ a b, f a = f b → g a = g b) {left right : List α}
    (same : left.map f = right.map f) : left.map g = right.map g := by
  induction left generalizing right with
  | nil =>
    rw [map_eq_nil_iff.mp same.symm]
  | cons a left ih =>
    obtain ⟨b, rest, rfl, first, behind⟩ := map_eq_cons_iff.mp same.symm
    rw [map_cons, map_cons, tells a b first.symm, ih behind.symm]

/-- Without a separator the lists stand one behind the other. -/
theorem nil_intercalate (lists : List (List α)) : intercalate [] lists = lists.flatten := by
  cases lists with
  | nil => rfl
  | cons first rest =>
    rw [intercalate_eq_flatMap, flatten_cons]
    exact congrArg _ flatMap_id'

/-- Two runs of lists with one separator between them. -/
theorem intercalate_append {sep : List α} {front behind : List (List α)} (someFront : front ≠ [])
    (someBehind : behind ≠ []) :
    sep.intercalate (front ++ behind) = sep.intercalate front ++ sep ++ sep.intercalate behind := by
  obtain ⟨first, front, rfl⟩ := exists_cons_of_ne_nil someFront
  obtain ⟨second, behind, rfl⟩ := exists_cons_of_ne_nil someBehind
  rw [cons_append, intercalate_eq_flatMap, intercalate_eq_flatMap, intercalate_eq_flatMap, flatMap_append, flatMap_cons]
  simp only [append_assoc]

variable [DecidableEq α] {mark : α}

/-- Two lists that reach the mark for the first time at their ends. -/
theorem append_mark_inj {left right rest other : List α} (freeLeft : mark ∉ left) (freeRight : mark ∉ right)
    (same : left ++ mark :: rest = right ++ mark :: other) : left = right ∧ rest = other := by
  have pieces := congrArg (splitOn mark) same
  rw [splitOn_append_cons_self_of_not_mem freeLeft, splitOn_append_cons_self_of_not_mem freeRight] at pieces
  have front := (cons.inj pieces).1
  rw [front] at same
  exact ⟨front, (cons.inj (append_cancel_left same)).2⟩

/-- Lists without the mark are told apart when the mark stands between them. -/
theorem intercalate_inj {left right : List (List α)} (someLeft : left ≠ []) (someRight : right ≠ [])
    (freeLeft : ∀ list ∈ left, mark ∉ list) (freeRight : ∀ list ∈ right, mark ∉ list)
    (same : [mark].intercalate left = [mark].intercalate right) : left = right := by
  rw [← splitOn_intercalate mark freeLeft someLeft, same, splitOn_intercalate mark freeRight someRight]

/-- Lists without the mark are told apart when the mark stands in front of each. -/
theorem headed_inj {left right : List (List α)} (freeLeft : ∀ list ∈ left, mark ∉ list)
    (freeRight : ∀ list ∈ right, mark ∉ list)
    (same : left.flatMap (mark :: ·) = right.flatMap (mark :: ·)) : left = right := by
  have joined : [mark].intercalate ([] :: left) = [mark].intercalate ([] :: right) := by
    rw [intercalate_eq_flatMap, intercalate_eq_flatMap]
    exact same
  refine (cons.inj (intercalate_inj (cons_ne_nil _ _) (cons_ne_nil _ _) ?_ ?_ joined)).2
  · exact forall_mem_cons.mpr ⟨not_mem_nil, freeLeft⟩
  · exact forall_mem_cons.mpr ⟨not_mem_nil, freeRight⟩

omit [DecidableEq α] in
theorem terminated_eq_intercalate (lists : List (List α)) :
    lists.flatMap (· ++ [mark]) = [mark].intercalate (lists ++ [[]]) := by
  induction lists with
  | nil => rfl
  | cons first rest ih =>
    rw [flatMap_cons, ih, cons_append, intercalate_cons_of_ne_nil (append_ne_nil_of_right_ne_nil _ (cons_ne_nil _ _))]

/-- Lists without the mark are told apart when the mark stands behind each. -/
theorem terminated_inj {left right : List (List α)} (freeLeft : ∀ list ∈ left, mark ∉ list)
    (freeRight : ∀ list ∈ right, mark ∉ list)
    (same : left.flatMap (· ++ [mark]) = right.flatMap (· ++ [mark])) : left = right := by
  have withEnd {lists : List (List α)} (free : ∀ list ∈ lists, mark ∉ list) : ∀ list ∈ lists ++ [[]], mark ∉ list := by
    intro list member
    rcases mem_append.mp member with inside | last
    · exact free list inside
    · rw [mem_singleton.mp last]
      exact not_mem_nil
  have some (lists : List (List α)) : lists ++ [[]] ≠ [] := append_ne_nil_of_right_ne_nil _ (cons_ne_nil _ _)
  rw [terminated_eq_intercalate, terminated_eq_intercalate] at same
  exact append_cancel_right (intercalate_inj (some left) (some right) (withEnd freeLeft) (withEnd freeRight) same)

end List
