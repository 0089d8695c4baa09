import Mathlib.Data.List.Infix

universe u

namespace Streak

variable {α : Type u} {P : α → Prop} {front behind stretch : List α}

/-- A stretch that begins where something breaks it is empty. -/
theorem eq_nil_of_front (breaks : ∀ a ∈ front, ¬P a) (nonempty : front ≠ []) (all : ∀ a ∈ stretch, P a)
    (begins : stretch <+: front ++ behind) : stretch = [] := by
  cases stretch with
  | nil => rfl
  | cons a rest =>
    cases front with
    | nil => exact absurd rfl nonempty
    | cons b front =>
      obtain ⟨rfl, _⟩ := List.cons_prefix_cons.mp begins
      exact absurd (all a List.mem_cons_self) (breaks a List.mem_cons_self)

/-- A stretch lies behind everything that breaks it. -/
theorem infix_of_append (breaks : ∀ a ∈ front, ¬P a) (all : ∀ a ∈ stretch, P a)
    (within : stretch <:+: front ++ behind) : stretch <:+: behind := by
  induction front with
  | nil => exact within
  | cons b front ih =>
    rcases List.infix_cons_iff.mp within with begins | later
    · rw [eq_nil_of_front breaks (List.cons_ne_nil _ _) all begins]
      exact List.nil_infix
    · exact ih (fun a member => breaks a (List.mem_cons_of_mem _ member)) later

theorem eq_nil_of_subset (breaks : ∀ a ∈ front, ¬P a) (all : ∀ a ∈ stretch, P a) (within : stretch ⊆ front) :
    stretch = [] :=
  List.eq_nil_iff_forall_not_mem.mpr fun a member => breaks a (within member) (all a member)

end Streak
