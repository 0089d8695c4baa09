import Mathlib.Data.List.TakeWhile

universe u

namespace InTurn

variable {C : Type u}

/-- Those asked when candidates are asked in turn until one settles the matter. -/
def asked (settles : C → Bool) : List C → List C
  | [] => []
  | candidate :: rest => if settles candidate then [candidate] else candidate :: asked settles rest

variable {settles : C → Bool}

theorem asked_prefix (candidates : List C) : asked settles candidates <+: candidates := by
  induction candidates with
  | nil => exact List.nil_prefix
  | cons candidate rest ih =>
    rw [asked]
    split
    · exact List.prefix_append [candidate] rest
    · exact List.cons_prefix_cons.mpr ⟨rfl, ih⟩

/-- More candidates behind do not change who is asked before them. -/
theorem asked_append_prefix (front behind : List C) : asked settles front <+: asked settles (front ++ behind) := by
  induction front with
  | nil => exact List.nil_prefix
  | cons candidate rest ih =>
    rw [List.cons_append, asked, asked]
    split
    · exact List.prefix_rfl
    · exact List.cons_prefix_cons.mpr ⟨rfl, ih⟩

theorem asked_ne_nil {candidates : List C} (nonempty : candidates ≠ []) : asked settles candidates ≠ [] := by
  obtain ⟨candidate, rest, rfl⟩ := List.exists_cons_of_ne_nil nonempty
  rw [asked]
  split <;> exact List.cons_ne_nil _ _

/-- Nobody asked before the last one has settled the matter. -/
theorem asked_split {candidates : List C} (nonempty : candidates ≠ []) :
    ∃ front last, asked settles candidates = front ++ [last] ∧ ∀ other ∈ front, settles other = false := by
  induction candidates with
  | nil => exact absurd rfl nonempty
  | cons candidate rest ih =>
    by_cases stops : settles candidate = true ∨ rest = []
    · refine ⟨[], candidate, ?_, fun other member => absurd member List.not_mem_nil⟩
      rcases stops with settled | rfl
      · rw [asked, if_pos settled, List.nil_append]
      · rw [asked]
        split <;> rfl
    · rw [not_or] at stops
      obtain ⟨front, last, same, unsettled⟩ := ih stops.2
      refine ⟨candidate :: front, last, ?_, List.forall_mem_cons.mpr ⟨Bool.eq_false_iff.mpr stops.1, unsettled⟩⟩
      rw [asked, if_neg stops.1, same, List.cons_append]

/-- Where nobody asked settles the matter, everybody is asked. -/
theorem asked_eq_self {candidates : List C} (unsettled : ∀ other ∈ asked settles candidates, settles other = false) :
    asked settles candidates = candidates := by
  induction candidates with
  | nil => rfl
  | cons first rest ih =>
    have goesOn : ¬ settles first = true := by
      intro settled
      have alone : first ∈ asked settles (first :: rest) := by simp [asked, settled]
      exact Bool.false_ne_true ((unsettled first alone).symm.trans settled)
    rw [asked, if_neg goesOn] at unsettled ⊢
    rw [ih fun other member => unsettled other (List.mem_cons_of_mem _ member)]

/-- Behind one that settles the matter nobody is asked. -/
theorem asked_append_settled {front behind : List C} {last : C} (settled : settles last = true) :
    asked settles (front ++ last :: behind) = asked settles (front ++ [last]) := by
  induction front with
  | nil => simp only [List.nil_append, asked, settled, if_true]
  | cons first rest ih => simp only [List.cons_append, asked, ih]

variable {candidate : C}

theorem getLast_asked_cons {first : C} {rest : List C} (nonempty : rest ≠ []) (unsettled : ¬ settles first = true) :
    (asked settles (first :: rest)).getLast? = (asked settles rest).getLast? := by
  rw [asked, if_neg unsettled, List.getLast?_cons, List.getLast?_eq_some_getLast (asked_ne_nil nonempty)]
  rfl

/-- Where somebody settles the matter, the last one asked does. -/
theorem settles_of_getLast_asked (settles : C → Bool) {candidates : List C} {last : C} (listed : candidate ∈ candidates)
    (settled : settles candidate = true) (atLast : (asked settles candidates).getLast? = some last) :
    settles last = true := by
  induction candidates with
  | nil => exact absurd listed List.not_mem_nil
  | cons first rest ih =>
    by_cases stops : settles first = true
    · rw [asked, if_pos stops] at atLast
      rwa [← Option.some.inj atLast]
    · have listedLater : candidate ∈ rest := by
        rcases List.mem_cons.mp listed with rfl | later
        · exact absurd settled stops
        · exact later
      rw [getLast_asked_cons (List.ne_nil_of_mem listedLater) stops] at atLast
      exact ih listedLater atLast

/-- A settling candidate is the only one asked when it is the first one. -/
theorem asked_alone_iff {candidates : List C} (nonempty : candidates ≠ []) (settled : settles candidate = true) :
    (∀ other ∈ asked settles candidates, other = candidate) ↔ candidates.head? = some candidate := by
  obtain ⟨first, rest, rfl⟩ := List.exists_cons_of_ne_nil nonempty
  rw [List.head?_cons, Option.some_inj]
  constructor
  · intro alone
    refine alone first ?_
    rw [asked]
    split <;> exact List.mem_cons_self
  · rintro rfl other called
    rw [asked, if_pos settled] at called
    exact List.mem_singleton.mp called

variable [DecidableEq C]

/-- A settling candidate is reached last when nobody before it settles the matter. -/
theorem asked_eq {candidates : List C} (listed : candidate ∈ candidates) (settled : settles candidate = true)
    (clear : ∀ other ∈ candidates.takeWhile (· ≠ candidate), settles other = false) :
    asked settles candidates = candidates.takeWhile (· ≠ candidate) ++ [candidate] := by
  induction candidates with
  | nil => exact absurd listed List.not_mem_nil
  | cons first rest ih =>
    by_cases same : first = candidate
    · subst same
      rw [asked, if_pos settled, List.takeWhile_cons_of_neg (by simp), List.nil_append]
    · have listedLater : candidate ∈ rest := (List.mem_cons.mp listed).resolve_left (Ne.symm same)
      rw [List.takeWhile_cons_of_pos (by simpa using same)] at clear ⊢
      have unsettled : ¬ settles first = true := by
        rw [clear first List.mem_cons_self]
        exact Bool.false_ne_true
      have later := ih listedLater fun other before => clear other (List.mem_cons_of_mem _ before)
      rw [asked, if_neg unsettled, later, List.cons_append]

theorem getLast_asked_iff {candidates : List C} (listed : candidate ∈ candidates)
    (settled : settles candidate = true) :
    (asked settles candidates).getLast? = some candidate ↔
      ∀ other ∈ candidates.takeWhile (· ≠ candidate), settles other = false := by
  constructor
  · induction candidates with
    | nil => exact absurd listed List.not_mem_nil
    | cons first rest ih =>
      intro last other before
      by_cases same : first = candidate
      · rw [List.takeWhile_cons_of_neg (by simpa using same)] at before
        exact absurd before List.not_mem_nil
      · have listedLater : candidate ∈ rest := (List.mem_cons.mp listed).resolve_left (Ne.symm same)
        by_cases stops : settles first = true
        · rw [asked, if_pos stops] at last
          exact absurd (Option.some.inj last) same
        · rw [getLast_asked_cons (List.ne_nil_of_mem listedLater) stops] at last
          rw [List.takeWhile_cons_of_pos (by simpa using same)] at before
          rcases List.mem_cons.mp before with rfl | later
          · exact Bool.eq_false_iff.mpr stops
          · exact ih listedLater last other later
  · intro clear
    rw [asked_eq listed settled clear, List.getLast?_append]
    rfl

end InTurn
