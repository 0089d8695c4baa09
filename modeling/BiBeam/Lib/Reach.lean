import Mathlib.Data.List.Basic

universe u v w

variable {σ : Type u} {α : Type v} {τ : Type w}

/-- Finite runs of a labelled transition relation, with the labels taken, oldest first. -/
inductive Reach (step : σ → α → σ → Prop) (init : σ) : List α → σ → Prop
  | start : Reach step init [] init
  | next {labels s a t} : Reach step init labels s → step s a t → Reach step init (labels ++ [a]) t

namespace Reach

variable {step : σ → α → σ → Prop} {init : σ}

/-- An invariant of the states, under which every step carries a good label,
holds after every run, and all labels of the run are good. -/
theorem invariant {I : σ → Prop} {L : α → Prop} {labels : List α} {s : σ} (reach : Reach step init labels s)
    (atStart : I init) (kept : ∀ s a t, I s → step s a t → I t ∧ L a) : I s ∧ ∀ a ∈ labels, L a := by
  induction reach with
  | start => exact ⟨atStart, fun a member => absurd member List.not_mem_nil⟩
  | next _ stepped ih =>
    obtain ⟨holds, good⟩ := ih
    obtain ⟨next, last⟩ := kept _ _ _ holds stepped
    refine ⟨next, fun a member => ?_⟩
    rcases List.mem_append.mp member with earlier | here
    · exact good a earlier
    · rwa [List.mem_singleton.mp here]

/-- A relation with more steps has more runs. -/
theorem mono {larger : σ → α → σ → Prop} {labels : List α} {s : σ} (reach : Reach step init labels s)
    (within : ∀ s a t, step s a t → larger s a t) : Reach larger init labels s := by
  induction reach with
  | start => exact .start
  | next _ stepped ih => exact ih.next (within _ _ _ stepped)

/-- Runs compose. -/
theorem trans {first second : List α} {s t : σ} (before : Reach step init first s)
    (after : Reach step s second t) : Reach step init (first ++ second) t := by
  induction after with
  | start => rwa [List.append_nil]
  | next _ stepped ih =>
    rw [← List.append_assoc]
    exact ih.next stepped

/-- A run of two parts passes through a state between them. -/
theorem split {first second : List α} {t : σ} (run : Reach step init (first ++ second) t) :
    ∃ s, Reach step init first s ∧ Reach step s second t := by
  generalize whole : first ++ second = labels at run
  induction run generalizing second with
  | start =>
    obtain ⟨rfl, rfl⟩ := List.append_eq_nil_iff.mp whole
    exact ⟨init, .start, .start⟩
  | @next labels s a t before stepped ih =>
    obtain rfl | ⟨front, last, rfl⟩ := List.eq_nil_or_concat' second
    · rw [List.append_nil] at whole
      exact ⟨t, whole ▸ before.next stepped, .start⟩
    · rw [← List.append_assoc] at whole
      obtain ⟨same, rfl⟩ := List.append_inj' whole rfl |>.imp_right List.singleton_inj.mp
      obtain ⟨middle, early, late⟩ := ih same
      exact ⟨middle, early, late.next stepped⟩

theorem single {a : α} {t : σ} (stepped : step init a t) : Reach step init [a] t :=
  Reach.start.next stepped

theorem eq_of_nil {s : σ} (run : Reach step init [] s) : s = init := by
  generalize none : [] = labels at run
  cases run with
  | start => rfl
  | next => exact absurd none.symm (List.append_ne_nil_of_right_ne_nil _ (List.cons_ne_nil _ _))

/-- The first step of a run. -/
theorem uncons {a : α} {labels : List α} {t : σ} (run : Reach step init (a :: labels) t) :
    ∃ s, step init a s ∧ Reach step s labels t := by
  have whole : Reach step init ([a] ++ labels) t := run
  obtain ⟨s, first, rest⟩ := whole.split
  generalize one : [a] = taken at first
  cases first with
  | start => exact absurd one (List.cons_ne_nil _ _)
  | next before stepped =>
    obtain ⟨none, same⟩ := List.append_inj' ((List.nil_append [a]).trans one) rfl
    rw [← none] at before
    rw [before.eq_of_nil, ← List.singleton_inj.mp same] at stepped
    exact ⟨s, stepped, rest⟩

/-- The step that a label of a run was taken by. -/
theorem step_at {before after : List α} {a : α} {t : σ} (run : Reach step init (before ++ a :: after) t) :
    ∃ s s', Reach step init before s ∧ step s a s' ∧ Reach step s' after t := by
  obtain ⟨s, early, late⟩ := run.split
  obtain ⟨s', stepped, rest⟩ := late.uncons
  exact ⟨s, s', early, stepped, rest⟩

/-- If every step is matched by the steps of another system that its label
names, then so is every run. -/
theorem simulate {σ' : Type u} {α' : Type v} {step' : σ' → α' → σ' → Prop} {init' : σ'} {R : σ → σ' → Prop}
    {named : α → List α'} {labels : List α} {s : σ} (reach : Reach step init labels s) (atStart : R init init')
    (matched : ∀ s a t s', R s s' → step s a t → ∃ t', R t t' ∧ Reach step' s' (named a) t') :
    ∃ s', R s s' ∧ Reach step' init' (labels.flatMap named) s' := by
  induction reach with
  | start => exact ⟨init', atStart, .start⟩
  | @next labels s a t _ stepped ih =>
    obtain ⟨s', related, run⟩ := ih
    obtain ⟨t', next, more⟩ := matched s a t s' related stepped
    refine ⟨t', next, ?_⟩
    rw [List.flatMap_append, List.flatMap_singleton]
    exact run.trans more

/-- A projection of the labels after one more step. -/
theorem filterMap_snoc (named : α → Option τ) (labels : List α) (a : α) :
    (labels ++ [a]).filterMap named = labels.filterMap named ++ (named a).toList := by
  rw [List.filterMap_append]
  cases here : named a <;> simp [here]

/-- What is projected out of the labels only once stands at one place. -/
theorem place_unique {named : α → Option τ} {front front' back back' : List α} {a b : α} {value : τ}
    (same : front ++ a :: back = front' ++ b :: back') (once : ((front ++ a :: back).filterMap named).Nodup)
    (left : named a = some value) (right : named b = some value) : front = front' ∧ a = b ∧ back = back' := by
  have twice : ∀ {early between late : List α} {x y : α}, named x = some value → named y = some value →
      ¬ ((early ++ x :: (between ++ y :: late)).filterMap named).Nodup := by
    intro early between late x y atX atY apart
    rw [List.filterMap_append, List.filterMap_cons_some atX] at apart
    have inside : value ∈ (between ++ y :: late).filterMap named :=
      List.mem_filterMap.mpr ⟨y, List.mem_append_right _ List.mem_cons_self, atY⟩
    exact (List.nodup_cons.mp (List.nodup_append.mp apart).2.1).1 inside
  rcases List.append_eq_append_iff.mp same with ⟨between, rfl, parts⟩ | ⟨between, rfl, parts⟩
  · cases between with
    | nil =>
      obtain ⟨rfl, rfl⟩ := List.cons.inj parts
      exact ⟨(List.append_nil _).symm, rfl, rfl⟩
    | cons c between =>
      obtain ⟨rfl, rfl⟩ := List.cons.inj parts
      exact absurd once (twice left right)
  · cases between with
    | nil =>
      obtain ⟨rfl, rfl⟩ := List.cons.inj parts
      exact ⟨List.append_nil _, rfl, rfl⟩
    | cons c between =>
      obtain ⟨rfl, rfl⟩ := List.cons.inj parts
      rw [List.append_assoc, List.cons_append] at once
      exact absurd once (twice right left)

end Reach
