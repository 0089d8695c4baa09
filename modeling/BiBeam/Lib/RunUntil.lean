import Mathlib.Data.List.Basic

universe u v w

namespace RunUntil

variable {σ : Type u} {α : Type v} {ε : Type w}

/-- Take inputs one after the other until a step stops with a verdict. -/
def run (step : σ → α → σ × Option ε) : σ → List α → σ × Option ε
  | s, [] => (s, none)
  | s, a :: rest =>
    match (step s a).2 with
    | none => run step (step s a).1 rest
    | some verdict => ((step s a).1, some verdict)

/-- The inputs taken, with the one that stopped the run. -/
def processed (step : σ → α → σ × Option ε) : σ → List α → List α
  | _, [] => []
  | s, a :: rest =>
    match (step s a).2 with
    | none => a :: processed step (step s a).1 rest
    | some _ => [a]

variable {step : σ → α → σ × Option ε}

theorem run_cons_none {s : σ} {a : α} {rest : List α} (goes : (step s a).2 = none) :
    run step s (a :: rest) = run step (step s a).1 rest := by
  rw [run, goes]

theorem run_cons_some {s : σ} {a : α} {rest : List α} {verdict : ε} (stops : (step s a).2 = some verdict) :
    run step s (a :: rest) = ((step s a).1, some verdict) := by
  rw [run, stops]

theorem run_append_none {s t : σ} {front behind : List α} (goes : run step s front = (t, none)) :
    run step s (front ++ behind) = run step t behind := by
  induction front generalizing s with
  | nil =>
    cases goes
    rfl
  | cons a rest ih =>
    cases here : (step s a).2 with
    | none =>
      rw [run_cons_none here] at goes
      rw [List.cons_append, run_cons_none here, ih goes]
    | some verdict =>
      rw [run_cons_some here] at goes
      cases goes

theorem run_append_some {s t : σ} {front behind : List α} {verdict : ε}
    (stops : run step s front = (t, some verdict)) : run step s (front ++ behind) = (t, some verdict) := by
  induction front generalizing s with
  | nil => cases stops
  | cons a rest ih =>
    cases here : (step s a).2 with
    | none =>
      rw [run_cons_none here] at stops
      rw [List.cons_append, run_cons_none here, ih stops]
    | some other =>
      rw [run_cons_some here] at stops
      rw [List.cons_append, run_cons_some here, stops]

theorem processed_prefix (s : σ) (inputs : List α) : processed step s inputs <+: inputs := by
  induction inputs generalizing s with
  | nil => exact List.nil_prefix
  | cons a rest ih =>
    rw [processed]
    split
    · exact List.cons_prefix_cons.mpr ⟨rfl, ih _⟩
    · exact List.prefix_append [a] rest

/-- A run without a verdict takes every input. -/
theorem processed_of_none {s : σ} {inputs : List α} (goes : (run step s inputs).2 = none) :
    processed step s inputs = inputs := by
  induction inputs generalizing s with
  | nil => rfl
  | cons a rest ih =>
    cases here : (step s a).2 with
    | none =>
      rw [run_cons_none here] at goes
      rw [processed, here, ih goes]
    | some verdict =>
      rw [run_cons_some here] at goes
      cases goes

/-- A run with a verdict takes at least the input that caused it. -/
theorem processed_ne_nil {s : σ} {inputs : List α} (stops : (run step s inputs).2 ≠ none) :
    processed step s inputs ≠ [] := by
  cases inputs with
  | nil => exact absurd rfl stops
  | cons a rest =>
    rw [processed]
    split <;> exact List.cons_ne_nil _ _

/-- What every step keeps between the inputs taken and the state holds at the end. -/
theorem invariant {I : List α → σ → Prop} {s : σ} {taken inputs : List α} (atStart : I taken s)
    (kept : ∀ taken s a, I taken s → I (taken ++ [a]) (step s a).1) :
    I (taken ++ processed step s inputs) (run step s inputs).1 := by
  induction inputs generalizing s taken with
  | nil => rwa [processed, List.append_nil]
  | cons a rest ih =>
    have next := kept taken s a atStart
    cases here : (step s a).2 with
    | none =>
      have later := ih next
      rw [List.append_assoc, List.singleton_append] at later
      rwa [run_cons_none here, processed, here]
    | some verdict => rwa [run_cons_some here, processed, here]

/-- If a step's verdict can be told from the inputs taken before it, then the
run's verdict is that of the last input taken, and no earlier one has any. -/
theorem verdict_eq {I : List α → σ → Prop} {judge : List α → α → Option ε} {s : σ} {taken inputs : List α}
    (atStart : I taken s) (kept : ∀ taken s a, I taken s → I (taken ++ [a]) (step s a).1)
    (judged : ∀ taken s a, I taken s → (step s a).2 = judge taken a) {front behind : List α} {a : α}
    (parts : processed step s inputs = front ++ a :: behind) :
    judge (taken ++ front) a = if behind.isEmpty then (run step s inputs).2 else none := by
  induction inputs generalizing s taken front with
  | nil => exact absurd parts.symm (List.append_ne_nil_of_right_ne_nil _ (List.cons_ne_nil _ _))
  | cons b rest ih =>
    have next := kept taken s b atStart
    have here := judged taken s b atStart
    cases verdict : (step s b).2 with
    | some stop =>
      rw [processed, verdict] at parts
      cases front with
      | nil =>
        obtain ⟨rfl, rfl⟩ := List.cons.inj parts
        rw [List.append_nil, ← here, verdict, run_cons_some verdict]
        rfl
      | cons c front =>
        have nothing := (List.cons.inj parts).2
        exact absurd nothing.symm (List.append_ne_nil_of_right_ne_nil _ (List.cons_ne_nil _ _))
    | none =>
      rw [processed, verdict] at parts
      rw [run_cons_none verdict]
      cases front with
      | nil =>
        obtain ⟨rfl, rest⟩ := List.cons.inj parts
        rw [List.append_nil, ← here, verdict]
        split
        · rename_i last
          by_contra stops
          rw [List.isEmpty_iff, ← rest] at last
          exact processed_ne_nil (Ne.symm stops) last
        · rfl
      | cons c front =>
        obtain ⟨rfl, rest⟩ := List.cons.inj parts
        have later := ih next rest
        rwa [List.append_assoc, List.singleton_append] at later

end RunUntil
