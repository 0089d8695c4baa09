import Mathlib.Init

namespace Except

variable {ε α β : Type}

/-- A sequence of fallible steps succeeds only when each of them does. -/
theorem of_bind_ok {first : Except ε α} {next : α → Except ε β} {result : β}
    (run : (first >>= next) = .ok result) : ∃ value, first = .ok value ∧ next value = .ok result := by
  cases first with
  | error err => exact nomatch run
  | ok value => exact ⟨value, rfl, run⟩

theorem bind_eq_ok_iff {first : Except ε α} {next : α → Except ε β} {result : β} :
    (first >>= next) = .ok result ↔ ∃ value, first = .ok value ∧ next value = .ok result := by
  refine ⟨of_bind_ok, fun found => ?_⟩
  obtain ⟨value, here, after⟩ := found
  rw [here]
  exact after

@[simp] theorem mapError_ok {ε' : Type} (wrap : ε → ε') (value : α) :
    (ok value : Except ε α).mapError wrap = ok value := rfl

@[simp] theorem mapError_error {ε' : Type} (wrap : ε → ε') (err : ε) :
    (error err : Except ε α).mapError wrap = error (wrap err) := rfl

theorem mapError_eq_ok_iff {ε' : Type} {wrap : ε → ε'} {result : Except ε α} {value : α} :
    result.mapError wrap = .ok value ↔ result = .ok value := by
  cases result with
  | ok found => simp
  | error err => exact ⟨nofun, nofun⟩

theorem toOption_eq_some_iff {result : Except ε α} {value : α} : result.toOption = some value ↔ result = .ok value := by
  cases result with
  | ok found => simp [Except.toOption]
  | error err => exact ⟨nofun, nofun⟩

/-- A missing value stands for an error. -/
theorem elim_eq_ok_iff {found : Option α} {err : ε} {value : α} :
    found.elim (error err) ok = .ok value ↔ found = some value := by
  cases found with
  | none => exact ⟨nofun, nofun⟩
  | some here => simp

end Except
