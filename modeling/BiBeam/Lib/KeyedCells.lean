import BiBeam.Lib.Cells

universe u

/-- What a store of limiters by key offers to those who check it. -/
structure KeyedCells (κ ν τ : Type u) where
  Store : Type u
  /-- A store whose limiters all have one quota. -/
  keyed : ν → Store
  checkKey : Store → κ → τ → Bool × Store

namespace KeyedCells

variable {κ ν τ : Type u} {β γ : Type*}

/-- Checks one after the other, with what each was answered. -/
def told (lib : KeyedCells κ ν τ) : lib.Store → List (κ × τ) → List (κ × τ × Bool)
  | _, [] => []
  | store, (key, charge) :: rest =>
    (key, charge, (lib.checkKey store key charge).1) :: told lib (lib.checkKey store key charge).2 rest

variable [DecidableEq κ]

/-- What a list of rows says of one key. -/
def rowsAt (key : κ) (rows : List (κ × β)) : List β :=
  rows.filterMap fun row => if row.1 = key then some row.2 else none

theorem rowsAt_cons (key other : κ) (row : β) (rest : List (κ × β)) :
    rowsAt key ((other, row) :: rest) = if other = key then row :: rowsAt key rest else rowsAt key rest := by
  by_cases same : other = key
  · rw [if_pos same]
    exact List.filterMap_cons_some (if_pos same)
  · rw [if_neg same]
    exact List.filterMap_cons_none (if_neg same)

theorem rowsAt_map (f : κ → β → γ) (key : κ) (rows : List (κ × β)) :
    rowsAt key (rows.map fun row => (row.1, f row.1 row.2)) = (rowsAt key rows).map (f key) := by
  induction rows with
  | nil => rfl
  | cons row rest ih =>
    obtain ⟨other, value⟩ := row
    rw [List.map_cons, rowsAt_cons, rowsAt_cons, ih]
    by_cases same : other = key
    · subst same
      rw [if_pos rfl, if_pos rfl, List.map_cons]
    · rw [if_neg same, if_neg same]

/-- Every key of a new store is answered as a limiter of its own would answer it. -/
def PerKey {σ : Type*} (lib : KeyedCells κ ν τ) (limiter : ν → Cell σ τ) : Prop :=
  ∀ quota key calls, rowsAt key (lib.told (lib.keyed quota) calls) = (limiter quota).answers (rowsAt key calls)

section OfCells

variable {σ : Type u} (limiter : ν → Cell σ τ)

/-- A store that keeps one cell for each key. -/
def ofCells : KeyedCells κ ν τ where
  Store := ν × (κ → σ)
  keyed quota := (quota, fun _ => (limiter quota).fresh)
  checkKey store key charge :=
    let answer := (limiter store.1).check (store.2 key) charge
    (answer.1, store.1, Function.update store.2 key answer.2)

theorem ofCells_perKey : (ofCells limiter : KeyedCells κ ν τ).PerKey limiter := by
  intro quota key calls
  -- The cell at the key moves on by the calls at the key alone.
  have from_ : ∀ (calls : List (κ × τ)) (cells : κ → σ),
      rowsAt key ((ofCells limiter : KeyedCells κ ν τ).told (quota, cells) calls) =
        (limiter quota).answersFrom (cells key) (rowsAt key calls) := by
    intro calls
    induction calls with
    | nil => exact fun _ => rfl
    | cons call rest ih =>
      intro cells
      obtain ⟨other, charge⟩ := call
      change rowsAt key ((other, charge, ((limiter quota).check (cells other) charge).1) :: (ofCells limiter).told (quota,
        Function.update cells other ((limiter quota).check (cells other) charge).2) rest) = _
      rw [rowsAt_cons, rowsAt_cons]
      by_cases same : other = key
      · subst same
        rw [if_pos rfl, if_pos rfl, Cell.answersFrom]
        refine congrArg _ ((ih _).trans ?_)
        rw [Function.update_self]
      · rw [if_neg same, if_neg same]
        refine (ih _).trans ?_
        rw [Function.update_of_ne (Ne.symm same)]
  exact from_ calls _

end OfCells

end KeyedCells
