import BiBeam.Lib.Reach
import Mathlib.Data.List.AList

universe u v w x

/-- A limiter for one key: how it starts, and how it answers a charge. -/
structure Cell (σ : Type u) (τ : Type v) where
  fresh : σ
  check : σ → τ → Bool × σ

namespace Cell

variable {σ : Type u} {τ : Type v} (cell : Cell σ τ)

/-- The state that these charges leave behind, oldest first. -/
def after (charges : List τ) : σ :=
  charges.foldl (fun state charge => (cell.check state charge).2) cell.fresh

def answersFrom : σ → List τ → List (τ × Bool)
  | _, [] => []
  | state, charge :: rest => (charge, (cell.check state charge).1) :: answersFrom (cell.check state charge).2 rest

/-- The answers a fresh limiter gives to these charges. -/
def answers (charges : List τ) : List (τ × Bool) :=
  cell.answersFrom cell.fresh charges

theorem after_snoc (charges : List τ) (charge : τ) :
    cell.after (charges ++ [charge]) = (cell.check (cell.after charges) charge).2 := by
  rw [after, List.foldl_append]
  rfl

theorem answersFrom_snoc (state : σ) (charges : List τ) (charge : τ) :
    cell.answersFrom state (charges ++ [charge]) = cell.answersFrom state charges ++
      [(charge, (cell.check (charges.foldl (fun state charge => (cell.check state charge).2) state) charge).1)] := by
  induction charges generalizing state with
  | nil => rfl
  | cons first rest ih =>
    rw [List.cons_append, answersFrom, answersFrom, ih]
    rfl

theorem answers_snoc (charges : List τ) (charge : τ) :
    cell.answers (charges ++ [charge]) = cell.answers charges ++ [(charge, (cell.check (cell.after charges) charge).1)] :=
  cell.answersFrom_snoc cell.fresh charges charge

end Cell

/-- Where a caller stands between looking its key up and checking the limiter found. -/
inductive CellCaller (κ : Type u)
  | idle
  | missed (key : κ)
  | holding (key : κ) (address : Nat)

/-- Limiters made on first use and shared by address, and the calls under way. -/
structure SharedCells (ι : Type u) (κ : Type v) (σ : Type w) where
  index : AList fun _ : κ => Nat
  limiters : List σ
  callers : ι → CellCaller κ

inductive CellEvent (ι : Type u) (κ : Type v) (τ : Type w)
  | found (caller : ι) (key : κ)
  | missed (caller : ι) (key : κ)
  | inserted (caller : ι) (key : κ)
  | checked (caller : ι) (key : κ) (charge : τ) (admitted : Bool)

namespace SharedCells

variable {ι : Type u} {κ : Type v} {σ : Type w} {τ : Type x}

def empty (ι : Type u) (κ : Type v) (σ : Type w) : SharedCells ι κ σ :=
  ⟨∅, [], fun _ => .idle⟩

/-- A caller found holding a limiter after an update is the updated one or held it before. -/
theorem holding_update [DecidableEq ι] {callers : ι → CellCaller κ} {caller other : ι} {value : CellCaller κ} {key : κ}
    {address : Nat} (holding : Function.update callers caller value other = .holding key address) :
    value = .holding key address ∨ callers other = .holding key address := by
  by_cases same : other = caller
  · subst same
    rw [Function.update_self] at holding
    exact .inl holding
  · rw [Function.update_of_ne same] at holding
    exact .inr holding

variable [DecidableEq κ]

/-- The charges at a key and their answers, in the order of the checks. -/
def traceOf (key : κ) (events : List (CellEvent ι κ τ)) : List (τ × Bool) :=
  events.filterMap fun
    | .checked _ other charge admitted => if other = key then some (charge, admitted) else none
    | _ => none

/-- An event that checks nothing leaves every trace as it is. -/
theorem traceOf_quiet {events : List (CellEvent ι κ τ)} {event : CellEvent ι κ τ} {key : κ}
    (quiet : traceOf key [event] = []) : traceOf key (events ++ [event]) = traceOf key events := by
  rw [traceOf, List.filterMap_append]
  exact (congrArg (traceOf key events ++ ·) quiet).trans (List.append_nil _)

theorem traceOf_checked (events : List (CellEvent ι κ τ)) (caller : ι) (key : κ) (charge : τ) (admitted : Bool) (other : κ) :
    traceOf other (events ++ [.checked caller key charge admitted]) =
      traceOf other events ++ if key = other then [(charge, admitted)] else [] := by
  rw [traceOf, Reach.filterMap_snoc]
  dsimp only
  split <;> rfl

variable [DecidableEq ι]

def hold (store : SharedCells ι κ σ) (caller : ι) (key : κ) (address : Nat) : SharedCells ι κ σ :=
  { store with callers := Function.update store.callers caller (.holding key address) }

/-- Take the limiter at the key, which another caller may have made meanwhile, or make it. -/
def orInsert (fresh : σ) (store : SharedCells ι κ σ) (caller : ι) (key : κ) : SharedCells ι κ σ :=
  match store.index.lookup key with
  | some address => store.hold caller key address
  | none =>
    { store with
      index := store.index.insert key store.limiters.length
      limiters := store.limiters ++ [fresh] }.hold caller key store.limiters.length

def settle (store : SharedCells ι κ σ) (caller : ι) (address : Nat) (state : σ) : SharedCells ι κ σ :=
  { store with
    limiters := store.limiters.set address state
    callers := Function.update store.callers caller .idle }

/-- Every call looks its key up, inserts if it found nothing, and checks with no lock held. -/
inductive Step (cell : Cell σ τ) : SharedCells ι κ σ → CellEvent ι κ τ → SharedCells ι κ σ → Prop
  | find {store caller key address} : store.callers caller = .idle → store.index.lookup key = some address →
      Step cell store (.found caller key) (store.hold caller key address)
  | miss {store caller key} : store.callers caller = .idle → store.index.lookup key = none →
      Step cell store (.missed caller key)
        { store with callers := Function.update store.callers caller (.missed key) }
  | insert {store caller key} : store.callers caller = .missed key →
      Step cell store (.inserted caller key) (store.orInsert cell.fresh caller key)
  | check {store caller key address state charge} : store.callers caller = .holding key address →
      store.limiters[address]? = some state →
      Step cell store (.checked caller key charge (cell.check state charge).1)
        (store.settle caller address (cell.check state charge).2)

/-- What a run keeps between its events and the store. -/
structure Kept (cell : Cell σ τ) (events : List (CellEvent ι κ τ)) (store : SharedCells ι κ σ) : Prop where
  stored : ∀ key address, store.index.lookup key = some address →
    store.limiters[address]? = some (cell.after ((traceOf key events).map Prod.fst))
  distinct : ∀ first second address, store.index.lookup first = some address →
    store.index.lookup second = some address → first = second
  held : ∀ caller key address, store.callers caller = .holding key address → store.index.lookup key = some address
  unused : ∀ key, store.index.lookup key = none → traceOf key events = []
  answered : ∀ key, traceOf key events = cell.answers ((traceOf key events).map Prod.fst)

variable {cell : Cell σ τ} {events : List (CellEvent ι κ τ)} {store next : SharedCells ι κ σ} {event : CellEvent ι κ τ}
  {caller : ι} {key : κ} {address : Nat}

omit [DecidableEq ι] in
theorem Kept.new : Kept cell ([] : List (CellEvent ι κ τ)) (empty ι κ σ) :=
  ⟨nofun, nofun, nofun, fun _ _ => rfl, fun _ => rfl⟩

/-- A caller that takes the limiter at its key. -/
theorem Kept.hold (kept : Kept cell events store) (quiet : ∀ key, traceOf key [event] = [])
    (present : store.index.lookup key = some address) : Kept cell (events ++ [event]) (store.hold caller key address) := by
  refine ⟨fun other at_ found => ?_, kept.distinct, fun other key' at_ holding => ?_, fun other absent => ?_, fun other => ?_⟩
  · rw [traceOf_quiet (quiet other)]
    exact kept.stored other at_ found
  · rcases holding_update holding with here | before
    · cases here
      exact present
    · exact kept.held other key' at_ before
  · rw [traceOf_quiet (quiet other)]
    exact kept.unused other absent
  · rw [traceOf_quiet (quiet other)]
    exact kept.answered other

omit [DecidableEq ι] in
/-- A new limiter behind the others is at an address no key has yet. -/
theorem Kept.make (kept : Kept cell events store) (absent : store.index.lookup key = none) :
    Kept cell events { store with
      index := store.index.insert key store.limiters.length, limiters := store.limiters ++ [cell.fresh] } := by
  have old : ∀ other address, store.index.lookup other = some address → address < store.limiters.length :=
    fun other address found => (List.getElem?_eq_some_iff.mp (kept.stored other address found)).1
  refine ⟨fun other at_ found => ?_, fun first second at_ atFirst atSecond => ?_, fun other key' at_ holding => ?_,
    fun other gone => ?_, kept.answered⟩
  · by_cases same : other = key
    · subst same
      rw [AList.lookup_insert] at found
      cases found
      rw [kept.unused other absent, List.getElem?_append_right (Nat.le_refl _), Nat.sub_self]
      rfl
    · rw [AList.lookup_insert_ne same] at found
      rw [List.getElem?_append_left (old other at_ found)]
      exact kept.stored other at_ found
  · by_cases sameFirst : first = key <;> by_cases sameSecond : second = key
    · rw [sameFirst, sameSecond]
    · subst sameFirst
      rw [AList.lookup_insert] at atFirst
      cases atFirst
      rw [AList.lookup_insert_ne sameSecond] at atSecond
      exact absurd (old second _ atSecond) (Nat.lt_irrefl _)
    · subst sameSecond
      rw [AList.lookup_insert] at atSecond
      cases atSecond
      rw [AList.lookup_insert_ne sameFirst] at atFirst
      exact absurd (old first _ atFirst) (Nat.lt_irrefl _)
    · rw [AList.lookup_insert_ne sameFirst] at atFirst
      rw [AList.lookup_insert_ne sameSecond] at atSecond
      exact kept.distinct first second at_ atFirst atSecond
  · have before := kept.held other key' at_ holding
    have apart : key' ≠ key := fun same => by
      rw [same, absent] at before
      cases before
    rwa [AList.lookup_insert_ne apart]
  · have apart : other ≠ key := fun same => by
      rw [same, AList.lookup_insert] at gone
      cases gone
    rw [AList.lookup_insert_ne apart] at gone
    exact kept.unused other gone

/-- A check moves on the limiter of its own key and of no other. -/
theorem Kept.check {state : σ} {charge : τ} (kept : Kept cell events store)
    (holding : store.callers caller = .holding key address) (here : store.limiters[address]? = some state) :
    Kept cell (events ++ [.checked caller key charge (cell.check state charge).1])
      (store.settle caller address (cell.check state charge).2) := by
  have present := kept.held caller key address holding
  have current : state = cell.after ((traceOf key events).map Prod.fst) :=
    Option.some.inj (here.symm.trans (kept.stored key address present))
  refine ⟨fun other at_ found => ?_, kept.distinct, fun other key' at_ later => ?_, fun other absent => ?_, fun other => ?_⟩
  · rw [traceOf_checked, settle]
    by_cases same : key = other
    · subst same
      cases Option.some.inj (present.symm.trans found)
      rw [if_pos rfl, List.map_append, List.map_singleton, Cell.after_snoc, ← current]
      exact List.getElem?_set_self (List.getElem?_eq_some_iff.mp here).1
    · have apart : address ≠ at_ := fun shared => same (kept.distinct key other at_ (shared ▸ present) found)
      rw [if_neg same, List.append_nil, List.getElem?_set_ne apart]
      exact kept.stored other at_ found
  · rcases holding_update later with now | before
    · cases now
    · exact kept.held other key' at_ before
  · have apart : key ≠ other := fun same => by
      have gone : store.index.lookup other = none := absent
      rw [← same, present] at gone
      cases gone
    rw [traceOf_checked, if_neg apart, List.append_nil]
    exact kept.unused other absent
  · rw [traceOf_checked]
    by_cases same : key = other
    · subst same
      rw [if_pos rfl, List.map_append, List.map_singleton, Cell.answers_snoc, ← kept.answered key, ← current]
    · rw [if_neg same, List.append_nil]
      exact kept.answered other

theorem Kept.step (kept : Kept cell events store) (stepped : Step cell store event next) :
    Kept cell (events ++ [event]) next := by
  cases stepped with
  | find _ present => exact kept.hold (fun _ => rfl) present
  | check holding here => exact kept.check holding here
  | @miss caller key _ absent =>
    refine ⟨fun other at_ found => ?_, kept.distinct, fun other key' at_ holding => ?_, fun other gone => ?_, fun other => ?_⟩
    · rw [traceOf_quiet rfl]
      exact kept.stored other at_ found
    · rcases holding_update holding with now | before
      · cases now
      · exact kept.held other key' at_ before
    · rw [traceOf_quiet rfl]
      exact kept.unused other gone
    · rw [traceOf_quiet rfl]
      exact kept.answered other
  | @insert caller key _ =>
    rw [orInsert]
    split
    · rename_i address present
      exact kept.hold (fun _ => rfl) present
    · rename_i absent
      exact (kept.make absent).hold (fun _ => rfl) (AList.lookup_insert _)

theorem kept_of_reach (run : Reach (Step cell) (empty ι κ σ) events store) : Kept cell events store := by
  induction run with
  | start => exact .new
  | next _ stepped ih => exact ih.step stepped

end SharedCells
