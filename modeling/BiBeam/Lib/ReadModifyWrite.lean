import Mathlib.Logic.Function.Basic
import BiBeam.Lib.Reach

universe u v

namespace ReadModifyWrite

variable {ι : Type u} {V : Type v}

/-- A client reads the shared cell once, and later writes its own
modification of the value it read; the write may fail. -/
inductive Phase (V : Type v)
  | idle
  | holding (copy : V)
  | finished (written : Bool)

inductive Access (ι : Type u)
  | read (client : ι)
  | write (client : ι) (succeeds : Bool)

structure State (ι : Type u) (V : Type v) where
  cell : V
  phase : ι → Phase V

variable [DecidableEq ι]

inductive Step (modify : ι → V → V) : State ι V → Access ι → State ι V → Prop
  | read {s i} : s.phase i = .idle →
      Step modify s (.read i) { s with phase := Function.update s.phase i (.holding s.cell) }
  | write {s i copy} : s.phase i = .holding copy →
      Step modify s (.write i true) ⟨modify i copy, Function.update s.phase i (.finished true)⟩
  | failed {s i copy} : s.phase i = .holding copy →
      Step modify s (.write i false) { s with phase := Function.update s.phase i (.finished false) }

def init (cell : V) : State ι V :=
  ⟨cell, fun _ => .idle⟩

/-- The accesses since a client's last read, newest first. -/
def since (i : ι) (accesses : List (Access ι)) : List (Access ι) :=
  accesses.reverse.takeWhile fun access =>
    match access with
    | .read j => j ≠ i
    | .write _ _ => true

/-- Nobody has written since the client read. -/
def Fresh (i : ι) (accesses : List (Access ι)) : Prop :=
  ∀ j, .write j true ∉ since i accesses

/-- Every write succeeds and is based on the newest value. -/
inductive Serial : List (Access ι) → Prop
  | nil : Serial []
  | read {accesses i} : Serial accesses → Serial (accesses ++ [.read i])
  | write {accesses i} : Serial accesses → Fresh i accesses → Serial (accesses ++ [.write i true])

theorem fresh_read (i : ι) (accesses : List (Access ι)) (j : ι) :
    Fresh i (accesses ++ [.read j]) ↔ i = j ∨ Fresh i accesses := by
  unfold Fresh since
  rw [List.reverse_append, List.reverse_singleton, List.singleton_append, List.takeWhile_cons]
  by_cases same : j = i
  · simp [same]
  · simp [same, Ne.symm same]

theorem fresh_write (i : ι) (accesses : List (Access ι)) (j : ι) (succeeds : Bool) :
    Fresh i (accesses ++ [.write j succeeds]) ↔ succeeds = false ∧ Fresh i accesses := by
  unfold Fresh since
  rw [List.reverse_append, List.reverse_singleton, List.singleton_append, List.takeWhile_cons, if_pos rfl]
  cases succeeds with
  | true =>
    constructor
    · exact fun none => absurd List.mem_cons_self (none j)
    · exact fun never => nomatch never.1
  | false => simp

theorem serial_append (accesses : List (Access ι)) (access : Access ι) :
    Serial (accesses ++ [access]) ↔ Serial accesses ∧
      ∀ i succeeds, access = .write i succeeds → succeeds = true ∧ Fresh i accesses := by
  constructor
  · intro serial
    generalize whole : accesses ++ [access] = all at serial
    cases serial with
    | nil => simp at whole
    | read before =>
      obtain ⟨rfl, last⟩ := List.append_inj' whole rfl
      rw [(List.cons.inj last).1]
      exact ⟨before, fun _ _ never => nomatch never⟩
    | write before fresh =>
      obtain ⟨rfl, last⟩ := List.append_inj' whole rfl
      rw [(List.cons.inj last).1]
      refine ⟨before, fun i succeeds same => ?_⟩
      cases same
      exact ⟨rfl, fresh⟩
  · rintro ⟨before, written⟩
    cases access with
    | read i => exact .read before
    | write i succeeds =>
      obtain ⟨rfl, fresh⟩ := written i succeeds rfl
      exact .write before fresh

theorem holding_of_finishes {phase : ι → Phase V} {i k : ι} {written : Bool} {copy : V}
    (holds : Function.update phase k (.finished written) i = .holding copy) : phase i = .holding copy := by
  by_cases same : i = k
  · rw [same, Function.update_self] at holds
    exact nomatch holds
  · rwa [Function.update_of_ne same] at holds

theorem finished_stays {phase : ι → Phase V} {i k : ι} {next : Phase V} {written : Bool}
    (moves : ∀ written, phase k ≠ .finished written) (finished : phase i = .finished written) :
    Function.update phase k next i = .finished written := by
  have same : i ≠ k := by
    rintro rfl
    exact moves written finished
  rwa [Function.update_of_ne same]

/-- How a client's contribution shows in a value: it is there after the
client's own modification, and modifications keep what others contributed. -/
structure Marks (modify : ι → V → V) (mark : ι → V → Prop) : Prop where
  own : ∀ i value, mark i (modify i value)
  kept : ∀ i j value, mark j value → mark j (modify i value)
  only : ∀ i j value, mark j (modify i value) → j = i ∨ mark j value

section

variable {modify : ι → V → V} {mark : ι → V → Prop} {cell : V} {accesses : List (Access ι)} {s : State ι V}

/-- Every finished client's contribution is in the cell. -/
def Lossless (mark : ι → V → Prop) (s : State ι V) : Prop :=
  ∀ i written, s.phase i = .finished written → mark i s.cell

omit [DecidableEq ι] in
/-- A finished client whose contribution a value lacks. -/
def Lacks (mark : ι → V → Prop) (s : State ι V) (value : V) : Prop :=
  ∃ i written, s.phase i = .finished written ∧ ¬ mark i value

/-- A copy with no write after it is the current value. -/
theorem fresh_copy (run : Reach (Step modify) (init cell) accesses s) :
    ∀ i copy, s.phase i = .holding copy → Fresh i accesses → copy = s.cell := by
  induction run with
  | start => exact fun _ _ never => nomatch never
  | @next accesses before access after run steps ih =>
    intro i copy holds fresh
    cases steps with
    | @read j idle =>
      rw [fresh_read] at fresh
      by_cases same : i = j
      · rw [same] at holds
        simp only [Function.update_self] at holds
        exact (Phase.holding.inj holds).symm
      · simp only [Function.update_of_ne same] at holds
        exact ih i copy holds (fresh.resolve_left same)
    | write => exact nomatch ((fresh_write ..).mp fresh).1
    | failed => exact ih i copy (holding_of_finishes holds) ((fresh_write ..).mp fresh).2

/-- Serial accesses lose nothing. -/
theorem lossless_of_serial (marks : Marks modify mark) (run : Reach (Step modify) (init cell) accesses s)
    (serial : Serial accesses) : Lossless mark s := by
  induction run with
  | start => exact fun _ _ never => nomatch never
  | @next accesses before access after run steps ih =>
    obtain ⟨earlier, written⟩ := (serial_append ..).mp serial
    have kept := ih earlier
    intro i isWritten finished
    cases steps with
    | @read j idle =>
      have same : i ≠ j := by
        rintro rfl
        simp only [Function.update_self] at finished
        exact nomatch finished
      simp only [Function.update_of_ne same] at finished
      exact kept i isWritten finished
    | @write j copy held =>
      have newest := fresh_copy run j copy held (written j true rfl).2
      by_cases same : i = j
      · rw [same]
        exact marks.own j copy
      · simp only [Function.update_of_ne same] at finished
        have before := kept i isWritten finished
        rw [← newest] at before
        exact marks.kept j i copy before
    | failed => exact nomatch (written _ false rfl).1

/-- Only clients that wrote show in the cell or in a copy. -/
theorem marked_wrote (marks : Marks modify mark) (blank : ∀ i, ¬ mark i cell)
    (run : Reach (Step modify) (init cell) accesses s) (j : ι) :
    (mark j s.cell → s.phase j = .finished true) ∧
      ∀ i copy, s.phase i = .holding copy → mark j copy → s.phase j = .finished true := by
  induction run with
  | start => exact ⟨fun marked => absurd marked (blank j), fun _ _ never => nomatch never⟩
  | @next accesses before access after run steps ih =>
    obtain ⟨inCell, inCopy⟩ := ih
    cases steps with
    | @read k idle =>
      have moves : ∀ written, before.phase k ≠ .finished written := by simp [idle]
      refine ⟨fun marked => finished_stays moves (inCell marked), fun i copy holds marked =>
        finished_stays moves ?_⟩
      by_cases same : i = k
      · rw [same] at holds
        simp only [Function.update_self] at holds
        rw [← Phase.holding.inj holds] at marked
        exact inCell marked
      · simp only [Function.update_of_ne same] at holds
        exact inCopy i copy holds marked
    | @write k copy held =>
      have moves : ∀ written, before.phase k ≠ .finished written := by simp [held]
      refine ⟨fun marked => ?_, fun i other holds marked =>
        finished_stays moves (inCopy i other (holding_of_finishes holds) marked)⟩
      rcases marks.only k j copy marked with rfl | old
      · simp only [Function.update_self]
      · exact finished_stays moves (inCopy k copy held old)
    | @failed k copy held =>
      have moves : ∀ written, before.phase k ≠ .finished written := by simp [held]
      exact ⟨fun marked => finished_stays moves (inCell marked), fun i other holds marked =>
        finished_stays moves (inCopy i other (holding_of_finishes holds) marked)⟩

/-- A stale copy lacks a finished client, and once a write was stale or
failed, so does the cell: a later write that restores one client loses another. -/
theorem lacks_of_stale (marks : Marks modify mark) (blank : ∀ i, ¬ mark i cell)
    (run : Reach (Step modify) (init cell) accesses s) :
    (∀ i copy, s.phase i = .holding copy → ¬ Fresh i accesses → Lacks mark s copy) ∧
      (¬ Serial accesses → Lacks mark s s.cell) := by
  induction run with
  | start => exact ⟨fun _ _ never => (nomatch never), fun unserial => absurd .nil unserial⟩
  | @next accesses before access after run steps ih =>
    obtain ⟨staleCopy, staleCell⟩ := ih
    cases steps with
    | @read j idle =>
      have moves : ∀ written, before.phase j ≠ .finished written := by simp [idle]
      have persists {value : V} {phase : Phase V} (lacks : Lacks mark before value) :
          Lacks mark { before with phase := Function.update before.phase j phase } value := by
        obtain ⟨k, written, finished, missing⟩ := lacks
        exact ⟨k, written, finished_stays moves finished, missing⟩
      refine ⟨fun i copy holds stale => ?_, fun unserial => persists (staleCell fun serial => unserial serial.read)⟩
      rw [fresh_read, not_or] at stale
      simp only [Function.update_of_ne stale.1] at holds
      exact persists (staleCopy i copy holds stale.2)
    | @write k copy held =>
      have moves : ∀ written, before.phase k ≠ .finished written := by simp [held]
      refine ⟨fun i other holds _ => ⟨k, true, Function.update_self .., fun marked => ?_⟩, fun unserial => ?_⟩
      · have wrote := (marked_wrote marks blank run k).2 i other (holding_of_finishes holds) marked
        exact moves true wrote
      · have lacks : Lacks mark before copy := by
          by_cases fresh : Fresh k accesses
          · have newest := fresh_copy run k copy held fresh
            rw [newest]
            exact staleCell fun serial => unserial (serial.write fresh)
          · exact staleCopy k copy held fresh
        obtain ⟨j, written, finished, missing⟩ := lacks
        refine ⟨j, written, finished_stays moves finished, fun marked => ?_⟩
        rcases marks.only k j copy marked with rfl | old
        · exact moves written finished
        · exact missing old
    | @failed k copy held =>
      have moves : ∀ written, before.phase k ≠ .finished written := by simp [held]
      refine ⟨fun i other holds stale => ?_, fun _ => ⟨k, false, Function.update_self .., fun marked => ?_⟩⟩
      · have stale' : ¬ Fresh i accesses := fun fresh => stale ((fresh_write ..).mpr ⟨rfl, fresh⟩)
        obtain ⟨j, written, finished, missing⟩ := staleCopy i other (holding_of_finishes holds) stale'
        exact ⟨j, written, finished_stays moves finished, missing⟩
      · exact moves true ((marked_wrote marks blank run k).1 marked)

/-- Nothing is lost exactly when every write succeeded and was based on the
newest value, provided no contribution was there from the start. -/
theorem lossless_iff_serial (marks : Marks modify mark) (blank : ∀ i, ¬ mark i cell)
    (run : Reach (Step modify) (init cell) accesses s) : Lossless mark s ↔ Serial accesses := by
  constructor
  · intro lossless
    by_contra unserial
    obtain ⟨i, written, finished, missing⟩ := (lacks_of_stale marks blank run).2 unserial
    exact missing (lossless i written finished)
  · exact lossless_of_serial marks run

end

end ReadModifyWrite
