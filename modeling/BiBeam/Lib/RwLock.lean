import BiBeam.Lib.Reach
import Mathlib.Data.List.Induction

/-- A value behind a lock: it is read under guards, of which there may be any
number, and written while there is none. -/
structure RwLock (V : Type) where
  value : V
  guards : List Nat

namespace RwLock

variable {V : Type}

inductive Event (V : Type)
  | read (id : Nat)
  | release (id : Nat)
  | write (value : V)

def Event.written? : Event V → Option V
  | read _ => none
  | release _ => none
  | write value => some value

def new (value : V) : RwLock V :=
  ⟨value, []⟩

inductive Step : RwLock V → Event V → RwLock V → Prop
  | read {lock id} : Step lock (.read id) { lock with guards := id :: lock.guards }
  | release {lock id} : Step lock (.release id) { lock with guards := lock.guards.erase id }
  | write {lock value} : lock.guards = [] → Step lock (.write value) { lock with value := value }

/-- The value written last, or the first one. -/
def latest (first : V) (events : List (Event V)) : V :=
  (events.filterMap Event.written?).getLastD first

variable {first : V} {lock : RwLock V}

theorem latest_append {front back : List (Event V)} (quiet : ∀ event ∈ back, event.written? = none) :
    latest first (front ++ back) = latest first front := by
  rw [latest, List.filterMap_append, List.filterMap_eq_nil_iff.mpr quiet, List.append_nil, latest]

theorem latest_write (events : List (Event V)) (value : V) : latest first (events ++ [.write value]) = value := by
  have last : (Event.write value).written? = some value := rfl
  rw [latest, List.filterMap_append, List.filterMap_cons_some last, List.filterMap_nil, List.getLastD_concat]

/-- Behind a write the latest value is the one written, or one written later. -/
theorem latest_behind (front : List (Event V)) (value : V) (back : List (Event V)) :
    latest first (front ++ .write value :: back) = value ∨
      .write (latest first (front ++ .write value :: back)) ∈ back := by
  induction back using List.reverseRecOn with
  | nil => exact Or.inl (latest_write _ _)
  | append_singleton back event ih =>
    rw [← List.cons_append, ← List.append_assoc]
    cases event with
    | write later =>
      rw [latest_write]
      exact Or.inr (List.mem_append_right _ (List.mem_singleton_self _))
    | read id | release id =>
      rw [latest_append (List.forall_mem_singleton.mpr rfl)]
      exact ih.imp_right (List.mem_append_left _)

theorem value_eq {events : List (Event V)} (run : Reach Step (new first) events lock) :
    lock.value = latest first events := by
  induction run with
  | start => rfl
  | next _ stepped ih =>
    cases stepped with
    | read => exact ih.trans (latest_append (List.forall_mem_singleton.mpr rfl)).symm
    | release => exact ih.trans (latest_append (List.forall_mem_singleton.mpr rfl)).symm
    | write => exact (latest_write _ _).symm

/-- Since a guard was taken nothing has been written. -/
theorem held_since {events : List (Event V)} (run : Reach Step (new first) events lock) {id : Nat}
    (held : id ∈ lock.guards) : ∃ front back, events = front ++ .read id :: back ∧
      ∀ event ∈ back, event.written? = none := by
  induction run with
  | start => exact absurd held List.not_mem_nil
  | @next events lock event next _ stepped ih =>
    have longer : id ∈ lock.guards → event.written? = none → ∃ front back,
        events ++ [event] = front ++ .read id :: back ∧ ∀ event ∈ back, event.written? = none := by
      intro before quiet
      obtain ⟨front, back, rfl, silent⟩ := ih before
      refine ⟨front, back ++ [event], by rw [List.append_assoc, List.cons_append], fun other member => ?_⟩
      rcases List.mem_append.mp member with earlier | here
      · exact silent other earlier
      · rwa [List.mem_singleton.mp here]
    cases stepped with
    | read =>
      rcases List.mem_cons.mp held with rfl | before
      · exact ⟨events, [], rfl, fun event member => absurd member List.not_mem_nil⟩
      · exact longer before rfl
    | release => exact longer (List.mem_of_mem_erase held) rfl
    | write free =>
      rw [free] at held
      exact absurd held List.not_mem_nil

/-- What is behind the lock while a guard is held is what the guard was taken
at, told on the labels of a system that works the lock. -/
theorem held_value {α : Type} {named : α → Option (Event V)} {labels : List α}
    (run : Reach Step (new first) (labels.filterMap named) lock) {id : Nat} (held : id ∈ lock.guards) :
    ∃ before label after, labels = before ++ label :: after ∧ named label = some (.read id) ∧
      (∀ later ∈ after, ∀ event, named later = some event → event.written? = none) ∧
      lock.value = latest first (before.filterMap named) := by
  obtain ⟨front, back, parts, silent⟩ := held_since run held
  obtain ⟨early, late, rfl, atFront, atBack⟩ := List.filterMap_eq_append_iff.mp parts
  obtain ⟨skipped, label, after, rfl, nothing, here, atAfter⟩ := List.filterMap_eq_cons_iff.mp atBack
  refine ⟨early ++ skipped, label, after, by rw [List.append_assoc], here, fun later member event named => ?_, ?_⟩
  · exact silent event (atAfter ▸ List.mem_filterMap.mpr ⟨later, member, named⟩)
  · have quiet : ∀ event ∈ Event.read id :: back, event.written? = none := List.forall_mem_cons.mpr ⟨rfl, silent⟩
    rw [value_eq run, parts, latest_append quiet, List.filterMap_append, List.filterMap_eq_nil_iff.mpr nothing,
      List.append_nil, atFront]

end RwLock
