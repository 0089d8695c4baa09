import BiBeam.Lib.Except
import BiBeam.Lib.Table

inductive IoError
  | notFound
  | alreadyExists
  | other (text : String)
deriving DecidableEq

namespace Disk

/-- What becomes of one call to the file system: it goes through, it
reports an error, or the process ends in it. -/
inductive Fate
  | goes
  | fails (err : IoError)
  | dies
deriving DecidableEq

/-- How a program stops before its end. -/
inductive Halt (E : Type)
  | failed (err : E)
  | died
deriving DecidableEq

def Halt.map {E E' : Type} (wrap : E → E') : Halt E → Halt E'
  | .failed err => .failed (wrap err)
  | .died => .died

/-- The contents of the files, by path. -/
abbrev Files (P : Type) := Table P (List UInt8)

/-- A program leaves files behind also when it stops. -/
abbrev Program (P E α : Type) := ExceptT (Halt E) (StateM (Files P)) α

section

variable {P E E' α β : Type}

def outcome (program : Program P E α) (files : Files P) : Except (Halt E) α × Files P :=
  program.run.run files

/-- What follows a program that ended so. -/
def andThen (next : α → Program P E β) : Except (Halt E) α × Files P → Except (Halt E) β × Files P
  | (.ok value, files) => outcome (next value) files
  | (.error halt, files) => (.error halt, files)

@[simp] theorem andThen_ok (next : α → Program P E β) (value : α) (files : Files P) :
    andThen next (.ok value, files) = outcome (next value) files := rfl

@[simp] theorem andThen_error (next : α → Program P E β) (halt : Halt E) (files : Files P) :
    andThen next (.error halt, files) = (.error halt, files) := rfl

@[simp] theorem outcome_pure (value : α) (files : Files P) :
    outcome (pure value : Program P E α) files = (.ok value, files) := rfl

@[simp] theorem outcome_throw (halt : Halt E) (files : Files P) :
    outcome (throw halt : Program P E α) files = (.error halt, files) := rfl

@[simp] theorem outcome_get (files : Files P) : outcome (get : Program P E (Files P)) files = (.ok files, files) := rfl

@[simp] theorem outcome_modify (change : Files P → Files P) (files : Files P) :
    outcome (modify change : Program P E PUnit) files = (.ok (), change files) := rfl

@[simp] theorem outcome_bind (program : Program P E α) (next : α → Program P E β) (files : Files P) :
    outcome (program >>= next) files = andThen next (outcome program files) := by
  unfold outcome ExceptT.run StateT.run
  simp only [bind, ExceptT.bind, ExceptT.mk, StateT.bind, ExceptT.bindCont]
  rcases program files with ⟨_ | _, rest⟩
  · rfl
  · rfl

/-- The same program with its errors wrapped. -/
@[simp] theorem outcome_adapt (wrap : Halt E → Halt E') (program : Program P E α) (files : Files P) :
    outcome (program.adapt wrap) files = ((outcome program files).1.mapError wrap, (outcome program files).2) := by
  unfold outcome ExceptT.run StateT.run ExceptT.adapt
  simp only [Functor.map, ExceptT.mk, StateT.map]
  rcases program files with ⟨_ | _, rest⟩
  · rfl
  · rfl

def Fate.result : Fate → Except (Halt IoError) Unit
  | .goes => .ok ()
  | .fails err => .error (.failed err)
  | .dies => .error .died

def call (fate : Fate) : Program P IoError Unit :=
  ofExcept fate.result

@[simp] theorem Fate.result_goes : Fate.goes.result = .ok () := rfl

theorem Fate.result_of_ne {fate : Fate} (stops : fate ≠ .goes) : ∃ halt, fate.result = .error halt := by
  cases fate with
  | goes => exact absurd rfl stops
  | fails err => exact ⟨_, rfl⟩
  | dies => exact ⟨_, rfl⟩

@[simp] theorem outcome_call (fate : Fate) (files : Files P) :
    outcome (call fate : Program P IoError Unit) files = (fate.result, files) := by
  cases fate <;> rfl

end

variable {P : Type} [DecidableEq P]

/-- Directories are not among the files: a call that makes them works or it does not. -/
def createDirAll (fate : Fate) (_dir : P) : Program P IoError Unit :=
  call fate

/-- Whether there is such a file; an error counts as no. -/
def pathExists {E : Type} (fate : Fate) (path : P) : Program P E Bool :=
  match fate with
  | .goes => return ((← get).lookup path).isSome
  | .fails _ => return false
  | .dies => throw .died

def read (fate : Fate) (path : P) : Program P IoError (List UInt8) := do
  call fate
  match (← get).lookup path with
  | some bytes => return bytes
  | none => throw (.failed .notFound)

/-- Open a file for writing, empty from here on. -/
def create (fate : Fate) (path : P) : Program P IoError Unit := do
  call fate
  modify (·.insert path [])

/-- The same for a file that must not exist. -/
def createNew (fate : Fate) (path : P) : Program P IoError Unit := do
  call fate
  match (← get).lookup path with
  | some _ => throw (.failed .alreadyExists)
  | none => modify (·.insert path [])

def append (path : P) (bytes : List UInt8) (files : Files P) : Files P :=
  files.insert path ((files.lookup path).getD [] ++ bytes)

/-- Write to the end of an open file. A write that does not go through has
put down the first `kept` bytes. -/
def writeAll (fate : Fate) (kept : Nat) (path : P) (bytes : List UInt8) : Program P IoError Unit := do
  modify (append path (if fate = .goes then bytes else bytes.take kept))
  call fate

structure WriteFates where
  opens : Fate
  writes : Fate
  kept : Nat

/-- The file is open and the write stops. -/
def WriteFates.Cut (fates : WriteFates) : Prop :=
  fates.opens = .goes ∧ fates.writes ≠ .goes

/-- Replace a file's contents, in place. -/
def write (fates : WriteFates) (path : P) (bytes : List UInt8) : Program P IoError Unit := do
  create fates.opens path
  writeAll fates.writes fates.kept path bytes

theorem pathExists_goes {E : Type} (path : P) (files : Files P) :
    outcome (pathExists .goes path : Program P E Bool) files = (.ok (files.lookup path).isSome, files) := rfl

theorem read_present {path : P} {files : Files P} {bytes : List UInt8} (present : files.lookup path = some bytes) :
    outcome (read .goes path) files = (.ok bytes, files) := by
  rw [read, outcome_bind, outcome_call, Fate.result_goes, andThen_ok, outcome_bind, outcome_get, andThen_ok]
  simp only [present, outcome_pure]

theorem read_absent {path : P} {files : Files P} (absent : files.lookup path = none) :
    outcome (read .goes path) files = (.error (.failed .notFound), files) := by
  rw [read, outcome_bind, outcome_call, Fate.result_goes, andThen_ok, outcome_bind, outcome_get, andThen_ok]
  simp only [absent, outcome_throw]

/-- Reading changes no file. -/
theorem read_leaves (fate : Fate) (path : P) (files : Files P) : (outcome (read fate path) files).2 = files := by
  by_cases goes : fate = .goes
  · rw [goes]
    cases atPath : files.lookup path with
    | none => rw [read_absent atPath]
    | some bytes => rw [read_present atPath]
  · obtain ⟨halt, stops⟩ := Fate.result_of_ne goes
    rw [read, outcome_bind, outcome_call, stops, andThen_error]

@[simp] theorem append_created (path : P) (bytes : List UInt8) (files : Files P) :
    append path bytes (files.insert path []) = files.insert path bytes := by
  rw [append, AList.lookup_insert, AList.insert_insert]
  rfl

theorem outcome_writeAll (fate : Fate) (kept : Nat) (path : P) (bytes : List UInt8) (files : Files P) :
    outcome (writeAll fate kept path bytes) files =
      (fate.result, append path (if fate = .goes then bytes else bytes.take kept) files) := by
  rw [writeAll, outcome_bind, outcome_modify, andThen_ok, outcome_call]

/-- Everything a write in place can leave: the old file when it is not
opened, some first part of the new contents when it stops, or all of them. -/
inductive Wrote (fates : WriteFates) (path : P) (bytes : List UInt8) (files : Files P) :
    Except (Halt IoError) Unit × Files P → Prop
  | unopened {halt} : fates.opens ≠ .goes → Wrote fates path bytes files (.error halt, files)
  | cut {halt} : fates.Cut → Wrote fates path bytes files (.error halt, files.insert path (bytes.take fates.kept))
  | whole : fates.opens = .goes → fates.writes = .goes →
      Wrote fates path bytes files (.ok (), files.insert path bytes)

theorem write_wrote (fates : WriteFates) (path : P) (bytes : List UInt8) (files : Files P) :
    Wrote fates path bytes files (outcome (write fates path bytes) files) := by
  rw [write, outcome_bind, create, outcome_bind, outcome_call]
  by_cases opens : fates.opens = .goes
  · rw [opens]
    simp only [Fate.result_goes, andThen_ok, outcome_modify, outcome_writeAll, append_created]
    by_cases writes : fates.writes = .goes
    · rw [writes, if_pos rfl]
      exact .whole opens writes
    · obtain ⟨halt, stops⟩ := Fate.result_of_ne writes
      rw [stops, if_neg writes]
      exact .cut ⟨opens, writes⟩
  · obtain ⟨halt, stops⟩ := Fate.result_of_ne opens
    rw [stops, andThen_error, andThen_error]
    exact .unopened opens

theorem createNew_cases (fate : Fate) (path : P) (files : Files P) :
    (∃ halt, (files.lookup path = none → fate ≠ .goes) ∧ outcome (createNew fate path) files = (.error halt, files)) ∨
    (files.lookup path = none ∧ fate = .goes ∧ outcome (createNew fate path) files = (.ok (), files.insert path [])) := by
  rw [createNew, outcome_bind, outcome_call]
  by_cases goes : fate = .goes
  · rw [goes, Fate.result_goes, andThen_ok, outcome_bind, outcome_get, andThen_ok]
    cases atPath : files.lookup path with
    | none => exact Or.inr ⟨rfl, rfl, rfl⟩
    | some bytes => exact Or.inl ⟨_, fun never => (nomatch never), rfl⟩
  · obtain ⟨halt, stops⟩ := Fate.result_of_ne goes
    rw [stops, andThen_error]
    exact Or.inl ⟨halt, fun _ => goes, rfl⟩

end Disk
