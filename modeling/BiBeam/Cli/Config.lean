import BiBeam.Cli.StateFiles
import BiBeam.Lib.Reach

namespace BiBeam

open Disk

/-- The cases of `ConfigError` that `init` reports. -/
inductive ConfigError
  | noHome
  | alreadyExists (path : StatePath)
  | io (err : IoError)
deriving DecidableEq

def configFilename : String := "config.toml"

def defaultConfigLines : List String := [
  "# bibeam-cli — default user configuration.",
  "#",
  "# This file is written by `bibeam init` and merged with",
  "# `BIBEAM_*` environment variables by figment at startup. Every",
  "# key below is commented out so the typed Config struct's",
  "# Default impl applies until an operator opts into an override.",
  "#",
  "# See the operator runbook for the meaning of each field.",
  "",
  "# Local SOCKS5 bind address used when TUN setup fails (F-CLI.8).",
  "# socks5_bind = \"127.0.0.1:1080\"",
  "",
  "# ECH (Encrypted Client Hello) policy for coordinator-bound TLS.",
  "# Accepted values: \"best-effort\", \"deferred\" (default).",
  "# See F-CLI.7 / D-1; the mechanism itself lives in F-TRANS.2.",
  "# ech_policy = \"deferred\"",
  "",
  "# TUN interface name hint passed to setup_tun (F-CLI.2).",
  "# tun_interface_name = \"bibeam0\"",
  "",
  "# TUN interface MTU (F-CLI.2).",
  "# tun_mtu = 1500"]

def defaultConfigToml : String :=
  String.join (defaultConfigLines.map (· ++ "\n"))

def defaultConfigBytes : List UInt8 :=
  defaultConfigToml.toByteArray.data.toList

def configFilePath (configDir : Option StatePath) : Option StatePath :=
  configDir.map (· ++ [configFilename])

/-- The override, or the file at the platform's path if there is a home directory. -/
def resolveConfigPath (pathOverride configDir : Option StatePath) : Option StatePath :=
  match pathOverride with
  | some path => some path
  | none => configFilePath configDir

structure InitFates where
  exists_ : Fate
  createDir : Fate
  file : WriteFates

def configIo {α : Type} (program : Program StatePath IoError α) : Program StatePath ConfigError α :=
  program.adapt (Halt.map .io)

def createConfigParent (fate : Fate) (path : StatePath) : Program StatePath ConfigError Unit :=
  match path.parent with
  | some parent => configIo (createDirAll fate parent)
  | none => pure ()

/-- What `writeDefaultConfig` does once it knows the path. -/
def writeConfigAt (path : StatePath) (fates : InitFates) : Program StatePath ConfigError StatePath := do
  if ← pathExists fates.exists_ path then
    throw (.failed (.alreadyExists path))
  else
    createConfigParent fates.createDir path
    configIo (write fates.file path defaultConfigBytes)
    return path

def writeDefaultConfig (pathOverride configDir : Option StatePath) (fates : InitFates) :
    Program StatePath ConfigError StatePath :=
  match resolveConfigPath pathOverride configDir with
  | some path => writeConfigAt path fates
  | none => throw (.failed .noHome)

/-- Every line is blank or a comment. -/
def commentLines : Bool → List UInt8 → Bool
  | _, [] => true
  | first, byte :: rest => (!first || byte == 35 || byte == 10) && commentLines (byte == 10) rest

theorem commentLines_take {first : Bool} {text : List UInt8} (comments : commentLines first text = true) (n : Nat) :
    commentLines first (text.take n) = true := by
  induction text generalizing first n with
  | nil => rw [List.take_nil]; rfl
  | cons byte rest ih =>
    cases n with
    | zero => rfl
    | succ n =>
      simp only [commentLines, Bool.and_eq_true] at comments
      simp only [List.take_succ_cons, commentLines, Bool.and_eq_true]
      exact ⟨comments.1, ih comments.2 n⟩

theorem commentLines_default : commentLines true defaultConfigBytes = true := by
  decide +kernel

/-- The call gets as far as an open, empty file. -/
def InitFates.Opens (fates : InitFates) (path : StatePath) : Prop :=
  (path.parent.isSome → fates.createDir = .goes) ∧ fates.file.opens = .goes

instance (fates : InitFates) (path : StatePath) : Decidable (fates.Opens path) :=
  inferInstanceAs (Decidable (_ ∧ _))

/-- The check for the file reports an error, which counts as no, and the file can be opened. -/
def InitFates.Overwrites (fates : InitFates) (path : StatePath) : Prop :=
  fates.exists_ ≠ .goes ∧ fates.exists_ ≠ .dies ∧ fates.Opens path

instance (fates : InitFates) (path : StatePath) : Decidable (fates.Overwrites path) :=
  inferInstanceAs (Decidable (_ ∧ _ ∧ _))

/-- Everything that `init` can leave. -/
inductive Initialised (path : StatePath) (fates : InitFates) (files : Files StatePath) :
    Except (Halt ConfigError) StatePath × Files StatePath → Prop
  | refused : fates.exists_ = .goes → (files.lookup path).isSome →
      Initialised path fates files (.error (.failed (.alreadyExists path)), files)
  | unopened {halt} : (∀ other, halt ≠ .failed (.alreadyExists other)) → ¬ fates.Overwrites path →
      Initialised path fates files (.error halt, files)
  | cut {halt} : (∀ other, halt ≠ .failed (.alreadyExists other)) →
      (files.lookup path = none ∨ fates.Overwrites path) →
      Initialised path fates files (.error halt, files.insert path (defaultConfigBytes.take fates.file.kept))
  | whole : (files.lookup path = none ∨ fates.Overwrites path) →
      Initialised path fates files (.ok path, files.insert path defaultConfigBytes)

@[simp] theorem outcome_configIo {α : Type} (program : Program StatePath IoError α) (files : Files StatePath) :
    outcome (configIo program) files =
      ((outcome program files).1.mapError (Halt.map .io), (outcome program files).2) :=
  outcome_adapt _ program files

theorem io_ne_alreadyExists (halt : Halt IoError) (path : StatePath) :
    halt.map ConfigError.io ≠ .failed (.alreadyExists path) := by
  cases halt <;> exact nofun

/-- The directory is there, or the call ends here. -/
theorem createConfigParent_cases (fate : Fate) (path : StatePath) (files : Files StatePath) :
    ((path.parent.isSome → fate = .goes) ∧ outcome (createConfigParent fate path) files = (.ok (), files)) ∨
    (¬ (path.parent.isSome → fate = .goes) ∧
      ∃ halt : Halt IoError, outcome (createConfigParent fate path) files = (.error (halt.map .io), files)) := by
  unfold createConfigParent
  cases parent : path.parent with
  | none => exact Or.inl ⟨nofun, rfl⟩
  | some dir =>
    simp only [outcome_configIo, createDirAll, outcome_call]
    by_cases goes : fate = .goes
    · rw [goes]
      exact Or.inl ⟨fun _ => rfl, rfl⟩
    · obtain ⟨halt, stops⟩ := Fate.result_of_ne goes
      rw [stops]
      exact Or.inr ⟨fun all => goes (all rfl), halt, rfl⟩

/-- Past the check, the file is left alone, cut or whole. -/
theorem writes_initialised {path : StatePath} {fates : InitFates} {files : Files StatePath}
    (unseen : files.lookup path = none ∨ fates.exists_ ≠ .goes ∧ fates.exists_ ≠ .dies) :
    Initialised path fates files (outcome (do
      createConfigParent fates.createDir path
      configIo (write fates.file path defaultConfigBytes)
      return path) files) := by
  rw [outcome_bind]
  obtain ⟨made, run⟩ | ⟨unmade, halt, run⟩ := createConfigParent_cases fates.createDir path files
  · have wrote := write_wrote fates.file path defaultConfigBytes files
    have free (opens : fates.file.opens = .goes) : files.lookup path = none ∨ fates.Overwrites path :=
      unseen.imp_right fun checked => ⟨checked.1, checked.2, made, opens⟩
    rw [run, andThen_ok, outcome_bind, outcome_configIo]
    generalize outcome (write fates.file path defaultConfigBytes) files = ended at wrote
    cases wrote with
    | @unopened halt stops => exact .unopened (io_ne_alreadyExists halt) fun overwrites => stops overwrites.2.2.2
    | @cut halt stops => exact .cut (io_ne_alreadyExists halt) (free stops.1)
    | whole opens writes => exact .whole (free opens)
  · rw [run]
    exact .unopened (io_ne_alreadyExists halt) fun overwrites => unmade overwrites.2.2.1

theorem writeConfigAt_initialised (path : StatePath) (fates : InitFates) (files : Files StatePath) :
    Initialised path fates files (outcome (writeConfigAt path fates) files) := by
  rw [writeConfigAt, outcome_bind]
  cases checks : fates.exists_ with
  | goes =>
    rw [pathExists_goes, andThen_ok]
    cases present : files.lookup path with
    | some content => exact .refused checks (by rw [present]; rfl)
    | none => exact writes_initialised (Or.inl present)
  | fails err => exact writes_initialised (Or.inr ⟨by rw [checks]; exact nofun, by rw [checks]; exact nofun⟩)
  | dies => exact .unopened (fun _ => nofun) fun overwrites => overwrites.2.1 checks

/-- A run of `init`, or a change that the operator makes by hand. -/
inductive ConfigEvent
  | init (fates : InitFates) (result : Except (Halt ConfigError) StatePath)
  | edited (bytes : List UInt8)
  | removed

section Runs

variable (pathOverride configDir : Option StatePath) (path : StatePath)

inductive ConfigStep : Files StatePath → ConfigEvent → Files StatePath → Prop
  | init {files fates result next} : outcome (writeDefaultConfig pathOverride configDir fates) files = (result, next) →
      ConfigStep files (.init fates result) next
  | edit {files} (bytes) : ConfigStep files (.edited bytes) (files.insert path bytes)
  | remove {files} : ConfigStep files .removed (files.erase path)

/-- What the operator has left in the file after one more event: an `init`
counts only if it was blind to the file. -/
def stands (left : Option (List UInt8)) : ConfigEvent → Option (List UInt8)
  | .init fates _ => if fates.Overwrites path then none else left
  | .edited bytes => some bytes
  | .removed => none

def standing (initial : Files StatePath) (events : List ConfigEvent) : Option (List UInt8) :=
  events.foldl (stands path) (initial.lookup path)

/-- What a run keeps of the file and of all others. -/
structure ConfigKept (initial : Files StatePath) (events : List ConfigEvent) (files : Files StatePath) : Prop where
  stays : ∀ bytes, standing path initial events = some bytes → files.lookup path = some bytes
  made : standing path initial events = none → ∀ bytes, files.lookup path = some bytes → bytes <+: defaultConfigBytes
  others : ∀ other, other ≠ path → files.lookup other = initial.lookup other

/-- What the operator finds after any number of runs of `init`, each of which
may fail or be killed anywhere, and of changes by hand. -/
structure InitSafe (initial : Files StatePath) (events : List ConfigEvent) (last : Files StatePath) : Prop where
  stays : ∀ bytes, standing path initial events = some bytes → last.lookup path = some bytes
  made : standing path initial events = none → ∀ bytes, last.lookup path = some bytes →
    bytes <+: defaultConfigBytes ∧ commentLines true bytes = true
  others : ∀ other, other ≠ path → last.lookup other = initial.lookup other
  succeeded : ∀ before fates found after, events = before ++ .init fates (.ok found) :: after → found = path ∧
    ∃ middle, Reach (ConfigStep pathOverride configDir path) initial (before ++ [.init fates (.ok found)]) middle ∧
      middle.lookup path = some defaultConfigBytes ∧ Reach (ConfigStep pathOverride configDir path) middle after last
  refused : ∀ before fates found after,
    events = before ++ .init fates (.error (.failed (.alreadyExists found))) :: after → found = path ∧
      ∃ middle, Reach (ConfigStep pathOverride configDir path) initial before middle ∧
        (middle.lookup path).isSome ∧ Reach (ConfigStep pathOverride configDir path) middle after last

end Runs

section Kept

variable {pathOverride configDir : Option StatePath} {path : StatePath} {initial files next : Files StatePath}
  {events : List ConfigEvent} {event : ConfigEvent}

theorem standing_snoc : standing path initial (events ++ [event]) = stands path (standing path initial events) event := by
  rw [standing, List.foldl_concat, standing]

theorem init_initialised (resolved : resolveConfigPath pathOverride configDir = some path) (fates : InitFates)
    (files : Files StatePath) :
    Initialised path fates files (outcome (writeDefaultConfig pathOverride configDir fates) files) := by
  unfold writeDefaultConfig
  rw [resolved]
  exact writeConfigAt_initialised path fates files

theorem ConfigKept.start (path : StatePath) (initial : Files StatePath) : ConfigKept path initial [] initial :=
  ⟨fun _ same => same, fun absent bytes there => (by rw [show initial.lookup path = none from absent] at there; cases there),
    fun _ _ => rfl⟩

/-- A run that leaves a first part of the defaults did so in an empty place, or blindly. -/
theorem ConfigKept.put (kept : ConfigKept path initial events files) {fates : InitFates}
    {result : Except (Halt ConfigError) StatePath} (free : files.lookup path = none ∨ fates.Overwrites path)
    {bytes : List UInt8} (first : bytes <+: defaultConfigBytes) :
    ConfigKept path initial (events ++ [.init fates result]) (files.insert path bytes) := by
  have none : standing path initial (events ++ [.init fates result]) = none := by
    rw [standing_snoc, stands]
    split
    · rfl
    · rename_i sees
      cases left : standing path initial events with
      | none => rfl
      | some old =>
        have there := kept.stays old left
        rw [free.resolve_right sees] at there
        cases there
  refine ⟨fun old never => ?_, fun _ found there => ?_, fun other apart => ?_⟩
  · rw [none] at never
    cases never
  · rw [AList.lookup_insert] at there
    rwa [← Option.some.inj there]
  · rw [AList.lookup_insert_ne apart]
    exact kept.others other apart

theorem ConfigKept.unchanged (kept : ConfigKept path initial events files) {fates : InitFates}
    {result : Except (Halt ConfigError) StatePath} (sees : ¬ fates.Overwrites path) :
    ConfigKept path initial (events ++ [.init fates result]) files := by
  have same : standing path initial (events ++ [.init fates result]) = standing path initial events := by
    rw [standing_snoc, stands, if_neg sees]
  refine ⟨?_, ?_, kept.others⟩
  · rw [same]
    exact kept.stays
  · rw [same]
    exact kept.made

theorem ConfigKept.step (kept : ConfigKept path initial events files)
    (resolved : resolveConfigPath pathOverride configDir = some path)
    (stepped : ConfigStep pathOverride configDir path files event next) :
    ConfigKept path initial (events ++ [event]) next := by
  cases stepped with
  | @init fates result _ run =>
    have ended := init_initialised resolved fates files
    rw [run] at ended
    cases ended with
    | refused sees => exact kept.unchanged fun overwrites => overwrites.1 sees
    | unopened _ sees => exact kept.unchanged sees
    | cut _ free => exact kept.put free (List.take_prefix _ _)
    | whole free => exact kept.put free List.prefix_rfl
  | edit bytes =>
    have now : standing path initial (events ++ [.edited bytes]) = some bytes := standing_snoc
    refine ⟨fun found same => ?_, fun never => ?_, fun other apart => ?_⟩
    · rw [now] at same
      rw [AList.lookup_insert, same]
    · rw [now] at never
      cases never
    · rw [AList.lookup_insert_ne apart]
      exact kept.others other apart
  | remove =>
    have now : standing path initial (events ++ [.removed]) = none := standing_snoc
    refine ⟨fun found never => ?_, fun _ found there => ?_, fun other apart => ?_⟩
    · rw [now] at never
      cases never
    · rw [AList.lookup_erase] at there
      cases there
    · rw [AList.lookup_erase_ne apart]
      exact kept.others other apart

theorem configKept_of_reach (resolved : resolveConfigPath pathOverride configDir = some path)
    (run : Reach (ConfigStep pathOverride configDir path) initial events files) :
    ConfigKept path initial events files := by
  induction run with
  | start => exact .start path initial
  | next _ stepped ih => exact ih.step resolved stepped

end Kept

/-- `init` never changes what the operator left in the file, unless it could
not look for it and yet could open it; what it leaves itself is a first part of
the defaults, all of whose lines are comments, and only all of them when it
reports success. -/
theorem run_initialises (pathOverride configDir : Option StatePath) (path : StatePath)
    (resolved : resolveConfigPath pathOverride configDir = some path) (initial : Files StatePath)
    (events : List ConfigEvent) (last : Files StatePath)
    (run : Reach (ConfigStep pathOverride configDir path) initial events last) :
    InitSafe pathOverride configDir path initial events last := by
  have kept := configKept_of_reach resolved run
  refine ⟨kept.stays, fun none bytes there => ?_, kept.others, ?_, ?_⟩
  · have first := kept.made none bytes there
    refine ⟨first, ?_⟩
    rw [List.prefix_iff_eq_take.mp first]
    exact commentLines_take commentLines_default _
  · rintro before fates found after rfl
    obtain ⟨middle, next, early, stepped, rest⟩ := run.step_at
    have reached := early.next stepped
    cases stepped with
    | init ran =>
      have ended := init_initialised resolved fates middle
      rw [ran] at ended
      cases ended with
      | whole => exact ⟨rfl, _, reached, AList.lookup_insert _, rest⟩
  · rintro before fates found after rfl
    obtain ⟨middle, next, early, stepped, rest⟩ := run.step_at
    cases stepped with
    | init ran =>
      have ended := init_initialised resolved fates middle
      rw [ran] at ended
      cases ended with
      | refused sees present => exact ⟨rfl, middle, early, present, rest⟩
      | unopened other => exact absurd rfl (other found)
      | cut other => exact absurd rfl (other found)

/-- Killed halfway, refused ever after, and in the end blind to what the operator wrote. -/
theorem run_initialises_killed :
    ∃ last : Files StatePath, last.lookup ["home", "config.toml"] = some (defaultConfigBytes.take 3) ∧
      InitSafe none (some ["home"]) ["home", "config.toml"] ∅
        [.init ⟨.goes, .goes, ⟨.goes, .dies, 40⟩⟩ (.error .died),
          .init ⟨.goes, .goes, ⟨.goes, .goes, 0⟩⟩ (.error (.failed (.alreadyExists ["home", "config.toml"]))),
          .edited [35, 10], .init ⟨.fails (.other "Permission denied"), .goes, ⟨.goes, .dies, 3⟩⟩ (.error .died)] last := by
  have killed : Reach (ConfigStep none (some ["home"]) ["home", "config.toml"]) ∅
      [.init ⟨.goes, .goes, ⟨.goes, .dies, 40⟩⟩ (.error .died)] _ := Reach.start.next (.init rfl)
  have refused : Reach (ConfigStep none (some ["home"]) ["home", "config.toml"]) ∅
      [.init ⟨.goes, .goes, ⟨.goes, .dies, 40⟩⟩ (.error .died),
        .init ⟨.goes, .goes, ⟨.goes, .goes, 0⟩⟩ (.error (.failed (.alreadyExists ["home", "config.toml"])))] _ :=
    killed.next (.init rfl)
  have edited : Reach (ConfigStep none (some ["home"]) ["home", "config.toml"]) ∅
      [.init ⟨.goes, .goes, ⟨.goes, .dies, 40⟩⟩ (.error .died),
        .init ⟨.goes, .goes, ⟨.goes, .goes, 0⟩⟩ (.error (.failed (.alreadyExists ["home", "config.toml"]))),
        .edited [35, 10]] _ := refused.next (.edit [35, 10])
  exact ⟨_, AList.lookup_insert _, run_initialises none (some ["home"]) ["home", "config.toml"] rfl ∅ _ _
    (edited.next (.init rfl))⟩

end BiBeam
