import BiBeam.Cli.Register
import BiBeam.Lib.Postcard

namespace BiBeam

open Disk

/-- What the cipher is used for: opening undoes sealing, and a sealed text
that has lost its end does not open. -/
structure ControlAead.Lawful (aead : ControlAead) : Prop where
  inverts : ∀ {nonce domain plaintext ciphertext}, aead.seal_ nonce domain plaintext = .ok ciphertext →
    aead.open_ nonce domain ciphertext = .ok plaintext
  rejectsCut : ∀ {nonce domain plaintext ciphertext}, aead.seal_ nonce domain plaintext = .ok ciphertext →
    ∀ kept < ciphertext.length, ∃ err, aead.open_ nonce domain (ciphertext.take kept) = .error err

def sealedBlob (nonce : AeadNonce) (ciphertext : List UInt8) : List UInt8 :=
  nonce.toList ++ ciphertext

@[simp] theorem length_sealedBlob (nonce : AeadNonce) (ciphertext : List UInt8) :
    (sealedBlob nonce ciphertext).length = aeadNonceLen + ciphertext.length := by
  rw [sealedBlob, List.length_append, Vector.length_toList]

section

variable {utf8Error : List UInt8 → String} {aead : ControlAead}

/-- A blob with a whole nonce is opened under that nonce. -/
theorem openBlob_framed (nonce : AeadNonce) (ciphertext : List UInt8) : openBlob utf8Error aead
    (sealedBlob nonce ciphertext) = tokenOf utf8Error (aead.open_ nonce stateAadDomain ciphertext) := by
  have long : ¬ (sealedBlob nonce ciphertext).length < aeadNonceLen := by
    rw [length_sealedBlob]
    omega
  have front : (sealedBlob nonce ciphertext).take aeadNonceLen = nonce.toList :=
    List.take_left' nonce.length_toList
  have behind : (sealedBlob nonce ciphertext).drop aeadNonceLen = ciphertext :=
    List.drop_left' nonce.length_toList
  unfold openBlob
  rw [dif_neg long, behind]
  simp only [front, Vector.toArray_toList, Vector.mk_toArray]

theorem tokenOf_bytes (token found : String) :
    tokenOf utf8Error (.ok token.toByteArray.data.toList) = .ok found ↔ found = token ∧ token ≠ "" := by
  unfold tokenOf
  simp only [Postcard.fromUTF8_bytes]
  by_cases blank : token = ""
  · rw [if_pos blank]
    exact ⟨fun never => (nomatch never), fun both => absurd blank both.2⟩
  · rw [if_neg blank, Except.ok.injEq, eq_comm]
    exact (and_iff_left blank).symm

theorem tokenOf_ne_empty {opened : Except AeadError (List UInt8)} {found : String}
    (opens : tokenOf utf8Error opened = .ok found) : found ≠ "" := by
  cases opened with
  | error err => cases opens
  | ok plaintext =>
    unfold tokenOf at opens
    dsimp only at opens
    split at opens
    · cases opens
    · split at opens
      · cases opens
      · rename_i solid
        cases opens
        exact solid

/-- The whole blob gives the token back, unless that is empty. -/
theorem openBlob_sealed (lawful : aead.Lawful) {nonce : AeadNonce} {token : String} {ciphertext : List UInt8}
    (isSealed : aead.seal_ nonce stateAadDomain token.toByteArray.data.toList = .ok ciphertext) (found : String) :
    openBlob utf8Error aead (sealedBlob nonce ciphertext) = .ok found ↔ found = token ∧ token ≠ "" := by
  rw [openBlob_framed, lawful.inverts isSealed, tokenOf_bytes]

/-- A blob without its end gives no token. -/
theorem openBlob_cut (lawful : aead.Lawful) {nonce : AeadNonce} {token : String} {ciphertext : List UInt8}
    (isSealed : aead.seal_ nonce stateAadDomain token.toByteArray.data.toList = .ok ciphertext) {kept : Nat}
    (cut : kept < (sealedBlob nonce ciphertext).length) (found : String) :
    openBlob utf8Error aead ((sealedBlob nonce ciphertext).take kept) ≠ .ok found := by
  rw [length_sealedBlob] at cut
  by_cases long : aeadNonceLen ≤ kept
  · obtain ⟨err, refused⟩ := lawful.rejectsCut isSealed (kept - aeadNonceLen) (by omega)
    have framed : (sealedBlob nonce ciphertext).take kept =
        sealedBlob nonce (ciphertext.take (kept - aeadNonceLen)) := by
      rw [sealedBlob, List.take_append, nonce.length_toList, List.take_of_length_le (by rwa [nonce.length_toList])]
      rfl
    rw [framed, openBlob_framed, refused]
    exact fun never => nomatch never
  · have short : ((sealedBlob nonce ciphertext).take kept).length < aeadNonceLen := by
      rw [List.length_take]
      omega
    unfold openBlob
    rw [dif_pos short]
    exact fun never => nomatch never

theorem openBlob_ne_empty {blob : List UInt8} {found : String}
    (opens : openBlob utf8Error aead blob = .ok found) : found ≠ "" := by
  unfold openBlob at opens
  split at opens
  · cases opens
  · exact tokenOf_ne_empty opens

end

@[simp] theorem outcome_stateIo {α : Type} (program : Program StatePath IoError α) (files : Files StatePath) :
    outcome (stateIo program) files =
      ((outcome program files).1.mapError (Halt.map .stateIo), (outcome program files).2) :=
  outcome_adapt _ program files

section

variable {utf8Error : List UInt8 → String} {aead : ControlAead} {paths : StatePaths}

/-- The session on disk loads as this token. -/
def Loads (utf8Error : List UInt8 → String) (aead : ControlAead) (blobPath : StatePath) (files : Files StatePath)
    (token : String) : Prop :=
  (outcome (loadSession utf8Error aead blobPath .goes) files).1 = .ok token

theorem loads_iff {blobPath : StatePath} {files : Files StatePath} {token : String} :
    Loads utf8Error aead blobPath files token ↔
      ∃ blob, files.lookup blobPath = some blob ∧ openBlob utf8Error aead blob = .ok token := by
  rw [Loads, loadSession, outcome_bind, outcome_stateIo]
  cases atPath : files.lookup blobPath with
  | none =>
    rw [read_absent atPath]
    exact ⟨fun never => (nomatch never), fun ⟨_, never, _⟩ => nomatch never⟩
  | some blob =>
    rw [read_present atPath]
    simp only [Except.mapError_ok, andThen_ok, Option.some.injEq, exists_eq_left']
    cases openBlob utf8Error aead blob with
    | error err =>
      rw [outcome_throw]
      exact ⟨fun never => (nomatch never), fun never => nomatch never⟩
    | ok found =>
      rw [outcome_pure, Except.ok.injEq, Except.ok.injEq]

theorem outcome_createParent {path : StatePath} (solid : path ≠ []) (fate : Fate) (files : Files StatePath) :
    outcome (createParent fate path) files = (fate.result.mapError (Halt.map .stateIo), files) := by
  cases path with
  | nil => exact absurd rfl solid
  | cons first rest =>
    rw [createParent, StatePath.parent]
    simp only [outcome_stateIo, createDirAll, outcome_call]

/-- Everything a persist can leave: the old blob when it does not get to
open the file, a first part of the new one when the write stops, or all of it. -/
inductive Persisted (aead : ControlAead) (token : String) (path : StatePath) (nonce : AeadNonce)
    (fates : PersistFates) (files : Files StatePath) :
    Except (Halt RegisterError) Unit × Files StatePath → Prop
  | untouched {halt} :
      (∀ ciphertext, aead.seal_ nonce stateAadDomain token.toByteArray.data.toList = .ok ciphertext →
        fates.createDir = .goes → fates.file.opens ≠ .goes) →
      Persisted aead token path nonce fates files (.error halt, files)
  | cut {halt ciphertext} :
      aead.seal_ nonce stateAadDomain token.toByteArray.data.toList = .ok ciphertext → fates.file.Cut →
      fates.createDir = .goes → Persisted aead token path nonce fates files
        (.error halt, files.insert path ((sealedBlob nonce ciphertext).take fates.file.kept))
  | whole {ciphertext} :
      aead.seal_ nonce stateAadDomain token.toByteArray.data.toList = .ok ciphertext → fates.file.writes = .goes →
      Persisted aead token path nonce fates files (.ok (), files.insert path (sealedBlob nonce ciphertext))

theorem persistSession_persisted (aead : ControlAead) (token : String) {path : StatePath} (solid : path ≠ [])
    (nonce : AeadNonce) (fates : PersistFates) (files : Files StatePath) :
    Persisted aead token path nonce fates files (outcome (persistSession aead token path nonce fates) files) := by
  rw [persistSession, outcome_bind]
  cases isSealed : aead.seal_ nonce stateAadDomain token.toByteArray.data.toList with
  | error err =>
    refine .untouched fun ciphertext never => ?_
    rw [isSealed] at never
    cases never
  | ok ciphertext =>
    rw [stateAead, outcome_pure, andThen_ok, outcome_bind, outcome_createParent solid]
    by_cases makes : fates.createDir = .goes
    · rw [makes, Fate.result_goes, Except.mapError_ok, andThen_ok, outcome_stateIo]
      have wrote := write_wrote fates.file path (nonce.toList ++ ciphertext) files
      generalize outcome (write fates.file path (nonce.toList ++ ciphertext)) files = ended at wrote
      cases wrote with
      | unopened stops => exact .untouched fun _ _ _ => stops
      | cut stops => exact .cut isSealed stops makes
      | whole _ writes => exact .whole isSealed writes
    · obtain ⟨halt, stops⟩ := Fate.result_of_ne makes
      rw [stops]
      exact .untouched fun _ _ never => absurd never makes

/-- Everything the writing of a key can leave: no key file, or one with a
first part of the key when the write stops, or the whole key. -/
inductive KeyWritten (path : StatePath) (key : AeadKey) (fates : KeyFates) (files : Files StatePath) :
    Except (Halt RegisterError) Unit × Files StatePath → Prop
  | untouched {halt} : (files.lookup path = none → fates.createDir = .goes → fates.file.opens ≠ .goes) →
      KeyWritten path key fates files (.error halt, files)
  | cut {halt} : files.lookup path = none → fates.createDir = .goes → fates.file.Cut →
      KeyWritten path key fates files (.error halt, files.insert path (key.toList.take fates.file.kept))
  | whole : files.lookup path = none → fates.file.writes = .goes →
      KeyWritten path key fates files
        (fates.sync.result.mapError (Halt.map .stateIo), files.insert path key.toList)

theorem writeStateKey_keyWritten {path : StatePath} (solid : path ≠ []) (key : AeadKey) (fates : KeyFates)
    (files : Files StatePath) : KeyWritten path key fates files (outcome (writeStateKey path key fates) files) := by
  rw [writeStateKey, outcome_bind, outcome_createParent solid]
  by_cases makes : fates.createDir = .goes
  · rw [makes, Fate.result_goes, Except.mapError_ok, andThen_ok, outcome_bind, outcome_stateIo]
    rcases createNew_cases fates.file.opens path files with ⟨halt, stops, run⟩ | ⟨absent, opens, run⟩
    · rw [run]
      exact .untouched fun absent _ => stops absent
    · rw [run]
      simp only [Except.mapError_ok, andThen_ok, outcome_bind, outcome_stateIo, outcome_writeAll, append_created]
      by_cases writes : fates.file.writes = .goes
      · rw [writes, if_pos rfl, Fate.result_goes, Except.mapError_ok, andThen_ok, outcome_stateIo, outcome_call]
        exact .whole absent writes
      · obtain ⟨halt, stops⟩ := Fate.result_of_ne writes
        rw [stops, if_neg writes, Except.mapError_error, andThen_error]
        exact .cut absent makes ⟨opens, writes⟩
  · obtain ⟨halt, stops⟩ := Fate.result_of_ne makes
    rw [stops]
    exact .untouched fun _ never => absurd never makes

/-- Everything a start can leave: nothing changes unless there is no key
file, and then it is as after the writing of a key. -/
inductive Started (paths : StatePaths) (random : AeadKey) (fates : KeyFates) (files : Files StatePath) :
    Except (Halt RegisterError) AeadKey × Files StatePath → Prop
  | untouched {result} :
      (files.lookup paths.keyPath = none → fates.exists_ ≠ .dies → fates.createDir = .goes →
        fates.file.opens ≠ .goes) →
      Started paths random fates files (result, files)
  | cut {halt} : files.lookup paths.keyPath = none → fates.exists_ ≠ .dies → fates.createDir = .goes →
      fates.file.Cut →
      Started paths random fates files
        (.error halt, files.insert paths.keyPath (random.toList.take fates.file.kept))
  | whole {result} : files.lookup paths.keyPath = none → fates.file.writes = .goes →
      Started paths random fates files (result, files.insert paths.keyPath random.toList)

/-- The branch without a key file. -/
theorem KeyWritten.started {random : AeadKey} {fates : KeyFates} {files : Files StatePath}
    (exists_ : fates.exists_ ≠ .dies) {ended : Except (Halt RegisterError) Unit × Files StatePath}
    (wrote : KeyWritten paths.keyPath random fates files ended) :
    Started paths random fates files (andThen (fun _ => pure random) ended) := by
  cases wrote with
  | untouched stops => exact .untouched fun absent _ makes => stops absent makes
  | cut absent makes stops => exact .cut absent exists_ makes stops
  | whole absent writes =>
    cases fates.sync.result with
    | ok _ => exact .whole absent writes
    | error halt => exact .whole absent writes

theorem readStateKey_present {path : StatePath} {files : Files StatePath} {bytes : List UInt8}
    (present : files.lookup path = some bytes) :
    (∃ key, (outcome (readStateKey path .goes) files).1 = .ok key) ↔ bytes.length = aeadKeyLen := by
  rw [readStateKey, outcome_bind, outcome_stateIo, read_present present, Except.mapError_ok, andThen_ok]
  split
  · rename_i length
    exact iff_of_true ⟨_, rfl⟩ length
  · rename_i length
    exact iff_of_false (fun ⟨_, never⟩ => nomatch never) length

theorem readStateKey_leaves (path : StatePath) (fate : Fate) (files : Files StatePath) :
    (outcome (readStateKey path fate) files).2 = files := by
  rw [readStateKey, outcome_bind, outcome_stateIo, read_leaves]
  cases (outcome (read fate path) files).1 with
  | error halt => rfl
  | ok bytes =>
    rw [Except.mapError_ok, andThen_ok]
    split <;> rfl

theorem loadOrCreateStateKey_started (solid : paths.keyPath ≠ []) (random : AeadKey) (fates : KeyFates)
    (files : Files StatePath) :
    Started paths random fates files (outcome (loadOrCreateStateKey paths random fates) files) := by
  have written : fates.exists_ ≠ .dies → Started paths random fates files
      (outcome (writeStateKey paths.keyPath random fates >>= fun _ => pure random) files) := by
    intro alive
    rw [outcome_bind]
    exact (writeStateKey_keyWritten solid random fates files).started alive
  rw [loadOrCreateStateKey, outcome_bind]
  cases looks : fates.exists_ with
  | dies => exact .untouched fun _ never => absurd looks never
  | fails err => exact written (by simp [looks])
  | goes =>
    rw [pathExists_goes, andThen_ok]
    cases present : files.lookup paths.keyPath with
    | none => exact written (by simp [looks])
    | some bytes =>
      have unchanged : ∀ ended : Except (Halt RegisterError) AeadKey × Files StatePath, ended.2 = files →
          Started paths random fates files ended := by
        rintro ⟨result, rest⟩ rfl
        refine .untouched fun absent => ?_
        rw [present] at absent
        cases absent
      exact unchanged _ (readStateKey_leaves paths.keyPath fates.read files)

def KeyFates.go : KeyFates :=
  ⟨.goes, .goes, .goes, ⟨.goes, .goes, 0⟩, .goes⟩

/-- A start whose file-system calls all go through gets a state key. -/
def KeyObtainable (paths : StatePaths) (files : Files StatePath) : Prop :=
  ∀ random, ∃ key, (outcome (loadOrCreateStateKey paths random .go) files).1 = .ok key

/-- Only a key file of another length is in the way. -/
theorem keyObtainable_iff (solid : paths.keyPath ≠ []) {files : Files StatePath} : KeyObtainable paths files ↔
    ∀ bytes, files.lookup paths.keyPath = some bytes → bytes.length = aeadKeyLen := by
  unfold KeyObtainable loadOrCreateStateKey
  simp only [outcome_bind, KeyFates.go, pathExists_goes, andThen_ok]
  cases present : files.lookup paths.keyPath with
  | none =>
    refine iff_of_true (fun random => ⟨random, ?_⟩) fun _ never => nomatch never
    have wrote := writeStateKey_keyWritten solid random .go files
    rw [Option.isSome_none, if_neg Bool.false_ne_true, outcome_bind]
    change (andThen _ (outcome (writeStateKey paths.keyPath random .go) files)).1 = _
    generalize outcome (writeStateKey paths.keyPath random .go) files = ended at wrote
    cases wrote with
    | untouched stops => exact absurd rfl (stops present rfl)
    | cut _ _ stops => exact absurd rfl stops.2
    | whole => rfl
  | some bytes =>
    simp only [Option.isSome_some, if_true, readStateKey_present present, Option.some.injEq, forall_eq', forall_const]

end

/-- The two files of a state directory are apart. -/
structure StatePaths.Apart (paths : StatePaths) : Prop where
  keySolid : paths.keyPath ≠ []
  blobSolid : paths.sessionBlobPath ≠ []
  differ : paths.keyPath ≠ paths.sessionBlobPath

theorem StatePaths.under_apart (configDir : StatePath) : (StatePaths.under configDir).Apart := by
  refine ⟨List.append_ne_nil_of_right_ne_nil _ (List.cons_ne_nil _ _),
    List.append_ne_nil_of_right_ne_nil _ (List.cons_ne_nil _ _), fun same => ?_⟩
  have lengths := congrArg List.length same
  simp only [under, List.length_append, List.length_singleton] at lengths
  omega

theorem loads_congr {utf8Error : List UInt8 → String} {aead : ControlAead} {blobPath : StatePath}
    {files after : Files StatePath} (same : after.lookup blobPath = files.lookup blobPath) (token : String) :
    Loads utf8Error aead blobPath after token ↔ Loads utf8Error aead blobPath files token := by
  rw [loads_iff, loads_iff, same]

theorem loads_insert {utf8Error : List UInt8 → String} {aead : ControlAead} {blobPath : StatePath}
    {files : Files StatePath} {blob : List UInt8} {token : String} :
    Loads utf8Error aead blobPath (files.insert blobPath blob) token ↔ openBlob utf8Error aead blob = .ok token := by
  rw [loads_iff, AList.lookup_insert]
  simp only [Option.some.injEq, exists_eq_left']

theorem keyObtainable_congr {paths : StatePaths} (solid : paths.keyPath ≠ []) {files after : Files StatePath}
    (same : after.lookup paths.keyPath = files.lookup paths.keyPath) :
    KeyObtainable paths after ↔ KeyObtainable paths files := by
  rw [keyObtainable_iff solid, keyObtainable_iff solid, same]

theorem keyObtainable_insert {paths : StatePaths} (solid : paths.keyPath ≠ []) {files : Files StatePath}
    {bytes : List UInt8} : KeyObtainable paths (files.insert paths.keyPath bytes) ↔ bytes.length = aeadKeyLen := by
  rw [keyObtainable_iff solid, AList.lookup_insert]
  simp only [Option.some.injEq, forall_eq']

end BiBeam
