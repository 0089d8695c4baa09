import BiBeam.Cli.StateFiles
import BiBeam.Lib.Reach

namespace BiBeam

open Disk

/-- A call of the daemon on its state directory. -/
inductive StateCall
  | start (random : AeadKey) (fates : KeyFates)
  | persist (token : String) (nonce : AeadNonce) (fates : PersistFates)

namespace StateCall

def run (aead : ControlAead) (paths : StatePaths) (call : StateCall) (files : Files StatePath) :
    Except (Halt RegisterError) Unit × Files StatePath :=
  match call with
  | .start random fates =>
    let ended := outcome (loadOrCreateStateKey paths random fates) files
    (ended.1.map fun _ => (), ended.2)
  | .persist token nonce fates => outcome (persistSession aead token paths.sessionBlobPath nonce fates) files

/-- The call does not stop in the middle of a file it has just emptied or
made: of a key it has written every byte, and of a blob, where that takes
the place of a session that loads, every byte and the same token. -/
def Spares (utf8Error : List UInt8 → String) (aead : ControlAead) (paths : StatePaths) (files : Files StatePath) :
    StateCall → Prop
  | .start _ fates =>
    files.lookup paths.keyPath = none → fates.exists_ ≠ .dies → fates.createDir = .goes → fates.file.Cut →
      aeadKeyLen ≤ fates.file.kept
  | .persist token nonce fates => ∀ ciphertext,
    aead.seal_ nonce stateAadDomain token.toByteArray.data.toList = .ok ciphertext → fates.file.Cut →
      fates.createDir = .goes → ∀ old, Loads utf8Error aead paths.sessionBlobPath files old →
        (sealedBlob nonce ciphertext).length ≤ fates.file.kept ∧ old = token

/-- A persist that succeeds stores its token, and a call that stops leaves
the session that was there, and a state key within reach of a later start. -/
structure KeepsState (utf8Error : List UInt8 → String) (aead : ControlAead) (paths : StatePaths)
    (files : Files StatePath) (call : StateCall) : Prop where
  stored : ∀ token nonce fates, call = .persist token nonce fates → token ≠ "" →
    (call.run aead paths files).1 = .ok () →
      Loads utf8Error aead paths.sessionBlobPath (call.run aead paths files).2 token
  session : ∀ halt, (call.run aead paths files).1 = .error halt →
    ∀ token, Loads utf8Error aead paths.sessionBlobPath files token →
      Loads utf8Error aead paths.sessionBlobPath (call.run aead paths files).2 token
  key : ∀ halt, (call.run aead paths files).1 = .error halt → KeyObtainable paths files →
    KeyObtainable paths (call.run aead paths files).2

section

variable {utf8Error : List UInt8 → String} {aead : ControlAead} {paths : StatePaths} {files after : Files StatePath}
  {call : StateCall}

theorem persist_run (apart : paths.Apart) (aead : ControlAead) (files : Files StatePath) (token : String)
    (nonce : AeadNonce) (fates : PersistFates) :
    Persisted aead token paths.sessionBlobPath nonce fates files ((persist token nonce fates).run aead paths files) :=
  persistSession_persisted aead token apart.blobSolid nonce fates files

theorem start_run (apart : paths.Apart) (aead : ControlAead) (files : Files StatePath) (random : AeadKey)
    (fates : KeyFates) :
    ∃ result, Started paths random fates files (result, ((start random fates).run aead paths files).2) ∧
      ((start random fates).run aead paths files).1 = result.map fun _ => () :=
  ⟨_, loadOrCreateStateKey_started apart.keySolid random fates files, rfl⟩

/-- A start leaves the session alone. -/
theorem start_leaves_blob (apart : paths.Apart) (random : AeadKey) (fates : KeyFates) :
    ((start random fates).run aead paths files).2.lookup paths.sessionBlobPath =
      files.lookup paths.sessionBlobPath := by
  obtain ⟨result, started, _⟩ := start_run apart aead files random fates
  generalize ((start random fates).run aead paths files).2 = after at started
  cases started with
  | untouched => rfl
  | cut | whole => exact AList.lookup_insert_ne apart.differ.symm

/-- A persist leaves the key alone. -/
theorem persist_leaves_key (apart : paths.Apart) (token : String) (nonce : AeadNonce) (fates : PersistFates) :
    ((persist token nonce fates).run aead paths files).2.lookup paths.keyPath = files.lookup paths.keyPath := by
  have persisted := persist_run apart aead files token nonce fates
  generalize (persist token nonce fates).run aead paths files = ended at persisted
  cases persisted with
  | untouched => rfl
  | cut | whole => exact AList.lookup_insert_ne apart.differ

/-- A key file is never written again. -/
theorem run_leaves_key (apart : paths.Apart) (call : StateCall) {bytes : List UInt8}
    (present : files.lookup paths.keyPath = some bytes) :
    (call.run aead paths files).2.lookup paths.keyPath = some bytes := by
  cases call with
  | start random fates =>
    obtain ⟨result, started, _⟩ := start_run apart aead files random fates
    generalize ((start random fates).run aead paths files).2 = after at started
    cases started with
    | untouched => exact present
    | cut absent | whole absent =>
      rw [present] at absent
      cases absent
  | persist token nonce fates => rwa [persist_leaves_key apart]

/-- Whatever it returns, a sparing call leaves a state key within reach. -/
theorem Spares.key (spares : call.Spares utf8Error aead paths files) (apart : paths.Apart)
    (obtainable : KeyObtainable paths files) : KeyObtainable paths (call.run aead paths files).2 := by
  cases call with
  | start random fates =>
    obtain ⟨result, started, _⟩ := start_run apart aead files random fates
    generalize ((start random fates).run aead paths files).2 = after at started
    cases started with
    | untouched => exact obtainable
    | cut absent alive makes stops =>
      rw [keyObtainable_insert apart.keySolid, List.length_take, random.length_toList]
      exact min_eq_right (spares absent alive makes stops)
    | whole => exact (keyObtainable_insert apart.keySolid).mpr random.length_toList
  | persist token nonce fates =>
    exact (keyObtainable_congr apart.keySolid (persist_leaves_key apart token nonce fates)).mpr obtainable

theorem persist_stored (lawful : aead.Lawful) (apart : paths.Apart) {token : String} {nonce : AeadNonce}
    {fates : PersistFates} (solid : token ≠ "")
    (returns : ((persist token nonce fates).run aead paths files).1 = .ok ()) :
    Loads utf8Error aead paths.sessionBlobPath ((persist token nonce fates).run aead paths files).2 token := by
  have persisted := persist_run apart aead files token nonce fates
  generalize (persist token nonce fates).run aead paths files = ended at persisted returns
  cases persisted with
  | untouched | cut => cases returns
  | whole isSealed =>
    rw [loads_insert, openBlob_sealed lawful isSealed]
    exact ⟨rfl, solid⟩

/-- The part of a blob that a stopped write has put down loads as the old
session exactly when it is the whole blob of the same token. -/
theorem cut_loads_iff (lawful : aead.Lawful) {nonce : AeadNonce} {token old : String} {ciphertext : List UInt8}
    (isSealed : aead.seal_ nonce stateAadDomain token.toByteArray.data.toList = .ok ciphertext) {kept : Nat}
    (loads : Loads utf8Error aead paths.sessionBlobPath files old) :
    Loads utf8Error aead paths.sessionBlobPath
        (files.insert paths.sessionBlobPath ((sealedBlob nonce ciphertext).take kept)) old ↔
      (sealedBlob nonce ciphertext).length ≤ kept ∧ old = token := by
  rw [loads_insert]
  by_cases whole : (sealedBlob nonce ciphertext).length ≤ kept
  · obtain ⟨_, _, opens⟩ := loads_iff.mp loads
    rw [List.take_of_length_le whole, openBlob_sealed lawful isSealed, and_iff_right whole]
    refine and_iff_left_of_imp fun same => ?_
    rw [← same]
    exact openBlob_ne_empty opens
  · exact iff_of_false (openBlob_cut lawful isSealed (Nat.lt_of_not_le whole) old) fun both => whole both.1

/-- A sparing call that stops leaves the session that was there. -/
theorem Spares.session (spares : call.Spares utf8Error aead paths files) (lawful : aead.Lawful) (apart : paths.Apart)
    {halt : Halt RegisterError} (stops : (call.run aead paths files).1 = .error halt) {old : String}
    (loads : Loads utf8Error aead paths.sessionBlobPath files old) :
    Loads utf8Error aead paths.sessionBlobPath (call.run aead paths files).2 old := by
  cases call with
  | start random fates => exact (loads_congr (start_leaves_blob apart random fates) old).mpr loads
  | persist token nonce fates =>
    have persisted := persist_run apart aead files token nonce fates
    generalize (persist token nonce fates).run aead paths files = ended at persisted stops
    cases persisted with
    | untouched => exact loads
    | cut isSealed cut makes =>
      exact (cut_loads_iff lawful isSealed loads).mpr (spares _ isSealed cut makes old loads)
    | whole => cases stops

theorem start_keepsState_iff (lawful : aead.Lawful) (apart : paths.Apart) (random : AeadKey) (fates : KeyFates) :
    (start random fates).KeepsState utf8Error aead paths files ↔
      (start random fates).Spares utf8Error aead paths files := by
  constructor
  · intro keeps absent alive makes cut
    have before : KeyObtainable paths files := by
      rw [keyObtainable_iff apart.keySolid]
      intro bytes present
      rw [absent] at present
      cases present
    have key := keeps.key
    obtain ⟨result, started, returns⟩ := start_run apart aead files random fates
    rw [returns] at key
    generalize ((start random fates).run aead paths files).2 = after at started key
    cases started with
    | untouched stops => exact absurd cut.1 (stops absent alive makes)
    | cut =>
      have whole := (keyObtainable_insert apart.keySolid).mp (key _ rfl before)
      rw [List.length_take, random.length_toList] at whole
      exact min_eq_right_iff.mp whole
    | whole _ writes => exact absurd writes cut.2
  · exact fun spares => ⟨fun _ _ _ never => (nomatch never), fun _ stops _ => spares.session lawful apart stops,
      fun _ _ => spares.key apart⟩

theorem persist_keepsState_iff (lawful : aead.Lawful) (apart : paths.Apart) (token : String) (nonce : AeadNonce)
    (fates : PersistFates) : (persist token nonce fates).KeepsState utf8Error aead paths files ↔
      (persist token nonce fates).Spares utf8Error aead paths files := by
  constructor
  · intro keeps ciphertext isSealed cut makes old loads
    have session := keeps.session
    have persisted := persist_run apart aead files token nonce fates
    generalize (persist token nonce fates).run aead paths files = ended at persisted session
    cases persisted with
    | untouched stops => exact absurd cut.1 (stops ciphertext isSealed makes)
    | cut otherSealed =>
      rw [isSealed] at otherSealed
      cases otherSealed
      exact (cut_loads_iff lawful isSealed loads).mp (session _ rfl old loads)
    | whole _ writes => exact absurd writes cut.2
  · refine fun spares => ⟨?_, fun _ stops _ => spares.session lawful apart stops, fun _ _ => spares.key apart⟩
    rintro _ _ _ ⟨⟩ solid returns
    exact persist_stored lawful apart solid returns

end

/-- The token that a call has put on disk. -/
def stored? : StateCall × Except (Halt RegisterError) Unit → Option String
  | (.persist token _ _, .ok ()) => some token
  | _ => none

/-- The token of the last persist that succeeded, or the one from before. -/
def remembered (old : String) (calls : List (StateCall × Except (Halt RegisterError) Unit)) : String :=
  (calls.filterMap stored?).getLast?.getD old

theorem remembered_concat (old : String) (calls : List (StateCall × Except (Halt RegisterError) Unit))
    (last : StateCall × Except (Halt RegisterError) Unit) :
    remembered old (calls ++ [last]) = (stored? last).getD (remembered old calls) := by
  unfold remembered
  rw [List.filterMap_append]
  cases found : stored? last with
  | none => simp [found]
  | some token => simp [found]

/-- A call with its result; it stores no empty token and spares the state. -/
def SparingStep (utf8Error : List UInt8 → String) (aead : ControlAead) (paths : StatePaths) (files : Files StatePath)
    (step : StateCall × Except (Halt RegisterError) Unit) (after : Files StatePath) : Prop :=
  step.1.run aead paths files = (step.2, after) ∧ step.1.Spares utf8Error aead paths files ∧ stored? step ≠ some ""

section

variable {utf8Error : List UInt8 → String} {aead : ControlAead} {paths : StatePaths} {files after : Files StatePath}

theorem SparingStep.leaves {step : StateCall × Except (Halt RegisterError) Unit}
    (sparing : SparingStep utf8Error aead paths files step after) : (step.1.run aead paths files).2 = after := by
  rw [sparing.1]

theorem SparingStep.loads {step : StateCall × Except (Halt RegisterError) Unit}
    (sparing : SparingStep utf8Error aead paths files step after) (lawful : aead.Lawful) (apart : paths.Apart)
    {old : String} (loads : Loads utf8Error aead paths.sessionBlobPath files old) :
    Loads utf8Error aead paths.sessionBlobPath after ((stored? step).getD old) := by
  rw [← sparing.leaves]
  obtain ⟨call, result⟩ := step
  obtain ⟨isRun, spares, solid⟩ := sparing
  have returns : (call.run aead paths files).1 = result := congrArg Prod.fst isRun
  cases call with
  | start random fates => exact (loads_congr (start_leaves_blob apart random fates) old).mpr loads
  | persist token nonce fates =>
    cases result with
    | ok _ => exact persist_stored lawful apart (fun blank => solid (congrArg some blank)) returns
    | error halt => exact spares.session lawful apart returns loads

end

/-- A daemon whose calls all spare its state finds, after any run of starts
and persists, the session it stored last and the key it has had since it had one. -/
theorem session_remembered {utf8Error : List UInt8 → String} {aead : ControlAead} (lawful : aead.Lawful)
    {paths : StatePaths} (apart : paths.Apart) {first last : Files StatePath}
    {calls : List (StateCall × Except (Halt RegisterError) Unit)}
    (reach : Reach (SparingStep utf8Error aead paths) first calls last) (obtainable : KeyObtainable paths first)
    {old : String} (loads : Loads utf8Error aead paths.sessionBlobPath first old) :
    Loads utf8Error aead paths.sessionBlobPath last (remembered old calls) ∧ KeyObtainable paths last ∧
      ∀ bytes, first.lookup paths.keyPath = some bytes → last.lookup paths.keyPath = some bytes := by
  induction reach with
  | start => exact ⟨loads, obtainable, fun _ present => present⟩
  | next _ sparing ih =>
    obtain ⟨loadsLast, obtainableLast, present⟩ := ih
    refine ⟨?_, ?_, fun bytes atKey => ?_⟩
    · rw [remembered_concat]
      exact sparing.loads lawful apart loadsLast
    · rw [← sparing.leaves]
      exact sparing.2.1.key apart obtainableLast
    · rw [← sparing.leaves]
      exact run_leaves_key apart _ (present bytes atKey)

/-- A cipher with a tag of sixteen bytes, here in front of the text and made
of its length alone. -/
def lengthTagged : ControlAead where
  seal_ _ _ plaintext :=
    if plaintext.length < 256 ^ 16 then .ok (BigEndian.bytes 16 plaintext.length ++ plaintext) else .error .seal_
  open_ _ _ ciphertext :=
    if 16 ≤ ciphertext.length ∧ BigEndian.value (ciphertext.take 16) + 16 = ciphertext.length then
      .ok (ciphertext.drop 16)
    else
      .error .open_

theorem lengthTagged_sealed {nonce : AeadNonce} {domain plaintext ciphertext : List UInt8}
    (isSealed : lengthTagged.seal_ nonce domain plaintext = .ok ciphertext) :
    plaintext.length < 256 ^ 16 ∧ ciphertext = BigEndian.bytes 16 plaintext.length ++ plaintext := by
  unfold lengthTagged at isSealed
  dsimp only at isSealed
  split at isSealed
  · rename_i fits
    exact ⟨fits, (Except.ok.inj isSealed).symm⟩
  · cases isSealed

theorem lengthTagged_open {nonce : AeadNonce} {domain plaintext : List UInt8} (fits : plaintext.length < 256 ^ 16)
    (kept : Nat) : lengthTagged.open_ nonce domain ((BigEndian.bytes 16 plaintext.length ++ plaintext).take kept) =
      if 16 + plaintext.length ≤ kept then .ok plaintext else .error .open_ := by
  have front := BigEndian.length_bytes 16 plaintext.length
  have value : BigEndian.value (BigEndian.bytes 16 plaintext.length) = plaintext.length := by
    rw [BigEndian.value_bytes, Nat.mod_eq_of_lt fits]
  unfold lengthTagged
  dsimp only
  generalize BigEndian.bytes 16 plaintext.length = tag at front value
  have lengths : (tag ++ plaintext).length = 16 + plaintext.length := by
    rw [List.length_append, front]
  by_cases whole : 16 + plaintext.length ≤ kept
  · rw [if_pos whole, List.take_of_length_le (by omega), List.take_left' front, List.drop_left' front, value, lengths,
      if_pos (by omega)]
  · rw [if_neg whole, if_neg ?_]
    rintro ⟨long, same⟩
    rw [List.length_take, lengths] at long same
    rw [List.take_take, Nat.min_eq_left (by omega), List.take_left' front, value] at same
    omega

theorem lengthTagged_lawful : lengthTagged.Lawful := by
  constructor
  · intro nonce domain plaintext ciphertext isSealed
    obtain ⟨fits, isText⟩ := lengthTagged_sealed isSealed
    have lengths : ciphertext.length = 16 + plaintext.length := by
      rw [isText, List.length_append, BigEndian.length_bytes]
    rw [← List.take_of_length_le lengths.le, isText, lengthTagged_open fits, if_pos le_rfl]
  · intro nonce domain plaintext ciphertext isSealed kept cut
    obtain ⟨fits, isText⟩ := lengthTagged_sealed isSealed
    rw [isText, List.length_append, BigEndian.length_bytes] at cut
    refine ⟨.open_, ?_⟩
    rw [isText, lengthTagged_open fits, if_neg (Nat.not_le_of_lt cut)]

def zeroNonce : AeadNonce :=
  Vector.replicate aeadNonceLen 0

def firstKey : AeadKey :=
  Vector.replicate aeadKeyLen 1

def storesFirst : StateCall :=
  .persist "first" zeroNonce ⟨.goes, ⟨.goes, .goes, 0⟩⟩

/-- Killed after the old blob has been emptied. -/
def killedStoring : StateCall :=
  .persist "second" zeroNonce ⟨.goes, ⟨.goes, .dies, 0⟩⟩

/-- Killed after five bytes of a new key. -/
def killedStarting : StateCall :=
  .start firstKey ⟨.goes, .goes, .goes, ⟨.goes, .dies, 5⟩, .goes⟩

def homePaths : StatePaths :=
  .under ["home"]

def storedFirst : Files StatePath :=
  (storesFirst.run lengthTagged homePaths ∅).2

/-- A call on the state directory keeps the state exactly when it does not
stop in the middle of a file it has emptied or made. -/
theorem keepsState_iff (utf8Error : List UInt8 → String) (aead : ControlAead) (lawful : aead.Lawful)
    (configDir : StatePath) (files : Files StatePath) (call : StateCall) :
    call.KeepsState utf8Error aead (.under configDir) files ↔
      call.Spares utf8Error aead (.under configDir) files := by
  have apart := StatePaths.under_apart configDir
  cases call with
  | start random fates => exact start_keepsState_iff lawful apart random fates
  | persist token nonce fates => exact persist_keepsState_iff lawful apart token nonce fates

/-- The emptied blob is too short for a nonce, and the key file of five bytes
is refused by every later start. -/
theorem killed_loses_state :
    lengthTagged.Lawful ∧ Loads (fun _ => "") lengthTagged homePaths.sessionBlobPath storedFirst "first" ∧
    (outcome (loadSession (fun _ => "") lengthTagged homePaths.sessionBlobPath .goes)
      (killedStoring.run lengthTagged homePaths storedFirst).2).1 = .error (.failed (.stateBlobTooShort 0 12)) ∧
    ¬ killedStoring.KeepsState (fun _ => "") lengthTagged homePaths storedFirst ∧
    KeyObtainable homePaths ∅ ∧
    (∀ random, (outcome (loadOrCreateStateKey homePaths random .go)
      (killedStarting.run lengthTagged homePaths ∅).2).1 = .error (.failed (.stateBlobTooShort 5 32))) ∧
    ¬ killedStarting.KeepsState (fun _ => "") lengthTagged homePaths ∅ := by
  have apart : homePaths.Apart := StatePaths.under_apart ["home"]
  have loads : Loads (fun _ => "") lengthTagged homePaths.sessionBlobPath storedFirst "first" :=
    persist_stored lengthTagged_lawful apart (by decide) rfl
  have emptied : (outcome (loadSession (fun _ => "") lengthTagged homePaths.sessionBlobPath .goes)
      (killedStoring.run lengthTagged homePaths storedFirst).2).1 = .error (.failed (.stateBlobTooShort 0 12)) := rfl
  have refused : ∀ random, (outcome (loadOrCreateStateKey homePaths random .go)
      (killedStarting.run lengthTagged homePaths ∅).2).1 = .error (.failed (.stateBlobTooShort 5 32)) := fun _ => rfl
  have obtainable : KeyObtainable homePaths ∅ := fun random => ⟨random, rfl⟩
  refine ⟨lengthTagged_lawful, loads, emptied, fun keeps => ?_, obtainable, refused, fun keeps => ?_⟩
  · have still := keeps.session .died rfl "first" loads
    rw [Loads, emptied] at still
    cases still
  · obtain ⟨key, still⟩ := keeps.key .died rfl obtainable firstKey
    rw [refused] at still
    cases still

theorem keepsState_iff_killedStoring :
    killedStoring.KeepsState (fun _ => "") lengthTagged homePaths storedFirst ↔
      killedStoring.Spares (fun _ => "") lengthTagged homePaths storedFirst :=
  keepsState_iff (fun _ => "") lengthTagged lengthTagged_lawful ["home"] storedFirst killedStoring

end StateCall

end BiBeam
