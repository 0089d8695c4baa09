import BiBeam.Lib.Disk

namespace BiBeam

open Disk

def aeadKeyLen : Nat := 32

def aeadNonceLen : Nat := 12

abbrev AeadKey := Vector UInt8 aeadKeyLen

abbrev AeadNonce := Vector UInt8 aeadNonceLen

inductive AeadError
  | seal_
  | open_
deriving DecidableEq

def AeadError.text : AeadError → String
  | .seal_ => "AEAD seal failed"
  | .open_ => "AEAD open failed: authentication tag did not verify"

/-- The cipher under one key: nonce, associated data, then the text. -/
structure ControlAead where
  seal_ : AeadNonce → List UInt8 → List UInt8 → Except AeadError (List UInt8)
  open_ : AeadNonce → List UInt8 → List UInt8 → Except AeadError (List UInt8)

inductive RegisterError
  | stateBlobTooShort (got need : Nat)
  | stateAead (text : String)
  | stateIo (err : IoError)
  | emptyToken
deriving DecidableEq

/-- A path by its components. -/
abbrev StatePath := List String

def StatePath.parent : StatePath → Option StatePath
  | [] => none
  | first :: rest => some (first :: rest).dropLast

def stateAadDomain : List UInt8 :=
  "bibeam.cli.session.v1".toByteArray.data.toList

structure StatePaths where
  keyPath : StatePath
  sessionBlobPath : StatePath

def StatePaths.under (configDir : StatePath) : StatePaths where
  keyPath := configDir ++ ["state.key"]
  sessionBlobPath := configDir ++ ["state"] ++ ["session.bin"]

/-- The calls of `writeStateKey`, and the two that come before it. -/
structure KeyFates where
  exists_ : Fate
  read : Fate
  createDir : Fate
  file : WriteFates
  sync : Fate

structure PersistFates where
  createDir : Fate
  file : WriteFates

def stateIo {α : Type} (program : Program StatePath IoError α) : Program StatePath RegisterError α :=
  program.adapt (Halt.map .stateIo)

def stateAead {α : Type} (result : Except AeadError α) : Program StatePath RegisterError α :=
  match result with
  | .ok value => pure value
  | .error err => throw (.failed (.stateAead err.text))

def createParent (fate : Fate) (path : StatePath) : Program StatePath RegisterError Unit :=
  match path.parent with
  | some parent => stateIo (createDirAll fate parent)
  | none => pure ()

def writeStateKey (path : StatePath) (key : AeadKey) (fates : KeyFates) : Program StatePath RegisterError Unit := do
  createParent fates.createDir path
  stateIo (createNew fates.file.opens path)
  stateIo (writeAll fates.file.writes fates.file.kept path key.toList)
  stateIo (call fates.sync)

/-- The branch of `loadOrCreateStateKey` for a key file that exists. -/
def readStateKey (path : StatePath) (fate : Fate) : Program StatePath RegisterError AeadKey := do
  let bytes ← stateIo (read fate path)
  if length : bytes.length = aeadKeyLen then
    return ⟨bytes.toArray, length⟩
  else
    throw (.failed (.stateBlobTooShort bytes.length aeadKeyLen))

/-- `random` is the key that the call makes when there is no key file. -/
def loadOrCreateStateKey (paths : StatePaths) (random : AeadKey) (fates : KeyFates) :
    Program StatePath RegisterError AeadKey := do
  if ← pathExists fates.exists_ paths.keyPath then
    readStateKey paths.keyPath fates.read
  else
    writeStateKey paths.keyPath random fates
    return random

def persistSession (aead : ControlAead) (token : String) (blobPath : StatePath) (nonce : AeadNonce)
    (fates : PersistFates) : Program StatePath RegisterError Unit := do
  let ciphertext ← stateAead (aead.seal_ nonce stateAadDomain token.toByteArray.data.toList)
  createParent fates.createDir blobPath
  stateIo (write fates.file blobPath (nonce.toList ++ ciphertext))

/-- What becomes of an opened blob; `utf8Error` is the text of a decoding error. -/
def tokenOf (utf8Error : List UInt8 → String) : Except AeadError (List UInt8) → Except RegisterError String
  | .error err => .error (.stateAead err.text)
  | .ok plaintext =>
    match String.fromUTF8? plaintext.toByteArray with
    | none => .error (.stateAead ("token bytes not utf-8: " ++ utf8Error plaintext))
    | some token => if token = "" then .error .emptyToken else .ok token

/-- What `loadSession` does with the bytes it has read. -/
def openBlob (utf8Error : List UInt8 → String) (aead : ControlAead) (blob : List UInt8) :
    Except RegisterError String :=
  if short : blob.length < aeadNonceLen then
    .error (.stateBlobTooShort blob.length aeadNonceLen)
  else
    have length : (blob.take aeadNonceLen).toArray.size = aeadNonceLen := by
      rw [List.size_toArray, List.length_take]
      omega
    tokenOf utf8Error
      (aead.open_ ⟨(blob.take aeadNonceLen).toArray, length⟩ stateAadDomain (blob.drop aeadNonceLen))

def loadSession (utf8Error : List UInt8 → String) (aead : ControlAead) (blobPath : StatePath) (fate : Fate) :
    Program StatePath RegisterError String := do
  let blob ← stateIo (read fate blobPath)
  match openBlob utf8Error aead blob with
  | .ok token => return token
  | .error err => throw (.failed err)

end BiBeam
