import BiBeam.Coordinator.RowBytes
import BiBeam.Crypto.WgKeys
import BiBeam.Discovery.InviteBinding
import BiBeam.Lib.Base64Url
import BiBeam.Lib.Disk

namespace BiBeam

/-- The cases of `RegisterError` that are about invites. -/
inductive InviteError
  | inviteBase64 (text : String)
  | invitePostcard (text : String)
  | invitePrompt (err : IoError)
deriving DecidableEq

/-- What the armour takes from other libraries: the text form of a time, which
arrays are keys, and the texts of failures. -/
structure ArmourLibs where
  rfc3339 : TextForm OffsetDateTime
  isKey : Vector UInt8 32 → Bool
  base64Text : List UInt8 → String
  postcardText : PostcardError → String

namespace ArmourLibs

variable (libs : ArmourLibs)

def code : Wire PostcardError InviteCode :=
  (postcard.byteArray 16).as InviteCode.bytes InviteCode.mk

/-- Only bytes that are a key are read. -/
def issuer : Wire PostcardError IdentityPublicKey :=
  (postcard.byteArray 32).through (fun key => .ok key.bytes) fun bytes =>
    if libs.isKey bytes then .ok ⟨bytes⟩ else .error postcard.deCustom

def timestamp : Wire PostcardError OffsetDateTime :=
  postcard.printed libs.rfc3339

def signedInvite : Wire PostcardError SignedInvite :=
  (code.pair (libs.issuer.pair (libs.timestamp.pair
    ((postcard.option (.other "DeserializeBadOption") libs.timestamp).pair postcard.byteString)))).as
    (fun invite => (invite.code, invite.issuer, invite.issuedAt, invite.expiresAt, invite.signature))
    fun (code, issuer, issuedAt, expiresAt, signature) => ⟨code, issuer, issuedAt, expiresAt, signature⟩

end ArmourLibs

section Armour

variable (libs : ArmourLibs)

def encodeInvite (invite : SignedInvite) : Except InviteError String :=
  match libs.signedInvite.write invite with
  | .error err => .error (.invitePostcard (libs.postcardText err))
  | .ok bytes => .ok (Base64.Alphabet.urlSafe.text bytes)

def parseInvite (armoured : String) : Except InviteError SignedInvite :=
  let trimmed := (trim armoured).toByteArray.data.toList
  match Base64.Alphabet.urlSafe.decode trimmed with
  | none => .error (.inviteBase64 (libs.base64Text trimmed))
  | some bytes => (fromBytes libs.signedInvite bytes).mapError fun err => .invitePostcard (libs.postcardText err)

end Armour

/-- The two ends of the terminal. Reading may fail. -/
structure Console where
  flush : Except IoError Unit
  input : Except IoError String

/-- The input up to the first end of a line, with it. -/
def readLine (input : String) : String :=
  String.ofList (input.toList.takeWhile (· ≠ '\n') ++ (input.toList.dropWhile (· ≠ '\n')).take 1)

def readInviteFromStdin (console : Console) : Except InviteError String := do
  console.flush.mapError .invitePrompt
  let input ← console.input.mapError .invitePrompt
  return trim (readLine input)

def obtainInviteString (supplied : Option String) (console : Console) : Except InviteError String :=
  match supplied with
  | some arg => .ok arg
  | none => readInviteFromStdin console

/-- The invite of the `up` command: the one supplied, or the one typed. -/
def upInvite (libs : ArmourLibs) (supplied : Option String) (console : Console) : Except InviteError SignedInvite :=
  obtainInviteString supplied console >>= parseInvite libs

/-- White space, all of it within one line. -/
def BlankInLine (chars : List Char) : Prop :=
  ∀ c ∈ chars, isWhitespace c = true ∧ c ≠ '\n'

/-- The text stands for the invite however it is handed over, and no part of
it in front of the end stands for any. -/
structure Armours (libs : ArmourLibs) (armour : String) (invite : SignedInvite) : Prop where
  supplied : ∀ front behind : List Char, (∀ c ∈ front, isWhitespace c = true) → (∀ c ∈ behind, isWhitespace c = true) →
    ∀ console, upInvite libs (some (String.ofList (front ++ armour.toList ++ behind))) console = .ok invite
  typed : ∀ front behind more : List Char, BlankInLine front → BlankInLine behind →
    (more = [] ∨ ∃ later, more = '\n' :: later) → upInvite libs none
      ⟨.ok (), .ok (String.ofList (front ++ armour.toList ++ behind ++ more))⟩ = .ok invite
  cut : ∀ supplied console text other, obtainInviteString supplied console = .ok text →
    (trim text).toList <+: armour.toList → trim text ≠ armour → upInvite libs supplied console ≠ .ok other

variable {libs : ArmourLibs}

theorem upInvite_supplied (text : String) (console : Console) :
    upInvite libs (some text) console = parseInvite libs text := rfl

theorem upInvite_typed (input : String) :
    upInvite libs none ⟨.ok (), .ok input⟩ = parseInvite libs (trim (readLine input)) := by
  simp only [upInvite, obtainInviteString, readInviteFromStdin, Except.mapError_ok, bind, Except.bind, pure, Except.pure]

theorem signedInvite_back {invite : SignedInvite} (valid : libs.isKey invite.issuer.bytes = true) :
    libs.signedInvite.back invite = .ok invite := by
  have issuer : libs.issuer.back invite.issuer = .ok invite.issuer := by
    change (if libs.isKey invite.issuer.bytes then Except.ok invite.issuer else Except.error postcard.deCustom) = _
    rw [if_pos valid]
  have keeps : ∀ time, libs.timestamp.Keeps time := fun _ => rfl
  have expires : (postcard.option (.other "DeserializeBadOption") libs.timestamp).back invite.expiresAt =
      .ok invite.expiresAt :=
    postcard.option_keeps keeps invite.expiresAt
  exact Wire.as_back (Wire.pair_back rfl (Wire.pair_back issuer (Wire.pair_back rfl (Wire.pair_back expires rfl))))

theorem encodeInvite_eq_ok {invite : SignedInvite} {armour : String} (encoded : encodeInvite libs invite = .ok armour) :
    ∃ bytes, libs.signedInvite.write invite = .ok bytes ∧ armour = Base64.Alphabet.urlSafe.text bytes := by
  unfold encodeInvite at encoded
  split at encoded
  · cases encoded
  · rename_i bytes written
    exact ⟨bytes, written, (Except.ok.inj encoded).symm⟩

theorem trim_urlSafe (bytes : List UInt8) :
    trim (Base64.Alphabet.urlSafe.text bytes) = Base64.Alphabet.urlSafe.text bytes := by
  have visible : ∀ n < 127, 32 < n → isWhitespace (Char.ofNat n) = false := by decide
  refine trim_of_printable fun c member => ?_
  obtain ⟨letter, inside, rfl⟩ := List.mem_map.mp member
  have printable := Base64.Alphabet.urlSafe.encode_printable bytes letter inside
  exact visible letter.toNat printable.2 printable.1

/-- What is left of the text after trimming is the armour of the bytes, and no other text is. -/
theorem decode_trim_iff {text : String} {bytes : List UInt8} :
    Base64.Alphabet.urlSafe.decode (trim text).toByteArray.data.toList = some bytes ↔
      trim text = Base64.Alphabet.urlSafe.text bytes := by
  rw [Base64.Alphabet.decode_eq_some_iff, ← Base64.Alphabet.bytes_text]
  constructor
  · intro same
    apply String.toByteArray_inj.mp
    apply ByteArray.ext
    exact (Array.toList_inj.mp same).symm
  · intro same
    rw [same]

theorem parseInvite_eq_ok_iff {text : String} {invite : SignedInvite} :
    parseInvite libs text = .ok invite ↔ ∃ bytes rest, trim text = Base64.Alphabet.urlSafe.text bytes ∧
      libs.signedInvite.read bytes = .ok (invite, rest) := by
  unfold parseInvite
  dsimp only
  cases decoded : Base64.Alphabet.urlSafe.decode (trim text).toByteArray.data.toList with
  | none =>
    refine iff_of_false (by rintro ⟨⟩) ?_
    rintro ⟨bytes, rest, same, _⟩
    rw [decode_trim_iff.mpr same] at decoded
    cases decoded
  | some bytes =>
    have spelt := decode_trim_iff.mp decoded
    dsimp only [fromBytes]
    constructor
    · intro run
      cases found : libs.signedInvite.read bytes with
      | error err =>
        rw [found] at run
        cases run
      | ok taken =>
        rw [found] at run
        cases run
        exact ⟨bytes, taken.2, spelt, found⟩
    · rintro ⟨other, rest, same, found⟩
      have again := decode_trim_iff.mpr same
      rw [decoded] at again
      cases again
      rw [found]
      rfl

/-- A text that begins another text in letters begins it in bytes. -/
theorem prefix_of_text {front bytes : List UInt8}
    (cut : (Base64.Alphabet.urlSafe.text front).toList <+: (Base64.Alphabet.urlSafe.text bytes).toList) :
    front <+: bytes := by
  apply Base64.Alphabet.urlSafe.prefix_of_encode
  rw [Base64.Alphabet.text, Base64.Alphabet.text, String.toList_ofList, String.toList_ofList] at cut
  have same := List.prefix_iff_eq_take.mp cut
  rw [← List.map_take] at same
  have visible := Base64.Alphabet.urlSafe.encode_printable
  have letters := congrArg (fun chars => (String.ofList chars).toByteArray.data.toList) same
  rw [Base64.bytes_ofPrintable (visible front),
    Base64.bytes_ofPrintable fun letter member => visible bytes letter (List.mem_of_mem_take member)] at letters
  rw [letters]
  exact List.take_prefix _ _

theorem readLine_line {line more : List Char} (oneLine : ∀ c ∈ line, c ≠ '\n')
    (ends : more = [] ∨ ∃ later, more = '\n' :: later) :
    readLine (String.ofList (line ++ more)) = String.ofList (line ++ more.take 1) := by
  have goesOn : ∀ c ∈ line, decide (c ≠ '\n') = true := fun c member => decide_eq_true (oneLine c member)
  have stops : more.takeWhile (fun c => decide (c ≠ '\n')) = [] ∧ more.dropWhile (fun c => decide (c ≠ '\n')) = more := by
    obtain rfl | ⟨later, rfl⟩ := ends
    · exact ⟨rfl, rfl⟩
    · exact ⟨rfl, rfl⟩
  rw [readLine, String.toList_ofList, List.takeWhile_append_of_pos goesOn, List.dropWhile_append_of_pos goesOn,
    stops.1, stops.2, List.append_nil]

/-- An invite that can be armoured comes back from the armour with any white
space around it, as an argument or as a line that is typed, whatever is typed
after it. An armour that was cut short brings no invite at all. -/
theorem encodeInvite_armours (libs : ArmourLibs) (invite : SignedInvite) (armour : String)
    (valid : libs.isKey invite.issuer.bytes = true) (encoded : encodeInvite libs invite = .ok armour) :
    Armours libs armour invite := by
  obtain ⟨bytes, written, rfl⟩ := encodeInvite_eq_ok encoded
  have whole : libs.signedInvite.read bytes = .ok (invite, []) := by
    have back := libs.signedInvite.returns written []
    rw [signedInvite_back valid, List.append_nil] at back
    exact back
  have parsed {text : String} (same : trim text = Base64.Alphabet.urlSafe.text bytes) :
      parseInvite libs text = .ok invite :=
    parseInvite_eq_ok_iff.mpr ⟨bytes, [], same, whole⟩
  have trimmed {front behind : List Char} (blankFront : ∀ c ∈ front, isWhitespace c = true)
      (blankBehind : ∀ c ∈ behind, isWhitespace c = true) :
      trim (String.ofList (front ++ (Base64.Alphabet.urlSafe.text bytes).toList ++ behind)) =
        Base64.Alphabet.urlSafe.text bytes := by
    rw [trim_padded _ blankFront blankBehind, String.ofList_toList, trim_urlSafe]
  refine ⟨?_, ?_, ?_⟩
  · intro front behind blankFront blankBehind console
    rw [upInvite_supplied]
    exact parsed (trimmed blankFront blankBehind)
  · intro front behind more blankFront blankBehind ends
    have visible : ∀ c ∈ (Base64.Alphabet.urlSafe.text bytes).toList, c ≠ '\n' := by
      have apart : ∀ n < 127, 32 < n → Char.ofNat n ≠ '\n' := by decide
      intro c member
      rw [Base64.Alphabet.text, String.toList_ofList] at member
      obtain ⟨letter, inside, rfl⟩ := List.mem_map.mp member
      have printable := Base64.Alphabet.urlSafe.encode_printable bytes letter inside
      exact apart letter.toNat printable.2 printable.1
    have oneLine : ∀ c ∈ front ++ (Base64.Alphabet.urlSafe.text bytes).toList ++ behind, c ≠ '\n' := by
      intro c member
      obtain member | member := List.mem_append.mp member
      · obtain member | member := List.mem_append.mp member
        · exact (blankFront c member).2
        · exact visible c member
      · exact (blankBehind c member).2
    have blank : ∀ c ∈ behind ++ more.take 1, isWhitespace c = true := by
      intro c member
      obtain member | member := List.mem_append.mp member
      · exact (blankBehind c member).1
      · obtain rfl | ⟨later, rfl⟩ := ends
        · cases member
        · obtain rfl := List.mem_singleton.mp member
          decide
    have line := trimmed (fun c member => (blankFront c member).1) blank
    rw [upInvite_typed, readLine_line oneLine ends, List.append_assoc, line]
    exact parsed (trim_urlSafe bytes)
  · intro supplied console text other obtained cut shorter run
    rw [upInvite, obtained] at run
    obtain ⟨front, rest, spelt, read⟩ := parseInvite_eq_ok_iff.mp run
    rw [spelt] at cut shorter
    have same := Wire.eq_of_read_prefix whole (prefix_of_text cut) read
    rw [same] at shorter
    exact shorter rfl

section Epoch

def basePoint : Vector UInt8 32 :=
  ⟨#[88] ++ Array.replicate 31 102, rfl⟩

/-- Libraries that know one time and one key. -/
def armourLibs : ArmourLibs where
  rfc3339 := unixEpochText
  isKey bytes := decide (bytes = basePoint)
  base64Text _ := "Invalid input length: 1"
  postcardText _ := "Hit the end of buffer, expected more data"

def plainInvite : SignedInvite :=
  ⟨⟨Vector.replicate 16 171⟩, ⟨basePoint⟩, .unixEpoch, none, List.replicate 64 0⟩

theorem encodeInvite_armours_epoch :
    ∃ armour, encodeInvite armourLibs plainInvite = .ok armour ∧ Armours armourLibs armour plainInvite :=
  ⟨_, rfl, encodeInvite_armours armourLibs plainInvite _ (by decide) rfl⟩

end Epoch

end BiBeam
