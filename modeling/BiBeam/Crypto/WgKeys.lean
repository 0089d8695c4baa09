import Mathlib.Data.List.DropRight
import BiBeam.Lib.Base64
import BiBeam.Lib.Postcard
import BiBeam.Protocol.Multihop

namespace BiBeam

inductive WgKeyError
  | base64 (error : String)
  | wrongLength (got : Nat)
deriving DecidableEq

def wgKeyLen : Nat := 32

/-- The characters that are white space. -/
def isWhitespace (c : Char) : Bool :=
  (9 ≤ c.toNat ∧ c.toNat ≤ 13) ∨ c.toNat = 32 ∨ c.toNat = 0x85 ∨ c.toNat = 0xA0 ∨ c.toNat = 0x1680 ∨
    (0x2000 ≤ c.toNat ∧ c.toNat ≤ 0x200A) ∨ c.toNat = 0x2028 ∨ c.toNat = 0x2029 ∨ c.toNat = 0x202F ∨
    c.toNat = 0x205F ∨ c.toNat = 0x3000

/-- The text without the white space at its ends. -/
def trim (input : String) : String :=
  String.ofList ((input.toList.dropWhile isWhitespace).rdropWhile isWhitespace)

theorem trim_of_printable {chars : List Char} (printable : ∀ c ∈ chars, isWhitespace c = false) :
    trim (String.ofList chars) = String.ofList chars := by
  have front : chars.dropWhile isWhitespace = chars := by
    cases chars with
    | nil => rfl
    | cons c rest => rw [List.dropWhile_cons_of_neg (by simp [printable])]
  have behind : chars.rdropWhile isWhitespace = chars :=
    List.rdropWhile_eq_self_iff.mpr fun some => by simp [printable _ (List.getLast_mem some)]
  rw [trim, String.toList_ofList, front, behind]

/-- White space that is added at the ends does not show. -/
theorem trim_padded {front behind : List Char} (chars : List Char) (blankFront : ∀ c ∈ front, isWhitespace c = true)
    (blankBehind : ∀ c ∈ behind, isWhitespace c = true) :
    trim (String.ofList (front ++ chars ++ behind)) = trim (String.ofList chars) := by
  have blankReversed : ∀ c ∈ behind.reverse, isWhitespace c = true := by
    intro c member
    exact blankBehind c (List.mem_reverse.mp member)
  have cutBehind (kept : List Char) : (kept ++ behind).rdropWhile isWhitespace = kept.rdropWhile isWhitespace := by
    rw [List.rdropWhile, List.reverse_append, List.dropWhile_append_of_pos blankReversed, List.rdropWhile]
  rw [trim, trim, String.toList_ofList, String.toList_ofList, List.append_assoc,
    List.dropWhile_append_of_pos blankFront, List.dropWhile_append]
  split
  · rename_i blank
    rw [List.isEmpty_iff.mp blank, List.dropWhile_eq_nil_iff.mpr blankBehind]
  · rw [cutBehind]

theorem trim_text (base64 : Base64) (bytes : List UInt8) : trim (base64.text bytes) = base64.text bytes := by
  have visible : ∀ n < 127, 32 < n → isWhitespace (Char.ofNat n) = false := by decide
  refine trim_of_printable fun c member => ?_
  obtain ⟨symbol, inside, rfl⟩ := List.mem_map.mp member
  have printable := base64.printable inside
  exact visible symbol.toNat printable.2 printable.1

namespace WgPublicKey

variable (base64 : Base64)

def toWgBase64 (key : WgPublicKey) : String :=
  base64.text key.bytes.toList

def fromWgBase64 (input : String) : Except WgKeyError WgPublicKey :=
  match base64.decode (trim input).toByteArray.data.toList with
  | .error error => .error (.base64 error)
  | .ok raw => if length : raw.length = wgKeyLen then .ok ⟨⟨raw.toArray, length⟩⟩ else .error (.wrongLength raw.length)

theorem fromWgBase64_toWgBase64 (key : WgPublicKey) : fromWgBase64 base64 (toWgBase64 base64 key) = .ok key := by
  have length : key.bytes.toList.length = wgKeyLen := key.bytes.length_toList
  rw [fromWgBase64, toWgBase64, trim_text, Base64.utf8_text, base64.decode_encode]
  dsimp only
  rw [dif_pos length]
  rfl

/-- The text form that `wg` prints and parses. -/
def wgText : TextForm WgPublicKey where
  print key := some (toWgBase64 base64 key)
  parse text := (fromWgBase64 base64 text).toOption
  parse_print {key text} same := by
    rw [← Option.some.inj same, fromWgBase64_toWgBase64]
    rfl
  fits {key text} same := by
    rw [← Option.some.inj same, toWgBase64, base64.utf8ByteSize_text, key.bytes.length_toList]
    decide

end WgPublicKey

end BiBeam
