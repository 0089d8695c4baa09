import BiBeam.Lib.Base64

namespace Base64

/-- The bytes of a text of printable ASCII are its letters. -/
theorem bytes_ofPrintable {letters : List UInt8}
    (printable : ∀ letter ∈ letters, 32 < letter.toNat ∧ letter.toNat < 127) :
    (String.ofList (letters.map fun letter => Char.ofNat letter.toNat)).toByteArray.data.toList = letters := by
  rw [String.toByteArray_ofList, List.utf8Encode, List.toList_data_toByteArray, List.flatMap_map]
  refine (List.flatMap_congr fun letter member => ?_).trans (List.flatMap_singleton' _)
  exact utf8EncodeChar_printable (printable letter member)

/-- The letters for six bits. No two stand for the same bits, and no other letter stands for any. -/
structure Alphabet where
  symbol : Nat → UInt8
  bitsOf : UInt8 → Option Nat
  bitsOf_eq_some_iff : ∀ {letter bits}, bitsOf letter = some bits ↔ bits < 64 ∧ symbol bits = letter
  printable : ∀ {bits}, bits < 64 → 32 < (symbol bits).toNat ∧ (symbol bits).toNat < 127

namespace Alphabet

/-- Six bits at a time, the first bits in front; the last group is filled up with zeros. -/
def sextets : List UInt8 → List Nat
  | [] => []
  | [a] => [a.toNat / 4, a.toNat % 4 * 16]
  | [a, b] => [a.toNat / 4, a.toNat % 4 * 16 + b.toNat / 16, b.toNat % 16 * 4]
  | a :: b :: c :: rest =>
    (a.toNat / 4) :: (a.toNat % 4 * 16 + b.toNat / 16) :: (b.toNat % 16 * 4 + c.toNat / 64) :: (c.toNat % 64) ::
      sextets rest

/-- The bytes of groups of six bits. A lone group at the end has no byte, and the
bits that are left over are zero. -/
def octets : List Nat → Option (List UInt8)
  | [] => some []
  | [_] => none
  | [p, q] => if q % 16 = 0 then some [UInt8.ofNat (p * 4 + q / 16)] else none
  | [p, q, r] =>
    if r % 4 = 0 then some [UInt8.ofNat (p * 4 + q / 16), UInt8.ofNat (q % 16 * 16 + r / 4)] else none
  | p :: q :: r :: s :: rest =>
    (octets rest).map fun bytes =>
      UInt8.ofNat (p * 4 + q / 16) :: UInt8.ofNat (q % 16 * 16 + r / 4) :: UInt8.ofNat (r % 4 * 64 + s) :: bytes

theorem sextets_lt (bytes : List UInt8) : ∀ bits ∈ sextets bytes, bits < 64 := by
  induction bytes using sextets.induct with
  | case1 => exact List.forall_mem_nil _
  | case2 a =>
    have small := a.toNat_lt
    simp only [sextets, List.forall_mem_cons]
    exact ⟨by omega, by omega, List.forall_mem_nil _⟩
  | case3 a b =>
    have small := a.toNat_lt
    have small' := b.toNat_lt
    simp only [sextets, List.forall_mem_cons]
    exact ⟨by omega, by omega, by omega, List.forall_mem_nil _⟩
  | case4 a b c rest ih =>
    have small := a.toNat_lt
    have small' := b.toNat_lt
    have small'' := c.toNat_lt
    simp only [sextets, List.forall_mem_cons]
    exact ⟨by omega, by omega, by omega, by omega, ih⟩

theorem octets_sextets (bytes : List UInt8) : octets (sextets bytes) = some bytes := by
  induction bytes using sextets.induct with
  | case1 => rfl
  | case2 a =>
    have small := a.toNat_lt
    rw [sextets, octets, if_pos (by omega), @Standard.ofNat_eq _ a (by omega)]
  | case3 a b =>
    have small := a.toNat_lt
    have small' := b.toNat_lt
    rw [sextets, octets, if_pos (by omega), @Standard.ofNat_eq _ a (by omega), @Standard.ofNat_eq _ b (by omega)]
  | case4 a b c rest ih =>
    have small := a.toNat_lt
    have small' := b.toNat_lt
    have small'' := c.toNat_lt
    rw [sextets, octets, ih, Option.map_some, @Standard.ofNat_eq _ a (by omega), @Standard.ofNat_eq _ b (by omega),
      @Standard.ofNat_eq _ c (by omega)]

/-- Bytes come from one list of groups only. -/
theorem sextets_of_octets {groups : List Nat} {bytes : List UInt8} (small : ∀ bits ∈ groups, bits < 64)
    (run : octets groups = some bytes) : sextets bytes = groups := by
  induction groups using octets.induct generalizing bytes with
  | case1 =>
    cases run
    rfl
  | case2 => cases run
  | case3 p q even =>
    simp only [List.forall_mem_cons] at small
    rw [octets, if_pos even] at run
    cases run
    simp only [sextets, UInt8.toNat_ofNat']
    congr 2 <;> omega
  | case4 p q odd =>
    rw [octets, if_neg odd] at run
    cases run
  | case5 p q r even =>
    simp only [List.forall_mem_cons] at small
    rw [octets, if_pos even] at run
    cases run
    simp only [sextets, UInt8.toNat_ofNat']
    congr 3 <;> omega
  | case6 p q r odd =>
    rw [octets, if_neg odd] at run
    cases run
  | case7 p q r s rest ih =>
    simp only [List.forall_mem_cons] at small
    rw [octets] at run
    obtain ⟨others, runRest, rfl⟩ := Option.map_eq_some_iff.mp run
    simp only [sextets, UInt8.toNat_ofNat', ih small.2.2.2.2 runRest]
    congr 1
    · omega
    congr 1
    · omega
    congr 1
    · omega
    congr 1
    omega

theorem prefix_of_sextets {front bytes : List UInt8} (cut : sextets front <+: sextets bytes) : front <+: bytes := by
  have byte {a b : UInt8} (same : a.toNat = b.toNat) : a = b := UInt8.toNat_inj.mp same
  induction front using sextets.induct generalizing bytes with
  | case1 => exact List.nil_prefix
  | case2 a =>
    have small := a.toNat_lt
    obtain _ | ⟨x, _ | ⟨y, _ | ⟨z, more⟩⟩⟩ := bytes
    all_goals simp only [sextets, List.cons_prefix_cons, List.prefix_nil, List.nil_prefix, and_true, reduceCtorEq] at cut
    · exact List.cons_prefix_cons.mpr ⟨byte (by omega), List.nil_prefix⟩
    · have small' := y.toNat_lt
      exact List.cons_prefix_cons.mpr ⟨byte (by omega), List.nil_prefix⟩
    · have small' := y.toNat_lt
      exact List.cons_prefix_cons.mpr ⟨byte (by omega), List.nil_prefix⟩
  | case3 a b =>
    have small := b.toNat_lt
    obtain _ | ⟨x, _ | ⟨y, _ | ⟨z, more⟩⟩⟩ := bytes
    all_goals simp only [sextets, List.cons_prefix_cons, List.prefix_nil, List.nil_prefix, and_true, and_false,
      reduceCtorEq] at cut
    · have small' := y.toNat_lt
      exact List.cons_prefix_cons.mpr ⟨byte (by omega), List.cons_prefix_cons.mpr ⟨byte (by omega), List.nil_prefix⟩⟩
    · have small' := y.toNat_lt
      have small'' := z.toNat_lt
      exact List.cons_prefix_cons.mpr ⟨byte (by omega), List.cons_prefix_cons.mpr ⟨byte (by omega), List.nil_prefix⟩⟩
  | case4 a b c rest ih =>
    have small := b.toNat_lt
    have small' := c.toNat_lt
    obtain _ | ⟨x, _ | ⟨y, _ | ⟨z, more⟩⟩⟩ := bytes
    all_goals simp only [sextets, List.cons_prefix_cons, List.prefix_nil, and_false, reduceCtorEq] at cut
    have small'' := y.toNat_lt
    have small''' := z.toNat_lt
    exact List.cons_prefix_cons.mpr ⟨byte (by omega), List.cons_prefix_cons.mpr ⟨byte (by omega),
      List.cons_prefix_cons.mpr ⟨byte (by omega), ih cut.2.2.2.2⟩⟩⟩

variable (alphabet : Alphabet)

/-- Without padding. -/
def encode (bytes : List UInt8) : List UInt8 :=
  (sextets bytes).map alphabet.symbol

def decode (letters : List UInt8) : Option (List UInt8) :=
  letters.mapM alphabet.bitsOf >>= octets

theorem mapM_bitsOf_eq_some_iff {letters : List UInt8} {groups : List Nat} :
    letters.mapM alphabet.bitsOf = some groups ↔
      (∀ bits ∈ groups, bits < 64) ∧ groups.map alphabet.symbol = letters := by
  induction letters generalizing groups with
  | nil =>
    rw [List.mapM_nil]
    constructor
    · rintro ⟨⟩
      exact ⟨List.forall_mem_nil _, rfl⟩
    · rintro ⟨_, none⟩
      rw [List.map_eq_nil_iff.mp none]
      rfl
  | cons letter letters ih =>
    rw [List.mapM_cons]
    constructor
    · intro run
      obtain ⟨bits, here, run⟩ := Option.bind_eq_some_iff.mp run
      obtain ⟨others, there, run⟩ := Option.bind_eq_some_iff.mp run
      cases Option.some.inj run
      obtain ⟨small, letterOf⟩ := alphabet.bitsOf_eq_some_iff.mp here
      obtain ⟨smallRest, lettersOf⟩ := ih.mp there
      exact ⟨List.forall_mem_cons.mpr ⟨small, smallRest⟩, by rw [List.map_cons, letterOf, lettersOf]⟩
    · rintro ⟨small, spelt⟩
      cases groups with
      | nil => cases spelt
      | cons bits others =>
        obtain ⟨smallHere, smallRest⟩ := List.forall_mem_cons.mp small
        obtain ⟨letterOf, lettersOf⟩ := List.cons.inj spelt
        rw [alphabet.bitsOf_eq_some_iff.mpr ⟨smallHere, letterOf⟩, ih.mpr ⟨smallRest, lettersOf⟩]
        rfl

/-- Only what encodes to the letters is read from them. -/
theorem decode_eq_some_iff {letters bytes : List UInt8} :
    alphabet.decode letters = some bytes ↔ alphabet.encode bytes = letters := by
  rw [decode, Option.bind_eq_bind, Option.bind_eq_some_iff]
  constructor
  · rintro ⟨groups, spelt, run⟩
    obtain ⟨small, rfl⟩ := alphabet.mapM_bitsOf_eq_some_iff.mp spelt
    rw [encode, sextets_of_octets small run]
  · rintro rfl
    exact ⟨sextets bytes, alphabet.mapM_bitsOf_eq_some_iff.mpr ⟨sextets_lt bytes, rfl⟩, octets_sextets bytes⟩

theorem symbol_inj {left right : Nat} (smallLeft : left < 64) (smallRight : right < 64)
    (same : alphabet.symbol left = alphabet.symbol right) : left = right := by
  have atLeft := alphabet.bitsOf_eq_some_iff.mpr ⟨smallLeft, rfl⟩
  have atRight := alphabet.bitsOf_eq_some_iff.mpr ⟨smallRight, rfl⟩
  rw [same, atRight] at atLeft
  exact (Option.some.inj atLeft).symm

theorem prefix_of_map_symbol {front groups : List Nat} (small : ∀ bits ∈ front, bits < 64)
    (smallAll : ∀ bits ∈ groups, bits < 64) (cut : front.map alphabet.symbol <+: groups.map alphabet.symbol) :
    front <+: groups := by
  induction front generalizing groups with
  | nil => exact List.nil_prefix
  | cons bits front ih =>
    cases groups with
    | nil => exact absurd (List.prefix_nil.mp cut) (List.cons_ne_nil _ _)
    | cons other groups =>
      obtain ⟨smallHere, smallRest⟩ := List.forall_mem_cons.mp small
      obtain ⟨smallOther, smallOthers⟩ := List.forall_mem_cons.mp smallAll
      rw [List.map_cons, List.map_cons, List.cons_prefix_cons] at cut
      exact List.cons_prefix_cons.mpr
        ⟨alphabet.symbol_inj smallHere smallOther cut.1, ih smallRest smallOthers cut.2⟩

/-- A text cut short stands for bytes cut short, if it stands for any. -/
theorem prefix_of_encode {front bytes : List UInt8} (cut : alphabet.encode front <+: alphabet.encode bytes) :
    front <+: bytes :=
  prefix_of_sextets (alphabet.prefix_of_map_symbol (sextets_lt front) (sextets_lt bytes) cut)

theorem encode_printable (bytes : List UInt8) :
    ∀ letter ∈ alphabet.encode bytes, 32 < letter.toNat ∧ letter.toNat < 127 := by
  intro letter member
  obtain ⟨bits, inside, rfl⟩ := List.mem_map.mp member
  exact alphabet.printable (sextets_lt bytes bits inside)

def text (bytes : List UInt8) : String :=
  String.ofList ((alphabet.encode bytes).map fun letter => Char.ofNat letter.toNat)

theorem bytes_text (bytes : List UInt8) : (alphabet.text bytes).toByteArray.data.toList = alphabet.encode bytes :=
  bytes_ofPrintable (alphabet.encode_printable bytes)

def urlSymbol (bits : Nat) : UInt8 :=
  if bits < 26 then UInt8.ofNat (bits + 65)
  else if bits < 52 then UInt8.ofNat (bits + 71)
  else if bits < 62 then UInt8.ofNat (bits - 4)
  else if bits = 62 then 45
  else 95

def urlBits (letter : UInt8) : Option Nat :=
  if 65 ≤ letter ∧ letter ≤ 90 then some (letter.toNat - 65)
  else if 97 ≤ letter ∧ letter ≤ 122 then some (letter.toNat - 71)
  else if 48 ≤ letter ∧ letter ≤ 57 then some (letter.toNat + 4)
  else if letter = 45 then some 62
  else if letter = 95 then some 63
  else none

theorem urlBits_eq_some_iff {letter : UInt8} {bits : Nat} :
    urlBits letter = some bits ↔ bits < 64 ∧ urlSymbol bits = letter := by
  have there : ∀ n < 256, ∀ found ∈ urlBits (UInt8.ofNat n), found < 64 ∧ urlSymbol found = UInt8.ofNat n := by
    decide +kernel
  have back : ∀ bits < 64, urlBits (urlSymbol bits) = some bits := by decide
  constructor
  · intro found
    have known := there letter.toNat letter.toNat_lt bits
    rw [UInt8.ofNat_toNat] at known
    exact known found
  · rintro ⟨small, rfl⟩
    exact back bits small

/-- Letters, digits, `-` and `_`. -/
def urlSafe : Alphabet where
  symbol := urlSymbol
  bitsOf := urlBits
  bitsOf_eq_some_iff := urlBits_eq_some_iff
  printable {bits} small := by
    revert bits
    decide

end Alphabet

end Base64
