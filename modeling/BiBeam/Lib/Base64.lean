import Mathlib.Data.List.Basic

/-- A base64 engine: byte strings as padded texts of printable ASCII. -/
structure Base64 where
  encode : List UInt8 → List UInt8
  decode : List UInt8 → Except String (List UInt8)
  decode_encode : ∀ bytes, decode (encode bytes) = .ok bytes
  printable : ∀ {bytes symbol}, symbol ∈ encode bytes → 32 < symbol.toNat ∧ symbol.toNat < 127
  length_encode : ∀ bytes, (encode bytes).length = 4 * ((bytes.length + 2) / 3)

namespace Base64

theorem encode_ne_nil (engine : Base64) {bytes : List UInt8} (some : bytes ≠ []) : engine.encode bytes ≠ [] := by
  intro nothing
  have length := engine.length_encode bytes
  have positive := List.length_pos_of_ne_nil some
  rw [nothing, List.length_nil] at length
  omega

namespace Standard

def pad : UInt8 := 61

/-- The symbol for six bits: letters, digits, `+` and `/`. -/
def symbol (bits : Nat) : UInt8 :=
  if bits < 26 then UInt8.ofNat (bits + 65)
  else if bits < 52 then UInt8.ofNat (bits + 71)
  else if bits < 62 then UInt8.ofNat (bits - 4)
  else if bits = 62 then 43
  else 47

def bitsOf (symbol : UInt8) : Option Nat :=
  if 65 ≤ symbol ∧ symbol ≤ 90 then some (symbol.toNat - 65)
  else if 97 ≤ symbol ∧ symbol ≤ 122 then some (symbol.toNat - 71)
  else if 48 ≤ symbol ∧ symbol ≤ 57 then some (symbol.toNat + 4)
  else if symbol = 43 then some 62
  else if symbol = 47 then some 63
  else none

def encode : List UInt8 → List UInt8
  | [] => []
  | [a] =>
    let bits := a.toNat * 16
    [symbol (bits / 64), symbol (bits % 64), pad, pad]
  | [a, b] =>
    let bits := (a.toNat * 256 + b.toNat) * 4
    [symbol (bits / 4096), symbol (bits / 64 % 64), symbol (bits % 64), pad]
  | a :: b :: c :: rest =>
    let bits := (a.toNat * 256 + b.toNat) * 256 + c.toNat
    symbol (bits / 262144) :: symbol (bits / 4096 % 64) :: symbol (bits / 64 % 64) :: symbol (bits % 64) :: encode rest

/-- The one byte in front of two padding signs; the bits left over are zero. -/
def lastOne (p q : UInt8) : Option (List UInt8) := do
  let bits := (← bitsOf p) * 64 + (← bitsOf q)
  if bits % 16 = 0 then some [UInt8.ofNat (bits / 16)] else none

/-- The two bytes in front of one padding sign; the bits left over are zero. -/
def lastTwo (p q r : UInt8) : Option (List UInt8) := do
  let bits := ((← bitsOf p) * 64 + (← bitsOf q)) * 64 + (← bitsOf r)
  if bits % 4 = 0 then some [UInt8.ofNat (bits / 1024), UInt8.ofNat (bits / 4)] else none

def three (p q r s : UInt8) : Option (List UInt8) := do
  let bits := (((← bitsOf p) * 64 + (← bitsOf q)) * 64 + (← bitsOf r)) * 64 + (← bitsOf s)
  some [UInt8.ofNat (bits / 65536), UInt8.ofNat (bits / 256), UInt8.ofNat bits]

/-- Padding stands only at the end, and nothing outside the alphabet is skipped. -/
def decode : List UInt8 → Option (List UInt8)
  | [] => some []
  | p :: q :: r :: s :: rest =>
    if s = pad ∧ rest = [] then
      if r = pad then lastOne p q else lastTwo p q r
    else do
      let front ← three p q r s
      let behind ← decode rest
      some (front ++ behind)
  | _ => none

theorem bitsOf_symbol {bits : Nat} (small : bits < 64) : bitsOf (symbol bits) = some bits := by
  revert bits
  decide

theorem symbol_printable {bits : Nat} (small : bits < 64) :
    32 < (symbol bits).toNat ∧ (symbol bits).toNat < 127 ∧ symbol bits ≠ pad := by
  revert bits
  decide

theorem lastOne_symbol {bits : Nat} (small : bits < 64 * 64) (zero : bits % 16 = 0) :
    lastOne (symbol (bits / 64)) (symbol (bits % 64)) = some [UInt8.ofNat (bits / 16)] := by
  have whole : bits / 64 * 64 + bits % 64 = bits := by omega
  rw [lastOne, bitsOf_symbol (by omega), bitsOf_symbol (by omega)]
  simp only [Option.bind_eq_bind, Option.bind_some, whole]
  rw [if_pos zero]

theorem lastTwo_symbol {bits : Nat} (small : bits < 64 * 64 * 64) (zero : bits % 4 = 0) :
    lastTwo (symbol (bits / 4096)) (symbol (bits / 64 % 64)) (symbol (bits % 64)) =
      some [UInt8.ofNat (bits / 1024), UInt8.ofNat (bits / 4)] := by
  have whole : (bits / 4096 * 64 + bits / 64 % 64) * 64 + bits % 64 = bits := by omega
  rw [lastTwo, bitsOf_symbol (by omega), bitsOf_symbol (by omega), bitsOf_symbol (by omega)]
  simp only [Option.bind_eq_bind, Option.bind_some, whole]
  rw [if_pos zero]

theorem three_symbol {bits : Nat} (small : bits < 64 * 64 * 64 * 64) :
    three (symbol (bits / 262144)) (symbol (bits / 4096 % 64)) (symbol (bits / 64 % 64)) (symbol (bits % 64)) =
      some [UInt8.ofNat (bits / 65536), UInt8.ofNat (bits / 256), UInt8.ofNat bits] := by
  have whole : ((bits / 262144 * 64 + bits / 4096 % 64) * 64 + bits / 64 % 64) * 64 + bits % 64 = bits := by omega
  rw [three, bitsOf_symbol (by omega), bitsOf_symbol (by omega), bitsOf_symbol (by omega), bitsOf_symbol (by omega)]
  simp only [Option.bind_eq_bind, Option.bind_some, whole]

theorem ofNat_eq {n : Nat} {byte : UInt8} (low : n % 256 = byte.toNat) : UInt8.ofNat n = byte := by
  apply UInt8.toNat_inj.mp
  rw [UInt8.toNat_ofNat', low]

theorem decode_encode (bytes : List UInt8) : decode (encode bytes) = some bytes := by
  induction bytes using encode.induct with
  | case1 => rfl
  | case2 a =>
    have small := a.toNat_lt
    have back := @lastOne_symbol (a.toNat * 16) (by omega) (by omega)
    rw [encode, decode, if_pos ⟨rfl, rfl⟩, if_pos rfl, back, @ofNat_eq _ a (by omega)]
  | case3 a b =>
    have small := a.toNat_lt
    have small' := b.toNat_lt
    have back := @lastTwo_symbol ((a.toNat * 256 + b.toNat) * 4) (by omega) (by omega)
    have last := (@symbol_printable ((a.toNat * 256 + b.toNat) * 4 % 64) (by omega)).2.2
    rw [encode, decode, if_pos ⟨rfl, rfl⟩, if_neg last, back, @ofNat_eq _ a (by omega), @ofNat_eq _ b (by omega)]
  | case4 a b c rest ih =>
    have small := a.toNat_lt
    have small' := b.toNat_lt
    have small'' := c.toNat_lt
    have back := @three_symbol ((a.toNat * 256 + b.toNat) * 256 + c.toNat) (by omega)
    have last := (@symbol_printable (((a.toNat * 256 + b.toNat) * 256 + c.toNat) % 64) (by omega)).2.2
    rw [encode, decode, if_neg fun ends => last ends.1, back, ih, @ofNat_eq _ a (by omega), @ofNat_eq _ b (by omega),
      @ofNat_eq _ c (by omega)]
    rfl

theorem encode_printable (bytes : List UInt8) :
    ∀ letter ∈ encode bytes, 32 < letter.toNat ∧ letter.toNat < 127 := by
  have ofSymbol {bits : Nat} (small : bits < 64) : 32 < (symbol bits).toNat ∧ (symbol bits).toNat < 127 :=
    ⟨(symbol_printable small).1, (symbol_printable small).2.1⟩
  have ofPad : 32 < pad.toNat ∧ pad.toNat < 127 := by decide
  induction bytes using encode.induct with
  | case1 => exact List.forall_mem_nil _
  | case2 a =>
    have small := a.toNat_lt
    simp only [encode, List.forall_mem_cons]
    exact ⟨ofSymbol (by omega), ofSymbol (by omega), ofPad, ofPad, List.forall_mem_nil _⟩
  | case3 a b =>
    have small := a.toNat_lt
    have small' := b.toNat_lt
    simp only [encode, List.forall_mem_cons]
    exact ⟨ofSymbol (by omega), ofSymbol (by omega), ofSymbol (by omega), ofPad, List.forall_mem_nil _⟩
  | case4 a b c rest ih =>
    have small := a.toNat_lt
    have small' := b.toNat_lt
    have small'' := c.toNat_lt
    simp only [encode, List.forall_mem_cons]
    exact ⟨ofSymbol (by omega), ofSymbol (by omega), ofSymbol (by omega), ofSymbol (by omega), ih⟩

theorem length_encode (bytes : List UInt8) : (encode bytes).length = 4 * ((bytes.length + 2) / 3) := by
  induction bytes using encode.induct with
  | case1 => rfl
  | case2 a => simp [encode]
  | case3 a b => simp [encode]
  | case4 a b c rest ih =>
    simp only [encode, List.length_cons, ih]
    omega

end Standard

/-- The standard alphabet with padding, and one text for every refusal. -/
def standard : Base64 where
  encode := Standard.encode
  decode text := (Standard.decode text).elim (.error "invalid base64") .ok
  decode_encode bytes := by rw [Standard.decode_encode]; rfl
  printable member := Standard.encode_printable _ _ member
  length_encode := Standard.length_encode

variable (engine : Base64)

def text (bytes : List UInt8) : String :=
  String.ofList ((engine.encode bytes).map fun symbol => Char.ofNat symbol.toNat)

theorem utf8EncodeChar_printable {symbol : UInt8} (printable : 32 < symbol.toNat ∧ symbol.toNat < 127) :
    String.utf8EncodeChar (Char.ofNat symbol.toNat) = [symbol] := by
  have all : ∀ n < 127, 32 < n → String.utf8EncodeChar (Char.ofNat n) = [UInt8.ofNat n] := by decide
  rw [all symbol.toNat printable.2 printable.1, UInt8.ofNat_toNat]

/-- The bytes of the text are the symbols. -/
theorem utf8_text (bytes : List UInt8) : (engine.text bytes).toByteArray.data.toList = engine.encode bytes := by
  rw [text, String.toByteArray_ofList, List.utf8Encode, List.toList_data_toByteArray, List.flatMap_map]
  refine (List.flatMap_congr fun symbol member => ?_).trans (List.flatMap_singleton' _)
  exact utf8EncodeChar_printable (engine.printable member)

theorem utf8ByteSize_text (bytes : List UInt8) :
    (engine.text bytes).utf8ByteSize = 4 * ((bytes.length + 2) / 3) := by
  rw [← engine.length_encode, ← engine.utf8_text]
  rfl

end Base64
