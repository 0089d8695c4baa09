import Mathlib.Algebra.Order.Ring.Nat
import BiBeam.Lib.Separated

namespace Nat

/-- The lowest `count` digits of a number in a base, the highest of them first. -/
def places (base : Nat) : Nat → Nat → List Nat
  | 0, _ => []
  | count + 1, n => places base count (n / base) ++ [n % base]

@[simp] theorem length_places (base count n : Nat) : (places base count n).length = count := by
  induction count generalizing n with
  | zero => rfl
  | succ count ih => rw [places, List.length_append, ih, List.length_singleton]

theorem places_inj {base count m n : Nat} (smallM : m < base ^ count) (smallN : n < base ^ count)
    (same : places base count m = places base count n) : m = n := by
  induction count generalizing m n with
  | zero =>
    rw [Nat.pow_zero] at smallM smallN
    omega
  | succ count ih =>
    rw [Nat.pow_succ, Nat.mul_comm] at smallM smallN
    obtain ⟨high, low⟩ := List.append_inj' same rfl
    have high : m / base = n / base := ih (Nat.div_lt_of_lt_mul smallM) (Nat.div_lt_of_lt_mul smallN) high
    have low : m % base = n % base := List.singleton_inj.mp low
    rw [← Nat.div_add_mod m base, ← Nat.div_add_mod n base, high, low]

/-- The letters that digits are written with. -/
def digitLetters : List Char :=
  ['0', '1', '2', '3', '4', '5', '6', '7', '8', '9', 'a', 'b', 'c', 'd', 'e', 'f']

theorem digitChar_inj {m n : Nat} (smallM : m < 16) (smallN : n < 16) (same : digitChar m = digitChar n) : m = n := by
  have all : ∀ m < 16, ∀ n < 16, digitChar m = digitChar n → m = n := by decide
  exact all m smallM n smallN same

theorem digitChar_letter {n : Nat} (small : n < 16) : digitChar n ∈ digitLetters := by
  revert n
  decide

variable {base : Nat} (large : 1 < base) (small : base ≤ 16)

include large small

theorem toDigits_inj {m n : Nat} (same : toDigits base m = toDigits base n) : m = n := by
  induction m using Nat.strong_induction_on generalizing n with
  | _ m ih =>
    rw [toDigits_eq_if large, @toDigits_eq_if base n large] at same
    split at same <;> rename_i lastM <;> split at same <;> rename_i lastN
    · exact digitChar_inj (by omega) (by omega) (List.singleton_inj.mp same)
    · have longer := congrArg List.length same
      have some := @length_toDigits_pos base (n / base)
      simp only [List.length_append, List.length_singleton] at longer
      omega
    · have longer := congrArg List.length same
      have some := @length_toDigits_pos base (m / base)
      simp only [List.length_append, List.length_singleton] at longer
      omega
    · obtain ⟨high, low⟩ := List.append_inj' same rfl
      have high : m / base = n / base := ih _ (Nat.div_lt_self (by omega) large) high
      have lowM := Nat.mod_lt m (by omega : base > 0)
      have lowN := Nat.mod_lt n (by omega : base > 0)
      have low : m % base = n % base := digitChar_inj (by omega) (by omega) (List.singleton_inj.mp low)
      rw [← Nat.div_add_mod m base, ← Nat.div_add_mod n base, high, low]

theorem letter_of_mem_toDigits {n : Nat} {c : Char} (member : c ∈ toDigits base n) : c ∈ digitLetters := by
  induction n using Nat.strong_induction_on with
  | _ n ih =>
    rw [toDigits_eq_if large] at member
    split at member <;> rename_i last
    · rw [List.mem_singleton.mp member]
      exact digitChar_letter (by omega)
    · rcases List.mem_append.mp member with high | low
      · exact ih _ (Nat.div_lt_self (by omega) large) high
      · rw [List.mem_singleton.mp low]
        have bound := Nat.mod_lt n (by omega : base > 0)
        exact digitChar_letter (by omega)

end Nat

namespace AddressText

def decimal (n : Nat) : List Char :=
  Nat.toDigits 10 n

def hex (n : Nat) : List Char :=
  Nat.toDigits 16 n

theorem decimal_inj {m n : Nat} (same : decimal m = decimal n) : m = n :=
  Nat.toDigits_inj (by decide) (by decide) same

theorem hex_inj {m n : Nat} (same : hex m = hex n) : m = n :=
  Nat.toDigits_inj (by decide) (by decide) same

theorem decimal_letter {n : Nat} {c : Char} (member : c ∈ decimal n) : c ∈ Nat.digitLetters :=
  Nat.letter_of_mem_toDigits (by decide) (by decide) member

theorem hex_letter {n : Nat} {c : Char} (member : c ∈ hex n) : c ∈ Nat.digitLetters :=
  Nat.letter_of_mem_toDigits (by decide) (by decide) member

theorem hex_ne_nil (n : Nat) : hex n ≠ [] :=
  Nat.toDigits_ne_nil

/-- Four decimal octets with points between them. -/
def ipv4Text (ip : BitVec 32) : List Char :=
  ['.'].intercalate ((Nat.places 256 4 ip.toNat).map decimal)

theorem ipv4Text_inj {left right : BitVec 32} (same : ipv4Text left = ipv4Text right) : left = right := by
  have some (ip : BitVec 32) : (Nat.places 256 4 ip.toNat).map decimal ≠ [] :=
    List.ne_nil_of_length_pos (by rw [List.length_map, Nat.length_places]; decide)
  have free (ip : BitVec 32) : ∀ octet ∈ (Nat.places 256 4 ip.toNat).map decimal, '.' ∉ octet := by
    intro octet member
    obtain ⟨n, _, rfl⟩ := List.mem_map.mp member
    exact fun inside => absurd (decimal_letter inside) (by decide)
  have small (ip : BitVec 32) : ip.toNat < 256 ^ 4 := by
    have bound := ip.isLt
    omega
  have octets := List.intercalate_inj (some left) (some right) (free left) (free right) same
  have numbers := List.map_injective_iff.mpr (fun _ _ => decimal_inj) octets
  exact BitVec.eq_of_toNat_eq (Nat.places_inj (small left) (small right) numbers)

theorem letter_of_mem_ipv4Text {ip : BitVec 32} : ∀ c ∈ ipv4Text ip, c ∈ '.' :: Nat.digitLetters := by
  refine List.forall_mem_intercalate (List.forall_mem_singleton.mpr List.mem_cons_self) fun octet member c inside => ?_
  obtain ⟨n, _, rfl⟩ := List.mem_map.mp member
  exact List.mem_cons_of_mem _ (decimal_letter inside)

theorem point_mem_ipv4Text (ip : BitVec 32) : '.' ∈ ipv4Text ip := by
  rw [ipv4Text]
  simp [Nat.places]

/-- A run of zeros in a list of segments. -/
structure Span where
  start : Nat
  len : Nat

def Span.empty : Span := ⟨0, 0⟩

/-- The span that ends in front of a position, with the zero there. -/
def Span.grow (span : Span) (i : Nat) : Span :=
  ⟨if span.len = 0 then i else span.start, span.len + 1⟩

/-- The first longest run of zeros, searched from a position on. -/
def longestFrom (longest current : Span) (i : Nat) : List Nat → Span
  | [] => longest
  | segment :: rest =>
    if segment = 0 then
      let current := current.grow i
      longestFrom (if current.len > longest.len then current else longest) current (i + 1) rest
    else
      longestFrom longest .empty (i + 1) rest

def longestZeros (segments : List Nat) : Span :=
  longestFrom .empty .empty 0 segments

/-- The span stands somewhere in the list. -/
def Span.Within (list : List Nat) (span : Span) : Prop :=
  ∃ before after, list = before ++ List.replicate span.len 0 ++ after ∧ before.length = span.start

/-- The span, if there is any, stands at the end of the list. -/
def Span.Last (list : List Nat) (span : Span) : Prop :=
  ∃ before, list = before ++ List.replicate span.len 0 ∧ (0 < span.len → before.length = span.start)

theorem Span.Within.append {list : List Nat} {span : Span} (within : span.Within list) (more : List Nat) :
    span.Within (list ++ more) := by
  obtain ⟨before, after, rfl, length⟩ := within
  exact ⟨before, after ++ more, List.append_assoc .., length⟩

theorem Span.Last.within {list : List Nat} {span : Span} (last : span.Last list) (some : 0 < span.len) :
    span.Within list := by
  obtain ⟨before, rfl, length⟩ := last
  exact ⟨before, [], (List.append_nil _).symm, length some⟩

/-- One more zero makes the last span longer. -/
theorem Span.Last.zero {seen : List Nat} {current : Span} (last : current.Last seen) :
    (current.grow seen.length).Last (seen ++ [0]) := by
  obtain ⟨before, rfl, length⟩ := last
  refine ⟨before, ?_, fun _ => ?_⟩
  · rw [List.append_assoc, ← List.replicate_succ', Span.grow]
  · by_cases none : current.len = 0
    · simp [Span.grow, none]
    · rw [Span.grow, if_neg none]
      exact length (by omega)

theorem longestFrom_within {seen rest : List Nat} {longest current : Span} (within : longest.Within seen)
    (last : current.Last seen) : (longestFrom longest current seen.length rest).Within (seen ++ rest) := by
  induction rest generalizing seen longest current with
  | nil => rwa [List.append_nil]
  | cons segment rest ih =>
    rw [longestFrom, List.append_cons]
    have position : seen.length + 1 = (seen ++ [segment]).length := by
      rw [List.length_append, List.length_singleton]
    by_cases zero : segment = 0
    · rw [if_pos zero, position]
      rw [zero] at *
      have longer := last.zero
      refine ih ?_ longer
      split
      · exact longer.within (Nat.succ_pos _)
      · exact within.append [0]
    · rw [if_neg zero, position]
      exact ih (within.append _) ⟨seen ++ [segment], (List.append_nil _).symm, fun some => absurd some (by decide)⟩

/-- What stands in front of the zeros and behind them is the whole list. -/
theorem longestZeros_spans (segments : List Nat) : segments =
    segments.take (longestZeros segments).start ++ List.replicate (longestZeros segments).len 0 ++
      segments.drop ((longestZeros segments).start + (longestZeros segments).len) := by
  have start : Span.empty.Within [] := ⟨[], [], rfl, rfl⟩
  have last : Span.empty.Last [] := ⟨[], rfl, fun _ => rfl⟩
  have within : (longestZeros segments).Within ([] ++ segments) := longestFrom_within start last
  rw [List.nil_append] at within
  generalize longestZeros segments = span at within ⊢
  obtain ⟨before, after, rfl, length⟩ := within
  have behind : (before ++ List.replicate span.len 0).length = span.start + span.len := by
    rw [List.length_append, List.length_replicate, length]
  rw [List.drop_left' behind, List.append_assoc, List.take_left' length, List.append_assoc]

/-- Hexadecimal segments with colons between them. -/
def fmtSubslice (chunk : List Nat) : List Char :=
  [':'].intercalate (chunk.map hex)

/-- The first longest run of zeros is left out, unless it is a single zero. -/
def segmentsText (segments : List Nat) : List Char :=
  let zeroes := longestZeros segments
  if zeroes.len > 1 then
    fmtSubslice (segments.take zeroes.start) ++ [':', ':'] ++ fmtSubslice (segments.drop (zeroes.start + zeroes.len))
  else
    fmtSubslice segments

def orBlank (pieces : List (List Char)) : List (List Char) :=
  if pieces = [] then [[]] else pieces

theorem orBlank_ne_nil (pieces : List (List Char)) : orBlank pieces ≠ [] := by
  rw [orBlank]
  split
  · exact List.cons_ne_nil _ _
  · assumption

theorem fmtSubslice_eq (chunk : List Nat) : fmtSubslice chunk = [':'].intercalate (orBlank (chunk.map hex)) := by
  cases chunk <;> rfl

theorem blank_notMem (chunk : List Nat) : [] ∉ chunk.map hex := by
  intro member
  obtain ⟨n, _, none⟩ := List.mem_map.mp member
  exact hex_ne_nil n none

theorem orBlank_inj {left right : List (List Char)} (someLeft : [] ∉ left) (someRight : [] ∉ right)
    (same : orBlank left = orBlank right) : left = right := by
  rw [orBlank, orBlank] at same
  split at same <;> rename_i noneLeft <;> split at same <;> rename_i noneRight
  · rw [noneLeft, noneRight]
  · exact absurd (same ▸ List.mem_cons_self) someRight
  · exact absurd (same ▸ List.mem_cons_self) someLeft
  · exact same

/-- The blank piece between two runs of pieces tells them apart. -/
theorem blank_between_inj {front behind front' behind' : List (List Char)} (someFront : [] ∉ front)
    (someFront' : [] ∉ front') (someBehind : [] ∉ behind) (someBehind' : [] ∉ behind')
    (same : orBlank front ++ [] :: orBlank behind = orBlank front' ++ [] :: orBlank behind') :
    front = front' ∧ behind = behind' := by
  cases front with
  | nil =>
    cases front' with
    | nil =>
      have rest : orBlank behind = orBlank behind' := (List.cons.inj (List.cons.inj same).2).2
      exact ⟨rfl, orBlank_inj someBehind someBehind' rest⟩
    | cons piece front' => exact absurd ((List.cons.inj same).1 ▸ List.mem_cons_self) someFront'
  | cons piece front =>
    cases front' with
    | nil => exact absurd ((List.cons.inj same).1 ▸ List.mem_cons_self) someFront
    | cons piece' front' =>
      obtain ⟨fronts, rest⟩ := List.append_mark_inj someFront someFront' same
      exact ⟨fronts, orBlank_inj someBehind someBehind' rest⟩

/-- The pieces that the colons stand between; the run of zeros is a blank one. -/
def pieces (segments : List Nat) : List (List Char) :=
  let zeroes := longestZeros segments
  if zeroes.len > 1 then
    orBlank ((segments.take zeroes.start).map hex) ++
      [] :: orBlank ((segments.drop (zeroes.start + zeroes.len)).map hex)
  else
    segments.map hex

theorem segmentsText_eq (segments : List Nat) : segmentsText segments = [':'].intercalate (pieces segments) := by
  rw [segmentsText, pieces]
  split
  · rw [fmtSubslice_eq, fmtSubslice_eq, List.intercalate_append (orBlank_ne_nil _) (List.cons_ne_nil _ _),
      List.intercalate_cons_of_ne_nil (orBlank_ne_nil _)]
    simp only [List.nil_append, List.append_assoc, List.cons_append]
  · rfl

theorem pieces_ne_nil {segments : List Nat} (some : segments ≠ []) : pieces segments ≠ [] := by
  rw [pieces]
  split
  · exact List.append_ne_nil_of_right_ne_nil _ (List.cons_ne_nil _ _)
  · exact fun none => some (List.map_eq_nil_iff.mp none)

theorem letter_of_mem_pieces (segments : List Nat) :
    ∀ piece ∈ pieces segments, ∀ c ∈ piece, c ∈ Nat.digitLetters := by
  have letter (chunk : List Nat) : ∀ piece ∈ chunk.map hex, ∀ c ∈ piece, c ∈ Nat.digitLetters := by
    intro piece member c inside
    obtain ⟨n, _, rfl⟩ := List.mem_map.mp member
    exact hex_letter inside
  have letterBlank (chunk : List Nat) : ∀ piece ∈ orBlank (chunk.map hex), ∀ c ∈ piece, c ∈ Nat.digitLetters := by
    rw [orBlank]
    split
    · exact List.forall_mem_singleton.mpr (List.forall_mem_nil _)
    · exact letter chunk
  rw [pieces]
  split
  · exact List.forall_mem_append.mpr ⟨letterBlank _, List.forall_mem_cons.mpr ⟨List.forall_mem_nil _, letterBlank _⟩⟩
  · exact letter segments

theorem colon_free (segments : List Nat) : ∀ piece ∈ pieces segments, ':' ∉ piece :=
  fun piece member inside => absurd (letter_of_mem_pieces segments piece member ':' inside) (by decide)

/-- The pieces in front of the blank and behind it tell how many zeros it stands for. -/
theorem pieces_inj {left right : List Nat} (length : left.length = right.length)
    (same : pieces left = pieces right) : left = right := by
  have spansLeft := longestZeros_spans left
  have spansRight := longestZeros_spans right
  rw [pieces, pieces] at same
  generalize longestZeros left = zeroes at same spansLeft
  generalize longestZeros right = other at same spansRight
  have hexes : Function.Injective (List.map hex) := List.map_injective_iff.mpr fun _ _ => hex_inj
  split at same <;> split at same
  · obtain ⟨front, behind⟩ := blank_between_inj (blank_notMem _) (blank_notMem _) (blank_notMem _) (blank_notMem _) same
    have front := hexes front
    have behind := hexes behind
    have count : zeroes.len = other.len := by
      rw [spansLeft, spansRight, front, behind] at length
      simp only [List.length_append, List.length_replicate] at length
      omega
    rw [spansLeft, spansRight, front, behind, count]
  · have blank : [] ∈ right.map hex := by
      rw [← same]
      exact List.mem_append_right _ List.mem_cons_self
    exact absurd blank (blank_notMem right)
  · have blank : [] ∈ left.map hex := by
      rw [same]
      exact List.mem_append_right _ List.mem_cons_self
    exact absurd blank (blank_notMem left)
  · exact hexes same

theorem letter_of_mem_segmentsText {segments : List Nat} : ∀ c ∈ segmentsText segments, c ∈ ':' :: Nat.digitLetters := by
  rw [segmentsText_eq]
  refine List.forall_mem_intercalate (List.forall_mem_singleton.mpr List.mem_cons_self) fun piece member c inside => ?_
  exact List.mem_cons_of_mem _ (letter_of_mem_pieces segments piece member c inside)

theorem segmentsText_inj {left right : List Nat} (some : left ≠ []) (length : left.length = right.length)
    (same : segmentsText left = segmentsText right) : left = right := by
  have someRight : right ≠ [] := List.ne_nil_of_length_pos (length ▸ List.length_pos_of_ne_nil some)
  rw [segmentsText_eq, segmentsText_eq] at same
  exact pieces_inj length (List.intercalate_inj (pieces_ne_nil some) (pieces_ne_nil someRight) (colon_free left)
    (colon_free right) same)

/-- The IPv4 address that an address with `ffff` in front of it stands for. -/
def toIpv4Mapped (ip : BitVec 128) : Option (BitVec 32) :=
  if ip.toNat / 2 ^ 32 = 0xffff then some (BitVec.ofNat 32 ip.toNat) else none

def ipv6Text (ip : BitVec 128) : List Char :=
  match toIpv4Mapped ip with
  | some mapped => [':', ':', 'f', 'f', 'f', 'f', ':'] ++ ipv4Text mapped
  | none => segmentsText (Nat.places 65536 8 ip.toNat)

theorem toIpv4Mapped_inj {left right : BitVec 128} {mapped : BitVec 32} (same : toIpv4Mapped left = some mapped)
    (same' : toIpv4Mapped right = some mapped) : left = right := by
  rw [toIpv4Mapped] at same same'
  split at same <;> rename_i front
  · split at same' <;> rename_i front'
    · have low := congrArg BitVec.toNat (Option.some.inj (same.trans same'.symm))
      rw [BitVec.toNat_ofNat, BitVec.toNat_ofNat] at low
      apply BitVec.eq_of_toNat_eq
      omega
    · cases same'
  · cases same

theorem letter_of_mem_ipv6Text {ip : BitVec 128} : ∀ c ∈ ipv6Text ip, c ∈ '.' :: ':' :: Nat.digitLetters := by
  have octetLetters : '.' :: Nat.digitLetters ⊆ '.' :: ':' :: Nat.digitLetters := by decide
  rw [ipv6Text]
  split
  · exact List.forall_mem_append.mpr ⟨by simp [Nat.digitLetters], fun c member => octetLetters (letter_of_mem_ipv4Text c member)⟩
  · exact fun c member => List.mem_cons_of_mem _ (letter_of_mem_segmentsText c member)

theorem colon_mem_ipv6Text (ip : BitVec 128) : ':' ∈ ipv6Text ip := by
  rw [ipv6Text]
  split
  · exact List.mem_cons_self
  · rw [segmentsText]
    split
    · simp
    · simp [fmtSubslice, Nat.places]

/-- The text of an IPv6 address tells the address. -/
theorem ipv6Text_inj {left right : BitVec 128} (same : ipv6Text left = ipv6Text right) : left = right := by
  have mapped_apart (ip : BitVec 32) (segments : List Nat) :
      [':', ':', 'f', 'f', 'f', 'f', ':'] ++ ipv4Text ip ≠ segmentsText segments := by
    intro same
    have point : '.' ∈ segmentsText segments := same ▸ List.mem_append_right _ (point_mem_ipv4Text ip)
    exact absurd (letter_of_mem_segmentsText '.' point) (by decide)
  rw [ipv6Text, ipv6Text] at same
  split at same <;> rename_i mappedLeft <;> split at same <;> rename_i mappedRight
  · have octets := ipv4Text_inj (List.append_cancel_left same)
    exact toIpv4Mapped_inj mappedLeft (octets ▸ mappedRight)
  · exact absurd same (mapped_apart _ _)
  · exact absurd same.symm (mapped_apart _ _)
  · have small (ip : BitVec 128) : ip.toNat < 65536 ^ 8 := by
      have bound := ip.isLt
      omega
    have some : Nat.places 65536 8 left.toNat ≠ [] :=
      List.ne_nil_of_length_pos (by rw [Nat.length_places]; decide)
    have segments := segmentsText_inj some (by rw [Nat.length_places, Nat.length_places]) same
    exact BitVec.eq_of_toNat_eq (Nat.places_inj (small left) (small right) segments)

example : ipv6Text 0x20010db8000000000001000000000001 = "2001:db8::1:0:0:1".toList := by decide

end AddressText
