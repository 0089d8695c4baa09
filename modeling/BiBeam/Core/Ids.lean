import BiBeam.Lib.BigEndian

namespace BiBeam

/-- A ULID is a 128-bit number, compared as an unsigned integer. -/
abbrev Ulid := BitVec 128

namespace Ulid

/-- The sixteen bytes of a ULID, most significant first. -/
def toBytes (ulid : Ulid) : List UInt8 :=
  BigEndian.bytes 16 ulid.toNat

/-- Read a ULID from big-endian bytes. -/
def fromBytes (bytes : List UInt8) : Ulid :=
  BitVec.ofNat 128 (BigEndian.value bytes)

@[simp] theorem length_toBytes (ulid : Ulid) : (toBytes ulid).length = 16 :=
  BigEndian.length_bytes 16 ulid.toNat

@[simp] theorem fromBytes_toBytes (ulid : Ulid) : fromBytes (toBytes ulid) = ulid := by
  apply BitVec.eq_of_toNat_eq
  have small := ulid.isLt
  rw [fromBytes, toBytes, BigEndian.value_bytes, BitVec.toNat_ofNat]
  omega

theorem toBytes_fromBytes {bytes : List UInt8} (length : bytes.length = 16) :
    toBytes (fromBytes bytes) = bytes := by
  have small := BigEndian.value_lt bytes
  rw [length] at small
  have whole : BigEndian.value bytes % 2 ^ 128 = BigEndian.value bytes := Nat.mod_eq_of_lt (by omega)
  have written := BigEndian.bytes_value bytes
  rw [length] at written
  rw [toBytes, fromBytes, BitVec.toNat_ofNat, whole, written]

/-- ULIDs compare by their bytes as they do as numbers. -/
theorem toBytes_lt_iff {left right : Ulid} : toBytes left < toBytes right ↔ left < right := by
  have leftSmall := left.isLt
  have rightSmall := right.isLt
  rw [BigEndian.lt_iff_value_lt (by rw [length_toBytes, length_toBytes]), toBytes, toBytes, BigEndian.value_bytes,
    BigEndian.value_bytes, BitVec.lt_def]
  omega

/-- A ULID of a clock reading in milliseconds and eighty random bits. -/
def fromParts (timestampMs : Nat) (random : BitVec 80) : Ulid :=
  BitVec.ofNat 48 timestampMs ++ random

/-- The milliseconds that a ULID was made at. -/
def timestampMs (ulid : Ulid) : Nat :=
  ulid.toNat / 2 ^ 80

theorem timestampMs_fromParts (ms : Nat) (random : BitVec 80) : (fromParts ms random).timestampMs = ms % 2 ^ 48 := by
  have small := random.isLt
  rw [timestampMs, fromParts, BitVec.toNat_append, Nat.shiftLeft_eq, Nat.mul_comm,
    ← Nat.two_pow_add_eq_or_of_lt small, BitVec.toNat_ofNat, Nat.mul_add_div (Nat.two_pow_pos 80),
    Nat.div_eq_of_lt small, Nat.add_zero]

theorem timestampMs_mono {left right : Ulid} (before : left < right) : left.timestampMs ≤ right.timestampMs :=
  Nat.div_le_div_right (Nat.le_of_lt (BitVec.lt_def.mp before))

end Ulid

structure PeerId where
  ulid : Ulid
deriving DecidableEq

structure NodeId where
  ulid : Ulid
deriving DecidableEq

structure CohortId where
  ulid : Ulid
deriving DecidableEq

structure ChainId where
  ulid : Ulid
deriving DecidableEq

/-- An instant in nanoseconds since the Unix epoch. -/
abbrev Timestamp := Int

/-- A span of time in nanoseconds. -/
abbrev Duration := Int

def Duration.minutes (count : Int) : Duration :=
  count * 60 * 1000000000

inductive IpAddr
  | v4 (addr : BitVec 32)
  | v6 (addr : BitVec 128)
deriving DecidableEq

inductive SocketAddr
  | v4 (ip : BitVec 32) (port : BitVec 16)
  | v6 (ip : BitVec 128) (port : BitVec 16) (flowinfo : BitVec 32) (scopeId : BitVec 32)
deriving DecidableEq

end BiBeam
