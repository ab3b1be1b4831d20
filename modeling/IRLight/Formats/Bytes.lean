import Mathlib.Data.List.Basic
import Mathlib.Data.UInt

/-! # Bytes

Numbers in byte strings, slices of them, and the CRC-32. -/

abbrev Bytes := List UInt8

namespace Bytes

/-! ### Numbers -/

/-- The number that the bytes are, the most significant one first. -/
def bigEndian (bytes : Bytes) : ℕ := bytes.foldl (fun n b => 256 * n + b.toNat) 0

/-- The number that the bytes are, the least significant one first. -/
def littleEndian (bytes : Bytes) : ℕ := bytes.foldr (fun b n => b.toNat + 256 * n) 0

theorem bigEndian_pair (a b : UInt8) : bigEndian [a, b] = 256 * a.toNat + b.toNat := by
  simp [bigEndian]

theorem bigEndian_pair_lt (a b : UInt8) : bigEndian [a, b] < 65536 := by
  have ha := a.toNat_lt
  have hb := b.toNat_lt
  rw [bigEndian_pair]
  omega

/-! ### Slices -/

/-- The bytes from `first` up to `last`. -/
def slice (bytes : Bytes) (first last : ℕ) : Bytes := (bytes.take last).drop first

/-- Whether the bytes begin so. -/
def startsWith (bytes start : Bytes) : Bool := bytes.take start.length = start

variable {bytes more : Bytes} {first last i n : ℕ}

/-- A slice of the first bytes. -/
theorem slice_take (h : last ≤ n) : slice (bytes.take n) first last = slice bytes first last := by
  unfold slice
  rw [List.take_take, Nat.min_eq_left h]

/-- A slice of what follows an offset. -/
theorem slice_drop : slice (bytes.drop n) first last = slice bytes (n + first) (n + last) := by
  unfold slice
  rw [List.take_drop, List.drop_drop]

theorem getD_take (h : i < n) : (bytes.take n).getD i 0 = bytes.getD i 0 := by
  rw [List.getD_eq_getElem?_getD, List.getD_eq_getElem?_getD, List.getElem?_take_of_lt h]

theorem startsWith_take {start : Bytes} (h : start.length ≤ n) : startsWith (bytes.take n) start = startsWith bytes start := by
  unfold startsWith
  rw [List.take_take, Nat.min_eq_left h]

/-! ### The checksum -/

/-- One bit of the CRC-32 with the reflected polynomial. -/
def crcBit (crc : UInt32) : UInt32 := if crc &&& 1 = 1 then (crc >>> 1) ^^^ 0xEDB88320 else crc >>> 1

def crcByte (crc : UInt32) (b : UInt8) : UInt32 := crcBit^[8] (crc ^^^ b.toUInt32)

/-- The CRC-32 of the bytes, going on from the one of earlier bytes. -/
def crc32 (bytes : Bytes) (crc : UInt32) : UInt32 := bytes.foldl crcByte (crc ^^^ 0xFFFFFFFF) ^^^ 0xFFFFFFFF

/-- A checksum may be taken piece by piece. -/
theorem crc32_append (crc : UInt32) : crc32 (bytes ++ more) crc = crc32 more (crc32 bytes crc) := by
  unfold crc32
  rw [List.foldl_append, UInt32.xor_assoc, UInt32.xor_self, UInt32.xor_zero]

end Bytes
