/-!
# Bytes on the wire

Byte strings and the fixed-width integers written into them. Multi-byte scalars travel in either
order: requests are big-endian, scalars that the device copies out of its own memory are
little-endian. Each reader is total and says `none` when its bytes are not there.
-/

namespace SpiWifi

abbrev Bytes := List UInt8

namespace Bytes

def low (n : Nat) : UInt8 := UInt8.ofNat (n % 256)

def zeros (n : Nat) : Bytes := List.replicate n 0

def ofU16BE (v : UInt16) : Bytes := [low (v.toNat / 256), low v.toNat]

def ofU16LE (v : UInt16) : Bytes := [low v.toNat, low (v.toNat / 256)]

def ofU32BE (v : UInt32) : Bytes :=
  [low (v.toNat / 16777216), low (v.toNat / 65536), low (v.toNat / 256), low v.toNat]

def ofU32LE (v : UInt32) : Bytes :=
  [low v.toNat, low (v.toNat / 256), low (v.toNat / 65536), low (v.toNat / 16777216)]

/-- The number that two bytes spell, high byte first. -/
def joinU16 (hi lo : UInt8) : UInt16 := UInt16.ofNat (hi.toNat * 256 + lo.toNat)

def joinU32 (a b c d : UInt8) : UInt32 :=
  UInt32.ofNat (((a.toNat * 256 + b.toNat) * 256 + c.toNat) * 256 + d.toNat)

def u8? : Bytes → Option UInt8
  | [] => none
  | b :: _ => some b

/-- A big-endian 16-bit value in the first two bytes, or a lone byte widened. -/
def u16BE? : Bytes → Option UInt16
  | [] => none
  | [b] => some (joinU16 0 b)
  | hi :: lo :: _ => some (joinU16 hi lo)

/-- A little-endian 16-bit value in the first two bytes, or a lone byte widened. -/
def u16LE? : Bytes → Option UInt16
  | [] => none
  | [b] => some (joinU16 0 b)
  | lo :: hi :: _ => some (joinU16 hi lo)

def u32BE? : Bytes → Option UInt32
  | a :: b :: c :: d :: _ => some (joinU32 a b c d)
  | _ => none

def u32LE? : Bytes → Option UInt32
  | a :: b :: c :: d :: _ => some (joinU32 d c b a)
  | _ => none

/-- The bytes cut to length `n`, or filled with zeros up to it. -/
def fit (n : Nat) (bytes : Bytes) : Bytes :=
  bytes.take n ++ zeros (n - bytes.length)

@[simp] theorem toNat_low (n : Nat) : (low n).toNat = n % 256 := by
  simp [low]

@[simp] theorem low_toNat (b : UInt8) : low b.toNat = b := by
  apply UInt8.toNat.inj
  rw [toNat_low, Nat.mod_eq_of_lt b.toNat_lt]

@[simp] theorem length_zeros (n : Nat) : (zeros n).length = n := by
  simp [zeros]

@[simp] theorem length_fit (n : Nat) (bytes : Bytes) : (fit n bytes).length = n := by
  simp [fit]; omega

end Bytes

end SpiWifi
