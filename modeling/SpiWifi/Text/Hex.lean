import SpiWifi.Bytes
import SpiWifi.Text.Quoted

/-!
# Hexadecimal text

Bytes are written as two lower-case digits each. Reading takes either case, and reports the first
fault: an odd number of text bytes, or the first byte that is no digit, with its position.
-/

namespace SpiWifi.Text.Hex

/-- Why a text is not hexadecimal. Positions count the bytes of the text. -/
inductive Fault where
  | oddLength
  | badDigit (byte : UInt8) (position : Nat)
  deriving DecidableEq

namespace Fault

def message : Fault → String
  | oddLength => "Odd number of digits"
  | badDigit byte position =>
    "Invalid character " ++ Quoted.char (Char.ofNat byte.toNat) ++ " at position "
      ++ toString position

end Fault

def digit (n : Nat) : Char :=
  if n < 10 then Char.ofNat (48 + n) else Char.ofNat (87 + n)

def digitValue? (byte : UInt8) : Option Nat :=
  if 48 ≤ byte.toNat ∧ byte.toNat ≤ 57 then some (byte.toNat - 48)
  else if 97 ≤ byte.toNat ∧ byte.toNat ≤ 102 then some (byte.toNat - 87)
  else if 65 ≤ byte.toNat ∧ byte.toNat ≤ 70 then some (byte.toNat - 55)
  else none

def ofByte (byte : UInt8) : List Char := [digit (byte.toNat / 16), digit (byte.toNat % 16)]

def encode (bytes : Bytes) : String := String.ofList (bytes.flatMap ofByte)

/-- Reads pairs of digits, the first of which stands at `position`. -/
def pairs (position : Nat) : Bytes → Except Fault Bytes
  | [] => .ok []
  | [_] => .error .oddLength
  | hi :: lo :: rest =>
    match digitValue? hi, digitValue? lo with
    | none, _ => .error (.badDigit hi position)
    | some _, none => .error (.badDigit lo (position + 1))
    | some h, some l =>
      match pairs (position + 2) rest with
      | .error fault => .error fault
      | .ok bytes => .ok (Bytes.low (h * 16 + l) :: bytes)

/-- The bytes that the digits spell. An odd number of digits is reported before any bad one. -/
def decode (digits : Bytes) : Except Fault Bytes :=
  if digits.length % 2 = 1 then .error .oddLength else pairs 0 digits

/-- A byte as it appears in messages: `0x` and two lower-case digits. -/
def literal (byte : UInt8) : String := "0x" ++ encode [byte]

end SpiWifi.Text.Hex
