/-!
# Unsigned numerals

Reading an unsigned number from text: digits of the base with an optional leading plus sign, no
blanks, and no value beyond a limit. The first fault from the left is reported.
-/

namespace SpiWifi.Text.Numeral

inductive Fault where
  | empty
  | badDigit
  | tooLarge
  deriving DecidableEq

def Fault.message : Fault → String
  | .empty => "cannot parse integer from empty string"
  | .badDigit => "invalid digit found in string"
  | .tooLarge => "number too large to fit in target type"

/-- Largest value of an unsigned 8-bit field; likewise the three below. -/
def maxU8 : Nat := 255

def maxU16 : Nat := 65535

def maxU32 : Nat := 4294967295

def maxU64 : Nat := 18446744073709551615

def digitValue? (c : Char) : Option Nat :=
  let n := c.toNat
  if 48 ≤ n ∧ n ≤ 57 then some (n - 48)
  else if 97 ≤ n ∧ n ≤ 122 then some (n - 87)
  else if 65 ≤ n ∧ n ≤ 90 then some (n - 55)
  else none

def digitOf? (base : Nat) (c : Char) : Option Nat :=
  (digitValue? c).filter (· < base)

/-- Continues a numeral whose digits so far are worth `value`. -/
def digits (base limit : Nat) (value : Nat) : List Char → Except Fault Nat
  | [] => .ok value
  | c :: rest =>
    match digitOf? base c with
    | none => .error .badDigit
    | some d =>
      if value * base + d ≤ limit then digits base limit (value * base + d) rest
      else .error .tooLarge

def read (base limit : Nat) : List Char → Except Fault Nat
  | [] => .error .empty
  | ['+'] => .error .badDigit
  | '+' :: rest => digits base limit 0 rest
  | cs => digits base limit 0 cs

def decimal (limit : Nat) (s : String) : Except Fault Nat := read 10 limit s.toList

/-- Reads a decimal numeral, forgetting why it failed. -/
def decimal? (limit : Nat) (s : String) : Option Nat := (decimal limit s).toOption

end SpiWifi.Text.Numeral
