import SpiWifi.Bytes
import SpiWifi.Text.Numeral

/-!
# Internet addresses

Version 4 addresses, in dotted form and as four octets in network order.
-/

namespace SpiWifi

structure Ipv4 where
  a : UInt8
  b : UInt8
  c : UInt8
  d : UInt8
  deriving DecidableEq, Inhabited

namespace Ipv4

def unspecified : Ipv4 := ⟨0, 0, 0, 0⟩

def broadcast : Ipv4 := ⟨255, 255, 255, 255⟩

def octets (ip : Ipv4) : Bytes := [ip.a, ip.b, ip.c, ip.d]

def ofOctets? : Bytes → Option Ipv4
  | [a, b, c, d] => some ⟨a, b, c, d⟩
  | _ => none

/-- The address in the first four bytes. -/
def ofBytes? : Bytes → Option Ipv4
  | a :: b :: c :: d :: _ => some ⟨a, b, c, d⟩
  | _ => none

def toText (ip : Ipv4) : String :=
  ".".intercalate (ip.octets.map fun o => toString o.toNat)

instance : ToString Ipv4 := ⟨toText⟩

/-- One dotted part: one to three decimal digits without a leading zero, at most 255. -/
def octet? (part : List Char) : Option UInt8 :=
  if part.length = 0 ∨ 3 < part.length then none
  else if 1 < part.length ∧ part.head? = some '0' then none
  else if part.all Char.isDigit then
    ((Text.Numeral.read 10 255 part).toOption).map UInt8.ofNat
  else none

def splitDots : List Char → List (List Char)
  | [] => [[]]
  | c :: rest =>
    match splitDots rest with
    | [] => [[c]]
    | part :: parts => if c = '.' then [] :: part :: parts else (c :: part) :: parts

/-- The address written in dotted form, with no other spelling. -/
def ofText? (s : String) : Option Ipv4 :=
  match splitDots s.toList with
  | [w, x, y, z] =>
    match octet? w, octet? x, octet? y, octet? z with
    | some a, some b, some c, some d => some ⟨a, b, c, d⟩
    | _, _, _, _ => none
  | _ => none

end Ipv4

structure Endpoint where
  ip : Ipv4
  port : UInt16
  deriving DecidableEq, Inhabited

namespace Endpoint

def toText (e : Endpoint) : String := e.ip.toText ++ ":" ++ toString e.port.toNat

end Endpoint

end SpiWifi
