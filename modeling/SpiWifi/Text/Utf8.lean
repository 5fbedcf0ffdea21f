import SpiWifi.Bytes

/-!
# UTF-8

Text is sent as UTF-8. Bytes from the device need not be well formed; they are read byte by byte
into characters and faults, one fault for every maximal ill-formed part. Showing each fault as
U+FFFD gives the lossy reading; the strict reading exists when there is no fault.
-/

namespace SpiWifi.Text.Utf8

def encode (s : String) : Bytes := s.toUTF8.data.toList

/-- A character begun and not finished: how many bytes it still wants, the range that the next
of them must lie in, and the bits read so far. -/
structure Pending where
  wanted : Nat
  least : UInt8
  most : UInt8
  bits : Nat

/-- What a byte means when no character is begun. -/
inductive Opening where
  | complete (c : Char)
  | begun (p : Pending)
  | stray

/-- Reads a byte as the first of a character. The second byte's range excludes overlong forms,
surrogates and codes past the last plane. -/
def opening (b : UInt8) : Opening :=
  let n := b.toNat
  if n < 0x80 then .complete (Char.ofNat n)
  else if n < 0xc2 then .stray
  else if n < 0xe0 then .begun ⟨1, 0x80, 0xbf, n - 0xc0⟩
  else if n = 0xe0 then .begun ⟨2, 0xa0, 0xbf, 0⟩
  else if n = 0xed then .begun ⟨2, 0x80, 0x9f, 0xd⟩
  else if n < 0xf0 then .begun ⟨2, 0x80, 0xbf, n - 0xe0⟩
  else if n = 0xf0 then .begun ⟨3, 0x90, 0xbf, 0⟩
  else if n < 0xf4 then .begun ⟨3, 0x80, 0xbf, n - 0xf0⟩
  else if n = 0xf4 then .begun ⟨3, 0x80, 0x8f, 4⟩
  else .stray

/-- Characters (`some`) and ill-formed parts (`none`) in order, after an unfinished beginning. -/
def scanFrom : Option Pending → Bytes → List (Option Char)
  | none, [] => []
  | some _, [] => [none]
  | none, b :: rest =>
    match opening b with
    | .complete c => some c :: scanFrom none rest
    | .begun p => scanFrom (some p) rest
    | .stray => none :: scanFrom none rest
  | some p, b :: rest =>
    if p.least ≤ b ∧ b ≤ p.most then
      let bits := p.bits * 64 + (b.toNat - 0x80)
      if p.wanted ≤ 1 then some (Char.ofNat bits) :: scanFrom none rest
      else scanFrom (some ⟨p.wanted - 1, 0x80, 0xbf, bits⟩) rest
    else
      match opening b with
      | .complete c => none :: some c :: scanFrom none rest
      | .begun q => none :: scanFrom (some q) rest
      | .stray => none :: none :: scanFrom none rest

/-- Characters (`some`) and maximal ill-formed parts (`none`) in order. -/
def scan (bytes : Bytes) : List (Option Char) := scanFrom none bytes

def decodeLossy (bytes : Bytes) : String :=
  String.ofList ((scan bytes).map fun c => c.getD (Char.ofNat 0xfffd))

def decode? (bytes : Bytes) : Option String :=
  ((scan bytes).mapM id).map String.ofList

end SpiWifi.Text.Utf8
