import SpiWifi.Text.Utf8
import SpiWifi.Wire.Reader

/-!
# Slots

Reply parameters are read into storage that the caller sized beforehand. A slot keeps at most one
byte less than its capacity, because a zero always follows the kept bytes, and remembers how long
the device said the parameter was. A slot is the bytes it keeps followed by the rest of its
storage, so kept bytes never exceed the capacity.
-/

namespace SpiWifi

/-- Storage for one reply parameter. -/
structure Slot where
  /-- The bytes kept from the parameter. -/
  bytes : Bytes
  /-- The storage after the kept bytes. -/
  spare : Bytes
  /-- The length that the device announced. -/
  reported : Nat
  deriving DecidableEq, Inhabited

namespace Slot

def empty (capacity : Nat) : Slot := ⟨[], Bytes.zeros capacity, 0⟩

/-- A slot that keeps a value of `n` bytes whole. -/
def forValue (n : Nat) : Slot := empty (n + 1)

def raw (s : Slot) : Bytes := s.bytes ++ s.spare

def capacity (s : Slot) : Nat := s.raw.length

def length (s : Slot) : Nat := s.bytes.length

def isEmpty (s : Slot) : Bool := s.bytes.isEmpty

def isTruncated (s : Slot) : Bool := s.length < s.reported

def u8? (s : Slot) : Option UInt8 := s.bytes.u8?

def u16? (s : Slot) : Option UInt16 := s.bytes.u16BE?

def u32? (s : Slot) : Option UInt32 := s.bytes.u32BE?

def u16LE? (s : Slot) : Option UInt16 := s.bytes.u16LE?

def u32LE? (s : Slot) : Option UInt32 := s.bytes.u32LE?

def ipv4? (s : Slot) : Option Ipv4 := Ipv4.ofBytes? s.bytes

def text? (s : Slot) : Option String := Text.Utf8.decode? s.bytes

/-- The kept bytes as text, whatever they are. -/
def text (s : Slot) : String := Text.Utf8.decodeLossy s.bytes

def clear (s : Slot) : Slot := empty s.capacity

/-- Bytes of a parameter of length `reported` that a slot keeps. -/
def kept (capacity reported : Nat) : Nat := min reported (capacity - 1)

/-- Reads a parameter of known length into a slot with this capacity. If the stream ends too
early the slot keeps nothing, and its storage shows what was copied. -/
def fill (capacity reported : Nat) (bytes : Bytes) :
    (Except ProtocolError Unit × Slot) × Bytes :=
  let n := kept capacity reported
  if reported ≤ bytes.length then
    ((.ok (), ⟨bytes.take n, Bytes.zeros (capacity - n), reported⟩), bytes.drop reported)
  else
    ((.error .streamExhausted, ⟨[], Bytes.fit capacity (bytes.take n), 0⟩), [])

end Slot

/-- What reading a reply gives: the number of parameters stored or a fault, the slots, and the
bytes left unread. -/
structure SlotReading where
  result : Except ProtocolError Nat
  slots : List Slot
  unread : Bytes

/-- What a reply must look like to be read. -/
structure ReplyReader where
  opcode : UInt8
  width : Width
  budget : Nat

namespace ReplyReader

def ofOpcode (opcode : UInt8) (width : Width) : ReplyReader :=
  ⟨opcode &&& 0x7f, width, Frame.startBudget⟩

def ofCommand (c : Command) : ReplyReader := ofOpcode c.opcode c.replyWidth

def expectedHeader (r : ReplyReader) : UInt8 := r.opcode ||| replyBit

/-- Reads `n` parameters into cleared slots, dropping those beyond the last slot. -/
def fillSlots (w : Width) : Nat → List Slot → Bytes →
    (Except ProtocolError Unit × List Slot) × Bytes
  | 0, slots, bytes => ((.ok (), slots), bytes)
  | n + 1, [], bytes =>
    match (Reader.param w).on bytes with
    | (.error e, rest) => ((.error e, []), rest)
    | (.ok _, rest) => fillSlots w n [] rest
  | n + 1, s :: slots, bytes =>
    match (Reader.length w).on bytes with
    | (.error e, rest) => ((.error e, s :: slots), rest)
    | (.ok reported, rest) =>
      match Slot.fill s.capacity reported rest with
      | ((.error e, s), rest) => ((.error e, s :: slots), rest)
      | ((.ok _, s), rest) =>
        match fillSlots w n slots rest with
        | ((result, filled), rest) => ((result, s :: filled), rest)

/-- The start marker, the expected header, and the number of parameters. -/
def opening (r : ReplyReader) : Reader Nat := do
  Reader.start r.budget
  let header ← Reader.byte
  if header = r.expectedHeader then
    return (← Reader.byte).toNat
  else
    throw (.unexpectedReply r.expectedHeader header)

/-- Reads one reply into the slots. Every slot is cleared first, so a slot that gets no parameter
reads as empty. -/
def parse (r : ReplyReader) (slots : List Slot) (bytes : Bytes) : SlotReading :=
  let cleared := slots.map Slot.clear
  match r.opening.on bytes with
  | (.error e, rest) => ⟨.error e, cleared, rest⟩
  | (.ok count, rest) =>
    match fillSlots r.width count cleared rest with
    | ((.error e, filled), rest) => ⟨.error e, filled, rest⟩
    | ((.ok _, filled), rest) =>
      match Reader.stop.on rest with
      | (.error e, rest) => ⟨.error e, filled, rest⟩
      | (.ok _, rest) => ⟨.ok (min count slots.length), filled, rest⟩

end ReplyReader

end SpiWifi
