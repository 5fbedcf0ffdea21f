import SpiWifi.Ipv4
import SpiWifi.Wire.Error

/-!
# Frames

A frame is a start marker, the header byte (opcode and reply bit), the number of parameters, the
parameters with their lengths, zeros, and an end marker. The zeros bring the whole to a multiple of
four bytes. `Frame.encode` writes a frame, or says which limit it breaks; nothing is written then.
-/

namespace SpiWifi

namespace Marker

def start : UInt8 := 0xe0

def stop : UInt8 := 0xee

/-- Sent by the device in place of a frame it could not serve. -/
def error : UInt8 := 0xef

end Marker

/-- A command or a reply as it stands on the wire. -/
structure Frame where
  /-- The opcode byte, reply bit included. -/
  header : UInt8
  width : Width
  params : List Bytes
  deriving DecidableEq, Inhabited

namespace Frame

def maxSize : Nat := 255

/-- Bytes before the first parameter: start marker, header and count. -/
def headSize : Nat := 3

/-- The most parameters that the count byte can announce. -/
def maxParams : Nat := 255

def raw (opcode : UInt8) (width : Width) : Frame := ⟨opcode &&& 0x7f, width, []⟩

def rawReply (opcode : UInt8) (width : Width) : Frame := ⟨opcode ||| replyBit, width, []⟩

def command (c : Command) : Frame := raw c.opcode c.requestWidth

def reply (c : Command) : Frame := rawReply c.opcode c.replyWidth

def withParam (f : Frame) (p : Bytes) : Frame := { f with params := f.params ++ [p] }

def withU8 (f : Frame) (v : UInt8) : Frame := f.withParam [v]

def withU16 (f : Frame) (v : UInt16) : Frame := f.withParam (Bytes.ofU16BE v)

def withU32 (f : Frame) (v : UInt32) : Frame := f.withParam (Bytes.ofU32BE v)

def withU16LE (f : Frame) (v : UInt16) : Frame := f.withParam (Bytes.ofU16LE v)

def withU32LE (f : Frame) (v : UInt32) : Frame := f.withParam (Bytes.ofU32LE v)

def withIpv4 (f : Frame) (ip : Ipv4) : Frame := f.withParam ip.octets

/-- The opcode without the reply bit. -/
def opcode (f : Frame) : UInt8 := f.header &&& 0x7f

def isReply (f : Frame) : Bool := f.header &&& replyBit != 0

def command? (f : Frame) : Option Command := Command.ofOpcode? f.header

def paramSize (w : Width) (p : Bytes) : Nat := w.lengthSize + p.length

/-- Length of the encoded frame: everything up to the end marker, rounded up to four bytes. -/
def encodedLength (f : Frame) : Nat :=
  (headSize + (f.params.map (paramSize f.width)).foldr (· + ·) 0 + 1 + 3) / 4 * 4

/-- The first parameter that is too long for the width, with its position counted from `index`. -/
def firstTooLong (w : Width) (index : Nat) : List Bytes → Option (Nat × Nat)
  | [] => none
  | p :: rest =>
    if w.maxLength < p.length then some (index, p.length) else firstTooLong w (index + 1) rest

/-- The limit that the frame breaks, if any: the number of parameters, then the length of a
parameter, then the size of the whole. -/
def excess? (f : Frame) : Option ProtocolError :=
  if maxParams < f.params.length then some (.tooManyParams f.params.length)
  else
    match firstTooLong f.width 0 f.params with
    | some (index, length) => some (.paramTooLong index length f.width)
    | none =>
      if maxSize < f.encodedLength then some (.frameTooLarge f.encodedLength maxSize) else none

def paramBytes (w : Width) (p : Bytes) : Bytes := w.ofLength p.length ++ p

def body (f : Frame) : Bytes :=
  Marker.start :: f.header :: Bytes.low f.params.length :: f.params.flatMap (paramBytes f.width)

/-- Zeros after `n` bytes, so that one more byte ends on a multiple of four. -/
def padding (n : Nat) : Bytes := Bytes.zeros ((7 - n % 4) % 4)

/-- The bytes of a frame, whether it keeps the limits or not. -/
def bytes (f : Frame) : Bytes :=
  let b := f.body
  b ++ padding b.length ++ [Marker.stop]

def encode (f : Frame) : Except ProtocolError Bytes :=
  match f.excess? with
  | some e => .error e
  | none => .ok f.bytes

/-- Appends zeros behind the `n` bytes that a frame has so far, until one more byte ends on a
multiple of four. -/
def fillUp (n : Nat) (buffer : Bytes) : Bytes :=
  if n % 4 = 3 then buffer else fillUp (n + 1) (buffer ++ [0])
termination_by 3 - n % 4
decreasing_by omega

/-- Appends the bytes of a frame to a buffer one after another, without asking for the limits. The
zeros count from where the buffer ended before. -/
def writeTo (f : Frame) (buffer : Bytes) : Bytes :=
  let opened := buffer ++ [Marker.start, f.header, Bytes.low f.params.length]
  let filled := f.params.foldl (fun out p => out ++ paramBytes f.width p) opened
  fillUp (filled.length - buffer.length) filled ++ [Marker.stop]

/-- Appends the encoded frame to a buffer. The answer is the number of bytes appended, or the
limit that the frame breaks; then the buffer stays as it was. -/
def encodeInto (f : Frame) (buffer : Bytes) : Except ProtocolError Nat × Bytes :=
  match f.excess? with
  | some e => (.error e, buffer)
  | none =>
    let written := f.writeTo buffer
    (.ok (written.length - buffer.length), written)

end Frame

end SpiWifi
