import SpiWifi.Wire.Frame

/-!
# Reading frames

Inbound bytes are read one after another; a reader gives its result and the bytes it left unread,
also when it fails. A frame is found after at most a given number of filler bytes, its parameters
are measured by their lengths, and only zeros may stand before the end marker.
-/

namespace SpiWifi

/-- Reads from a byte string, leaving the rest of it. -/
abbrev Reader (α : Type) := ExceptT ProtocolError (StateM Bytes) α

namespace Reader

/-- The result of a reader on a byte string, and the bytes it leaves. -/
def on {α : Type} (r : Reader α) (bytes : Bytes) : Except ProtocolError α × Bytes := r bytes

def byte : Reader UInt8
  | [] => (.error .streamExhausted, [])
  | b :: rest => (.ok b, rest)

/-- The next `n` bytes. If there are fewer, they are all consumed. -/
def take (n : Nat) : Reader Bytes := fun bytes =>
  if n ≤ bytes.length then (.ok (bytes.take n), bytes.drop n) else (.error .streamExhausted, [])

/-- Passes over `n` bytes. -/
def skip (n : Nat) : Reader Unit := do
  let _ ← take n

def length (w : Width) : Reader Nat := do
  match w with
  | .narrow => return (← byte).toNat
  | .wide =>
    let hi ← byte
    let lo ← byte
    return hi.toNat * 256 + lo.toNat

/-- A parameter: its length, then as many bytes. -/
def param (w : Width) : Reader Bytes := do
  take (← length w)

/-- Looks for the start marker in the next `left` bytes out of `budget`. -/
def scanStart (budget : Nat) : Nat → Bytes → Except ProtocolError Unit × Bytes
  | 0, bytes => (.error (.missingStart budget), bytes)
  | _ + 1, [] => (.error (.missingStart budget), [])
  | left + 1, b :: rest =>
    if b = Marker.start then (.ok (), rest)
    else if b = Marker.error then (.error .deviceError, rest)
    else scanStart budget left rest

/-- Passes over filler up to and including the start marker, at most `budget` bytes in all. An
error marker on the way ends the search. -/
def start (budget : Nat) : Reader Unit := scanStart budget budget

/-- Passes over zeros up to and including the end marker. -/
def scanStop : Bytes → Except ProtocolError Unit × Bytes
  | [] => (.error .streamExhausted, [])
  | b :: rest =>
    if b = 0 then scanStop rest
    else if b = Marker.stop then (.ok (), rest)
    else (.error (.missingEnd b), rest)

def stop : Reader Unit := scanStop

def params (w : Width) : Nat → Reader (List Bytes)
  | 0 => return []
  | n + 1 => do
    let p ← param w
    let rest ← params w n
    return p :: rest

/-- A frame whose width follows from its header. -/
def frame (budget : Nat) (widthOf : UInt8 → Width) : Reader Frame := do
  start budget
  let header ← byte
  let count ← byte
  let ps ← params (widthOf header) count.toNat
  stop
  return ⟨header, widthOf header, ps⟩

end Reader

namespace Frame

/-- Inbound bytes that are searched for the start marker. -/
def startBudget : Nat := 1000

/-- The width of a command with this header; narrow when the opcode is unknown. -/
def requestWidthOf (header : UInt8) : Width :=
  ((Command.ofOpcode? header).map Command.requestWidth).getD .narrow

def replyWidthOf (header : UInt8) : Width :=
  ((Command.ofOpcode? header).map Command.replyWidth).getD .narrow

/-- The first frame in the bytes, its width chosen by the header. -/
def decodeBy (widthOf : UInt8 → Width) (bytes : Bytes) : Except ProtocolError Frame :=
  ((Reader.frame startBudget widthOf).on bytes).1

/-- The first frame in the bytes, of a known width. -/
def decode (width : Width) (bytes : Bytes) : Except ProtocolError Frame :=
  decodeBy (fun _ => width) bytes

def decodeCommand (bytes : Bytes) : Except ProtocolError Frame := decodeBy requestWidthOf bytes

def decodeReply (bytes : Bytes) : Except ProtocolError Frame := decodeBy replyWidthOf bytes

end Frame

end SpiWifi
