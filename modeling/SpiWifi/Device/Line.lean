import SpiWifi.Device.Handle
import SpiWifi.Link.Transport
import SpiWifi.Wire.Reader

/-!
# The device on the line

The emulated device at its end of the link. A transfer that begins with a start marker is decoded
and served while zeros come in; its reply is shifted out on the next transfer, once, followed by
zeros. What cannot be decoded or served is answered with an error marker. The busy line is never
held, and driving the reset line low forgets every socket and the reply.
-/

namespace SpiWifi.Device

/-- The device with the bytes on their way to the host. -/
structure Line where
  state : State
  /-- The reply to be shifted out on the next transfer. -/
  pending : Bytes
  /-- Bytes clocked in by the host and not yet read. -/
  inbound : Bytes
  selected : Bool

namespace Line

def new : Line := ⟨.initial, [], [], false⟩

instance : Inhabited Line := ⟨new⟩

/-- Acts on what the device knows. -/
def onState (f : State → State) (d : Line) : Line := { d with state := f d.state }

/-- The bytes that answer a served frame. A reply that is to be lost leaves none. -/
def answer (c : Option Command) (reply : Frame) (s : State) : Bytes × State :=
  match c.bind fun c => (s.lost.get? c).map fun n => (c, n) with
  | some (c, n + 1) => ([], { s with lost := s.lost.set c n })
  | _ =>
    match reply.encode with
    | .ok bytes => (bytes, s)
    | .error _ => ([Marker.error], s)

/-- Decodes and serves a command, giving the bytes of the reply. -/
def execute (tx : Bytes) (s : State) : Bytes × State :=
  match Frame.decodeCommand tx with
  | .error _ => ([Marker.error], s)
  | .ok f =>
    match handle f s with
    | (none, s) => ([Marker.error], s)
    | (some reply, s) => answer f.command? reply s

def setReset (high : Bool) (d : Line) : Line :=
  if high then d
  else
    { d with
      state := { d.state with
        resets := d.state.resets + 1
        sockets := Vector.replicate socketCount Socket.free }
      pending := [] }

def clear (d : Line) : Line := { d with inbound := [] }

def startTransfer (tx : Bytes) (d : Line) (signals : Signals) : Line × Signals :=
  if tx.head? = some Marker.start then
    let (reply, state) := execute tx d.state
    ({ d with state := state, pending := reply, inbound := Bytes.zeros tx.length },
      signals.giveDone)
  else
    ({ d with pending := [], inbound := Bytes.fit tx.length d.pending }, signals.giveDone)

def readByte (d : Line) : Option UInt8 × Line :=
  (d.inbound.head?, { d with inbound := d.inbound.tail })

instance : Transport Line where
  setSelect on d := { d with selected := on }
  setReset := setReset
  isBusy d signals := ⟨false, d, signals⟩
  clear := clear
  startTransfer := startTransfer
  readByte := readByte

def readAll (d : Line) : Bytes × Line := (d.inbound, { d with inbound := [] })

/-- One command and its reply by hand: the frame, then a transfer of `size` zeros whose inbound
bytes are read. -/
def exchange (f : Frame) (size : Nat) (d : Line) (signals : Signals) :
    Except ProtocolError Bytes × Line × Signals :=
  match f.encode with
  | .error e => (.error e, d, signals)
  | .ok tx =>
    let (d, signals) := startTransfer tx { d with selected := true } signals
    let (d, signals) := startTransfer (Bytes.zeros size) d.clear signals
    let (bytes, d) := readAll { d with selected := false }
    (.ok bytes, d, signals)

end Line

end SpiWifi.Device
