import SpiWifi.Link.Transport
import SpiWifi.Wire.Frame

/-!
# A scripted transport

A transport that records what is done to its lines and answers from a queue. Command frames get no
answer; every other transfer takes the next queued reply. How long the line is busy is scripted too.
-/

namespace SpiWifi

inductive LineEvent where
  | select (on : Bool)
  | reset (high : Bool)
  | clear
  | transfer (tx : Bytes)
  deriving DecidableEq

structure ScriptedLine where
  /-- What was done, the latest first. -/
  history : List LineEvent
  /-- Replies still to be given. -/
  replies : List Bytes
  inbound : Bytes
  /-- Whether replies are cut or zero-filled to the length of the transfer. -/
  pads : Bool
  selected : Bool
  busyForever : Bool
  busyWhileSelected : Bool
  /-- Busy answers still to be given, each with the falling edge signalled. -/
  busyPolls : Nat

namespace ScriptedLine

def new : ScriptedLine where
  history := []
  replies := []
  inbound := []
  pads := true
  selected := false
  busyForever := false
  busyWhileSelected := false
  busyPolls := 0

/-- What was done, in order. -/
def events (t : ScriptedLine) : List LineEvent := t.history.reverse

def forget (t : ScriptedLine) : ScriptedLine := { t with history := [] }

def record (t : ScriptedLine) (e : LineEvent) : ScriptedLine :=
  { t with history := e :: t.history }

def queue (t : ScriptedLine) (reply : Bytes) : ScriptedLine :=
  { t with replies := t.replies ++ [reply] }

def isBusy (t : ScriptedLine) (signals : Signals) : BusyAnswer ScriptedLine :=
  if t.busyForever || (t.busyWhileSelected && t.selected) then ⟨true, t, signals⟩
  else
    match t.busyPolls with
    | 0 => ⟨false, t, signals⟩
    | n + 1 => ⟨true, { t with busyPolls := n }, signals.giveReady⟩

def isCommand (tx : Bytes) : Bool := tx.head? == some Marker.start

/-- The reply to a transfer, and the replies left. -/
def answer (t : ScriptedLine) (tx : Bytes) : Bytes × List Bytes :=
  if isCommand tx then ([], t.replies)
  else (t.replies.headD [], t.replies.tail)

def startTransfer (tx : Bytes) (t : ScriptedLine) (signals : Signals) :
    ScriptedLine × Signals :=
  let (reply, rest) := t.answer tx
  let inbound := if t.pads then Bytes.fit tx.length reply else reply
  ({ t.record (.transfer tx) with inbound := inbound, replies := rest }, signals.giveDone)

def readByte (t : ScriptedLine) : Option UInt8 × ScriptedLine :=
  (t.inbound.head?, { t with inbound := t.inbound.tail })

instance : Transport ScriptedLine where
  setSelect on t := { t.record (.select on) with selected := on }
  setReset high t := t.record (.reset high)
  isBusy := isBusy
  clear t := { t.record .clear with inbound := [] }
  startTransfer := startTransfer
  readByte := readByte

end ScriptedLine

end SpiWifi
