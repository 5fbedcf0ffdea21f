import SpiWifi.Link.Settings
import SpiWifi.Link.Transport
import SpiWifi.Wire.Slot

/-!
# Transactions

Every transaction is the same dance: wait until the device is ready, select it, clock bytes out
while others come in, wait for the transfer to complete, release it. A request is sent in one
transaction; its reply is fetched in the next by clocking zeros out and reading what came in. The
device is reset before the first transaction and after every stop.

Time is not modelled. A wait with a limit looks at the busy line again as long as the line's falling
edge was signalled; otherwise it sleeps to its limit and looks once more.
-/

namespace SpiWifi

/-- The host's end of the link. -/
structure Link (τ : Type) where
  transport : τ
  signals : Signals
  settings : LinkSettings
  /-- Whether the device was reset since the start or the last stop. -/
  initialized : Bool
  /-- Busy answers that a wait follows before its last look at the line. -/
  patience : Nat

/-- A computation on the link that may fail. What it did to the link stays done. -/
abbrev LinkM (τ : Type) (α : Type) := ExceptT LinkError (StateM (Link τ)) α

structure Reply where
  /-- Number of parameters stored into slots. -/
  count : Nat
  /-- Whether a stored parameter lost bytes to a short slot. -/
  truncated : Bool
  deriving DecidableEq

namespace Link

variable {τ : Type}

/-- Busy answers that a wait follows unless told otherwise. -/
def defaultPatience : Nat := 4294967296

/-- A link over a transport that was not used yet. -/
def new (transport : τ) (settings : LinkSettings) : Link τ where
  transport := transport
  signals := .quiet
  settings := settings
  initialized := false
  patience := defaultPatience

def onTransport (f : τ → τ) (l : Link τ) : Link τ := { l with transport := f l.transport }

variable [Transport τ]

def setSelect (selected : Bool) (l : Link τ) : Link τ :=
  l.onTransport (Transport.setSelect selected)

def setReset (high : Bool) (l : Link τ) : Link τ := l.onTransport (Transport.setReset high)

/-- Discards what came in earlier. -/
def clear (l : Link τ) : Link τ := l.onTransport Transport.clear

def pollBusy (l : Link τ) : Bool × Link τ :=
  let answer := Transport.isBusy l.transport l.signals
  (answer.busy, { l with transport := answer.transport, signals := answer.signals })

/-- Waits for the busy line to fall, and tells whether it did. A wait that is `timed` ends at the
first busy answer after its time has `expired`. Without polls left the line is looked at once. -/
def awaitIdle (timed : Bool) : Nat → Bool → Link τ → Bool × Link τ
  | 0, _, l =>
    match l.pollBusy with
    | (busy, l) => (!busy, l)
  | polls + 1, expired, l =>
    match l.pollBusy with
    | (false, l) => (true, l)
    | (true, l) =>
      if expired then (false, l)
      else
        awaitIdle timed polls (timed && !l.signals.deviceReady.raised)
          { l with signals := l.signals.takeReady }

/-- Waits until the device is ready, for at most so many milliseconds if a limit is given. -/
def waitReady (limit : Option UInt64) : LinkM τ Unit := fun l =>
  match limit with
  | none =>
    match awaitIdle false l.patience false l with
    | (true, l) => (.ok (), l)
    | (false, l) => (.error .neverReady, l)
  | some ms =>
    match awaitIdle true l.patience (ms == 0) l with
    | (true, l) => (.ok (), l)
    | (false, l) => (.error (.deviceNotReady ms), l)

/-- A computation whose failure does not matter. -/
def ignoring {α : Type} (x : LinkM τ α) : LinkM τ Unit := fun l => (.ok (), (x l).2)

/-- Pulses the reset line, the device not selected. -/
def resetDevice (l : Link τ) : Link τ :=
  let l := (((l.setSelect false).setReset true).setReset false).setReset true
  { l with initialized := true }

/-- Resets the device unless that was done already. -/
def ensureReset (l : Link τ) : Link τ := if l.initialized then l else l.resetDevice

/-- Waits for the device, reset if need be, and selects it. Once it is selected a short further
wait follows, and its outcome does not matter. -/
def select : LinkM τ Unit := do
  modify ensureReset
  waitReady (← get).settings.readyTimeout
  modify (setSelect true)
  ignoring (waitReady (some (← get).settings.selectWait))

/-- Clocks bytes out and waits for the transfer to complete. -/
def transfer (tx : Bytes) (l : Link τ) : Link τ :=
  let (transport, signals) := Transport.startTransfer tx l.transport l.signals
  { l with transport := transport, signals := signals.takeDone }

def readBytes (n : Nat) (l : Link τ) : Bytes × Link τ :=
  let (bytes, transport) := Transport.readBytes n l.transport
  (bytes, { l with transport := transport })

/-- Sends a command frame. A frame that does not fit is refused before the link is touched. -/
def send (f : Frame) : LinkM τ Unit := do
  match (← get).settings.outgoing f with
  | .error e => throw (.protocol e)
  | .ok tx =>
    modify clear
    select
    modify (transfer tx)
    modify (setSelect false)

/-- Clocks `size` zeros out and takes the bytes that came in. -/
def fetch (size : Nat) : LinkM τ Bytes := do
  modify clear
  select
  modify (transfer (Bytes.zeros size))
  let rx ← modifyGet (readBytes size)
  modify (setSelect false)
  return rx

/-- What reading the inbound bytes into the slots gives. -/
def readReply (settings : LinkSettings) (opcode : UInt8) (width : Width) (slots : List Slot)
    (rx : Bytes) : Except LinkError Reply × List Slot :=
  let r := { ReplyReader.ofOpcode opcode width with budget := settings.startBudget.toNat }
  let reading := r.parse slots rx
  match reading.result with
  | .error e => (.error (.protocol e), reading.slots)
  | .ok count => (.ok ⟨count, (reading.slots.take count).any Slot.isTruncated⟩, reading.slots)

/-- Fetches the reply to an opcode into the slots, clocking at most `size` bytes. If the device is
not ready the slots stay as they were. -/
def receive (opcode : UInt8) (size : Nat) (width : Width) (slots : List Slot) :
    StateM (Link τ) (Except LinkError Reply × List Slot) := do
  let settings := (← get).settings
  match ← (fetch (settings.replySize size)).run with
  | .error e => return (.error e, slots)
  | .ok rx => return readReply settings opcode width slots rx

/-- The width of the reply to a frame: the command's own, or the frame's if it is unknown. -/
def replyWidth (f : Frame) : Width := (f.command?.map Command.replyWidth).getD f.width

/-- Sends a frame and fetches its reply into the slots. -/
def request (f : Frame) (slots : List Slot) :
    StateM (Link τ) (Except LinkError Reply × List Slot) := do
  match ← (send f).run with
  | .error e => return (.error e, slots)
  | .ok _ => receive f.opcode (← get).settings.maxFrameSize.toNat (replyWidth f) slots

/-- Sends a command frame, reporting only whether it went out. -/
def sendCommand (f : Frame) : StateM (Link τ) Bool := do
  return (← (send f).run).toBool

/-- Fetches a reply, reporting only the number of parameters stored; zero on any failure. -/
def receiveCount (opcode : UInt8) (size : Nat) (width : Width) (slots : List Slot) :
    StateM (Link τ) (Nat × List Slot) := do
  match ← receive opcode size width slots with
  | (.error _, slots) => return (0, slots)
  | (.ok reply, slots) => return (reply.count, slots)

/-- Resets the device now instead of on the first transaction. -/
def start (l : Link τ) : Link τ := l.resetDevice

/-- Holds the device in reset. The next transaction resets it again. -/
def stop (l : Link τ) : Link τ :=
  { (l.setSelect false).setReset false with initialized := false }

end Link

end SpiWifi
