import SpiWifi.Socket.Handle
import SpiWifi.Wire.Slot

/-!
# The receive cache

Taking bytes off the device costs a transaction, so each socket has a small cache that is refilled
in one go when it has run dry. A refill keeps at most one byte less than the capacity. The cache
does not know where the bytes come from: a source fetches them into a slot, and the operations pass
the source's state along.
-/

namespace SpiWifi

/-- Fetches waiting bytes of a socket into a slot, and tells how many there are. -/
abbrev Fetch (σ : Type) := SocketHandle → Slot → σ → (Nat × Slot) × σ

/-- The cached bytes of one socket: `remaining` bytes of the slot from `cursor` on. -/
structure CacheEntry where
  slot : Slot
  cursor : Nat
  remaining : Nat
  deriving DecidableEq

namespace CacheEntry

def dry (capacity : Nat) : CacheEntry := ⟨Slot.empty capacity, 0, 0⟩

def bytes (e : CacheEntry) : Bytes := (e.slot.bytes.drop e.cursor).take e.remaining

/-- The entry after a fetch into its slot. A fetch that brought nothing leaves the place alone. -/
def refilled (e : CacheEntry) (count : Nat) (slot : Slot) : CacheEntry :=
  if 0 < count then ⟨slot, 0, count⟩ else { e with slot := slot }

def advance (e : CacheEntry) (n : Nat) : CacheEntry :=
  { e with cursor := e.cursor + n, remaining := e.remaining - n }

end CacheEntry

structure ReceiveCache where
  capacity : Nat
  entries : Vector (Option CacheEntry) socketCount

namespace ReceiveCache

def new (capacity : Nat) : ReceiveCache := ⟨capacity, Vector.replicate socketCount none⟩

def entry? (c : ReceiveCache) (h : SocketHandle) : Option CacheEntry :=
  h.index?.bind c.entries.get

def setEntry (c : ReceiveCache) (i : Fin socketCount) (e : Option CacheEntry) : ReceiveCache :=
  { c with entries := c.entries.set i e i.isLt }

def isAllocated (c : ReceiveCache) (h : SocketHandle) : Bool := (c.entry? h).isSome

def remaining (c : ReceiveCache) (h : SocketHandle) : Nat :=
  ((c.entry? h).map CacheEntry.remaining).getD 0

def bytes (c : ReceiveCache) (h : SocketHandle) : Bytes :=
  ((c.entry? h).map CacheEntry.bytes).getD []

def close (c : ReceiveCache) (h : SocketHandle) : ReceiveCache :=
  match h.index? with
  | some i => c.setEntry i none
  | none => c

def closeAll (c : ReceiveCache) : ReceiveCache := new c.capacity

variable {σ : Type}

/-- Number of bytes ready to read. The cache is allocated on first use and refilled when dry. -/
def available (fetch : Fetch σ) (h : SocketHandle) (c : ReceiveCache) (source : σ) :
    Nat × ReceiveCache × σ :=
  match h.index? with
  | none => (0, c, source)
  | some i =>
    let e := (c.entries.get i).getD (.dry c.capacity)
    if e.remaining = 0 then
      let ((count, slot), source) := fetch h e.slot source
      let e := e.refilled count slot
      (e.remaining, c.setEntry i (some e), source)
    else (e.remaining, c.setEntry i (some e), source)

def peek (fetch : Fetch σ) (h : SocketHandle) (c : ReceiveCache) (source : σ) :
    Option UInt8 × ReceiveCache × σ :=
  match c.available fetch h source with
  | (0, c, source) => (none, c, source)
  | (_ + 1, c, source) =>
    ((c.entry? h).bind fun e => e.slot.bytes[e.cursor]?, c, source)

def read (fetch : Fetch σ) (h : SocketHandle) (n : Nat) (c : ReceiveCache) (source : σ) :
    Bytes × ReceiveCache × σ :=
  match c.available fetch h source with
  | (ready, c, source) =>
    let n := min ready n
    match h.index? with
    | none => ([], c, source)
    | some i =>
      match c.entries.get i with
      | none => ([], c, source)
      | some e =>
        if n = 0 then ([], c, source)
        else
          ((e.slot.bytes.drop e.cursor).take n, c.setEntry i (some (e.advance n)), source)

end ReceiveCache

end SpiWifi
