import SpiWifi.Socket.Cache

/-!
# A source of queued bytes

A source for the receive cache that holds one byte queue per handle and hands out at most `chunk`
bytes at a time. A fetched chunk passes through a bulk reply into the slot, as bytes off the device
do. The handles it was asked for are recorded.
-/

namespace SpiWifi

structure QueuedSource where
  queues : Table UInt8 Bytes
  chunk : Nat
  /-- Handles fetched for, the latest first. -/
  asked : List UInt8

namespace QueuedSource

def new (chunk : Nat) : QueuedSource := ⟨[], chunk, []⟩

def queue (s : QueuedSource) (raw : UInt8) : Bytes := (s.queues.get? raw).getD []

def push (s : QueuedSource) (raw : UInt8) (data : Bytes) : QueuedSource :=
  { s with queues := s.queues.set raw (s.queue raw ++ data) }

def forget (s : QueuedSource) : QueuedSource := { s with asked := [] }

def fetch : Fetch QueuedSource := fun h slot s =>
  let waiting := s.queue h.raw
  let n := min (min waiting.length s.chunk) (slot.capacity - 1)
  let source :=
    { s with queues := s.queues.set h.raw (waiting.drop n), asked := h.raw :: s.asked }
  let reply := (Frame.reply .getDatabufTcp).withParam (waiting.take n)
  let reading := (ReplyReader.ofCommand .getDatabufTcp).parse [slot] reply.bytes
  let slot := reading.slots.headD slot
  ((slot.length, slot), source)

end QueuedSource

end SpiWifi
