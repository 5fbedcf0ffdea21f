import SpiWifi.Proofs.Socket.Conservation
import SpiWifi.Proofs.Socket.Requests
import SpiWifi.Socket.Queued

/-!
# The source of queued bytes moves bytes

A chunk that fits a bulk reply arrives whole in a slot that keeps as many bytes. So the source that
hands out queued bytes in such chunks is one that the receive cache conserves.
-/

namespace SpiWifi

open Reader

theorem parse_bulkReply {data : Bytes} (h : data.length ≤ Device.bulkReplyMax) (slot : Slot) :
    (ReplyReader.ofCommand .getDatabufTcp).parse [slot] (bulkReply data).bytes =
      ⟨.ok 1, [Slot.holding slot.capacity data], []⟩ := by
  have hbudget : ([] : Bytes).length < Frame.startBudget := by decide
  obtain ⟨k, ha⟩ := (bulkReply_fits h).announces hbudget Quiet.nil []
  rw [List.nil_append, List.append_nil] at ha
  have hparse := ReplyReader.parse_of_stop (r := ReplyReader.ofCommand .getDatabufTcp) [slot] ha
    (stop_on_stop k [])
  rw [hparse, ← Slot.capacity_clear slot]
  rfl

namespace QueuedSource

theorem fetch_eq (h : SocketHandle) (slot : Slot) {s : QueuedSource}
    (hchunk : s.chunk ≤ Device.bulkReplyMax) :
    let n := min (min (s.queue h.raw).length s.chunk) (slot.capacity - 1)
    fetch h slot s = ((n, Slot.holding slot.capacity ((s.queue h.raw).take n)),
      { s with queues := s.queues.set h.raw ((s.queue h.raw).drop n), asked := h.raw :: s.asked }) := by
  intro n
  have hlength : ((s.queue h.raw).take n).length = n := by
    rw [List.length_take]
    omega
  have hbulk : ((s.queue h.raw).take n).length ≤ Device.bulkReplyMax := by omega
  have hparse := parse_bulkReply hbulk slot
  have hkept : (Slot.holding slot.capacity ((s.queue h.raw).take n)).length = n := by
    rw [Slot.length, Slot.bytes_holding (by omega), hlength]
  simp only [bulkReply] at hparse
  simp only [fetch]
  rw [hparse]
  simp only [List.headD_cons, hkept]
  rfl

theorem queue_set_self (s : QueuedSource) (raw : UInt8) (data : Bytes) (asked : List UInt8) :
    queue { s with queues := s.queues.set raw data, asked := asked } raw = data := by
  rw [queue, Table.get?_set_self, Option.getD_some]

theorem queue_set_ne (s : QueuedSource) {raw raw' : UInt8} (hne : raw' ≠ raw) (data : Bytes)
    (asked : List UInt8) :
    queue { s with queues := s.queues.set raw data, asked := asked } raw' = s.queue raw' := by
  rw [queue, Table.get?_set_ne hne, queue]

/-- The source as long as its chunks fit a bulk reply. -/
def bounded : ByteSource {s : QueuedSource // s.chunk ≤ Device.bulkReplyMax} where
  fetch h slot s := ((fetch h slot s.val).1, ⟨(fetch h slot s.val).2, s.property⟩)
  queue s h := s.val.queue h.raw
  moves h slot s _ := by
    obtain ⟨s, hchunk⟩ := s
    have hfetch := fetch_eq h slot hchunk
    have hle : min (min (s.queue h.raw).length s.chunk) (slot.capacity - 1) ≤
        slot.capacity - 1 := Nat.min_le_right _ _
    dsimp only at hfetch
    refine ⟨?_, fun h' hne => ?_, Or.inl ⟨s.chunk, ?_, ?_, ?_⟩⟩
    · simp only [hfetch]
      exact (Slot.holding_holds _ _).capacity
    · have hraw : h'.raw ≠ h.raw := fun heq => hne (congrArg SocketHandle.mk heq)
      simp only [hfetch]
      exact queue_set_ne s hraw _ _
    · simp only [hfetch]
    · simp only [hfetch]
      exact Slot.bytes_holding (Nat.le_trans (List.length_take_le _ _) hle)
    · simp only [hfetch]
      exact queue_set_self s h.raw _ _

end QueuedSource

end SpiWifi
