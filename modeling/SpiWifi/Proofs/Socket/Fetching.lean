import SpiWifi.Proofs.Socket.Openings

/-!
# What a fetch brings

A fetch asks for the bytes that a socket has waiting, as many as the storage keeps. The device takes
them off the queue before it knows what becomes of its answer. So there are three outcomes, whatever
the settings and whichever replies get lost: the question is too long for the link, and nothing
happens; the answer arrives, and what left the queue is stored; or the answer does not arrive, and
what left the queue is lost.
-/

namespace SpiWifi

open Device

theorem Slot.capacity_fill (capacity reported : Nat) (bytes : Bytes) :
    (Slot.fill capacity reported bytes).1.2.capacity = capacity := by
  unfold fill
  dsimp only
  split
  · have hle := kept_le_length capacity reported
    have hcapacity := kept_le_capacity capacity reported
    simp only [Slot.capacity, raw, List.length_append, List.length_take, Bytes.length_zeros]
    omega
  · exact Bytes.length_fit capacity _

namespace ReplyReader

theorem capacities_fillSlots (w : Width) (n : Nat) (slots : List Slot) (bytes : Bytes) :
    (fillSlots w n slots bytes).1.2.map Slot.capacity = slots.map Slot.capacity := by
  induction n generalizing slots bytes with
  | zero => rw [fillSlots]
  | succ n ih =>
    cases slots with
    | nil =>
      rw [fillSlots]
      split
      · rfl
      · exact ih [] _
    | cons slot slots =>
      rw [fillSlots]
      split
      · rfl
      · next reported rest _ =>
        have hfill := Slot.capacity_fill slot.capacity reported rest
        split
        · next h =>
          rw [h] at hfill
          exact congrArg (· :: slots.map Slot.capacity) hfill
        · next h =>
          rw [h] at hfill
          exact congrArg₂ List.cons hfill (ih slots _)

theorem capacities_parse (r : ReplyReader) (slots : List Slot) (bytes : Bytes) :
    (r.parse slots bytes).slots.map Slot.capacity = slots.map Slot.capacity := by
  have hcleared : (slots.map Slot.clear).map Slot.capacity = slots.map Slot.capacity := by
    rw [List.map_map]
    exact List.map_congr_left fun slot _ => slot.capacity_clear
  unfold parse
  dsimp only
  split
  · exact hcleared
  · next count rest _ =>
    have hfilled := capacities_fillSlots r.width count (slots.map Slot.clear) rest
    rw [hcleared] at hfilled
    split
    · next h =>
      rw [h] at hfilled
      exact hfilled
    · next h =>
      rw [h] at hfilled
      split <;> exact hfilled

end ReplyReader

namespace Link

theorem capacities_request (f : Frame) (slots : List Slot) (l : Link Line) :
    ((request f slots).run l).1.2.map Slot.capacity = slots.map Slot.capacity := by
  cases hout : l.settings.outgoing f with
  | error e => rw [request_of_outgoing_error hout]
  | ok tx =>
    rw [request_of_outgoing hout]
    simp only [readReply]
    split <;> exact ReplyReader.capacities_parse _ _ _

end Link

namespace Device.Socket

/-- The bytes with which the device answers a fetch into storage of a capacity. -/
def due (capacity : Nat) (a : Socket) : Bytes :=
  a.loadDatagram.rx.take (min bulkReplyMax (capacity - 1))

theorem length_due (capacity : Nat) (a : Socket) :
    (a.due capacity).length = min (min a.loadDatagram.rx.length bulkReplyMax) (capacity - 1) := by
  rw [due, List.length_take]
  omega

theorem length_due_le (capacity : Nat) (a : Socket) : (a.due capacity).length ≤ bulkReplyMax := by
  rw [length_due]
  omega

/-- What is due is the front of the queue; a fetch leaves the rest. -/
theorem due_append (capacity : Nat) (a : Socket) :
    a.due capacity ++ (a.drained (a.due capacity).length).rx = a.loadDatagram.rx := by
  change a.due capacity ++ a.loadDatagram.rx.drop (a.due capacity).length = _
  rw [due, List.length_take, ← List.drop_eq_drop_min, List.take_append_drop]

end Device.Socket

namespace Link

variable {l : Link Line} {socket : SocketHandle} {i : Fin socketCount}

/-- The frame with which a fetch asks for as many bytes as its slot keeps. -/
def fetchFrame (socket : SocketHandle) (slot : Slot) : Frame :=
  (about .getDatabufTcp socket).withU16 (UInt16.ofNat (min (slot.capacity - 1) 65535))

theorem fetchFrame_fits (socket : SocketHandle) (slot : Slot) : (fetchFrame socket slot).Fits := by
  refine Frame.fits_of_short (Nat.le_of_ble_eq_true rfl) ?_
  simp [fetchFrame, about, Frame.withU8, Frame.withU16, Frame.withParam, Frame.command, Frame.raw,
    Bytes.ofU16BE]

theorem length_fetchFrame (socket : SocketHandle) (slot : Slot) :
    (fetchFrame socket slot).bytes.length = 12 := by
  rw [Frame.length_bytes]
  change (3 + (2 + 1 + (2 + 2 + 0)) + 1 + 3) / 4 * 4 = 12
  rfl

def fetchReply (data : Bytes) : Frame :=
  if data = [] then Frame.reply .getDatabufTcp else bulkReply data

/-- The size of the reply that carries so many bytes. -/
def fetchSize (n : Nat) : Nat := if n = 0 then 4 else (n + 9) / 4 * 4

theorem fetchReply_fits {data : Bytes} (h : data.length ≤ bulkReplyMax) : (fetchReply data).Fits := by
  unfold fetchReply
  split
  · exact Frame.fits_of_short (Nat.zero_le _) fun _ hp => absurd hp List.not_mem_nil
  · exact bulkReply_fits h

theorem length_fetchReply (data : Bytes) : (fetchReply data).bytes.length = fetchSize data.length := by
  unfold fetchReply fetchSize
  by_cases hnone : data = []
  · rw [if_pos hnone, hnone]
    decide
  · have hpos := List.length_pos_iff.mpr hnone
    rw [if_neg hnone, if_neg (Nat.ne_of_gt hpos), Frame.length_bytes]
    change (3 + (2 + data.length + 0) + 1 + 3) / 4 * 4 = _
    omega

theorem fetchSize_mono {n m : Nat} (h : n ≤ m) : fetchSize n ≤ fetchSize m := by
  unfold fetchSize
  split <;> split <;> omega

theorem fetchInto_of_error {slot : Slot} {e : LinkError} {slots : List Slot} {l' : Link Line}
    (h : (request (fetchFrame socket slot) [slot]).run l = ((.error e, slots), l')) :
    fetchInto socket slot l = ((0, slots.headD slot), l') := by
  simp only [StateT.run, fetchFrame] at h
  simp only [fetchInto, getDataBuf, bind, StateT.bind, h]
  rfl

/-- A fetch is answered with what is due, which leaves the queue. -/
theorem serve_fetch (l : Link Line) (hi : socket.index? = some i) (slot : Slot) :
    (serve .getDatabufTcp ⟨(fetchFrame socket slot).params⟩).run (l.device.recorded .getDatabufTcp) =
      (some (fetchReply ((l.found i).due slot.capacity)),
        (l.device.recorded .getDatabufTcp).modifySocket i
          (Socket.drained ((l.found i).due slot.capacity).length)) := by
  let want := UInt16.ofNat (min (slot.capacity - 1) 65535)
  let rx := (l.found i).loadDatagram.rx
  let n := min (min want.toNat rx.length) bulkReplyMax
  have hwant : want.toNat = min (slot.capacity - 1) 65535 := by
    rw [UInt16.toNat_ofNat']
    omega
  have hn : n = ((l.found i).due slot.capacity).length := by
    rw [Socket.length_due]
    simp only [n, hwant, rx, bulkReplyMax]
    omega
  have htake : rx.take n = (l.found i).due slot.capacity := by
    rw [hn, Socket.due, List.length_take, ← List.take_eq_take_min]
  have hnone : (l.found i).due slot.capacity = [] ↔ n = 0 := by
    rw [hn, List.length_eq_zero_iff]
  have hrun := run_serve_getDatabuf hi (l.device.recorded .getDatabufTcp) want
  change (serve .getDatabufTcp ⟨(fetchFrame socket slot).params⟩).run _ =
    (some (if n = 0 then Frame.reply .getDatabufTcp else bulkReply (rx.take n)),
      (l.device.recorded .getDatabufTcp).modifySocket i (Socket.drained n)) at hrun
  rw [hrun, htake, hn]
  simp only [fetchReply, List.length_eq_zero_iff]

/-- What a fetch into a slot comes to. -/
structure Fetched (l : Link Line) (i : Fin socketCount) (slot : Slot)
    (result : (Nat × Slot) × Link Line) : Prop where
  capacity : result.1.2.capacity = slot.capacity
  unsent : l.settings.maxFrameSize.toNat < 12 → result.2 = l
  sent : 12 ≤ l.settings.maxFrameSize.toNat →
    result.2.found i = (l.found i).drained ((l.found i).due slot.capacity).length
  carried : l.Carries .getDatabufTcp 12 (fetchSize ((l.found i).due slot.capacity).length) →
    result.1.1 = ((l.found i).due slot.capacity).length ∧
      result.1.2.bytes = (l.found i).due slot.capacity
  failed : ¬ l.Carries .getDatabufTcp 12 (fetchSize ((l.found i).due slot.capacity).length) →
    result.1.1 = 0

/-- What the slot of a fetch holds if the reply arrives. -/
theorem filled_fetchReply (a : Device.Socket) (slot : Slot) :
    let reply := fetchReply (a.due slot.capacity)
    let filled := (stored ([slot].map Slot.clear) reply.params).headD slot
    (if min reply.params.length [slot].length = 0 then 0 else filled.length) =
        (a.due slot.capacity).length ∧ filled.bytes = a.due slot.capacity := by
  by_cases hnone : a.due slot.capacity = []
  · simp only [fetchReply, hnone]
    exact ⟨rfl, rfl⟩
  · have hheld : (a.due slot.capacity).length ≤ slot.clear.capacity - 1 := by
      rw [Slot.capacity_clear, Socket.length_due]
      exact Nat.min_le_right _ _
    have hbytes := Slot.bytes_holding hheld
    simp only [fetchReply, if_neg hnone]
    refine ⟨?_, hbytes⟩
    change (Slot.holding slot.clear.capacity (a.due slot.capacity)).length = _
    rw [Slot.length, hbytes]

theorem fetchInto_fetched (l : Link Line) (hi : socket.index? = some i) (slot : Slot) :
    Fetched l i slot (fetchInto socket slot l) := by
  have hdue := Socket.length_due_le slot.capacity (l.found i)
  obtain ⟨truncated, houtcome⟩ := request_outcome ⟨rfl, rfl⟩ (fetchFrame_fits socket slot)
    (serve_fetch l hi slot) (fetchReply_fits hdue) [slot]
  have hcapacities := capacities_request (fetchFrame socket slot) [slot] l
  rw [length_fetchFrame, length_fetchReply] at houtcome
  rcases hrequest : (request (fetchFrame socket slot) [slot]).run l with ⟨⟨e | reply, slots⟩, l'⟩
  all_goals
    rw [hrequest] at hcapacities
    simp only [answer, hrequest] at houtcome
    have hcapacity : (slots.headD slot).capacity = slot.capacity := by
      cases slots with
      | nil => cases hcapacities
      | cons filled rest => exact (List.cons.inj hcapacities).1
  · rw [fetchInto_of_error hrequest]
    refine ⟨hcapacity, houtcome.unsent, fun hsent => found_of_sent houtcome hsent, fun hc => ?_,
      fun _ => rfl⟩
    cases houtcome.carried hc
  · obtain ⟨hvalue, hcarries⟩ := houtcome.of_ok rfl
    have hfilled := filled_fetchReply (l.found i) slot
    rw [fetchInto_of_request hrequest]
    cases hvalue
    exact ⟨hcapacity, houtcome.unsent, fun hsent => found_of_sent houtcome hsent,
      fun _ => hfilled, fun hnot => absurd hcarries hnot⟩

end Link

end SpiWifi
