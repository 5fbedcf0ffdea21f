import SpiWifi.Proofs.Board.Steps

/-!
# Handles are exclusive

On a board whose device had no socket in use, no two objects ever hold the same socket, every socket
that is held is reserved on the device, and receive caches exist only for sockets that are held. This
is so after any run, whatever replies get lost and however the device answers and closes. Resetting
the device in between is not among the events: after a reset the handles would name slots that may be
given to others.
-/

namespace SpiWifi

open Device

namespace Board

def handles (b : Board) : List SocketHandle :=
  (b.owners.map Owner.socket).filter SocketHandle.isValid

theorem count_handles {b : Board} {h : SocketHandle} {i : Fin socketCount} (hi : h.index? = some i) :
    b.handles.count h ≤ b.holds i := by
  have hvalid : h.isValid = true := SocketHandle.isValid_of_some hi
  rw [handles, List.count_filter hvalid, List.count, List.countP_map]
  refine List.countP_mono_left fun o _ ho => decide_eq_true ?_
  rw [Function.comp_apply, beq_iff_eq] at ho
  rw [ho, hi]

/-- A device no socket of which is in use has a board without objects in order. -/
theorem start_sound {link : Link Line} (fresh : ∀ i, link.found i = Socket.free)
    (sockets : SocketSettings) (station : StationSettings) :
    Sound (start link sockets station) [] := by
  have hfound : ∀ i, (start link sockets station).found i = Socket.free := fresh
  have hwaits : ∀ i, link.waits i = 0 := fun i =>
    Finset.sum_eq_zero fun j _ => by
      rw [fresh]
      rfl
  refine ⟨fun i => ?_, fun o ho => absurd ho List.not_mem_nil, fun i hi => ?_, fun i hi => ?_,
    fun i _ => ?_, fun i hi => ?_, fun i hi => ?_⟩
  · rw [hfound]
    change 0 + link.waits i + 0 = 0
    rw [hwaits]
  · have hnone : (start link sockets station).host.cache.entries.get i = none :=
      get_replicate _ _
    rw [hnone] at hi
    cases hi
  · exact absurd hi (Nat.lt_irrefl 0)
  · rw [hfound]
    exact ⟨rfl, rfl, rfl⟩
  · rw [hfound] at hi
    exact absurd rfl hi
  · exact absurd (hwaits i ▸ hi) (Nat.lt_irrefl 0)

section
variable {b : Board} {left : List (Fin socketCount)}

/-- A slot that the next request finds reserved is reserved now. -/
theorem socketAt_of_reserved {i : Fin socketCount} (h : (b.found i).reserved = true) :
    b.found i = b.host.link.socketAt i :=
  Link.found_of_initialized (Link.initialized_of_reserved h) i

theorem Sound.handles_nodup (h : Sound b left) : b.handles.Nodup := by
  rw [List.nodup_iff_count_le_one]
  intro socket
  cases hi : socket.index? with
  | none =>
    have hnot : socket ∉ b.handles := by
      intro hmem
      have hvalid := (List.mem_filter.mp hmem).2
      rw [SocketHandle.isValid_of_none hi] at hvalid
      cases hvalid
    rw [List.count_eq_zero_of_not_mem hnot]
    exact Nat.zero_le 1
  | some i => exact Nat.le_trans (count_handles hi) (h.holds_le i)

theorem Sound.handles_reserved (h : Sound b left) {socket : SocketHandle}
    (hmem : socket ∈ b.handles) : b.host.link.transport.state.isReserved socket.raw = true := by
  obtain ⟨howned, hvalid⟩ := List.mem_filter.mp hmem
  obtain ⟨o, ho, rfl⟩ := List.mem_map.mp howned
  obtain ⟨i, hi⟩ := Option.isSome_iff_exists.mp hvalid
  have hreserved := h.reserved_of_holds
    (List.countP_pos_iff.mpr ⟨o, ho, decide_eq_true hi⟩ : 0 < b.holds i)
  have hslot := socketAt_of_reserved hreserved
  have hraw : SocketHandle.slotOf? o.socket.raw = some i := hi
  rw [State.isReserved, State.socket?, hraw]
  change (b.host.link.socketAt i).reserved = true
  rw [← hslot]
  exact hreserved

theorem Sound.buffered_held (h : Sound b left) {socket : SocketHandle}
    (hbuffered : b.host.isBuffered socket = true) : socket ∈ b.handles := by
  rw [Host.isBuffered, ReceiveCache.isAllocated, ReceiveCache.entry?] at hbuffered
  cases hi : socket.index? with
  | none =>
    rw [hi] at hbuffered
    cases hbuffered
  | some i =>
    rw [hi] at hbuffered
    obtain ⟨o, ho, hheld⟩ := List.countP_pos_iff.mp (h.cached i hbuffered)
    have hsame : o.socket = socket := SocketHandle.eq_of_index? (of_decide_eq_true hheld) hi
    refine List.mem_filter.mpr ⟨hsame ▸ List.mem_map_of_mem ho, ?_⟩
    exact SocketHandle.isValid_of_some hi

end

/-- At every point of every run the valid handles that objects hold are distinct, each is reserved on
the device, and only for them there are receive caches. -/
theorem handles_exclusive {link : Link Line} (fresh : ∀ i, link.found i = Socket.free)
    (sockets : SocketSettings) (station : StationSettings) (events : List BoardEvent) :
    let b := (start link sockets station).run events
    b.handles.Nodup ∧
      (∀ socket ∈ b.handles, b.host.link.transport.state.isReserved socket.raw = true) ∧
      ∀ socket, b.host.isBuffered socket = true → socket ∈ b.handles := by
  obtain ⟨left, hsound⟩ := run_sound (start_sound fresh sockets station) events
  exact ⟨hsound.handles_nodup, fun _ => hsound.handles_reserved, fun _ => hsound.buffered_held⟩

/-- A connection is accepted after another was lost with the reply, and a client connects again where
its peer had closed. -/
theorem handles_exclusive_despite_loss :
    let link : Link Line := .new .new .instant
    let events : List BoardEvent :=
      [.newStream, .stream 0 (.connect ⟨10, 0, 0, 1⟩ 80 .tcp), .bind 8080,
        .happens (.connection 8080 ⟨⟨10, 0, 0, 2⟩, 5000⟩ [1]), .happens (.loseReplies .availDataTcp 1),
        .accept 1, .happens (.connection 8080 ⟨⟨10, 0, 0, 3⟩, 5000⟩ [2]), .accept 1,
        .stream 2 (.receive 4), .happens (.closeRemote 0),
        .stream 0 (.connect ⟨10, 0, 0, 1⟩ 80 .tcp)]
    let b := (start link .standard .standard).run events
    (∀ i, link.found i = Socket.free) ∧ b.handles = [⟨0⟩, ⟨1⟩, ⟨3⟩] ∧ b.handles.Nodup ∧
      (∀ socket ∈ b.handles, b.host.link.transport.state.isReserved socket.raw = true) ∧
      ∀ socket, b.host.isBuffered socket = true → socket ∈ b.handles := by
  intro link events
  have fresh : ∀ i, link.found i = Socket.free := by decide
  have handles : ((start link .standard .standard).run events).handles = [⟨0⟩, ⟨1⟩, ⟨3⟩] := by
    decide +kernel
  exact ⟨fresh, handles, handles_exclusive fresh .standard .standard events⟩

end Board

end SpiWifi
