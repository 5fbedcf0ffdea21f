import SpiWifi.Proofs.Link.Transparency
import SpiWifi.Proofs.Socket.Cache
import SpiWifi.Socket.Requests

/-!
# Socket requests to a device that answers

Over an emulated device that loses no reply, a socket request has the value that serving its command
has, and the device knows what serving made of its state. Each request below is one such equation, so
that what is built on the requests need not look at frames any more.
-/

namespace SpiWifi

open Device

namespace Bytes

theorem joinU16_ofU16BE (v : UInt16) : joinU16 (low (v.toNat / 256)) (low v.toNat) = v := by
  have hv := v.toNat_lt
  apply UInt16.toNat.inj
  rw [joinU16, toNat_low, toNat_low, UInt16.toNat_ofNat']
  omega

end Bytes

theorem TcpState.ofRaw?_raw (t : TcpState) : ofRaw? t.raw = some t := by cases t <;> rfl

theorem Frame.sum_paramSize_le (w : Width) {ps : List Bytes} (h : ∀ p ∈ ps, p.length ≤ 4) :
    (ps.map (paramSize w)).foldr (· + ·) 0 ≤ 6 * ps.length := by
  induction ps with
  | nil => exact Nat.zero_le _
  | cons p ps ih =>
    rw [List.forall_mem_cons] at h
    have hrest := ih h.2
    have hsize : paramSize w p ≤ 6 := by
      rw [paramSize]
      cases w <;> simp only [Width.lengthSize] <;> omega
    rw [List.map_cons, List.foldr_cons, List.length_cons]
    omega

/-- A few short parameters always fit a frame. -/
theorem Frame.fits_of_short {f : Frame} (count : f.params.length ≤ 8)
    (h : ∀ p ∈ f.params, p.length ≤ 4) : f.Fits where
  count := by
    rw [maxParams]
    omega
  lengths p hp := by
    have := h p hp
    cases f.width <;> simp only [Width.maxLength] <;> omega
  size := by
    have := Frame.sum_paramSize_le f.width h
    simp only [encodedLength, headSize, maxSize]
    omega

/-- The frame has the header and the width of a request for the command. -/
def IsRequestFor (c : Command) (f : Frame) : Prop :=
  f.header = c.opcode &&& 0x7f ∧ f.width = c.requestWidth

namespace IsRequestFor

variable {c : Command} {f : Frame}

theorem command? (h : IsRequestFor c f) : f.command? = some c := by
  rw [Frame.command?, h.1]
  cases c <;> decide

theorem width (h : IsRequestFor c f) : f.width = Frame.requestWidthOf f.header := by
  rw [h.2, Frame.requestWidthOf, ← Frame.command?, h.command?]
  rfl

end IsRequestFor

def bulkReply (data : Bytes) : Frame := (Frame.reply .getDatabufTcp).withParam data

theorem bulkReply_fits {data : Bytes} (h : data.length ≤ Device.bulkReplyMax) :
    (bulkReply data).Fits where
  count := by
    change 1 ≤ 255
    omega
  lengths p hp := by
    cases List.mem_singleton.mp hp
    change data.length ≤ 65535
    simp only [Device.bulkReplyMax] at h
    omega
  size := by
    change (3 + (2 + data.length + 0) + 1 + 3) / 4 * 4 ≤ 255
    simp only [Device.bulkReplyMax] at h
    omega

theorem Slot.bytes_holding {capacity : Nat} {data : Bytes} (h : data.length ≤ capacity - 1) :
    (Slot.holding capacity data).bytes = data := by
  rw [(Slot.holding_holds capacity data).bytes, Nat.min_eq_left h, List.take_length]

namespace Device

def Socket.drained (n : Nat) (socket : Socket) : Socket :=
  { socket.loadDatagram with rx := socket.loadDatagram.rx.drop n }

namespace State

def recorded (s : State) (c : Command) : State := { s with received := c :: s.received }

theorem get_modifySocket (s : State) (i j : Fin socketCount) (f : Socket → Socket) :
    (s.modifySocket i f).sockets.get j = if i = j then f (s.sockets.get j) else s.sockets.get j := by
  simp only [modifySocket, vector_get, Vector.getElem_set, Fin.ext_iff]
  split
  · next h => simp only [h]
  · rfl

theorem modifySocket_modifySocket (s : State) (i : Fin socketCount) (f g : Socket → Socket) :
    (s.modifySocket i f).modifySocket i g = s.modifySocket i fun socket => g (f socket) := by
  simp only [modifySocket, vector_get, Vector.getElem_set_self, Vector.set_set]

end State

theorem handle_of_request {c : Command} {f : Frame} (h : IsRequestFor c f) (s : State) :
    handle f s = (serve c ⟨f.params⟩).run (s.recorded c) := by
  simp only [handle, h.command?]
  rfl

open Serving

section
variable {raw : UInt8} {i : Fin socketCount} (hi : SocketHandle.slotOf? raw = some i) (s : State)
include hi

theorem run_startClient (ip : Ipv4) (port : UInt16) :
    (startClient ⟨[ip.octets, Bytes.ofU16BE port, [raw], [0]]⟩).run s =
      (some (s.connectSlot i ⟨ip, port⟩ 0).1, (s.connectSlot i ⟨ip, port⟩ 0).2) := by
  have hport : (Params.mk [ip.octets, Bytes.ofU16BE port, [raw], [0]]).u16 1 = some port :=
    congrArg some (Bytes.joinU16_ofU16BE port)
  unfold startClient
  refine (run_need_bind (a := (none, 0)) rfl _ _).trans ?_
  refine (run_need_bind (a := ip) rfl _ _).trans ?_
  refine (run_need_bind hport _ _).trans ?_
  refine (run_need_bind (a := raw) rfl _ _).trans ?_
  refine (run_need_bind (a := 0) rfl _ _).trans ?_
  refine (run_get_bind _ _).trans ?_
  dsimp only
  rw [hi]
  rfl

theorem run_serve_getDatabuf (want : UInt16) :
    let socket := (s.sockets.get i).loadDatagram
    let n := min (min want.toNat socket.rx.length) bulkReplyMax
    (serve .getDatabufTcp ⟨[[raw], Bytes.ofU16BE want]⟩).run s =
      (some (if n = 0 then Frame.reply .getDatabufTcp else bulkReply (socket.rx.take n)),
        s.modifySocket i (Socket.drained n)) := by
  intro socket n
  have hwant : (Params.mk [[raw], Bytes.ofU16BE want]).u16 1 = some want :=
    congrArg some (Bytes.joinU16_ofU16BE want)
  have hloaded : (s.modifySocket i Socket.loadDatagram).sockets.get i = socket :=
    (s.get_modifySocket i i _).trans (if_pos rfl)
  unfold serve
  refine (run_need_bind hwant _ _).trans ?_
  refine (run_need_bind (a := raw) rfl _ _).trans ?_
  refine (run_need_bind hi _ _).trans ?_
  refine (run_modify_bind _ _ _).trans ?_
  refine (run_get_bind _ _).trans ?_
  dsimp only
  rw [hloaded]
  by_cases hn : n = 0
  · rw [if_pos hn, if_pos hn, hn]
    rfl
  · rw [if_neg hn, if_neg hn, run_bind]
    exact congrArg (Prod.mk _) (s.modifySocket_modifySocket i _ _)

end

end Device

namespace Link

/-- A link over an emulated device that was reset, whose replies fit the transfers and are found in
them, and none of whose replies is to be lost. -/
structure Served (l : Link Line) : Prop where
  reset : l.initialized = true
  size : 252 ≤ l.settings.maxFrameSize.toNat
  budget : 1 ≤ l.settings.startBudget.toNat
  kept : ∀ c, l.transport.state.lossesLeft c = 0

/-- The link after a request that left the device in this state. -/
def leaving (l : Link Line) (s : State) : Link Line :=
  { l with transport := ⟨s, [], [], false⟩, signals := l.signals.takeDone }

section
variable {l : Link Line} (h : l.Served) {c : Command} {f reply : Frame} {s : State}
include h

theorem Served.leaving (hs : s.lost = l.transport.state.lost) : (l.leaving s).Served where
  reset := h.reset
  size := h.size
  budget := h.budget
  kept c := by
    rw [← h.kept c, State.lossesLeft, State.lossesLeft, ← hs]
    rfl

theorem request_served (hf : IsRequestFor c f) (fits : f.Fits)
    (served : (serve c ⟨f.params⟩).run (l.transport.state.recorded c) = (some reply, s))
    (replyFits : reply.Fits) (slots : List Slot) :
    (∃ truncated, (request f slots).run l =
      ((.ok ⟨min reply.params.length slots.length, truncated⟩,
        stored (slots.map Slot.clear) reply.params), l.leaving s)) ∧ (l.leaving s).Served := by
  have hhandle := (handle_of_request hf l.transport.state).trans served
  have encodes : f.encode = .ok f.bytes := Frame.encode_ok_iff.mpr ⟨fits, rfl⟩
  obtain ⟨c', hc', hheader, hwidth⟩ := reply_expected hhandle
  have hkept : s.lossesLeft c' = 0 := (lossesLeft_of_handle hhandle c').trans (h.kept c')
  have hexecute : Line.execute f.bytes l.transport.state = (reply.bytes, s) := by
    rw [Line.execute_of_served (decodeCommand_of_encode encodes hf.width) hhandle, hc']
    exact Line.answer_of_encode hkept (Frame.encode_ok_iff.mpr ⟨replyFits, rfl⟩)
  have hsize : 252 ≤ l.settings.replySize l.settings.maxFrameSize.toNat := by
    have := h.size
    simp only [LinkSettings.replySize, Frame.maxSize]
    omega
  have hlost : s.lost = l.transport.state.lost := by
    have := lost_handle f l.transport.state
    rwa [hhandle] at this
  have hrequest := request_device h.reset (outgoing_of_encode h.size encodes) rfl slots
  rw [hexecute, hwidth, readReply_bytes h.budget f.opcode slots replyFits hheader hsize] at hrequest
  exact ⟨⟨_, hrequest⟩, h.leaving hlost⟩

/-- A request whose reply is one byte. -/
theorem readU8_served (hf : IsRequestFor c f) (fits : f.Fits) {b : UInt8}
    (served : (serve c ⟨f.params⟩).run (l.transport.state.recorded c) =
      (some ((Frame.reply c).withU8 b), s)) :
    (readU8 f).run l = (.ok (some b), l.leaving s) ∧ (l.leaving s).Served := by
  have replyFits : ((Frame.reply c).withU8 b).Fits := by
    refine Frame.fits_of_short (Nat.le_of_ble_eq_true rfl) fun p hp => ?_
    cases List.mem_singleton.mp hp
    exact Nat.le_of_ble_eq_true rfl
  obtain ⟨⟨truncated, hrequest⟩, hserved⟩ :=
    request_served h hf fits served replyFits [Slot.forValue 1]
  have hcall : (call f [Slot.forValue 1]).run l =
      (.ok (1, [Slot.holding 2 [b]]), l.leaving s) := by
    simp only [StateT.run] at hrequest
    simp only [call, ExceptT.run, hrequest]
    rfl
  refine ⟨?_, hserved⟩
  rw [readU8, readValue, run_bind_of_ok hcall]
  rfl

/-- A request whose reply says whether it was acknowledged. -/
theorem ack_served (hf : IsRequestFor c f) (fits : f.Fits) {ok : Bool}
    (served : (serve c ⟨f.params⟩).run (l.transport.state.recorded c) =
      (some (Device.ack c ok), s)) :
    (ack f).run l = (.ok ok, l.leaving s) ∧ (l.leaving s).Served := by
  obtain ⟨hread, hserved⟩ := readU8_served h hf fits served
  refine ⟨?_, hserved⟩
  rw [ack, run_bind_of_ok hread]
  cases ok <;> rfl

theorem getSocket_served :
    let served := (l.transport.state.recorded .getSocket).reserve
    (getSocket : LinkM Line SocketHandle).run l = (.ok ⟨served.1⟩, l.leaving served.2) ∧
      (l.leaving served.2).Served := by
  intro served
  have fits : (Frame.command .getSocket).Fits :=
    Frame.fits_of_short (by decide) fun _ hp => absurd hp List.not_mem_nil
  obtain ⟨hread, hserved⟩ := readU8_served h (c := .getSocket) ⟨rfl, rfl⟩ fits rfl
  refine ⟨?_, hserved⟩
  rw [getSocket, run_bind_of_ok hread]
  rfl

omit h in
theorem about_fits (c : Command) (socket : SocketHandle) : (about c socket).Fits := by
  refine Frame.fits_of_short (Nat.le_of_ble_eq_true rfl) fun p hp => ?_
  cases List.mem_singleton.mp hp
  exact Nat.le_of_ble_eq_true rfl

theorem clientState_served (socket : SocketHandle) :
    let s := l.transport.state.recorded .getClientStateTcp
    (clientState socket).run l = (.ok (s.socketState socket.raw), l.leaving s) ∧
      (l.leaving s).Served := by
  intro s
  have fits : (about .getClientStateTcp socket).Fits := about_fits _ _
  obtain ⟨hread, hserved⟩ := readU8_served h (c := .getClientStateTcp)
    (f := about .getClientStateTcp socket) (s := s) ⟨rfl, rfl⟩ fits rfl
  refine ⟨?_, hserved⟩
  rw [clientState, socketState, run_bind_of_ok hread]
  change (Except.ok (((TcpState.ofRaw? _)).getD .closed), _) = _
  rw [TcpState.ofRaw?_raw]
  rfl

theorem startClient_served (ip : Ipv4) (port : UInt16) {socket : SocketHandle}
    {i : Fin socketCount} (hi : socket.index? = some i) :
    let served := (l.transport.state.recorded .startClientTcp).connectSlot i ⟨ip, port⟩ 0
    (startClient ip port socket .tcp).run l = (.ok served.1, l.leaving served.2) ∧
      (l.leaving served.2).Served := by
  intro served
  let f := openParams ((Frame.command .startClientTcp).withIpv4 ip) port socket .tcp
  have fits : f.Fits := by
    refine Frame.fits_of_short (Nat.le_of_ble_eq_true rfl) ?_
    simp [f, openParams, Frame.withU8, Frame.withU16, Frame.withIpv4, Frame.withParam,
      Frame.command, Frame.raw, Ipv4.octets, Bytes.ofU16BE]
  have hserve : (serve .startClientTcp ⟨f.params⟩).run (l.transport.state.recorded .startClientTcp) =
      (some (Device.ack .startClientTcp served.1), served.2) := by
    unfold serve
    refine (Serving.run_bind _ _ _).trans ?_
    rw [show f.params = [ip.octets, Bytes.ofU16BE port, [socket.raw], [0]] from rfl,
      run_startClient hi]
    rfl
  exact ack_served h (c := .startClientTcp) ⟨rfl, rfl⟩ fits hserve

omit h in
theorem fetchInto_of_request {socket : SocketHandle} {slot : Slot} {reply : Reply}
    {slots : List Slot} {l' : Link Line}
    (hrequest : (request ((about .getDatabufTcp socket).withU16
      (UInt16.ofNat (min (slot.capacity - 1) 65535))) [slot]).run l = ((.ok reply, slots), l')) :
    fetchInto socket slot l =
      ((if reply.count = 0 then 0 else (slots.headD slot).length, slots.headD slot), l') := by
  simp only [StateT.run] at hrequest
  simp only [fetchInto, getDataBuf, bind, StateT.bind, hrequest]
  rfl

/-- A fetch stores what the reply carries in the slot. -/
theorem fetchInto_of_reply {socket : SocketHandle} {slot : Slot} (replyFits : reply.Fits)
    (served : (serve .getDatabufTcp ⟨((about .getDatabufTcp socket).withU16
        (UInt16.ofNat (min (slot.capacity - 1) 65535))).params⟩).run
      (l.transport.state.recorded .getDatabufTcp) = (some reply, s)) :
    let filled := (stored [slot.clear] reply.params).headD slot
    (l.leaving s).Served ∧ fetchInto socket slot l =
      ((if min reply.params.length 1 = 0 then 0 else filled.length, filled), l.leaving s) := by
  have fits : ((about .getDatabufTcp socket).withU16
      (UInt16.ofNat (min (slot.capacity - 1) 65535))).Fits := by
    refine Frame.fits_of_short (Nat.le_of_ble_eq_true rfl) ?_
    simp [about, Frame.withU8, Frame.withU16, Frame.withParam, Frame.command, Frame.raw,
      Bytes.ofU16BE]
  obtain ⟨⟨truncated, hrequest⟩, hserved⟩ :=
    request_served h ⟨rfl, rfl⟩ fits served replyFits [slot]
  exact ⟨hserved, fetchInto_of_request hrequest⟩

/-- A fetch takes bytes off the receive queue, as many as one reply carries and the slot keeps. -/
theorem fetchInto_served {socket : SocketHandle} {i : Fin socketCount}
    (hi : socket.index? = some i) (slot : Slot) :
    let rx := (l.transport.state.sockets.get i).loadDatagram.rx
    let n := min (min rx.length bulkReplyMax) (slot.capacity - 1)
    let s := (l.transport.state.recorded .getDatabufTcp).modifySocket i (Device.Socket.drained n)
    (l.leaving s).Served ∧ ∃ filled, fetchInto socket slot l = ((n, filled), l.leaving s) ∧
      filled.capacity = slot.capacity ∧ filled.bytes = rx.take n := by
  intro rx n s
  let want := UInt16.ofNat (min (slot.capacity - 1) 65535)
  have hwant : want.toNat = min (slot.capacity - 1) 65535 := by
    rw [UInt16.toNat_ofNat']
    omega
  have hn : min (min want.toNat rx.length) bulkReplyMax = n := by
    simp only [n, hwant, bulkReplyMax]
    omega
  have hserve : (serve .getDatabufTcp ⟨((about .getDatabufTcp socket).withU16 want).params⟩).run
      (l.transport.state.recorded .getDatabufTcp) =
        (some (if n = 0 then Frame.reply .getDatabufTcp else bulkReply (rx.take n)), s) := by
    have hrun := run_serve_getDatabuf hi (l.transport.state.recorded .getDatabufTcp) want
    dsimp only at hrun
    rwa [show ((l.transport.state.recorded .getDatabufTcp).sockets.get i).loadDatagram.rx = rx
      from rfl, hn] at hrun
  by_cases hnone : n = 0
  · rw [if_pos hnone] at hserve
    have replyFits : (Frame.reply .getDatabufTcp).Fits :=
      Frame.fits_of_short (Nat.zero_le _) fun _ hp => absurd hp List.not_mem_nil
    obtain ⟨hserved, hfetch⟩ := fetchInto_of_reply h replyFits hserve
    refine ⟨hserved, slot.clear, ?_, slot.capacity_clear, ?_⟩
    · rw [hfetch, hnone]
      rfl
    · rw [hnone]
      rfl
  · rw [if_neg hnone] at hserve
    have hlength : (rx.take n).length = n := by
      rw [List.length_take]
      omega
    have hbulk : (rx.take n).length ≤ bulkReplyMax := by omega
    have hheld : (rx.take n).length ≤ slot.clear.capacity - 1 := by
      rw [slot.capacity_clear]
      omega
    obtain ⟨hserved, hfetch⟩ := fetchInto_of_reply h (bulkReply_fits hbulk) hserve
    have hbytes := Slot.bytes_holding hheld
    have hcount : min (bulkReply (rx.take n)).params.length 1 = 1 := rfl
    have hstored : stored [slot.clear] (bulkReply (rx.take n)).params =
        [Slot.holding slot.clear.capacity (rx.take n)] := rfl
    refine ⟨hserved, Slot.holding slot.clear.capacity (rx.take n), ?_, ?_, hbytes⟩
    · rw [hfetch, hcount, if_neg Nat.one_ne_zero, hstored, List.headD_cons, Slot.length, hbytes,
        hlength]
    · rw [(Slot.holding_holds _ _).capacity, slot.capacity_clear]

end

end Link

end SpiWifi
