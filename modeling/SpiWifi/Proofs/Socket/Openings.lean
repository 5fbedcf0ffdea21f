import SpiWifi.Proofs.Socket.Uses
import SpiWifi.Proofs.Text.Utf8

/-!
# Taking and giving up sockets

A socket is taken in two steps, a reservation and a request to connect or listen, and either may
fail after the device has done its part. Whatever comes of it, at most one slot changed, nobody had
that slot before, and it is reserved afterwards; if it succeeds, the slot is the one that the handle
names. Stopping frees the slot of the handle, or leaves it in the teardown, and always frees its
receive cache. Accepting takes the next connection off a listener.
-/

namespace SpiWifi

open Device

namespace Link

section
variable {l : Link Line} {c : Command} {f : Frame} {s : State}

theorem Outcome.effect {asks answers : Nat} {α : Type} {a : α}
    {result : Except LinkError α × Link Line} (h : Outcome l c asks answers s a result) :
    result.2 = l ∨ ∃ s', s.Replied s' ∧ result.2 = l.ensureReset.leaving s' := by
  by_cases hasks : asks ≤ l.settings.maxFrameSize.toNat
  · exact Or.inr (h.sent hasks)
  · exact Or.inl (h.unsent (Nat.not_le.mp hasks))

theorem fits_short_reply (c : Command) {p : Bytes} (h : p.length ≤ 2) :
    ((Frame.reply c).withParam p).Fits := by
  refine Frame.fits_of_short (Nat.le_of_ble_eq_true rfl) fun q hq => ?_
  cases List.mem_singleton.mp hq
  omega

theorem length_short_reply (c : Command) {p : Bytes} (h : p.length ≤ 2) :
    ((Frame.reply c).withParam p).bytes.length = 8 := by
  have hw : (Frame.reply c).width.lengthSize = 1 ∨ (Frame.reply c).width.lengthSize = 2 := by
    cases (Frame.reply c).width
    · exact Or.inl rfl
    · exact Or.inr rfl
  rw [Frame.length_bytes]
  change (3 + ((Frame.reply c).width.lengthSize + p.length + 0) + 1 + 3) / 4 * 4 = 8
  omega

/-- The value that a request brought, as it is read from what was filled. -/
def valueOf {α : Type} (read : Slot → Option α) : Reply × List Slot → Option α
  | (⟨_ + 1, _⟩, [slot]) => read slot
  | _ => none

/-- A request that is answered with one short parameter. -/
theorem readValue_outcome (hf : IsRequestFor c f) (fits : f.Fits) {p : Bytes} (hp : p.length ≤ 2)
    (served : (serve c ⟨f.params⟩).run (l.device.recorded c) =
      (some ((Frame.reply c).withParam p), s))
    {α : Type} (size : Nat) (read : Slot → Option α) :
    Outcome l c f.bytes.length 8 s (read (Slot.holding (size + 1) p))
      ((readValue size read f).run l) := by
  obtain ⟨truncated, h⟩ := request_outcome hf fits served (fits_short_reply c hp)
    [Slot.forValue size]
  rw [length_short_reply c hp] at h
  have hmap := h.map (valueOf read)
  have hrun : (readValue size read f).run l =
      ((answer f [Slot.forValue size] l).1.map (valueOf read), (answer f [Slot.forValue size] l).2) := by
    rw [readValue, run_bind, run_call, answer]
    rcases (request f [Slot.forValue size]).run l with ⟨⟨e | ⟨count, lost⟩, slots⟩, l'⟩
    · rfl
    · cases count with
      | zero => rfl
      | succ n => rcases slots with _ | ⟨slot, _ | _⟩ <;> rfl
  rw [hrun]
  have hcapacity : (Slot.forValue size).clear.capacity = size + 1 := by
    rw [Slot.capacity_clear]
    exact Bytes.length_zeros _
  have hvalue : stored ([Slot.forValue size].map Slot.clear) ((Frame.reply c).withParam p).params =
      [Slot.holding (size + 1) p] := by
    change [Slot.holding (Slot.forValue size).clear.capacity p] = _
    rw [hcapacity]
  rw [hvalue] at hmap
  exact hmap

theorem readU16LE_outcome (hf : IsRequestFor c f) (fits : f.Fits) {v : UInt16}
    (served : (serve c ⟨f.params⟩).run (l.device.recorded c) =
      (some ((Frame.reply c).withU16LE v), s)) :
    Outcome l c f.bytes.length 8 s (some v) ((readU16LE f).run l) := by
  have hread : Outcome l c f.bytes.length 8 s _ ((readU16LE f).run l) :=
    readValue_outcome (p := Bytes.ofU16LE v) hf fits (Nat.le_refl 2) served 2 Slot.u16LE?
  have hbytes : (Slot.holding (2 + 1) (Bytes.ofU16LE v)).bytes = Bytes.ofU16LE v :=
    Slot.bytes_holding (Nat.le_refl 2)
  rwa [Slot.u16LE?, hbytes, Bytes.ofU16LE,
    show Bytes.u16LE? [Bytes.low v.toNat, Bytes.low (v.toNat / 256)] =
      some (Bytes.joinU16 (Bytes.low (v.toNat / 256)) (Bytes.low v.toNat)) from rfl,
    Bytes.joinU16_ofU16BE] at hread

theorem length_about (c : Command) (socket : SocketHandle) : (about c socket).bytes.length = 8 := by
  have hw : (about c socket).width.lengthSize = 1 ∨ (about c socket).width.lengthSize = 2 := by
    cases (about c socket).width
    · exact Or.inl rfl
    · exact Or.inr rfl
  rw [Frame.length_bytes]
  change (3 + ((about c socket).width.lengthSize + 1 + 0) + 1 + 3) / 4 * 4 = 8
  omega

theorem ack_outcome (hf : IsRequestFor c f) (fits : f.Fits) {ok : Bool}
    (served : (serve c ⟨f.params⟩).run (l.device.recorded c) = (some (Device.ack c ok), s)) :
    Outcome l c f.bytes.length 8 s ok ((ack f).run l) := by
  have hread : Outcome l c f.bytes.length 8 s _ ((readU8 f).run l) :=
    readValue_outcome hf fits (Nat.le_of_ble_eq_true rfl) served 1 Slot.u8?
  have hack := hread.map fun answer => answer == some ackByte
  have hvalue : ((Slot.holding (1 + 1) [if ok then 1 else 0]).u8? == some ackByte) = ok := by
    cases ok <;> rfl
  rw [hvalue] at hack
  rw [ack, run_map fun answer => answer == some ackByte]
  exact hack

theorem ack_of_not_fits (h : ¬ f.Fits) : ∃ e, (ack f).run l = (.error e, l) := by
  have hout : ∃ e, l.settings.outgoing f = .error e := by
    cases hout : l.settings.outgoing f with
    | error e => exact ⟨e, rfl⟩
    | ok tx => exact absurd (Frame.encode_ok_iff.mp (encode_of_outgoing hout)).1 h
  obtain ⟨e, hout⟩ := hout
  refine ⟨.protocol e, ?_⟩
  rw [ack, run_map fun answer => answer == some ackByte, readU8, readValue, run_bind, run_call,
    request_of_outgoing_error hout]
  rfl

end

end Link

namespace Device.Socket

/-- A slot that was reserved, and perhaps connected or put to listen. -/
structure Taken (a b : Socket) : Prop where
  reserved : b.reserved = true
  waiting : a.waiting = [] → b.waiting = []
  tx : a.tx = [] → b.tx = []
  live : b.state.isConnected = true → b.kind = .client ∨ b.state = a.state
  rx : b.rx.Sublist a.rx
  datagrams : a.datagrams = [] → b.datagrams = []

/-- A slot that is open for this use. Nothing has come in over a new connection. -/
structure Opened (kind : SocketKind) (a b : Socket) : Prop extends Taken a b where
  kind : b.kind = kind
  silent : b.kind = .client → b.rx = [] ∧ b.datagrams = []

section
variable {kind : SocketKind} {a b b' : Socket}

theorem Taken.reserve (a : Socket) : Taken a { a with reserved := true } where
  reserved := rfl
  waiting := id
  tx := id
  live _ := Or.inr rfl
  rx := .refl a.rx
  datagrams := id

/-- It does not matter that the slot was reserved first. -/
theorem Opened.of_reserve (h : Opened kind { a with reserved := true } b) : Opened kind a b :=
  ⟨⟨h.reserved, h.waiting, h.tx, h.live, h.rx, h.datagrams⟩, h.kind, h.silent⟩

/-- What a slot serves when it listens in a mode. -/
def listeningKind (mode : UInt8) : SocketKind :=
  if SocketMode.isDatagram mode then .datagram else .server

/-- What a slot serves when it connects in a mode. -/
def connectingKind (mode : UInt8) : SocketKind :=
  if SocketMode.isDatagram mode then .datagram else .client

theorem opened_listening (port : UInt16) (mode : UInt8) (a : Socket) :
    Opened (listeningKind mode) a (a.listening port mode) := by
  refine ⟨⟨rfl, id, id, fun h => ?_, .refl a.rx, id⟩, rfl, fun h => ?_⟩
  · simp only [listening] at h
    split at h <;> cases h
  · simp only [listening] at h
    split at h <;> cases h

theorem opened_connecting {connect : ConnectBehavior} {mode : UInt8}
    (h : (SocketMode.isDatagram mode || connect != .refuse) = true) (peer : Endpoint) (a : Socket) :
    Opened (connectingKind mode) a (a.connecting connect peer mode) := by
  unfold connecting connectingKind
  cases hmode : SocketMode.isDatagram mode with
  | true => exact ⟨⟨rfl, id, id, fun _ => Or.inr rfl, .refl a.rx, id⟩, rfl, fun h => nomatch h⟩
  | false =>
    cases connect with
    | establish =>
      exact ⟨⟨rfl, fun _ => rfl, fun _ => rfl, fun _ => Or.inl rfl, List.nil_sublist _,
        fun _ => rfl⟩, rfl, fun _ => ⟨rfl, rfl⟩⟩
    | stuck =>
      exact ⟨⟨rfl, fun _ => rfl, fun _ => rfl, fun _ => Or.inl rfl, List.nil_sublist _,
        fun _ => rfl⟩, rfl, fun _ => ⟨rfl, rfl⟩⟩
    | refuse =>
      rw [hmode] at h
      cases h

theorem connecting_of_refused {connect : ConnectBehavior} {mode : UInt8}
    (h : (SocketMode.isDatagram mode || connect != .refuse) = false) (peer : Endpoint) (a : Socket) :
    a.connecting connect peer mode = a := by
  rw [Bool.or_eq_false_iff, bne_eq_false_iff_eq] at h
  unfold connecting
  rw [h.1, h.2]
  rfl

end

end Device.Socket

namespace Link

/-- What a request to open a socket does: its slot stays or is opened, and it is opened if the
request is acknowledged. -/
structure Starts (kind : SocketKind) (socket : SocketHandle) (i : Fin socketCount) (l : Link Line)
    (result : Except LinkError Bool × Link Line) : Prop where
  uses : Uses Socket.nothing socket l result.2
  slot : result.2.found i = l.found i ∨ Socket.Opened kind (l.found i) (result.2.found i)
  opened : result.1 = .ok true → Socket.Opened kind (l.found i) (result.2.found i)

section
variable {kind : SocketKind} {socket : SocketHandle} {i : Fin socketCount} {l : Link Line}
  {c : Command} {f : Frame}

theorem found_of_effect {l' : Link Line} {g : Device.Socket → Device.Socket}
    (h : l' = l ∨ ∃ s', ((l.device.recorded c).modifySocket i g).Replied s' ∧
      l' = l.ensureReset.leaving s') :
    l'.found i = l.found i ∨ l'.found i = g (l.found i) := by
  rcases h with rfl | ⟨s', hreplied, rfl⟩
  · exact Or.inl rfl
  · right
    rw [found_leaving, hreplied.same]
    exact State.get_modifySocket_self _ i g

theorem found_of_sent {asks answers : Nat} {α : Type} {a : α} {result : Except LinkError α × Link Line}
    {g : Device.Socket → Device.Socket}
    (h : Outcome l c asks answers ((l.device.recorded c).modifySocket i g) a result)
    (hasks : asks ≤ l.settings.maxFrameSize.toNat) : result.2.found i = g (l.found i) := by
  obtain ⟨s', hreplied, hlink⟩ := h.sent hasks
  rw [hlink, found_leaving, hreplied.same]
  exact State.get_modifySocket_self _ i g

/-- A request whose acknowledgement says whether it opened the slot. -/
theorem starts_of_outcome {asks : Nat} {g : Device.Socket → Device.Socket} {ok : Bool}
    {result : Except LinkError Bool × Link Line} (hi : socket.index? = some i)
    (h : Outcome l c asks 8 ((l.device.recorded c).modifySocket i g) ok result)
    (acknowledged : ok = true → Socket.Opened kind (l.found i) (g (l.found i)))
    (refused : ok = false → g (l.found i) = l.found i) : Starts kind socket i l result where
  uses := uses_of_effect hi rfl h.effect
  slot := by
    rcases found_of_effect h.effect with hsame | hchanged
    · exact Or.inl hsame
    · cases ok with
      | false => exact Or.inl (hchanged.trans (refused rfl))
      | true => exact Or.inr (hchanged ▸ acknowledged rfl)
  opened hok := by
    obtain ⟨hvalue, hcarries⟩ := h.of_ok hok
    rw [found_of_sent h hcarries.asks]
    exact acknowledged hvalue.symm

theorem starts_of_error {result : Except LinkError Bool × Link Line}
    (uses : Uses Socket.nothing socket l result.2) (same : result.2.found i = l.found i)
    (failed : ∃ e, result.1 = .error e) : Starts kind socket i l result := by
  obtain ⟨e, he⟩ := failed
  exact ⟨uses, Or.inl same, fun hok => nomatch he.symm.trans hok⟩

variable (hi : socket.index? = some i) (l)
include hi

theorem ack_starts (hf : IsRequestFor c f) (fits : f.Fits) {g : Device.Socket → Device.Socket}
    {ok : Bool}
    (served : (serve c ⟨f.params⟩).run (l.device.recorded c) =
      (some (Device.ack c ok), (l.device.recorded c).modifySocket i g))
    (acknowledged : ok = true → Socket.Opened kind (l.found i) (g (l.found i)))
    (refused : ok = false → g (l.found i) = l.found i) :
    Starts kind socket i l ((ack f).run l) :=
  starts_of_outcome hi (ack_outcome hf fits served) acknowledged refused

theorem startServer_outcome (port : UInt16) (mode : SocketMode) :
    Outcome l .startServerTcp (openParams (Frame.command .startServerTcp) port socket mode).bytes.length
      8 ((l.device.recorded .startServerTcp).modifySocket i (Socket.listening port mode.raw)) true
      ((startServer port socket mode).run l) := by
  have fits : (openParams (Frame.command .startServerTcp) port socket mode).Fits := by
    refine Frame.fits_of_short (Nat.le_of_ble_eq_true rfl) ?_
    simp [openParams, Frame.withU8, Frame.withU16, Frame.withParam, Frame.command, Frame.raw,
      Bytes.ofU16BE]
  have hserve : (serve .startServerTcp
      ⟨(openParams (Frame.command .startServerTcp) port socket mode).params⟩).run
        (l.device.recorded .startServerTcp) = _ :=
    (run_serve_start (x := Device.startServer _) rfl _).trans
      (by rw [show (openParams (Frame.command .startServerTcp) port socket mode).params =
        [Bytes.ofU16BE port, [socket.raw], [mode.raw]] from rfl, run_startServer hi])
  exact ack_outcome ⟨rfl, rfl⟩ fits hserve

theorem startServerAt_outcome (ip : Ipv4) (port : UInt16) (mode : SocketMode) :
    Outcome l .startServerTcp
      (openParams ((Frame.command .startServerTcp).withIpv4 ip) port socket mode).bytes.length
      8 ((l.device.recorded .startServerTcp).modifySocket i (Socket.listening port mode.raw)) true
      ((startServerAt ip port socket mode).run l) := by
  have fits : (openParams ((Frame.command .startServerTcp).withIpv4 ip) port socket mode).Fits := by
    refine Frame.fits_of_short (Nat.le_of_ble_eq_true rfl) ?_
    simp [openParams, Frame.withU8, Frame.withU16, Frame.withIpv4, Frame.withParam, Frame.command,
      Frame.raw, Bytes.ofU16BE, Ipv4.octets]
  have hserve : (serve .startServerTcp
      ⟨(openParams ((Frame.command .startServerTcp).withIpv4 ip) port socket mode).params⟩).run
        (l.device.recorded .startServerTcp) = _ :=
    (run_serve_start (x := Device.startServer _) rfl _).trans
      (by rw [show (openParams ((Frame.command .startServerTcp).withIpv4 ip) port socket
        mode).params = [ip.octets, Bytes.ofU16BE port, [socket.raw], [mode.raw]] from rfl,
        run_startServerAt hi])
  exact ack_outcome ⟨rfl, rfl⟩ fits hserve

theorem startServer_starts (port : UInt16) (mode : SocketMode) :
    Starts (Socket.listeningKind mode.raw) socket i l ((startServer port socket mode).run l) :=
  starts_of_outcome hi (startServer_outcome l hi port mode)
    (fun _ => Socket.opened_listening port mode.raw _) (fun h => nomatch h)

theorem startServerAt_starts (ip : Ipv4) (port : UInt16) (mode : SocketMode) :
    Starts (Socket.listeningKind mode.raw) socket i l
      ((startServerAt ip port socket mode).run l) :=
  starts_of_outcome hi (startServerAt_outcome l hi ip port mode)
    (fun _ => Socket.opened_listening port mode.raw _) (fun h => nomatch h)

def connectFrame (ip : Ipv4) (port : UInt16) (socket : SocketHandle) (mode : SocketMode) : Frame :=
  openParams ((Frame.command .startClientTcp).withIpv4 ip) port socket mode

omit hi in
theorem connectFrame_fits (ip : Ipv4) (port : UInt16) (mode : SocketMode) :
    (connectFrame ip port socket mode).Fits := by
  refine Frame.fits_of_short (Nat.le_of_ble_eq_true rfl) ?_
  simp [connectFrame, openParams, Frame.withU8, Frame.withU16, Frame.withIpv4, Frame.withParam,
    Frame.command, Frame.raw, Bytes.ofU16BE, Ipv4.octets]

def connectHostFrame (host : String) (port : UInt16) (socket : SocketHandle) (mode : SocketMode) :
    Frame :=
  openParams (((Frame.command .startClientTcp).withParam (Text.Utf8.encode host)).withIpv4
    .unspecified) port socket mode

theorem serve_connect (ip : Ipv4) (port : UInt16) (mode : SocketMode) (s : State) :
    (serve .startClientTcp ⟨(connectFrame ip port socket mode).params⟩).run s =
      (some (Device.ack .startClientTcp
          (SocketMode.isDatagram mode.raw || s.connect != .refuse)),
        s.modifySocket i (Socket.connecting s.connect ⟨ip, port⟩ mode.raw)) := by
  refine (run_serve_start (x := Device.startClient _) rfl _).trans ?_
  rw [show (connectFrame ip port socket mode).params =
    [ip.octets, Bytes.ofU16BE port, [socket.raw], [mode.raw]] from rfl, run_startClient_mode hi,
    s.connectSlot_eq]

theorem serve_connectHost (host : String) (port : UInt16) (mode : SocketMode) (s : State) :
    (serve .startClientTcp ⟨(connectHostFrame host port socket mode).params⟩).run s =
      match s.resolve host with
      | some ip => (some (Device.ack .startClientTcp
            (SocketMode.isDatagram mode.raw || s.connect != .refuse)),
          s.modifySocket i (Socket.connecting s.connect ⟨ip, port⟩ mode.raw))
      | none => (some (Device.ack .startClientTcp false), s) := by
  refine (run_serve_start (x := Device.startClient _) rfl _).trans ?_
  rw [show (connectHostFrame host port socket mode).params = [Text.Utf8.encode host,
    Ipv4.unspecified.octets, Bytes.ofU16BE port, [socket.raw], [mode.raw]] from rfl,
    run_startClientHost hi, Text.Utf8.decode?_encode]
  dsimp only
  cases s.resolve host with
  | none => rfl
  | some ip =>
    dsimp only
    rw [s.connectSlot_eq]

theorem startClient_starts (ip : Ipv4) (port : UInt16) (mode : SocketMode) :
    Starts (Socket.connectingKind mode.raw) socket i l ((startClient ip port socket mode).run l) := by
  exact ack_starts l hi (f := connectFrame ip port socket mode) ⟨rfl, rfl⟩
    (connectFrame_fits ip port mode) (serve_connect hi ip port mode _)
    (fun h => Socket.opened_connecting h _ _) fun h => Socket.connecting_of_refused h _ _

theorem startClientHost_starts (host : String) (port : UInt16) (mode : SocketMode) :
    Starts (Socket.connectingKind mode.raw) socket i l
      ((startClientHost host .unspecified port socket mode).run l) := by
  change Starts _ socket i l ((ack (connectHostFrame host port socket mode)).run l)
  by_cases fits : (connectHostFrame host port socket mode).Fits
  · have hserve := serve_connectHost hi host port mode (l.device.recorded .startClientTcp)
    cases hname : (l.device.recorded .startClientTcp).resolve host with
    | none =>
      rw [hname] at hserve
      have hsame : (serve .startClientTcp ⟨(connectHostFrame host port socket mode).params⟩).run
            (l.device.recorded .startClientTcp) = (some (Device.ack .startClientTcp false),
          (l.device.recorded .startClientTcp).modifySocket i id) := by
        rw [State.modifySocket_id]
        exact hserve
      exact ack_starts l hi (f := connectHostFrame host port socket mode) ⟨rfl, rfl⟩ fits hsame
        (fun h => nomatch h) (fun _ => rfl)
    | some ip =>
      rw [hname] at hserve
      exact ack_starts l hi (f := connectHostFrame host port socket mode) ⟨rfl, rfl⟩ fits hserve
        (fun h => Socket.opened_connecting h _ _) fun h => Socket.connecting_of_refused h _ _
  · obtain ⟨e, hrun⟩ := ack_of_not_fits (l := l) fits
    rw [hrun]
    exact starts_of_error (.refl l) rfl ⟨e, rfl⟩

end

section
variable {socket : SocketHandle} {i : Fin socketCount} (l : Link Line)

/-- To set where its datagrams go changes nothing of the record of a slot that is for datagrams. -/
theorem record_connecting_udp {a : Device.Socket} (reserved : a.reserved = true)
    (kind : a.kind = .datagram) (connect : ConnectBehavior) (peer : Endpoint) :
    (a.connecting connect peer SocketMode.udp.raw).record = a.record := by
  have hmode : SocketMode.isDatagram SocketMode.udp.raw = true := by decide
  simp only [Socket.connecting, hmode, if_true, Socket.record, Socket.standing, reserved, kind]

variable (hi : socket.index? = some i) (reserved : (l.found i).reserved = true)
  (kind : (l.found i).kind = .datagram)
include hi reserved kind

theorem startClient_uses (ip : Ipv4) (port : UInt16) :
    Uses Socket.record socket l ((startClient ip port socket .udp).run l).2 := by
  change Uses Socket.record socket l ((ack (connectFrame ip port socket .udp)).run l).2
  rw [ack, run_map fun answer => answer == some ackByte, readU8, link_readValue]
  exact uses_of_request hi ⟨rfl, rfl⟩ (serve_connect hi ip port .udp _)
    (record_connecting_udp reserved kind _ _) _

theorem startClientHost_uses (host : String) (port : UInt16) :
    Uses Socket.record socket l ((startClientHost host .unspecified port socket .udp).run l).2 := by
  change Uses Socket.record socket l ((ack (connectHostFrame host port socket .udp)).run l).2
  rw [ack, run_map fun answer => answer == some ackByte, readU8, link_readValue]
  have hserve := serve_connectHost hi host port .udp (l.device.recorded .startClientTcp)
  cases hname : (l.device.recorded .startClientTcp).resolve host with
  | none =>
    rw [hname] at hserve
    exact uses_of_question ⟨rfl, rfl⟩ hserve _
  | some ip =>
    rw [hname] at hserve
    exact uses_of_request hi ⟨rfl, rfl⟩ hserve (record_connecting_udp reserved kind _ _) _

end

theorem getSocket_outcome (l : Link Line) :
    let served := (l.device.recorded .getSocket).reserve
    Outcome l .getSocket 4 8 served.2 (⟨served.1⟩ : SocketHandle) ((getSocket).run l) := by
  intro served
  have fits : (Frame.command .getSocket).Fits :=
    Frame.fits_of_short (by decide) fun _ hp => absurd hp List.not_mem_nil
  have hread : Outcome l .getSocket 4 8 served.2 _ ((readU8 (Frame.command .getSocket)).run l) :=
    readValue_outcome (p := [served.1]) ⟨rfl, rfl⟩ fits (Nat.le_of_ble_eq_true rfl) rfl 1 Slot.u8?
  have hsocket := hread.map fun answer => (answer.map SocketHandle.mk).getD .none
  rw [getSocket, run_map fun answer => (Option.map SocketHandle.mk answer).getD .none]
  exact hsocket

theorem stopClient_outcome (l : Link Line) {socket : SocketHandle} {i : Fin socketCount}
    (hi : socket.index? = some i) :
    Outcome l .stopClientTcp 8 8
      ((l.device.recorded .stopClientTcp).modifySocket i (Socket.stopped l.device.close)) true
      ((stopClient socket).run l) := by
  have hstop := ack_outcome (l := l) (f := about .stopClientTcp socket) ⟨rfl, rfl⟩ (about_fits _ _)
    (run_serve_stop hi _)
  rw [length_about] at hstop
  exact hstop

end Link

namespace Host

section
variable {host : Host Line}

theorem run_map {α β : Type} (g : α → β) (x : HostM Line α) (host : Host Line) :
    (do return g (← x) : HostM Line β).run host = ((x.run host).1.map g, (x.run host).2) := by
  rw [run_bind]
  rcases x.run host with ⟨e | a, after⟩ <;> rfl

theorem uses_of_same {view : Device.Socket → Device.Socket} {socket : SocketHandle} {link : Link Line}
    (h : Link.Uses view socket host.link link) : Uses view socket host { host with link := link } :=
  ⟨h, rfl, fun _ _ => rfl⟩

/-- To acquire a socket changes nothing, or reserves a slot that nobody had. The handle may get lost
on the way. -/
theorem acquire_outcome (host : Host Line) :
    (∃ e after, acquire.run host = (.error e, after) ∧ Uses Socket.record .none host after) ∨
    ∃ socket i result after, acquire.run host = (result, after) ∧ socket.index? = some i ∧
      (host.link.found i).reserved = false ∧ Uses Socket.nothing socket host after ∧
      after.link.found i = { host.link.found i with reserved := true } ∧
      after.cache = host.cache ∧
      ((∃ e, result = .error e) ∨ (result = .ok socket ∧
        8 ≤ host.link.settings.maxFrameSize.toNat ∧ 1 ≤ host.link.settings.startBudget.toNat)) := by
  have h := Link.getSocket_outcome host.link
  dsimp only at h
  have hrun : acquire.run host = match (Link.getSocket : LinkM Line SocketHandle).run host.link with
      | (.error e, link) => (.error (.link e), { host with link := link })
      | (.ok socket, link) =>
        (if socket.isValid then .ok socket else .error .noSocketAvailable,
          { host with link := link }) := by
    unfold acquire
    rw [run_bind, run_ask]
    rcases (Link.getSocket : LinkM Line SocketHandle).run host.link with ⟨e | socket, link⟩
    · rfl
    · dsimp only
      split <;> rfl
  rw [hrun]
  rcases (host.link.device.recorded .getSocket).reserve_cases with
    ⟨i, hfree, hreserve⟩ | hreserve
  · have hi := SocketHandle.index?_ofNat i
    have hvalid : SocketHandle.isValid ⟨UInt8.ofNat i⟩ = true := SocketHandle.isValid_of_some hi
    rw [hreserve] at h
    dsimp only at h
    by_cases hasks : 4 ≤ host.link.settings.maxFrameSize.toNat
    · right
      have huses : Link.Uses Socket.nothing ⟨UInt8.ofNat i⟩ host.link
          ((Link.getSocket : LinkM Line SocketHandle).run host.link).2 :=
        Link.uses_of_effect hi rfl (Or.inr (h.sent hasks))
      have hfound := Link.found_of_sent h hasks
      rcases hget : (Link.getSocket : LinkM Line SocketHandle).run host.link with ⟨e | socket, link⟩
      · rw [hget] at huses hfound
        exact ⟨_, i, _, _, rfl, hi, hfree, uses_of_same huses, hfound, rfl, Or.inl ⟨_, rfl⟩⟩
      · rw [hget] at huses hfound h
        obtain ⟨rfl, hcarries⟩ := h.of_ok rfl
        dsimp only
        rw [if_pos hvalid]
        exact ⟨_, i, _, _, rfl, hi, hfree, uses_of_same huses, hfound, rfl,
          Or.inr ⟨rfl, hcarries.answers, hcarries.budget⟩⟩
    · left
      have hlink := h.unsent (Nat.not_le.mp hasks)
      obtain ⟨e, he⟩ := h.failed fun hcarries => hasks hcarries.asks
      rcases hget : (Link.getSocket : LinkM Line SocketHandle).run host.link with ⟨result, link⟩
      rw [hget] at hlink he
      cases he
      cases hlink
      exact ⟨_, _, rfl, .refl host⟩
  · left
    rw [hreserve] at h
    have huses : Link.Uses Socket.record .none host.link
        ((Link.getSocket : LinkM Line SocketHandle).run host.link).2 :=
      Link.uses_of_answer h.effect
    rcases hget : (Link.getSocket : LinkM Line SocketHandle).run host.link with ⟨e | socket, link⟩
    · rw [hget] at huses
      exact ⟨_, _, rfl, uses_of_same huses⟩
    · rw [hget] at huses h
      obtain ⟨rfl, -⟩ := h.of_ok rfl
      exact ⟨_, _, rfl, uses_of_same huses⟩

/-- The slots that the device reserves when the host asks for a socket, whether or not it learns of
them. -/
def acquires (host : Host Line) : List (Fin socketCount) :=
  (List.finRange socketCount).filter fun i =>
    !(host.link.found i).reserved && (((acquire.run host).2).link.found i).reserved

/-- The slots that were acquired for nothing, if this came of the attempt. -/
def wasted {ε α : Type} (host : Host Line) (result : Except ε α) : List (Fin socketCount) :=
  match result with
  | .ok _ => []
  | .error _ => host.acquires

theorem acquires_of_same {result : Except NetError SocketHandle} {after : Host Line}
    (run : acquire.run host = (result, after))
    (same : ∀ i, after.link.found i = host.link.found i) : host.acquires = [] := by
  refine List.filter_eq_nil_iff.mpr fun i _ => ?_
  rw [run, same i, Bool.not_and_self]
  exact Bool.false_ne_true

theorem acquires_of_reserved {result : Except NetError SocketHandle} {after : Host Line}
    (run : acquire.run host = (result, after)) {i : Fin socketCount}
    (vacant : (host.link.found i).reserved = false)
    (reserved : (after.link.found i).reserved = true)
    (others : ∀ j, j ≠ i → after.link.found j = host.link.found j) : host.acquires = [i] := by
  have hfilter : ∀ j, (!(host.link.found j).reserved && (after.link.found j).reserved) =
      decide (j = i) := by
    intro j
    by_cases hji : j = i
    · subst hji
      rw [vacant, reserved, decide_eq_true rfl]
      rfl
    · rw [others j hji, Bool.not_and_self, decide_eq_false hji]
  have hsingle : ∀ i : Fin socketCount, (List.finRange socketCount).filter (· = i) = [i] := by decide
  rw [acquires, run, funext hfilter]
  exact hsingle i

/-- What taking a socket comes to: nothing is taken; or a slot that nobody had is spent, though no
handle is given; or the handle names such a slot, and it is open. -/
inductive Opening (kind : SocketKind) (host : Host Line) :
    Except NetError SocketHandle × Host Line → Prop
  | nothing (e : NetError) (after : Host Line) (uses : Uses Socket.record .none host after)
    (acquires : host.acquires = []) : Opening kind host (.error e, after)
  | spent (e : NetError) (after : Host Line) (socket : SocketHandle) (i : Fin socketCount)
    (index : socket.index? = some i) (vacant : (host.link.found i).reserved = false)
    (uses : Uses Socket.nothing socket host after)
    (taken : Socket.Taken (host.link.found i) (after.link.found i))
    (cache : after.cache = host.cache ∨ after.cache = host.cache.close socket)
    (acquires : host.acquires = [i]) : Opening kind host (.error e, after)
  | opened (socket : SocketHandle) (after : Host Line) (i : Fin socketCount)
    (index : socket.index? = some i) (vacant : (host.link.found i).reserved = false)
    (uses : Uses Socket.nothing socket host after)
    (taken : Socket.Opened kind (host.link.found i) (after.link.found i))
    (cache : after.cache = host.cache)
    (carries : 8 ≤ host.link.settings.maxFrameSize.toNat ∧
      1 ≤ host.link.settings.startBudget.toNat) :
    Opening kind host (.ok socket, after)

/-- To acquire a socket and to ask for its opening, before what is made of an acknowledgement. -/
theorem begin_opening {kind : SocketKind} {start : SocketHandle → LinkM Line Bool}
    (starts : ∀ socket i l, socket.index? = some i →
      Link.Starts kind socket i l ((start socket).run l))
    {finish : SocketHandle → HostM Line SocketHandle} {refusal : NetError}
    (finishes : ∀ socket i (opened : Host Line), socket.index? = some i →
      ∃ result after, (finish socket).run opened = (result, after) ∧
        Uses id socket opened after ∧
        ((∃ e, result = .error e) ∧ (after.cache = opened.cache ∨
          after.cache = opened.cache.close socket) ∨
        result = .ok socket ∧ after.cache = opened.cache)) :
    Opening kind host ((do
      let socket ← acquire
      if ← ask (start socket) then finish socket else throw refusal : HostM Line SocketHandle).run
        host) := by
  rw [run_bind]
  rcases acquire_outcome host with ⟨e, after, hacquire, huses⟩ |
    ⟨socket, i, result, acquired, hacquire, hi, hfree, huses, hfound, hcache, hresult⟩
  · rw [hacquire]
    exact .nothing e after huses (acquires_of_same hacquire fun i => huses.link.others i nofun)
  · have hacquires : host.acquires = [i] :=
      acquires_of_reserved hacquire hfree (congrArg Device.Socket.reserved hfound) fun j hj =>
        huses.link.others j fun hown => hj (Option.some.inj (hown.symm.trans hi))
    rw [hacquire]
    rcases hresult with ⟨e, rfl⟩ | ⟨rfl, hcarries⟩
    · exact .spent e acquired socket i hi hfree huses (hfound ▸ .reserve _) (Or.inl hcache) hacquires
    · dsimp only
      have hstart := starts socket i acquired.link hi
      rw [run_bind, run_ask]
      rcases hstarted : (start socket).run acquired.link with ⟨answer, link⟩
      rw [hstarted] at hstart
      have hboth := huses.trans (uses_of_same hstart.uses)
      have htaken : Socket.Taken (host.link.found i) (link.found i) := by
        rcases hstart.slot with hsame | hopened
        · rw [hsame, hfound]
          exact .reserve _
        · rw [hfound] at hopened
          exact hopened.of_reserve.toTaken
      rcases answer with e | _ | _
      · exact .spent _ _ socket i hi hfree hboth htaken (Or.inl hcache) hacquires
      · exact .spent refusal _ socket i hi hfree hboth htaken (Or.inl hcache) hacquires
      · have hopened := hstart.opened rfl
        rw [hfound] at hopened
        obtain ⟨result, after, hfinish, hlast, hresult⟩ :=
          finishes socket i { acquired with link := link } hi
        have hall := hboth.trans ⟨hlast.link.weaken fun _ _ _ => rfl, hlast.sockets, hlast.cached⟩
        have hsame : after.link.found i = link.found i := hlast.link.own i
        have hkept : Socket.Opened kind (host.link.found i) (after.link.found i) :=
          hsame ▸ hopened.of_reserve
        dsimp only
        rw [if_pos rfl, hfinish]
        rcases hresult with ⟨⟨e, rfl⟩, hlastCache⟩ | ⟨rfl, hlastCache⟩
        · rw [hcache] at hlastCache
          exact .spent e after socket i hi hfree hall hkept.toTaken hlastCache hacquires
        · exact .opened socket after i hi hfree hall hkept (hlastCache.trans hcache) hcarries

theorem connectBy_opening {kind : SocketKind} {start : SocketHandle → LinkM Line Bool}
    (starts : ∀ socket i l, socket.index? = some i →
      Link.Starts kind socket i l ((start socket).run l)) :
    Opening kind host ((connectBy start).run host) := by
  refine begin_opening starts fun socket i opened _ => ?_
  have hpoll : Uses id socket opened _ :=
    pollFor_uses (fun host => attempt_uses (Link.clientState_uses host.link)) connectedAnswer
      opened.sockets.connectAttempts.toNat opened
  have hcache := cache_pollFor (Link.clientState socket) connectedAnswer
    opened.sockets.connectAttempts.toNat opened
  rw [run_awaitConnected]
  rcases hpolled : pollFor (attempt (Link.clientState socket)) connectedAnswer
    opened.sockets.connectAttempts.toNat opened with ⟨_ | _, after⟩
  all_goals rw [hpolled] at hpoll hcache
  · refine ⟨_, _, rfl, hpoll.closeCache, Or.inl ⟨⟨_, rfl⟩, Or.inr ?_⟩⟩
    rw [closeCache, hcache]
  · exact ⟨_, _, rfl, hpoll, Or.inr ⟨rfl, hcache⟩⟩

theorem listenBy_opening {kind : SocketKind} {start : SocketHandle → LinkM Line Bool}
    (starts : ∀ socket i l, socket.index? = some i →
      Link.Starts kind socket i l ((start socket).run l)) :
    Opening kind host ((listenBy start).run host) :=
  begin_opening starts fun _ _ opened _ => ⟨_, opened, rfl, .refl opened, Or.inr ⟨rfl, rfl⟩⟩

theorem tryConnect_opening (ip : Ipv4) (port : UInt16) (mode : SocketMode) :
    Opening (Socket.connectingKind mode.raw) host ((tryConnect ip port mode).run host) :=
  connectBy_opening fun _ _ l hi => Link.startClient_starts l hi ip port mode

theorem tryConnectHost_opening (name : String) (port : UInt16) (mode : SocketMode) :
    Opening (Socket.connectingKind mode.raw) host ((tryConnectHost name port mode).run host) :=
  connectBy_opening fun _ _ l hi => Link.startClientHost_starts l hi name port mode

theorem startServer_opening (port : UInt16) (mode : SocketMode) :
    Opening (Socket.listeningKind mode.raw) host ((startServer port mode).run host) :=
  listenBy_opening fun _ _ l hi => Link.startServer_starts l hi port mode

theorem startServerAt_opening (ip : Ipv4) (port : UInt16) (mode : SocketMode) :
    Opening (Socket.listeningKind mode.raw) host ((startServerAt ip port mode).run host) :=
  listenBy_opening fun _ _ l hi => Link.startServerAt_starts l hi ip port mode

/-- A socket that listens was put to listen on a slot that nobody had, and that is all that was done
to the slot and its cache. -/
theorem listenBy_listens {start : SocketHandle → LinkM Line Bool} {port : UInt16} {mode : UInt8}
    (starts : ∀ socket i l, socket.index? = some i → ((start socket).run l).1 = .ok true →
      ((start socket).run l).2.found i = (l.found i).listening port mode)
    {socket : SocketHandle} {after : Host Line}
    (h : (listenBy start).run host = (.ok socket, after)) :
    ∃ i, socket.index? = some i ∧ (host.link.found i).reserved = false ∧
      after.link.found i = (host.link.found i).listening port mode ∧ after.cache = host.cache := by
  rw [listenBy, run_bind] at h
  rcases acquire_outcome host with ⟨e, acquired, hacquire, -⟩ |
    ⟨socket', i, result, acquired, hacquire, hi, hfree, -, hfound, hcache, hresult⟩
  · rw [hacquire] at h
    cases h
  · rw [hacquire] at h
    rcases hresult with ⟨e, rfl⟩ | ⟨rfl, -⟩
    · cases h
    · have hstart := starts socket' i acquired.link hi
      dsimp only at h
      rw [run_bind, run_ask] at h
      rcases hstarted : (start socket').run acquired.link with ⟨answer, link⟩
      rw [hstarted] at h hstart
      rcases answer with e | _ | _
      · cases h
      · cases h
      · cases h
        refine ⟨i, hi, hfree, (hstart rfl).trans ?_, hcache⟩
        rw [hfound]
        rfl

theorem startServer_listens {port : UInt16} {mode : SocketMode} {socket : SocketHandle}
    {after : Host Line} (h : (startServer port mode).run host = (.ok socket, after)) :
    ∃ i, socket.index? = some i ∧ (host.link.found i).reserved = false ∧
      after.link.found i = (host.link.found i).listening port mode.raw ∧
      after.cache = host.cache :=
  listenBy_listens (fun _ _ l hi hok =>
    have hstart := Link.startServer_outcome l hi port mode
    Link.found_of_sent hstart (hstart.of_ok hok).2.asks) h

theorem startServerAt_listens {ip : Ipv4} {port : UInt16} {mode : SocketMode}
    {socket : SocketHandle} {after : Host Line}
    (h : (startServerAt ip port mode).run host = (.ok socket, after)) :
    ∃ i, socket.index? = some i ∧ (host.link.found i).reserved = false ∧
      after.link.found i = (host.link.found i).listening port mode.raw ∧
      after.cache = host.cache :=
  listenBy_listens (fun _ _ l hi hok =>
    have hstart := Link.startServerAt_outcome l hi ip port mode
    Link.found_of_sent hstart (hstart.of_ok hok).2.asks) h

end

/-- What stopping a socket does. Its slot stays as it was only if the link is too short for the
request. -/
structure Stops (socket : SocketHandle) (i : Fin socketCount) (host after : Host Line) : Prop where
  uses : Uses Socket.nothing socket host after
  slot : after.link.found i = host.link.found i ∨
    after.link.found i = (host.link.found i).stopped host.link.device.close
  stopped : 8 ≤ host.link.settings.maxFrameSize.toNat →
    after.link.found i = (host.link.found i).stopped host.link.device.close
  cache : after.cache = host.cache.close socket

theorem tryStop_stops {socket : SocketHandle} {i : Fin socketCount} (hi : socket.index? = some i)
    (host : Host Line) : Stops socket i host ((tryStop socket).run host).2 := by
  have hvalid : socket.isValid = true := SocketHandle.isValid_of_some hi
  have hstop := Link.stopClient_outcome host.link hi
  have hlink : (attempt (Link.stopClient socket) host).2.link =
      ((Link.stopClient socket).run host.link).2 := rfl
  let stopped := (attempt (Link.stopClient socket) host).2
  have hpoll : Uses id socket stopped _ :=
    pollFor_uses (fun host => attempt_uses (Link.clientState_uses host.link)) closedAnswer
      host.sockets.stopAttempts.toNat _
  have hcache := cache_pollFor (Link.clientState socket) closedAnswer
    host.sockets.stopAttempts.toNat stopped
  have hrun : ((tryStop socket).run host).2 =
      (pollFor (attempt (Link.clientState socket)) closedAnswer
        host.sockets.stopAttempts.toNat stopped).2.closeCache socket := by
    rw [run_tryStop hvalid, run_stopAndWait]
    rcases pollFor (attempt (Link.clientState socket)) closedAnswer
      host.sockets.stopAttempts.toNat stopped with ⟨_ | _, after⟩ <;> rfl
  rw [hrun]
  refine ⟨?_, ?_, fun hsize => ?_, ?_⟩
  · have huses : Link.Uses Socket.nothing socket host.link
        ((Link.stopClient socket).run host.link).2 := Link.uses_of_effect hi rfl hstop.effect
    exact ((attempt_uses huses).trans ⟨hpoll.link.weaken fun _ _ _ => rfl, hpoll.sockets,
      hpoll.cached⟩).closeCache
  · have hfound := Link.found_of_effect hstop.effect
    rw [← hlink] at hfound
    have hkept := hpoll.link.own i
    simp only [id] at hkept
    rcases hfound with hsame | hstopped
    · exact Or.inl (hkept.trans hsame)
    · exact Or.inr (hkept.trans hstopped)
  · have hkept := hpoll.link.own i
    simp only [id] at hkept
    exact hkept.trans (Link.found_of_sent hstop hsize)
  · rw [closeCache, hcache]
    rfl

/-- A byte that is answered as a handle names what it names. -/
theorem handleOf_toNat (raw : UInt8) : Link.handleOf (some (UInt16.ofNat raw.toNat)) = ⟨raw⟩ := by
  have hraw := raw.toNat_lt
  have hvalue : (UInt16.ofNat raw.toNat).toNat = raw.toNat := by
    rw [UInt16.toNat_ofNat']
    omega
  rw [Link.handleOf, if_pos (by omega)]
  congr 1
  apply UInt8.toNat.inj
  rw [UInt16.toNat_toUInt8, hvalue]
  omega

/-- What accepting comes to on whatever a slot serves: the device answers for the slot, and the answer
is taken for a socket; or it did not get through, and there is no socket. -/
structure Asks (socket : SocketHandle) (i : Fin socketCount) (host : Host Line)
    (result : SocketHandle × Host Line) : Prop where
  uses : Uses Socket.nothing socket host result.2
  cache : result.2.cache = host.cache
  slot : result.2.link.found i = host.link.found i ∨
    result.2.link.found i = (host.link.found i).asked
  carried : host.link.Carries .availDataTcp 8 8 →
    result.1 = Link.handleOf (some (host.link.found i).answered) ∧
      result.2.link.found i = (host.link.found i).asked
  failed : ¬ host.link.Carries .availDataTcp 8 8 → result.1 = .none

theorem accept_asks {socket : SocketHandle} {i : Fin socketCount} (hi : socket.index? = some i)
    (host : Host Line) : Asks socket i host (accept socket host) := by
  have hvalid : socket.isValid = true := SocketHandle.isValid_of_some hi
  have hread := Link.readU16LE_outcome (f := Link.about .availDataTcp socket) ⟨rfl, rfl⟩
    (Link.about_fits _ _) (run_serve_availData hi (host.link.device.recorded .availDataTcp))
  have havail : ((host.link.device.recorded .availDataTcp).available i).1 =
      (host.link.found i).answered := congrArg Prod.fst (State.available_eq _ i)
  have hsocket := hread.map Link.handleOf
  rw [Link.length_about, havail] at hsocket
  have hrun : accept socket host =
      match (Link.availServer socket).run host.link with
      | (.ok client, link) => (client, { host with link := link })
      | (.error _, link) => (.none, { host with link := link }) := by
    simp only [accept, hvalid, if_true, bind, StateT.bind, attempt, onLink]
    rcases (Link.availServer socket).run host.link with ⟨e | client, link⟩ <;> rfl
  rw [← Link.run_map] at hsocket
  change Link.Outcome _ _ _ _ _ _ ((Link.availServer socket).run host.link) at hsocket
  have huses : Link.Uses Socket.nothing socket host.link _ :=
    Link.uses_of_effect hi rfl hsocket.effect
  have hfound := Link.found_of_effect hsocket.effect
  rw [hrun]
  rcases hasked : (Link.availServer socket).run host.link with ⟨answer, link⟩
  rw [hasked] at hsocket huses hfound
  have hcarried := hsocket.carried
  have hfailed := hsocket.failed
  rcases answer with e | client
  · refine ⟨uses_of_same huses, rfl, hfound, fun hc => ?_, fun _ => rfl⟩
    cases hcarried hc
  · refine ⟨uses_of_same huses, rfl, hfound, fun hc => ⟨?_, ?_⟩, fun hc => ?_⟩
    · exact Except.ok.inj (hcarried hc)
    · exact Link.found_of_sent hsocket hc.asks
    · obtain ⟨e, he⟩ := hfailed hc
      cases he

/-- What accepting on a listener comes to: the connection that waits first is handed out, or the
answer did not get through and it is handed out to nobody. -/
structure Accepts (socket : SocketHandle) (i : Fin socketCount) (host : Host Line)
    (result : SocketHandle × Host Line) : Prop where
  uses : Uses Socket.nothing socket host result.2
  cache : result.2.cache = host.cache
  carried : host.link.Carries .availDataTcp 8 8 →
    result.1 = ⟨(host.link.found i).waiting.headD SocketHandle.none.raw⟩ ∧
      result.2.link.found i = (host.link.found i).asked
  failed : ¬ host.link.Carries .availDataTcp 8 8 →
    result.1 = .none ∧ (result.2.link.found i = host.link.found i ∨
      result.2.link.found i = (host.link.found i).asked)

theorem accept_accepts {socket : SocketHandle} {i : Fin socketCount} (hi : socket.index? = some i)
    {host : Host Line} (kind : (host.link.found i).kind = .server) :
    Accepts socket i host (accept socket host) := by
  have hasks := accept_asks hi host
  refine ⟨hasks.uses, hasks.cache, fun hc => ?_, fun hc => ⟨hasks.failed hc, hasks.slot⟩⟩
  obtain ⟨hanswer, hslot⟩ := hasks.carried hc
  rw [Socket.answered, if_pos kind, handleOf_toNat] at hanswer
  exact ⟨hanswer, hslot⟩

end Host

end SpiWifi
