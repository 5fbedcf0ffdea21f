import SpiWifi.Proofs.Socket.Connecting

/-!
# What commands do to a socket

A command about a socket slot changes that slot and no other, and nothing else of the device. Each
equation below says what serving such a command gives, and which function of the slot it applies, so
that what a command keeps of a slot can be read off that function.
-/

namespace SpiWifi.Device

namespace State

variable (s : State) (i : Fin socketCount)

theorem modifySocket_id : s.modifySocket i id = s := by
  obtain ⟨sockets, _⟩ := s
  simp only [modifySocket, id_eq, vector_get, Vector.set_getElem_self]

theorem get_modifySocket_self (f : Socket → Socket) :
    (s.modifySocket i f).sockets.get i = f (s.sockets.get i) := by
  rw [get_modifySocket, if_pos rfl]

theorem get_modifySocket_ne {i j : Fin socketCount} (h : j ≠ i) (f : Socket → Socket) :
    (s.modifySocket i f).sockets.get j = s.sockets.get j := by
  rw [get_modifySocket, if_neg h.symm]

end State

namespace Socket

def stopped (close : CloseBehavior) (a : Socket) : Socket :=
  match close with
  | .immediate => free
  | .linger => { a with state := .finWait1 }

/-- A slot from which the next waiting connection, or the number of waiting bytes, was asked. -/
def asked (a : Socket) : Socket :=
  if a.kind = .server then { a with waiting := a.waiting.tail } else a.loadDatagram

/-- The answer to that: the slot that waits first, as a byte, or the number of waiting bytes. -/
def answered (a : Socket) : UInt16 :=
  if a.kind = .server then UInt16.ofNat (a.waiting.headD SocketHandle.none.raw).toNat
  else UInt16.ofNat (min a.loadDatagram.rx.length 65535)

/-- The slot carries a connection on which bytes can be sent. -/
def Sends (a : Socket) : Prop := a.kind = .client ∧ a.state = .established

instance (a : Socket) : Decidable a.Sends := inferInstanceAs (Decidable (_ ∧ _))

def listening (port : UInt16) (mode : UInt8) (a : Socket) : Socket :=
  { a with
    reserved := true
    mode := mode
    localPort := port
    kind := if SocketMode.isDatagram mode then .datagram else .server
    state := if SocketMode.isDatagram mode then .closed else .listen }

def connecting (connect : ConnectBehavior) (peer : Endpoint) (mode : UInt8) (a : Socket) : Socket :=
  if SocketMode.isDatagram mode then
    { a with reserved := true, kind := .datagram, mode := mode, dest := some peer }
  else
    match connect with
    | .establish => { free with
        reserved := true, kind := .client, state := .established, mode := mode, remote := some peer }
    | .stuck => { free with
        reserved := true, kind := .client, state := .synSent, mode := mode, remote := some peer }
    | .refuse => a

end Socket

namespace State

variable (s : State) (i : Fin socketCount)

def accepted (data : Bytes) : Bytes :=
  match s.acceptLimit with
  | some limit => data.take limit
  | none => data

def sending (data : Bytes) (a : Socket) : Socket :=
  if a.Sends then
    { a with
      tx := a.tx ++ s.accepted data
      rx := if s.echo then a.rx ++ s.accepted data else a.rx }
  else a

theorem stopSlot_eq : s.stopSlot i = s.modifySocket i (Socket.stopped s.close) := by
  unfold stopSlot
  cases s.close <;> rfl

theorem available_eq :
    s.available i = ((s.sockets.get i).answered, s.modifySocket i Socket.asked) := by
  unfold available Socket.answered Socket.asked
  dsimp only
  by_cases h : (s.sockets.get i).kind = .server <;> simp only [h, if_true, if_false, modifySocket]

theorem connectSlot_eq (peer : Endpoint) (mode : UInt8) :
    s.connectSlot i peer mode =
      (SocketMode.isDatagram mode || s.connect != .refuse,
        s.modifySocket i (Socket.connecting s.connect peer mode)) := by
  unfold connectSlot Socket.connecting
  cases hmode : SocketMode.isDatagram mode with
  | true => rfl
  | false =>
    cases s.connect with
    | refuse => exact Prod.ext rfl (s.modifySocket_id i).symm
    | _ => rfl

theorem sendStream_eq (data : Bytes) :
    s.sendStream i data =
      (if (s.sockets.get i).Sends then UInt16.ofNat (s.accepted data).length else 0,
        s.modifySocket i (s.sending data)) := by
  by_cases h : (s.sockets.get i).Sends
  · refine (if_pos h).trans ?_
    simp only [modifySocket, sending, if_pos h]
    rfl
  · refine (if_neg h).trans ?_
    rw [if_neg h]
    refine Prod.ext rfl ((s.modifySocket_id i).symm.trans ?_)
    simp only [modifySocket, sending, if_neg h, id_eq]

end State

open Serving

theorem run_serve_state {c : Command} (h : c = .getStateTcp ∨ c = .getClientStateTcp) (raw : UInt8)
    (s : State) :
    (serve c ⟨[[raw]]⟩).run s = (some ((Frame.reply c).withU8 (s.socketState raw).raw), s) := by
  rcases h with rfl | rfl <;> rfl

theorem run_serve_dataSent (p : Params) (s : State) :
    (serve .dataSentTcp p).run s =
      (some ((Frame.reply .dataSentTcp).withU8 (if s.confirmSends then 1 else 0)), s) := rfl

section
variable {raw : UInt8} {i : Fin socketCount} (hi : SocketHandle.slotOf? raw = some i) (s : State)
include hi

theorem run_serve_stop :
    (serve .stopClientTcp ⟨[[raw]]⟩).run s =
      (some (ack .stopClientTcp true), s.modifySocket i (Socket.stopped s.close)) := by
  unfold serve
  refine (run_need_bind (a := raw) rfl _ _).trans ?_
  rw [hi, ← s.stopSlot_eq i]
  rfl

theorem run_serve_availData :
    (serve .availDataTcp ⟨[[raw]]⟩).run s =
      (some ((Frame.reply .availDataTcp).withU16LE (s.available i).1),
        s.modifySocket i Socket.asked) := by
  have hstate : s.modifySocket i Socket.asked = (s.available i).2 := by rw [s.available_eq]
  unfold serve
  refine (run_need_bind (a := raw) rfl _ _).trans ?_
  rw [hi, hstate]
  rfl

theorem run_serve_sendData (data : Bytes) :
    (serve .sendDataTcp ⟨[[raw], data]⟩).run s =
      (some ((Frame.reply .sendDataTcp).withU16LE (s.sendStream i data).1),
        s.modifySocket i (s.sending data)) := by
  have hstate : s.modifySocket i (s.sending data) = (s.sendStream i data).2 := by
    rw [s.sendStream_eq]
  unfold serve
  refine (run_need_bind (a := raw) rfl _ _).trans ?_
  refine (run_need_bind (a := data) rfl _ _).trans ?_
  rw [hi, hstate]
  rfl

theorem run_serve_insert (data : Bytes) :
    (serve .insertDatabuf ⟨[[raw], data]⟩).run s =
      (some (ack .insertDatabuf true),
        s.modifySocket i fun a => { a with staged := a.staged ++ data }) := by
  unfold serve
  refine (run_need_bind (a := raw) rfl _ _).trans ?_
  refine (run_need_bind hi _ _).trans ?_
  refine (run_need_bind (a := data) rfl _ _).trans ?_
  rfl

theorem run_serve_sendUdp :
    (serve .sendDataUdp ⟨[[raw]]⟩).run s =
      (some (ack .sendDataUdp true), s.sendDatagram i) := by
  unfold serve
  refine (run_need_bind (a := raw) rfl _ _).trans ?_
  rw [hi]
  rfl

theorem run_serve_remote :
    (serve .getRemoteData ⟨[[raw]]⟩).run s =
      (some (replyWith (Frame.reply .getRemoteData) (fun f e => (f.withIpv4 e.ip).withU16 e.port)
        (s.sockets.get i).remote), s) := by
  unfold serve
  refine (run_need_bind (a := raw) rfl _ _).trans ?_
  refine (run_need_bind hi _ _).trans ?_
  rfl

theorem run_startServer (port : UInt16) (mode : UInt8) :
    (startServer ⟨[Bytes.ofU16BE port, [raw], [mode]]⟩).run s =
      (some true, s.modifySocket i (Socket.listening port mode)) := by
  have hport : (Params.mk [Bytes.ofU16BE port, [raw], [mode]]).u16 0 = some port :=
    congrArg some (Bytes.joinU16_ofU16BE port)
  unfold startServer
  refine (run_need_bind (a := 0) rfl _ _).trans ?_
  refine (run_need_bind hport _ _).trans ?_
  refine (run_need_bind (a := mode) rfl _ _).trans ?_
  refine (run_need_bind (a := raw) rfl _ _).trans ?_
  rw [hi]
  rfl

theorem run_startServerAt (ip : Ipv4) (port : UInt16) (mode : UInt8) :
    (startServer ⟨[ip.octets, Bytes.ofU16BE port, [raw], [mode]]⟩).run s =
      (some true, s.modifySocket i (Socket.listening port mode)) := by
  have hport : (Params.mk [ip.octets, Bytes.ofU16BE port, [raw], [mode]]).u16 1 = some port :=
    congrArg some (Bytes.joinU16_ofU16BE port)
  unfold startServer
  refine (run_need_bind (a := 1) rfl _ _).trans ?_
  refine (run_need_bind hport _ _).trans ?_
  refine (run_need_bind (a := mode) rfl _ _).trans ?_
  refine (run_need_bind (a := raw) rfl _ _).trans ?_
  rw [hi]
  rfl

theorem run_startClient_mode (ip : Ipv4) (port : UInt16) (mode : UInt8) :
    (startClient ⟨[ip.octets, Bytes.ofU16BE port, [raw], [mode]]⟩).run s =
      (some (s.connectSlot i ⟨ip, port⟩ mode).1,
        s.modifySocket i (Socket.connecting s.connect ⟨ip, port⟩ mode)) := by
  have hport : (Params.mk [ip.octets, Bytes.ofU16BE port, [raw], [mode]]).u16 1 = some port :=
    congrArg some (Bytes.joinU16_ofU16BE port)
  have hstate : s.modifySocket i (Socket.connecting s.connect ⟨ip, port⟩ mode) =
      (s.connectSlot i ⟨ip, port⟩ mode).2 := by rw [s.connectSlot_eq]
  unfold startClient
  refine (run_need_bind (a := (none, 0)) rfl _ _).trans ?_
  refine (run_need_bind (a := ip) rfl _ _).trans ?_
  refine (run_need_bind hport _ _).trans ?_
  refine (run_need_bind (a := raw) rfl _ _).trans ?_
  refine (run_need_bind (a := mode) rfl _ _).trans ?_
  refine (run_get_bind _ _).trans ?_
  dsimp only
  rw [hi, hstate]
  rfl

/-- With a host name the device refuses what is no text, and does not acknowledge what it cannot
resolve. -/
theorem run_startClientHost (name : Bytes) (ip : Ipv4) (port : UInt16) (mode : UInt8) :
    (startClient ⟨[name, ip.octets, Bytes.ofU16BE port, [raw], [mode]]⟩).run s =
      match Text.Utf8.decode? name with
      | none => (none, s)
      | some host =>
        match s.resolve host with
        | some target => (some (s.connectSlot i ⟨target, port⟩ mode).1,
            s.modifySocket i (Socket.connecting s.connect ⟨target, port⟩ mode))
        | none => (some false, s) := by
  let p : Params := ⟨[name, ip.octets, Bytes.ofU16BE port, [raw], [mode]]⟩
  have hport : p.u16 2 = some port := congrArg some (Bytes.joinU16_ofU16BE port)
  have htext : p.text 0 = Text.Utf8.decode? name := rfl
  unfold startClient
  cases hname : Text.Utf8.decode? name with
  | none =>
    refine (run_bind _ _ _).trans ?_
    rw [show p.text 0 = none from htext.trans hname]
    rfl
  | some host =>
    rw [hname] at htext
    have hhost : Option.map (fun host => (some host, 1)) (p.text 0) = some (some host, 1) := by
      rw [htext]
      rfl
    refine (run_need_bind hhost _ _).trans ?_
    refine (run_need_bind (a := ip) rfl _ _).trans ?_
    refine (run_need_bind hport _ _).trans ?_
    refine (run_need_bind (a := raw) rfl _ _).trans ?_
    refine (run_need_bind (a := mode) rfl _ _).trans ?_
    refine (run_get_bind _ _).trans ?_
    dsimp only
    rw [hi]
    cases s.resolve host with
    | none => rfl
    | some target =>
      exact congrArg (Prod.mk _) (congrArg Prod.snd (s.connectSlot_eq i ⟨target, port⟩ mode))

end

/-- Serving a request to open a socket ends with the acknowledgement. -/
theorem run_serve_start {c : Command} {x : Serving Bool} {p : Params}
    (h : serve c p = do return ack c (← x)) (s : State) :
    (serve c p).run s = match x.run s with
      | (none, s) => (none, s)
      | (some ok, s) => (some (ack c ok), s) := by
  rw [h]
  refine (run_bind _ _ _).trans ?_
  rcases x.run s with ⟨_ | ok, s⟩ <;> rfl

end SpiWifi.Device
