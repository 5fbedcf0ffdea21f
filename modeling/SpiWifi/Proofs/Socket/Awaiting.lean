import Mathlib.Data.List.Basic
import Mathlib.Data.Prod.Basic
import SpiWifi.Proofs.Socket.Cache
import SpiWifi.Proofs.Socket.Stages
import SpiWifi.Device.Line
import SpiWifi.Device.Surroundings

/-!
# Waiting for a socket

A socket is waited for when it connects, when what was sent on it is to be delivered, and when it is
closed. Over whatever transport, each of these waits is decided by the answers alone. An answer that
cannot be read is one that is not yet the right one, so it costs one attempt and ends nothing.
-/

namespace SpiWifi.Host

open Device

/-- The device said that the socket is connected. -/
def SaysConnected (answer : Except LinkError TcpState) : Prop :=
  ∃ state, answer = .ok state ∧ state.isConnected = true

theorem connectedAnswer_eq_none_iff (answer : Except LinkError TcpState) :
    connectedAnswer answer = none ↔ ¬ SaysConnected answer := by
  rcases answer with e | state
  · simp [connectedAnswer, SaysConnected]
  · cases hlive : state.isConnected <;> simp [connectedAnswer, SaysConnected, hlive]

theorem deliveredAnswer_eq_none_iff (answer : Except LinkError Bool) :
    deliveredAnswer answer = none ↔ ¬ answer = .ok true := by
  rcases answer with e | _ | _ <;> simp [deliveredAnswer]

theorem closedAnswer_eq_none_iff (answer : Except LinkError TcpState) :
    closedAnswer answer = none ↔ ¬ answer = .ok .closed := by
  rcases answer with e | state
  · simp [closedAnswer]
  · cases state <;> simp [closedAnswer]

variable {τ : Type}

theorem isBuffered_closeCache (socket : SocketHandle) (host : Host τ) :
    (host.closeCache socket).isBuffered socket = false := by
  rw [isBuffered, ReceiveCache.isAllocated, closeCache, ReceiveCache.entry?_close_self]
  rfl

variable [Transport τ]

section
variable {socket : SocketHandle} {host : Host τ}

theorem connectBy_polls {start : SocketHandle → LinkM τ Bool} {acquired started : Host τ}
    (reserved : acquire.run host = (.ok socket, acquired))
    (acknowledged : (ask (start socket)).run acquired = (.ok true, started)) :
    Polls (attempt (Link.clientState socket)) SaysConnected host.sockets.connectAttempts.toNat
      started socket (.connectTimeout socket host.sockets.connectAttempts) id (closeCache socket)
      ((connectBy start).run host) := by
  have hsettings : started.sockets = host.sockets :=
    (sockets_of_ask acknowledged).trans (sockets_of_acquire reserved)
  refine polls_of_pollFor connectedAnswer_eq_none_iff ?_
  rw [run_connectBy, reserved]
  dsimp only
  rw [acknowledged]
  dsimp only
  rw [if_pos rfl, run_awaitConnected, hsettings]
  rcases pollFor (attempt (Link.clientState socket)) connectedAnswer
    host.sockets.connectAttempts.toNat started with ⟨_ | _, after⟩ <;> rfl

theorem write_polls (valid : socket.isValid = true) {data : Bytes} (given : data ≠ [])
    {accepted : UInt16} (taken : accepted ≠ 0) {sent : Host τ}
    (handed : (ask (Link.sendData socket (data.take chunkMax))).run host = (.ok accepted, sent)) :
    Polls (attempt (Link.checkDataSent socket)) (· = .ok true) host.sockets.confirmAttempts.toNat
      sent accepted.toNat (.sendUnconfirmed socket host.sockets.confirmAttempts) id id
      ((write socket data).run host) := by
  refine polls_of_pollFor deliveredAnswer_eq_none_iff ?_
  rw [run_write valid given, handed]
  dsimp only
  rw [if_neg taken, sockets_of_ask handed]
  rcases pollFor (attempt (Link.checkDataSent socket)) deliveredAnswer
    host.sockets.confirmAttempts.toNat sent with ⟨_ | _, after⟩ <;> rfl

variable (host) in
theorem tryStop_polls (valid : socket.isValid = true) :
    Polls (attempt (Link.clientState socket)) (· = .ok .closed) host.sockets.stopAttempts.toNat
      (attempt (Link.stopClient socket) host).2 ()
      (.closeTimeout socket host.sockets.stopAttempts) (closeCache socket) (closeCache socket)
      ((tryStop socket).run host) := by
  refine polls_of_pollFor closedAnswer_eq_none_iff ?_
  rw [run_tryStop valid, run_stopAndWait]
  rcases pollFor (attempt (Link.clientState socket)) closedAnswer host.sockets.stopAttempts.toNat
    (attempt (Link.stopClient socket) host).2 with ⟨_ | _, after⟩ <;> rfl

end

/-- What opening a connection comes to once its request is acknowledged: it waits for the connection,
and if that never comes no cache is left behind. -/
def AwaitsConnection (start : SocketHandle → LinkM τ Bool) (connect : HostM τ SocketHandle)
    (host : Host τ) (socket : SocketHandle) : Prop :=
  ∀ acquired started, acquire.run host = (.ok socket, acquired) →
    (ask (start socket)).run acquired = (.ok true, started) →
    Polls (attempt (Link.clientState socket)) SaysConnected host.sockets.connectAttempts.toNat
      started socket (.connectTimeout socket host.sockets.connectAttempts) id (closeCache socket)
      (connect.run host) ∧
    ((connect.run host).1 ≠ .ok socket → (connect.run host).2.isBuffered socket = false)

theorem connectBy_awaits (start : SocketHandle → LinkM τ Bool) (host : Host τ)
    (socket : SocketHandle) : AwaitsConnection start (connectBy start) host socket := by
  intro acquired started reserved acknowledged
  have hpolls := connectBy_polls reserved acknowledged
  refine ⟨hpolls, fun hfailed => ?_⟩
  have hmissed := hpolls.missed fun k hk hwanted => hfailed (hpolls.ok_iff.mpr ⟨k, hk, hwanted⟩)
  rw [hmissed]
  exact isBuffered_closeCache _ _

/-- Every wait for a socket asks exactly as often as it takes, and never more often than its budget
says, over whatever transport and whatever is answered. Opening a connection and closing a socket
that do not succeed leave no cache of the socket, and closing one leaves none in any case. What came
of the request to close does not matter. -/
theorem waits_spend_their_budget (host : Host τ) (socket : SocketHandle) :
    (∀ ip port mode, AwaitsConnection (fun socket => Link.startClient ip port socket mode)
      (tryConnect ip port mode) host socket) ∧
    (∀ name port mode,
      AwaitsConnection (fun socket => Link.startClientHost name .unspecified port socket mode)
        (tryConnectHost name port mode) host socket) ∧
    (∀ data accepted sent, socket.isValid = true → data ≠ [] → accepted ≠ 0 →
      (ask (Link.sendData socket (data.take chunkMax))).run host = (.ok accepted, sent) →
      Polls (attempt (Link.checkDataSent socket)) (· = .ok true)
        host.sockets.confirmAttempts.toNat sent accepted.toNat
        (.sendUnconfirmed socket host.sockets.confirmAttempts) id id
        ((write socket data).run host)) ∧
    (socket.isValid = true →
      Polls (attempt (Link.clientState socket)) (· = .ok .closed) host.sockets.stopAttempts.toNat
        (attempt (Link.stopClient socket) host).2 ()
        (.closeTimeout socket host.sockets.stopAttempts) (closeCache socket) (closeCache socket)
        ((tryStop socket).run host) ∧
      ((tryStop socket).run host).2.isBuffered socket = false) := by
  refine ⟨fun ip port mode => connectBy_awaits _ host socket,
    fun name port mode => connectBy_awaits _ host socket, ?_,
    fun valid => ⟨tryStop_polls host valid, ?_⟩⟩
  · intro data accepted sent valid given taken handed
    exact write_polls valid given taken handed
  · rw [run_tryStop valid]
    exact isBuffered_closeCache _ _

/-- The first two answers about the state get lost, and delivery is never confirmed. A connection is
there with the third attempt, which is the last; a write is given up after two; closing is answered
at once. -/
theorem waits_despite_losses :
    let device : State :=
      { State.initial.loseReplies .getClientStateTcp 2 with confirmSends := false }
    let settings : SocketSettings :=
      { SocketSettings.standard with connectAttempts := 3, confirmAttempts := 2, stopAttempts := 1 }
    let host : Host Line :=
      Host.new (Link.new { Line.new with state := device } .instant) settings .standard
    let connecting := (tryConnect ⟨10, 0, 0, 1⟩ 80 .tcp).run host
    let writing := (write ⟨0⟩ [104, 105]).run connecting.2
    let stopping := (tryStop ⟨0⟩).run connecting.2
    let count := fun (outcome : Host Line) c => outcome.link.transport.state.count c
    connecting.1 = .ok ⟨0⟩ ∧ count connecting.2 .getClientStateTcp = 3 ∧
      writing.1 = .error (.sendUnconfirmed ⟨0⟩ 2) ∧ count writing.2 .dataSentTcp = 2 ∧
      stopping.1 = .ok () ∧ count stopping.2 .getClientStateTcp = 4 ∧
      stopping.2.isBuffered ⟨0⟩ = false := by
  intro device settings host connecting writing stopping count
  have reserved : acquire.run host = (.ok ⟨0⟩, (acquire.run host).2) :=
    Prod.fst_eq_iff.mp (by decide +kernel)
  let start : HostM Line Bool := ask (Link.startClient ⟨10, 0, 0, 1⟩ 80 ⟨0⟩ .tcp)
  have acknowledged : start.run (acquire.run host).2 =
      (.ok true, (start.run (acquire.run host).2).2) := Prod.fst_eq_iff.mp (by decide +kernel)
  let send : HostM Line UInt16 := ask (Link.sendData ⟨0⟩ [104, 105])
  have handed : send.run connecting.2 = (.ok 2, (send.run connecting.2).2) :=
    Prod.fst_eq_iff.mp (by decide +kernel)
  have attempts : connecting.2.sockets = settings := by decide +kernel
  obtain ⟨connects, -, -, -⟩ := waits_spend_their_budget host ⟨0⟩
  obtain ⟨-, -, writes, stops⟩ := waits_spend_their_budget connecting.2 ⟨0⟩
  rw [attempts] at writes stops
  obtain ⟨connected, -⟩ := connects _ _ _ _ _ reserved acknowledged
  have written := writes [104, 105] 2 _ (by decide) (by decide) (by decide) handed
  obtain ⟨stopped, freed⟩ := stops (by decide)
  have unconfirmed : ∀ k, k < 2 → ¬ answerAt (attempt (Link.checkDataSent ⟨0⟩)) k
      (send.run connecting.2).2 = .ok true := by
    decide +kernel
  exact ⟨connected.ok_iff.mpr ⟨2, by decide, .established, by decide +kernel, rfl⟩,
    by decide +kernel, congrArg Prod.fst (written.missed unconfirmed), by decide +kernel,
    stopped.ok_iff.mpr ⟨0, by decide, by decide +kernel⟩, by decide +kernel, freed⟩

end SpiWifi.Host
