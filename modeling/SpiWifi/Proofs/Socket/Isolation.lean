import SpiWifi.Proofs.Socket.Openings

/-!
# Sockets do not disturb each other

All sockets live in one table on the device, behind one link, and in one receive cache on the host.
Whatever is done with one of them, and however it ends, another one keeps its slot on the device and
its place in the cache exactly as they were. Only a reset forgets every socket, so the device must
have had the one that is due before the first transaction.
-/

namespace SpiWifi

open Device

namespace Host.Uses

variable {view : Device.Socket → Device.Socket} {socket : SocketHandle} {host host' : Host Line}

theorem nothing (h : Uses view socket host host') : Uses Socket.nothing socket host host' :=
  ⟨h.link.weaken fun _ _ _ => rfl, h.sockets, h.cached⟩

theorem initialized (h : Uses view socket host host') (ready : host.link.initialized = true) :
    host'.link.initialized = true := by
  cases hlast : host'.link.initialized with
  | true => rfl
  | false =>
    have hsame := h.link.untouched hlast
    rw [hsame, ready] at hlast
    cases hlast

variable {other : SocketHandle}

theorem socket?_other (h : Uses view socket host host') (ready : host.link.initialized = true)
    (distinct : socket ≠ other) :
    host'.link.transport.state.socket? other.raw = host.link.transport.state.socket? other.raw := by
  cases hi : other.index? with
  | none =>
    have hraw : SocketHandle.slotOf? other.raw = none := hi
    rw [State.socket?, State.socket?, hraw]
    rfl
  | some i =>
    have hraw : SocketHandle.slotOf? other.raw = some i := hi
    have hfound := h.link.others i fun hsame => distinct (SocketHandle.eq_of_index? hsame hi)
    rw [Link.found_of_initialized (h.initialized ready), Link.found_of_initialized ready] at hfound
    rw [State.socket?, State.socket?, hraw]
    exact congrArg some hfound

theorem entry?_other (h : Uses view socket host host') (distinct : socket ≠ other) :
    host'.cache.entry? other = host.cache.entry? other := by
  cases hi : other.index? with
  | none => rw [ReceiveCache.entry?, ReceiveCache.entry?, hi, Option.bind_none, Option.bind_none]
  | some i =>
    rw [ReceiveCache.entry?_eq hi, ReceiveCache.entry?_eq hi]
    exact h.cached i fun hsame => distinct (SocketHandle.eq_of_index? hsame hi)

end Host.Uses

inductive SocketUse where
  | available
  | read (n : Nat)
  | peek
  | write (data : Bytes)
  | status
  | serverStatus
  | connected
  | remote
  | accept
  | stop

namespace SocketUse

def after (use : SocketUse) (socket : SocketHandle) (host : Host Line) : Host Line :=
  match use with
  | available => (Host.available socket host).2
  | read n => (Host.read socket n host).2
  | peek => (Host.peek socket host).2
  | write data => ((Host.write socket data).run host).2
  | status => (Host.status socket host).2
  | serverStatus => (Host.serverStatus socket host).2
  | connected => (Host.connected socket host).2
  | remote => (Host.remote socket host).2
  | accept => (Host.accept socket host).2
  | stop => ((Host.tryStop socket).run host).2

theorem accept_uses (socket : SocketHandle) (host : Host Line) :
    Host.Uses Socket.nothing socket host (Host.accept socket host).2 := by
  cases hi : socket.index? with
  | none =>
    have hinvalid : socket.isValid = false := SocketHandle.isValid_of_none hi
    simp only [Host.accept, hinvalid, Bool.false_eq_true, if_false]
    exact .refl host
  | some i => exact (Host.accept_asks hi host).uses

theorem stop_uses (socket : SocketHandle) (host : Host Line) :
    Host.Uses Socket.nothing socket host ((Host.tryStop socket).run host).2 := by
  cases hi : socket.index? with
  | none =>
    rw [Host.tryStop_of_invalid (SocketHandle.isValid_of_none hi)]
    exact .refl host
  | some i => exact (Host.tryStop_stops hi host).uses

theorem after_uses (use : SocketUse) (socket : SocketHandle) (host : Host Line) :
    Host.Uses Socket.nothing socket host (use.after socket host) := by
  cases use with
  | available => exact (Host.available_uses socket host).nothing
  | read n => exact (Host.read_uses socket host n).nothing
  | peek => exact (Host.peek_uses socket host).nothing
  | write data => exact (Host.write_uses socket host data).nothing
  | status => exact (Host.status_uses socket host).nothing
  | serverStatus => exact (Host.serverStatus_uses socket host).nothing
  | connected => exact (Host.connected_uses socket host).1.nothing
  | remote => exact (Host.remote_uses socket host).nothing
  | accept => exact accept_uses socket host
  | stop => exact stop_uses socket host

/-- What is done with one socket leaves every other one alone: its whole slot on the device, and
what is cached of it. -/
theorem leaves_other_sockets (use : SocketUse) {a b : SocketHandle} (distinct : a ≠ b)
    {host : Host Line} (ready : host.link.initialized = true) :
    (use.after a host).link.transport.state.socket? b.raw =
        host.link.transport.state.socket? b.raw ∧
      (use.after a host).cache.entry? b = host.cache.entry? b :=
  ⟨(use.after_uses a host).socket?_other ready distinct,
    (use.after_uses a host).entry?_other distinct⟩

/-- A listener is stopped while a connection that came in on it waits, with bytes of it cached and
others on the device. The acknowledgement and the first answer about the state get lost. -/
theorem stop_leaves_waiting_connection :
    let device : State :=
      (((State.initial.onSocket 0 (Socket.listening 80 0)).injectConnection 80
        ⟨⟨10, 0, 0, 9⟩, 5000⟩ [7, 8, 9]).2.loseReplies .stopClientTcp 1).loseReplies
          .getClientStateTcp 1
    let link : Link Line := { Link.new { Line.new with state := device } .instant with
      initialized := true }
    let looked : Host Line := (Host.peek ⟨1⟩ (Host.new link .standard .standard)).2
    let host : Host Line := { looked with
      link := looked.link.onTransport (Line.onState fun s => s.pushIncoming 1 [10]) }
    let listener : SocketHandle := ⟨0⟩
    let waiting : SocketHandle := ⟨1⟩
    let stopped := SocketUse.stop.after listener host
    host.link.initialized = true ∧
      (host.link.transport.state.socket? listener.raw).map Socket.waiting = some [1] ∧
      stopped.link.transport.state.socket? listener.raw = some Socket.free ∧
      (stopped.link.transport.state.socket? waiting.raw).map Socket.rx = some [10] ∧
      stopped.cache.bytes waiting = [7, 8, 9] ∧
      stopped.link.transport.state.socket? waiting.raw =
        host.link.transport.state.socket? waiting.raw ∧
      stopped.cache.entry? waiting = host.cache.entry? waiting := by
  intro device link looked host listener waiting stopped
  have ready : host.link.initialized = true := by decide +kernel
  have others := leaves_other_sockets (a := listener) (b := waiting) .stop (by decide) ready
  exact ⟨ready, by decide +kernel, by decide +kernel, by decide +kernel, by decide +kernel,
    others⟩

end SocketUse

end SpiWifi
