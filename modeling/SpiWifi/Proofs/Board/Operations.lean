import SpiWifi.Proofs.Board.Basic

/-!
# What the operations of an object do

Short of opening and stopping, an operation of an object uses the socket of its handle and no other.
Only sending over a connection changes what was sent. A connection keeps its handle unless it is found
to have ended, and then its receive cache is freed, though its slot stays reserved.
-/

namespace SpiWifi

open Device

/-- The slots that an operation on a connection leaves to nobody. An attempt to open the connection
anew leaves what it acquired, after the stop with which it begins, before it failed. An answer that the
connection has ended leaves the slot of the handle that is dropped with it. -/
def StreamOp.leaves (op : StreamOp) (st : Stream × Host Line) : List (Fin socketCount) :=
  match op with
  | connect ip port mode => (Stream.stop st).2.2.wasted (Stream.connect ip port mode st).1
  | connectHost name port => (Stream.stop st).2.2.wasted (Stream.connectHost name port st).1
  | connectTls name port => (Stream.stop st).2.2.wasted (Stream.connectTls name port st).1
  | connected =>
    match (Stream.connected st).1 with
    | true => []
    | false => st.1.socket.index?.toList
  | receive n =>
    if n = 0 then []
    else
      match (Stream.receive n st).1 with
      | .ok [] => st.1.socket.index?.toList
      | _ => []
  | _ => []

namespace Stream

variable (s : Stream) (host : Host Line)

theorem write_uses (data : Bytes) :
    (Stream.write data (s, host)).2.1.socket = s.socket ∧
      Host.Uses Socket.standing s.socket host (Stream.write data (s, host)).2.2 := by
  have huses := Host.write_uses s.socket host data
  rcases hwrite : Host.write s.socket data host with ⟨e | n, after⟩
  all_goals
    simp only [ExceptT.run, hwrite] at huses
    simp only [Stream.write, hwrite]
    exact ⟨trivial, huses⟩

theorem send_uses (data : Bytes) :
    (Stream.send data (s, host)).2.1.socket = s.socket ∧
      Host.Uses Socket.standing s.socket host (Stream.send data (s, host)).2.2 := by
  unfold Stream.send
  split
  · exact ⟨rfl, .refl host⟩
  · have huses := write_uses s host data
    rcases hwrite : Stream.write data (s, host) with ⟨e | n, after⟩
    all_goals
      rw [hwrite] at huses
      exact huses

/-- What an operation does that may find the end of the connection, and the slots that it leaves to
nobody. -/
structure Lasts (s : Stream) (host : Host Line) (left : List (Fin socketCount))
    (after : Stream × Host Line) : Prop where
  uses : Host.Uses Socket.record s.socket host after.2
  handle : after.1.socket = s.socket ∧ left = [] ∨
    after.1.socket = .none ∧ left = s.socket.index?.toList ∧
      ∀ i, s.socket.index? = some i → after.2.cache.entries.get i = none

theorem connected_lasts :
    Lasts s host (StreamOp.connected.leaves (s, host)) (Stream.connected (s, host)).2 := by
  obtain ⟨huses, hfreed⟩ := Host.connected_uses s.socket host
  rcases hconnected : Host.connected s.socket host with ⟨_ | _, after⟩
  all_goals
    rw [hconnected] at huses hfreed
    simp only [StreamOp.leaves, Stream.connected, hconnected]
  · exact ⟨huses, Or.inr ⟨rfl, rfl, hfreed rfl⟩⟩
  · exact ⟨huses, Or.inl ⟨rfl, rfl⟩⟩

theorem receive_lasts (n : Nat) :
    Lasts s host ((StreamOp.receive n).leaves (s, host)) (Stream.receive n (s, host)).2 := by
  rw [StreamOp.leaves]
  by_cases hn : n = 0
  · rw [if_pos hn, Stream.receive, if_pos hn]
    exact ⟨.refl host, Or.inl ⟨rfl, rfl⟩⟩
  · rw [if_neg hn, Stream.receive, if_neg hn]
    have huses := Host.read_uses s.socket host n
    have hread : Stream.readBytes n (s, host) =
        ((Host.read s.socket n host).1, s, (Host.read s.socket n host).2) := rfl
    rw [hread]
    rcases hbytes : Host.read s.socket n host with ⟨_ | ⟨b, bytes⟩, after⟩
    all_goals rw [hbytes] at huses
    · have hlasts := connected_lasts s after
      rw [StreamOp.leaves] at hlasts
      rcases hconnected : Stream.connected (s, after) with ⟨_ | _, st⟩
      all_goals
        rw [hconnected] at hlasts
        simp only [hconnected]
        exact ⟨huses.trans hlasts.uses, hlasts.handle⟩
    · exact ⟨huses, Or.inl ⟨rfl, rfl⟩⟩

end Stream

/-- Short of opening, stopping and handing data over, an operation leaves a connection its handle, or
finds its end. -/
theorem StreamOp.run_lasts {op : StreamOp} (opens : op.opens = false) (stops : op ≠ .stop)
    (writes : op.writes = false) (s : Stream) (host : Host Line) :
    s.Lasts host (op.leaves (s, host)) (op.run (s, host)) := by
  cases op with
  | connect => cases opens
  | connectHost => cases opens
  | connectTls => cases opens
  | stop => exact absurd rfl stops
  | write => cases writes
  | send => cases writes
  | clearWriteError => exact ⟨.refl host, Or.inl ⟨rfl, rfl⟩⟩
  | available => exact ⟨Host.available_uses s.socket host, Or.inl ⟨rfl, rfl⟩⟩
  | readBytes n => exact ⟨Host.read_uses s.socket host n, Or.inl ⟨rfl, rfl⟩⟩
  | receive n => exact s.receive_lasts host n
  | peek => exact ⟨Host.peek_uses s.socket host, Or.inl ⟨rfl, rfl⟩⟩
  | connected => exact s.connected_lasts host
  | status => exact ⟨Host.status_uses s.socket host, Or.inl ⟨rfl, rfl⟩⟩
  | remote => exact ⟨Host.remote_uses s.socket host, Or.inl ⟨rfl, rfl⟩⟩

/-- An operation that opens a connection anew stops it and takes a socket for it, never one to listen
on. -/
theorem StreamOp.run_opens {op : StreamOp} (opens : op.opens = true) :
    ∃ (kind : SocketKind) (connect : HostM Line SocketHandle), kind ≠ .server ∧
      (∀ host, Host.Opening kind host (connect.run host)) ∧
      ∀ st, op.run st = (Stream.connectBy connect st).2 ∧
        op.leaves st = (Stream.stop st).2.2.wasted (Stream.connectBy connect st).1 := by
  have hmode : ∀ mode : SocketMode, Socket.connectingKind mode.raw ≠ .server := by
    intro mode
    unfold Socket.connectingKind
    split <;> exact nofun
  cases op with
  | connect ip port mode =>
    refine ⟨_, Host.tryConnect ip port mode, hmode mode,
      fun _ => Host.tryConnect_opening ip port mode, fun st => ⟨?_, ?_⟩⟩
    · simp only [run, Stream.connect, ExceptT.run, StateT.run]
    · simp only [leaves, Stream.connect]
  | connectHost name port =>
    refine ⟨_, Host.tryConnectHost name port .tcp, hmode .tcp,
      fun _ => Host.tryConnectHost_opening name port .tcp, fun st => ⟨?_, ?_⟩⟩
    · simp only [run, Stream.connectHost, ExceptT.run, StateT.run]
    · simp only [leaves, Stream.connectHost]
  | connectTls name port =>
    refine ⟨_, Host.tryConnectHost name port .tls, hmode .tls,
      fun _ => Host.tryConnectHost_opening name port .tls, fun st => ⟨?_, ?_⟩⟩
    · simp only [run, Stream.connectTls, ExceptT.run, StateT.run]
    · simp only [leaves, Stream.connectTls]
  | _ => cases opens

theorem StreamOp.run_writes {op : StreamOp} (writes : op.writes = true) (s : Stream)
    (host : Host Line) :
    (op.run (s, host)).1.socket = s.socket ∧
      Host.Uses Socket.standing s.socket host (op.run (s, host)).2 := by
  cases op with
  | write data => exact s.write_uses host data
  | send data => exact s.send_uses host data
  | _ => cases writes

theorem Listener.run_accept (l : Listener) (host : Host Line) :
    l.accept.run host =
      (if (Host.accept l.socket host).1.isValid then
        some (.ofHandle (Host.accept l.socket host).1) else none,
        (Host.accept l.socket host).2) := rfl

namespace DatagramSocket

variable {host : Host Line} {i : Fin socketCount}

theorem require_uses {c : Command} {x : LinkM Line Bool} {view : Device.Socket → Device.Socket}
    {socket : SocketHandle} (h : Link.Uses view socket host.link (x.run host.link).2) :
    Host.Uses view socket host ((require c x).run host).2 := by
  have hask : Host.Uses view socket host ((Host.ask x).run host).2 := Host.ask_uses h
  rw [require, Host.run_bind]
  rcases hasked : (Host.ask x).run host with ⟨e | ok, after⟩
  all_goals rw [hasked] at hask
  · exact hask
  · cases ok <;> exact hask

theorem append_uses (d : DatagramSocket) (hi : d.socket.index? = some i) (pieces : List Bytes)
    (host : Host Line) : Host.Uses Socket.record d.socket host ((d.append pieces).run host).2 := by
  induction pieces generalizing host with
  | nil => exact .refl host
  | cons piece rest ih =>
    have hpiece : Host.Uses Socket.record d.socket host
        ((require .insertDatabuf (Link.insertDataBuf d.socket piece)).run host).2 :=
      require_uses (Link.insertDataBuf_uses host.link hi piece)
    rw [append, Host.run_bind]
    rcases hrun : (require .insertDatabuf (Link.insertDataBuf d.socket piece)).run host with
      ⟨e | _, after⟩
    all_goals rw [hrun] at hpiece
    · exact hpiece
    · exact hpiece.trans (ih after)

theorem write_uses (d : DatagramSocket) (hi : d.socket.index? = some i) (data : Bytes)
    (host : Host Line) : Host.Uses Socket.record d.socket host ((d.write data).run host).2 := by
  have happend := append_uses d hi (pieces chunkMax data) host
  rw [write, Host.run_bind]
  rcases hrun : (d.append (pieces chunkMax data)).run host with ⟨e | _, after⟩
  all_goals
    rw [hrun] at happend
    exact happend

end DatagramSocket

theorem DatagramOp.run_uses (op : DatagramOp) {d : DatagramSocket} {i : Fin socketCount}
    (hi : d.socket.index? = some i) {host : Host Line} (reserved : (host.link.found i).reserved = true)
    (kind : (host.link.found i).kind = .datagram) :
    Host.Uses Socket.record d.socket host (op.run d host) := by
  cases op with
  | beginPacket ip port =>
    exact DatagramSocket.require_uses (Link.startClient_uses host.link hi reserved kind ip port)
  | beginPacketHost name port =>
    exact DatagramSocket.require_uses
      (Link.startClientHost_uses host.link hi reserved kind name port)
  | write data => exact d.write_uses hi data host
  | endPacket => exact DatagramSocket.require_uses (Link.sendUdpData_uses host.link hi)
  | available => exact Host.available_uses d.socket host
  | read n => exact Host.read_uses d.socket host n
  | peek => exact Host.peek_uses d.socket host
  | remote => exact Host.remote_uses d.socket host

end SpiWifi
