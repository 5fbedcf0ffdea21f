import SpiWifi.Proofs.Board.Exclusivity
import SpiWifi.Proofs.Board.Records
import SpiWifi.Proofs.Socket.Reuse

/-!
# New connections on a board

On a board whoever gives up a handle leaves no cache behind, and so there is none for a slot that
nobody has. Whatever happened on the board, a new connection therefore returns nothing but what has
come in since it was opened. This lasts even if the device is reset later; only for the connection
made after that it is lost.
-/

namespace SpiWifi

open Device Host

namespace Board

variable {b : Board} {left : List (Fin socketCount)} {peer : Peer} {port : UInt16}
  {mode : SocketMode} {socket : SocketHandle} {opened : Host Line}

theorem Sound.idle (h : Sound b left) (live : Live b) : b.host.Idle := by
  intro i hfree
  by_contra hconnected
  have hclient := live i (Bool.not_eq_false _ ▸ hconnected)
  cases (h.vacant i hfree).1.symm.trans hclient

/-- Of a slot that nobody has reserved, nothing is cached. -/
theorem Sound.bytes_of_vacant (h : Sound b left) {i : Fin socketCount}
    (hi : socket.index? = some i) (vacant : (b.found i).reserved = false) :
    b.host.cache.bytes socket = [] := by
  have hnone : b.host.cache.entries.get i = none := by
    by_contra hsome
    have hheld := h.cached i (Option.isSome_iff_ne_none.mpr hsome)
    rw [(h.nobody vacant).1] at hheld
    exact Nat.lt_irrefl 0 hheld
  rw [ReceiveCache.bytes, ReceiveCache.entry?_eq hi, hnone]
  rfl

theorem Sound.returns_new (h : Sound b left) (live : Live b)
    (connected : (connectTo peer port mode).run b.host = (.ok socket, opened)) :
    socket.Returns [] opened := by
  have hopening : Opening _ b.host ((connectTo peer port mode).run b.host) :=
    connectTo_opening peer port mode
  rw [connected] at hopening
  cases hopening with
  | opened _ _ i index vacant =>
    have hreturns := returns_of_connected (h.idle live) connected
    rwa [h.bytes_of_vacant index vacant] at hreturns

/-- A client gives up what it held before it connects anew, and what was cached for it. -/
theorem Sound.returns_stream (h : Sound b left) (live : Live b) {k : Nat} {s s' : Stream}
    (here : b.owners[k]? = some (.stream s))
    (connected : (Stream.connectBy (connectTo peer port mode)).run.run (s, b.host) =
      (.ok (), s', opened)) : s'.socket.Returns [] opened := by
  obtain ⟨-, new, hpath, -⟩ := stop_path h here
  have hstanding := hpath.standing
  exact (hstanding.sound h).returns_new (live.path hstanding h) (connectTo_of_connectBy connected)

/-- At every point of every run of a board, a connection that is opened, by the host or anew by a client
of the board, returns nothing but what comes in afterwards. -/
theorem connections_return_new {link : Link Line} (fresh : ∀ i, link.found i = Socket.free)
    (sockets : SocketSettings) (station : StationSettings) (events : List BoardEvent) :
    let b : Board := (start link sockets station).run events
    (∀ peer port mode socket opened,
      (connectTo peer port mode).run b.host = (.ok socket, opened) → socket.Returns [] opened) ∧
    ∀ (k : Nat) s, b.owners[k]? = some (.stream s) → ∀ peer port mode s' opened,
      (Stream.connectBy (connectTo peer port mode)).run.run (s, b.host) = (.ok (), s', opened) →
        s'.socket.Returns [] opened := by
  intro b
  have hstart := start_sound fresh sockets station
  obtain ⟨left, hsound⟩ := run_sound hstart events
  have hlive : Live b := run_live hstart (start_live fresh sockets station) events
  exact ⟨fun _ _ _ _ _ => hsound.returns_new hlive, fun _ _ here _ _ _ _ _ =>
    hsound.returns_stream hlive here⟩

end Board

end SpiWifi
