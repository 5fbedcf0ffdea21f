import SpiWifi.Proofs.Socket.Openings
import SpiWifi.Proofs.Wire.Sizes
import SpiWifi.Socket.DatagramSocket

/-!
# Assembling datagrams

A datagram is put together on the device: one request says where it goes, each write hands over its
data in pieces, and a last request sends what lies there. Over a link that is served each of these
succeeds, but for a destination that is given by a name: the name must be short enough for the
request, and the device must know it.
-/

namespace SpiWifi

open Device

/-- What a datagram socket sent, and what is ready for its next datagram. -/
structure Assembly where
  sent : List SentPacket
  dest : Option Endpoint
  written : Bytes
  deriving DecidableEq

namespace Assembly

def empty : Assembly := ⟨[], none, []⟩

def addressed (peer : Endpoint) (a : Assembly) : Assembly := { a with dest := some peer }

def extended (data : Bytes) (a : Assembly) : Assembly := { a with written := a.written ++ data }

/-- What was written is sent, and the destination stays. -/
def dispatched (a : Assembly) : Assembly := ⟨a.sent ++ [⟨a.dest, a.written⟩], a.dest, []⟩

end Assembly

namespace Device.Socket

def assembly (a : Socket) : Assembly := ⟨a.packets, a.dest, a.staged⟩

theorem assembly_of_outward {a b : Socket} (h : a.outward = b.outward) :
    a.assembly = b.assembly := by
  have heq := congrArg assembly h
  exact heq

theorem assembly_connecting_udp (connect : ConnectBehavior) (peer : Endpoint) (a : Socket) :
    (a.connecting connect peer SocketMode.udp.raw).assembly = a.assembly.addressed peer := by
  have hmode : SocketMode.isDatagram SocketMode.udp.raw = true := by decide
  simp only [connecting, hmode, if_true]
  rfl

end Device.Socket

namespace Link

/-- A piece of a datagram is short enough if it is no longer than a write makes it. -/
theorem insertFrame_fits (socket : SocketHandle) {data : Bytes} (short : data.length ≤ chunkMax) :
    ((about .insertDatabuf socket).withParam data).Fits := by
  rw [Frame.fits_iff_size, Frame.paramsSize_withParam, about, Frame.paramsSize_withU8]
  change 0 + (2 + 1) + (2 + data.length) ≤ 248
  rw [chunkMax] at short
  omega

theorem connectHostFrame_fits_iff {host : String} {port : UInt16} {socket : SocketHandle}
    {mode : SocketMode} :
    (connectHostFrame host port socket mode).Fits ↔ (Text.Utf8.encode host).length ≤ 235 := by
  rw [Frame.fits_iff_size, connectHostFrame, openParams, Frame.paramsSize_withU8,
    Frame.paramsSize_withU8, Frame.paramsSize_withU16, Frame.paramsSize_withIpv4,
    Frame.paramsSize_withParam]
  change 0 + (1 + (Text.Utf8.encode host).length) + (1 + 4) + (1 + 2) + (1 + 1) + (1 + 1) ≤ 248 ↔ _
  omega

end Link

namespace DatagramSocket

variable {host : Host Line} {i : Fin socketCount} {d : DatagramSocket}

theorem run_require {c : Command} {x : LinkM Line Bool} {ok : Bool} {link : Link Line}
    (h : x.run host.link = (.ok ok, link)) :
    (require c x).run host =
      (if ok then .ok () else .error (.rejected c), { host with link := link }) := by
  rw [require, Host.run_bind, Host.run_ask, h]
  cases ok <;> rfl

theorem run_require_error {c : Command} {x : LinkM Line Bool} {e : LinkError} {link : Link Line}
    (h : x.run host.link = (.error e, link)) :
    (require c x).run host = (.error (.link e), { host with link := link }) := by
  rw [require, Host.run_bind, Host.run_ask, h]

theorem beginPacketHost_eq (d : DatagramSocket) (name : String) (port : UInt16) :
    d.beginPacketHost name port = (require .startClientTcp
      (Link.ack (Link.connectHostFrame name port d.socket .udp)) : HostM Line Unit) := rfl

/-- An operation of a datagram socket came to this answer, and made this of what is in its slot. -/
structure Assembles {α : Type} (i : Fin socketCount) (host : Host Line) (answer : Except NetError α)
    (change : Assembly → Assembly) (result : Except NetError α × Host Line) : Prop where
  answer : result.1 = answer
  served : result.2.link.Served
  assembly : (result.2.link.socketAt i).assembly = change (host.link.socketAt i).assembly

/-- A command that the device acknowledges, and by which it changes the slot. -/
theorem require_assembles {c c' : Command} {f : Frame} (served : host.link.Served)
    (hf : IsRequestFor c f) (fits : f.Fits) {g : Device.Socket → Device.Socket}
    (serves : (serve c ⟨f.params⟩).run (host.link.transport.state.recorded c) =
      (some (Device.ack c true), (host.link.transport.state.recorded c).modifySocket i g))
    {change : Assembly → Assembly} (changes : ∀ a, (g a).assembly = change a.assembly) :
    Assembles i host (.ok ()) change ((require c' (Link.ack f)).run host) := by
  obtain ⟨hack, hserved⟩ := Link.ack_served served hf fits serves
  rw [run_require hack]
  refine ⟨rfl, hserved, ?_⟩
  rw [← changes]
  exact congrArg Device.Socket.assembly (State.get_modifySocket_self _ i g)

section
variable (served : host.link.Served) (hi : d.socket.index? = some i)
include served hi

theorem beginPacket_assembles (ip : Ipv4) (port : UInt16) :
    Assembles i host (.ok ()) (Assembly.addressed ⟨ip, port⟩)
      ((d.beginPacket ip port).run host) :=
  require_assembles served (f := Link.connectFrame ip port d.socket .udp) ⟨rfl, rfl⟩
    (Link.connectFrame_fits ip port .udp) (Link.serve_connect hi ip port .udp _)
    (Device.Socket.assembly_connecting_udp _ ⟨ip, port⟩)

/-- A name that is short enough and that the device knows says where the next datagrams go. -/
theorem beginPacketHost_assembles {name : String} (short : (Text.Utf8.encode name).length ≤ 235)
    {ip : Ipv4} (known : host.link.transport.state.resolve name = some ip) (port : UInt16) :
    Assembles i host (.ok ()) (Assembly.addressed ⟨ip, port⟩)
      ((d.beginPacketHost name port).run host) := by
  have hserve := Link.serve_connectHost hi name port .udp
    (host.link.transport.state.recorded .startClientTcp)
  have hname : (host.link.transport.state.recorded .startClientTcp).resolve name = some ip := known
  rw [hname] at hserve
  exact require_assembles served (f := Link.connectHostFrame name port d.socket .udp) ⟨rfl, rfl⟩
    (Link.connectHostFrame_fits_iff.mpr short) hserve
    (Device.Socket.assembly_connecting_udp _ ⟨ip, port⟩)

/-- With any other name nothing is changed. -/
theorem beginPacketHost_fails {name : String} (port : UInt16)
    (fails : ¬ ((Text.Utf8.encode name).length ≤ 235 ∧
      (host.link.transport.state.resolve name).isSome)) :
    ∃ e, Assembles i host (.error e) id ((d.beginPacketHost name port).run host) := by
  by_cases short : (Text.Utf8.encode name).length ≤ 235
  · have hname : (host.link.transport.state.recorded .startClientTcp).resolve name = none :=
      Option.not_isSome_iff_eq_none.mp fun hknown => fails ⟨short, hknown⟩
    have hserve := Link.serve_connectHost hi name port .udp
      (host.link.transport.state.recorded .startClientTcp)
    rw [hname] at hserve
    obtain ⟨hack, hserved⟩ := Link.ack_served served
      (f := Link.connectHostFrame name port d.socket .udp) ⟨rfl, rfl⟩
      (Link.connectHostFrame_fits_iff.mpr short) hserve
    refine ⟨.rejected .startClientTcp, ?_⟩
    rw [beginPacketHost_eq, run_require hack]
    exact ⟨rfl, hserved, rfl⟩
  · obtain ⟨e, hrun⟩ := Link.ack_of_not_fits (l := host.link)
      (mt Link.connectHostFrame_fits_iff.mp short : ¬
        (Link.connectHostFrame name port d.socket .udp).Fits)
    refine ⟨.link e, ?_⟩
    rw [beginPacketHost_eq, run_require_error hrun]
    exact ⟨rfl, served, rfl⟩

theorem endPacket_assembles :
    Assembles i host (.ok ()) Assembly.dispatched (d.endPacket.run host) :=
  require_assembles served (f := Link.about .sendDataUdp d.socket) ⟨rfl, rfl⟩
    (Link.about_fits _ _) (run_serve_sendUdp hi _) fun _ => rfl

end

theorem flatten_pieces (size : Nat) (data : Bytes) : (pieces size data).flatten = data := by
  fun_induction pieces size data with
  | case1 => rfl
  | case2 b rest ih =>
    rw [List.flatten_cons, ih, List.cons_append, List.take_append_drop]

theorem length_of_mem_pieces {size : Nat} (pos : 1 ≤ size) {data piece : Bytes}
    (h : piece ∈ pieces size data) : piece.length ≤ size := by
  fun_induction pieces size data with
  | case1 => cases h
  | case2 b rest ih =>
    rcases List.mem_cons.mp h with rfl | hrest
    · rw [List.length_cons, List.length_take]
      omega
    · exact ih hrest

theorem append_assembles (hi : d.socket.index? = some i) {ps : List Bytes}
    (short : ∀ p ∈ ps, p.length ≤ chunkMax) (served : host.link.Served) :
    Assembles i host (.ok ()) (Assembly.extended ps.flatten) ((d.append ps).run host) := by
  induction ps generalizing host with
  | nil =>
    refine ⟨rfl, served, ?_⟩
    rw [Assembly.extended, List.flatten_nil, List.append_nil]
    rfl
  | cons p rest ih =>
    obtain ⟨hp, hshort⟩ := List.forall_mem_cons.mp short
    have hpiece : Assembles i host (.ok ()) (Assembly.extended p)
        ((require .insertDatabuf (Link.insertDataBuf d.socket p)).run host) :=
      require_assembles served ⟨rfl, rfl⟩ (Link.insertFrame_fits d.socket hp)
        (run_serve_insert hi _ p) fun _ => rfl
    rw [append, Host.run_bind]
    rcases hrun : (require .insertDatabuf (Link.insertDataBuf d.socket p)).run host with
      ⟨e | _, middle⟩
    all_goals rw [hrun] at hpiece
    · cases hpiece.answer
    · have hrest := ih hshort hpiece.served
      refine ⟨hrest.answer, hrest.served, hrest.assembly.trans ?_⟩
      rw [hpiece.assembly, Assembly.extended, Assembly.extended, Assembly.extended,
        List.flatten_cons, List.append_assoc]

/-- A write hands over all of its data, however many pieces it takes. -/
theorem write_assembles (served : host.link.Served) (hi : d.socket.index? = some i)
    (data : Bytes) :
    Assembles i host (.ok data.length) (Assembly.extended data) ((d.write data).run host) := by
  have hshort : ∀ p ∈ pieces chunkMax data, p.length ≤ chunkMax :=
    fun _ hp => length_of_mem_pieces (Nat.le_of_ble_eq_true rfl) hp
  have happend := append_assembles hi hshort served
  rw [flatten_pieces chunkMax data] at happend
  rw [write, Host.run_bind]
  rcases hrun : (d.append (pieces chunkMax data)).run host with ⟨e | _, after⟩
  all_goals rw [hrun] at happend
  · cases happend.answer
  · exact ⟨rfl, happend.served, happend.assembly⟩

end DatagramSocket

end SpiWifi
