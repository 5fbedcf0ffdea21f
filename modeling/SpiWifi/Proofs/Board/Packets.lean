import SpiWifi.Proofs.Board.Datagrams
import SpiWifi.Proofs.Board.Sent
import SpiWifi.Proofs.Socket.Assembling

/-!
# Packets

Every datagram socket of a board has an account of what its own operations put together: what was
written since the last packet, where it goes, and the packets that were sent. If no reply gets lost
and the link carries the largest requests, the device sent just these packets through its socket,
however the operations of different sockets follow one another, and whatever else happens.
-/

namespace SpiWifi

open Device

/-- Where the next packets go by an operation, if it says so and succeeds. -/
def DatagramOp.sets (op : DatagramOp) (d : DatagramSocket) (host : Host Line) : Option Endpoint :=
  match op with
  | beginPacket ip port =>
    match ((d.beginPacket ip port).run.run host).1 with
    | .ok () => some ⟨ip, port⟩
    | .error _ => none
  | beginPacketHost name port =>
    match ((d.beginPacketHost name port).run.run host).1 with
    | .ok () => (host.link.transport.state.resolve name).map fun ip => ⟨ip, port⟩
    | .error _ => none
  | _ => none

/-- The account after an operation that set this destination, or none. -/
def Assembly.after (a : Assembly) (op : DatagramOp) (set : Option Endpoint) : Assembly :=
  match op with
  | .write data => { a with written := a.written ++ data }
  | .endPacket => ⟨a.sent ++ [⟨a.dest, a.written⟩], a.dest, []⟩
  | _ => { a with dest := set.or a.dest }

namespace Board

def assemble (b : Board) (k : Nat) (a : Assembly) (e : BoardEvent) : Assembly :=
  match b.datagramOp? k e with
  | some (d, op) => a.after op (op.sets d b.host)
  | none => a

/-- The account of the datagram socket in a place after a run. -/
def assembly (b : Board) (k : Nat) (a : Assembly) : List BoardEvent → Assembly
  | [] => a
  | e :: rest => (b.step e).assembly k (b.assemble k a e) rest

end Board

namespace DatagramOp

variable {host : Host Line} {i : Fin socketCount} {d : DatagramSocket}

theorem found_of_assembles {α : Type} {answer : Except NetError α} {change : Assembly → Assembly}
    {result : Except NetError α × Host Line} (served : host.link.Served)
    (h : DatagramSocket.Assembles i host answer change result) :
    (result.2.link.found i).assembly = change (host.link.found i).assembly := by
  rw [Link.found_of_initialized h.served.reset, Link.found_of_initialized served.reset]
  exact h.assembly

/-- What is in the slot follows the account. -/
theorem run_assembly (served : host.link.Served) (hi : d.socket.index? = some i)
    (op : DatagramOp) :
    ((op.run d host).link.found i).assembly =
      (host.link.found i).assembly.after op (op.sets d host) := by
  have hreceives : ∀ {after : Host Line}, Host.Uses Socket.outward d.socket host after →
      (after.link.found i).assembly = (host.link.found i).assembly :=
    fun uses => Socket.assembly_of_outward (uses.link.own i)
  cases op with
  | beginPacket ip port =>
    have hbegins := DatagramSocket.beginPacket_assembles served hi ip port
    have hset : (beginPacket ip port).sets d host = some ⟨ip, port⟩ := by
      simp only [sets, show ((d.beginPacket ip port).run.run host).1 = _ from hbegins.answer]
    rw [hset]
    exact found_of_assembles served hbegins
  | beginPacketHost name port =>
    by_cases hknown : (Text.Utf8.encode name).length ≤ 235 ∧
        (host.link.transport.state.resolve name).isSome
    · obtain ⟨ip, hip⟩ := Option.isSome_iff_exists.mp hknown.2
      have hbegins := DatagramSocket.beginPacketHost_assembles served hi hknown.1 hip port
      have hset : (beginPacketHost name port).sets d host = some ⟨ip, port⟩ := by
        simp only [sets, show ((d.beginPacketHost name port).run.run host).1 = _ from
          hbegins.answer, hip]
        rfl
      rw [hset]
      exact found_of_assembles served hbegins
    · obtain ⟨e, hfails⟩ := DatagramSocket.beginPacketHost_fails served hi port hknown
      have hset : (beginPacketHost name port).sets d host = none := by
        simp only [sets, show ((d.beginPacketHost name port).run.run host).1 = _ from
          hfails.answer]
      rw [hset]
      exact found_of_assembles served hfails
  | write data => exact found_of_assembles served (DatagramSocket.write_assembles served hi data)
  | endPacket => exact found_of_assembles served (DatagramSocket.endPacket_assembles served hi)
  | available => exact hreceives (Host.available_receives d.socket host)
  | read n => exact hreceives (Host.read_receives d.socket host n)
  | peek => exact hreceives (Host.peek_receives d.socket host)
  | remote => exact hreceives (Host.remote_asks d.socket host)

end DatagramOp

namespace Device

/-- Nothing from outside changes what a slot is about to send as a datagram. -/
theorem Happening.apply_assembly (h : Happening) (s : State) (i : Fin socketCount) :
    ((h.apply s).sockets.get i).assembly = (s.sockets.get i).assembly := by
  have honSocket : ∀ (raw : UInt8) (f : Socket → Socket), (∀ a, (f a).assembly = a.assembly) →
      ((s.onSocket raw f).sockets.get i).assembly = (s.sockets.get i).assembly := by
    intro raw f hf
    rw [State.get_onSocket]
    split
    · exact hf _
    · rfl
  cases h with
  | connection port peer data =>
    rcases s.injectConnection_cases port peer data with
      ⟨-, hnothing⟩ | ⟨listener, m, -, -, -, -, hstate⟩
    · rw [apply, hnothing]
    · rw [apply, hstate, State.get_modifySocket, State.get_modifySocket]
      split <;> split <;> rfl
  | push raw data => exact honSocket raw _ fun _ => rfl
  | pushDatagram raw sender data => exact honSocket raw _ fun _ => rfl
  | closeRemote raw =>
    refine honSocket raw _ fun a => ?_
    split <;> rfl
  | _ => rfl

/-- Nothing from outside makes a slot vacant. -/
theorem Happening.vacant_of_apply {h : Happening} {s : State} {i : Fin socketCount}
    (vacant : ((h.apply s).sockets.get i).reserved = false) :
    (s.sockets.get i).reserved = false := by
  rcases h.apply_cases s with ⟨-, hclaims⟩ | ⟨_, _, _, listener, m, -, -, -, hfree, -, hstate⟩
  · rw [← (hclaims i).1]
    exact vacant
  · by_cases him : m = i
    · exact him ▸ hfree
    · rw [hstate, State.get_modifySocket, State.get_modifySocket, if_neg him] at vacant
      split at vacant <;> exact vacant

end Device

namespace Board

variable {b : Board} {left : List (Fin socketCount)} {k : Nat} {a : Assembly} {e : BoardEvent}
  {d : DatagramSocket}

theorem told_slot (b : Board) (happening : Happening) (i : Fin socketCount) :
    ((b.told happening).found i).assembly = (b.found i).assembly ∧
      (((b.told happening).found i).reserved = false → (b.found i).reserved = false) := by
  cases hinit : b.host.link.initialized with
  | false =>
    have hi : (b.told happening).found i = b.found i :=
      Link.found_told_before hinit happening.apply i
    rw [hi]
    exact ⟨rfl, id⟩
  | true =>
    have hi : (b.told happening).found i = _ := Link.found_told hinit happening.apply i
    have hbefore : b.found i = _ := Link.found_of_initialized hinit i
    rw [hi, hbefore]
    exact ⟨happening.apply_assembly _ i, Happening.vacant_of_apply⟩

/-- The slot of the datagram socket in a place is as its account says. Nothing is left in the slots
that nobody has. -/
structure Assembled (b : Board) (k : Nat) (a : Assembly) : Prop where
  slot : ∀ d i, b.owners[k]? = some (.datagrams d) → d.socket.index? = some i →
    (b.found i).assembly = a
  fresh : b.owners.length ≤ k → a = .empty
  blank : ∀ i, (b.found i).reserved = false → (b.found i).assembly = .empty

theorem Assembled.told (r : Assembled b k a) (happening : Happening) :
    Assembled (b.told happening) k a where
  slot d i here hi := (b.told_slot happening i).1.trans (r.slot d i here hi)
  fresh := r.fresh
  blank i vacant :=
    (b.told_slot happening i).1.trans (r.blank i ((b.told_slot happening i).2 vacant))

theorem Assembled.operation (r : Assembled b k a) (h : Faithful b left)
    (inside : ∀ happening, e ≠ .happens happening) :
    Assembled (b.step e) k (b.assemble k a e) := by
  obtain ⟨new, hpath, -⟩ := operation_path h.sound inside
  refine ⟨fun d i there hi => ?_, fun hle => ?_, fun i vacant => ?_⟩
  · cases step_concerns h.sound inside there with
    | spared here other spares =>
      rw [assemble, datagramOp?_of_other other, ← r.slot d i here hi]
      have heq := congrArg Device.Socket.assembly (spares.slot i hi)
      exact heq
    | used here op own step =>
      subst own
      have hserved := h.served (holds_pos here hi)
      rw [assemble, datagramOp?_of_here here op, step, ← r.slot d i here hi]
      exact op.run_assembly hserved hi
    | bound binds =>
      obtain ⟨m, port, mode, hm, hvacant, hslot⟩ := binds.slot
      cases hm.symm.trans hi
      have hle := Nat.le_of_eq binds.place
      rw [assemble, datagramOp?_of_length_le hle, r.fresh hle, hslot]
      exact r.blank i hvacant
  · have hlength := hpath.length
    have hbefore : b.owners.length ≤ k := by omega
    rw [assemble, datagramOp?_of_length_le hbefore]
    exact r.fresh hbefore
  · rcases hpath.vacated h.sound vacant with hfree | hsame
    · rw [hfree]
      rfl
    · rw [hsame] at vacant ⊢
      exact r.blank i vacant

theorem step_assembled (h : Faithful b left) (r : Assembled b k a) (e : BoardEvent) :
    Assembled (b.step e) k (b.assemble k a e) := by
  by_cases inside : ∀ happening, e ≠ .happens happening
  · exact r.operation h inside
  · obtain ⟨happening, rfl⟩ := not_forall_not.mp inside
    exact r.told happening

theorem run_assembled (h : Faithful b left) (r : Assembled b k a) {events : List BoardEvent}
    (keeps : ∀ e ∈ events, e.losesNothing = true) :
    Assembled (b.run events) k (b.assembly k a events) := by
  induction events generalizing b left a with
  | nil => exact r
  | cons e rest ih =>
    obtain ⟨hfirst, hrest⟩ := List.forall_mem_cons.mp keeps
    obtain ⟨new, hstep⟩ := h.step hfirst
    exact ih hstep (step_assembled h r e) hrest

theorem start_assembled {link : Link Line} (fresh : ∀ i, link.found i = Socket.free)
    (sockets : SocketSettings) (station : StationSettings) (k : Nat) :
    Assembled (start link sockets station) k .empty where
  slot d i here := nomatch here
  fresh _ := rfl
  blank i _ := by
    rw [show (start link sockets station).found i = Socket.free from fresh i]
    rfl

/-- At every point of every run in which no reply gets lost, over a link that carries the largest
requests: the packets that the device sent through a datagram socket since it was bound are those of
the account of the socket, which none but its own operations enter: one for each packet that was
ended, in order, with all that was written since the one before, to the destination that was set last.
Each of these operations succeeds, and a write hands over all of its data; only a destination that is
given by a name must be known to the device, and the name be at most 235 bytes long. -/
theorem packets_assembled {link : Link Line} (fresh : ∀ i, link.found i = Socket.free)
    (size : 252 ≤ link.settings.maxFrameSize.toNat) (kept : ∀ c, link.device.lossesLeft c = 0)
    (sockets : SocketSettings) (station : StationSettings) (events : List BoardEvent)
    (keeps : ∀ e ∈ events, e.losesNothing = true) :
    let first := start link sockets station
    let b := first.run events
    let device := b.host.link.transport.state
    ∀ k d, b.owners[k]? = some (.datagrams d) →
      device.sentPackets d.socket.raw = (first.assembly k .empty events).sent ∧
      (∀ ip port, ((d.beginPacket ip port).run.run b.host).1 = .ok ()) ∧
      (∀ name port, ((d.beginPacketHost name port).run.run b.host).1 = .ok () ↔
        (Text.Utf8.encode name).length ≤ 235 ∧ (device.resolve name).isSome) ∧
      (∀ data, ((d.write data).run.run b.host).1 = .ok data.length) ∧
      (d.endPacket.run.run b.host).1 = .ok () := by
  intro first b device k d here
  have hstart : Faithful first [] := start_faithful fresh size kept sockets station
  obtain ⟨-, left, hfaithful⟩ := run_recorded hstart (start_recorded link sockets station k) keeps
  have hassembled := run_assembled hstart (start_assembled fresh sockets station k) keeps
  obtain ⟨i, index, -, -⟩ := kind_of_serves hfaithful.sound here
  have hserved : b.host.link.Served := hfaithful.served (holds_pos here index)
  refine ⟨?_, fun ip port => ?_, fun name port => ?_, fun data => ?_, ?_⟩
  · have hslot : (b.found i).assembly = first.assembly k .empty events :=
      hassembled.slot d i here index
    rw [found, Link.found_of_initialized hserved.reset] at hslot
    rw [← hslot, State.sentPackets, State.socket?,
      show SocketHandle.slotOf? d.socket.raw = some i from index]
    rfl
  · exact (DatagramSocket.beginPacket_assembles hserved index ip port).answer
  · constructor
    · intro hok
      by_contra hfails
      obtain ⟨e, hbegins⟩ := DatagramSocket.beginPacketHost_fails hserved index port hfails
      cases hok.symm.trans hbegins.answer
    · rintro ⟨short, known⟩
      obtain ⟨ip, hip⟩ := Option.isSome_iff_exists.mp known
      exact (DatagramSocket.beginPacketHost_assembles hserved index short hip port).answer
  · exact (DatagramSocket.write_assembles hserved index data).answer
  · exact (DatagramSocket.endPacket_assembles hserved index).answer

/-- Two sockets put their packets together at the same time. A write of 250 bytes takes two requests,
and a destination that the device does not know leaves the one before. -/
theorem packets_assembled_in_turn :
    let link : Link Line := .new .new .instant
    let long : Bytes := List.replicate 250 7
    let events : List BoardEvent :=
      [.bindDatagrams 5000, .bindMulticast ⟨224, 0, 0, 1⟩ 6000, .datagrams 0 (.write [1]),
        .datagrams 1 (.beginPacket ⟨10, 0, 0, 2⟩ 9), .datagrams 1 (.write [8, 9]),
        .happens (.addHost "peer" ⟨10, 0, 0, 1⟩), .datagrams 0 (.beginPacketHost "peer" 53),
        .datagrams 0 (.write []), .datagrams 0 (.write long), .datagrams 1 .endPacket,
        .datagrams 0 .endPacket, .datagrams 0 (.beginPacketHost "nobody" 53),
        .datagrams 0 .endPacket, .datagrams 1 (.write [6])]
    let b := (start link .standard .standard).run events
    let device := b.host.link.transport.state
    (∀ i, link.found i = Socket.free) ∧ 252 ≤ link.settings.maxFrameSize.toNat ∧
      (∀ c, link.device.lossesLeft c = 0) ∧ (∀ e ∈ events, e.losesNothing = true) ∧
      b.owners = [.datagrams ⟨⟨0⟩, 5000⟩, .datagrams ⟨⟨1⟩, 6000⟩] ∧
      device.sentPackets 0 = [⟨some ⟨⟨10, 0, 0, 1⟩, 53⟩, 1 :: long⟩, ⟨some ⟨⟨10, 0, 0, 1⟩, 53⟩, []⟩] ∧
      device.sentPackets 1 = [⟨some ⟨⟨10, 0, 0, 2⟩, 9⟩, [8, 9]⟩] := by
  intro link long events
  have fresh : ∀ i, link.found i = Socket.free := by decide
  have size : 252 ≤ link.settings.maxFrameSize.toNat := by decide
  have kept : ∀ c, link.device.lossesLeft c = 0 := fun _ => rfl
  have keeps : ∀ e ∈ events, e.losesNothing = true := by decide
  have owners : ((start link .standard .standard).run events).owners =
      [.datagrams ⟨⟨0⟩, 5000⟩, .datagrams ⟨⟨1⟩, 6000⟩] := by decide +kernel
  have accounts :
      ((start link .standard .standard).assembly 0 .empty events).sent =
          [⟨some ⟨⟨10, 0, 0, 1⟩, 53⟩, 1 :: long⟩, ⟨some ⟨⟨10, 0, 0, 1⟩, 53⟩, []⟩] ∧
        ((start link .standard .standard).assembly 1 .empty events).sent =
          [⟨some ⟨⟨10, 0, 0, 2⟩, 9⟩, [8, 9]⟩] := by decide +kernel
  have hpackets := packets_assembled fresh size kept .standard .standard events keeps
  obtain ⟨hfirst, -⟩ := hpackets 0 ⟨⟨0⟩, 5000⟩ (by rw [owners]; rfl)
  obtain ⟨hsecond, -⟩ := hpackets 1 ⟨⟨1⟩, 6000⟩ (by rw [owners]; rfl)
  rw [accounts.1] at hfirst
  rw [accounts.2] at hsecond
  exact ⟨fresh, size, kept, keeps, owners, hfirst, hsecond⟩

end Board

end SpiWifi
