import SpiWifi.Proofs.Board.Connections
import SpiWifi.Proofs.Board.Datagrams
import SpiWifi.Proofs.Board.Sent
import SpiWifi.Proofs.Socket.Boundaries

/-!
# Datagrams that are received

From its binding on a datagram socket hands over the datagrams that are pushed to its slot, if nothing
else is done with it and no stream comes in there, whatever the other objects of the board do. Each
read returns bytes of one datagram, and the sender that is named after it is the one of these bytes.
-/

namespace SpiWifi

open Device

def DatagramOp.receives : DatagramOp → Bool
  | available | read _ | peek | remote => true
  | _ => false

def DatagramOp.returned (op : DatagramOp) (d : DatagramSocket) (host : Host Line) : Bytes :=
  match op with
  | read n => ((d.read n).run host).1
  | _ => []

def Device.Happening.pushes (raw : UInt8) : Happening → List Datagram
  | pushDatagram raw' sender data => if raw' = raw then [⟨sender, data⟩] else []
  | _ => []

namespace BoardEvent

def pushes (raw : UInt8) : BoardEvent → List Datagram
  | happens h => h.pushes raw
  | _ => []

/-- Of the datagram socket in a place, the event does no more than receive; and to its slot it brings
no more than datagrams. -/
def onlyReceives (k : Nat) (raw : UInt8) : BoardEvent → Bool
  | happens (.push raw' _) => raw' ≠ raw
  | datagrams j op => j ≠ k ∨ op.receives
  | closeDatagrams j => j ≠ k
  | _ => true

end BoardEvent

namespace Board

def yielded (b : Board) (k : Nat) (e : BoardEvent) : Bytes :=
  match b.datagramOp? k e with
  | some (d, op) => op.returned d b.host
  | none => []

/-- The bytes that a run returned through the datagram socket in a place. -/
def returned (b : Board) (k : Nat) : List BoardEvent → Bytes
  | [] => []
  | e :: rest => b.yielded k e ++ (b.step e).returned k rest

end Board

/-- An operation that receives hands over what is due. -/
theorem DatagramOp.run_delivers {op : DatagramOp} (receives : op.receives = true)
    {d : DatagramSocket} {host : Host Line} {i : Fin socketCount} (served : host.link.Served)
    (hi : d.socket.index? = some i) {pushed : List Datagram} {returned : Bytes}
    (h : (host.link.found i).Delivers pushed returned (host.cache.bytes d.socket)) :
    ((op.run d host).link.found i).Delivers pushed (returned ++ op.returned d host)
      ((op.run d host).cache.bytes d.socket) := by
  cases op with
  | available =>
    change Socket.Delivers _ pushed (returned ++ []) _
    rw [List.append_nil]
    exact Host.available_delivers served hi h
  | read n => exact (Host.read_delivers served hi h n).take
  | peek =>
    have hpeek : peek.run d host = (Host.available d.socket host).2 := Host.peek_host d.socket host
    change Socket.Delivers _ pushed (returned ++ []) _
    rw [List.append_nil, hpeek]
    exact Host.available_delivers served hi h
  | remote =>
    have huses : Host.Uses id d.socket host (remote.run d host) := Host.remote_asks d.socket host
    have hslot : (remote.run d host).link.found i = host.link.found i := huses.link.own i
    have hcache : (remote.run d host).cache = host.cache := Host.cache_remote d.socket host
    change Socket.Delivers _ pushed (returned ++ []) _
    rw [List.append_nil, hslot, hcache]
    exact h
  | _ => cases receives

namespace Device

theorem Socket.inward_of_aside {a b : Socket} (h : a.aside = b.aside) :
    a.rx = b.rx ∧ a.remote = b.remote ∧ a.datagrams = b.datagrams := by
  have hrx := congrArg rx h
  have hremote := congrArg remote h
  have hdatagrams := congrArg datagrams h
  exact ⟨hrx, hremote, hdatagrams⟩

/-- What comes in for a slot of datagrams, short of a stream, waits behind what came in before. -/
theorem Happening.apply_pushes {h : Happening} {s : State} {raw : UInt8} {i : Fin socketCount}
    (hi : SocketHandle.slotOf? raw = some i) (reserved : (s.sockets.get i).reserved = true)
    (kind : (s.sockets.get i).kind = .datagram) (quiet : ∀ data, h ≠ .push raw data) :
    let a := s.sockets.get i
    let a' := (h.apply s).sockets.get i
    a'.rx = a.rx ∧ a'.remote = a.remote ∧ a'.datagrams = a.datagrams ++ h.pushes raw := by
  intro a a'
  have hraw : ∀ {raw'}, SocketHandle.slotOf? raw' = some i ↔ raw' = raw := by
    intro raw'
    constructor
    · intro hi'
      exact congrArg SocketHandle.raw (SocketHandle.eq_of_index? (h := ⟨raw'⟩) (i := i) hi' hi)
    · rintro rfl
      exact hi
  have hsame : a.datagrams = a.datagrams ++ [] := (List.append_nil _).symm
  cases h with
  | connection port peer data =>
    rcases s.injectConnection_cases port peer data with
      ⟨-, hnothing⟩ | ⟨listener, m, -, hserves, hfree, -, hstate⟩
    · have hslot : a' = a := congrArg (fun s : State => s.sockets.get i) hnothing
      rw [hslot]
      exact ⟨rfl, rfl, hsame⟩
    · -- the slot is neither free nor that of a listener
      have hm : m ≠ i := by
        rintro rfl
        rw [hfree] at reserved
        cases reserved
      have hl : listener ≠ i := by
        rintro rfl
        cases hserves.symm.trans kind
      have hslot : a' = a := by
        change ((s.injectConnection port peer data).2).sockets.get i = _
        rw [hstate, State.get_modifySocket, State.get_modifySocket, if_neg hl, if_neg hm]
      rw [hslot]
      exact ⟨rfl, rfl, hsame⟩
  | push raw' data =>
    have hslot : a' = a := by
      refine (State.get_onSocket _ _ _ _).trans (if_neg fun hi' => ?_)
      exact quiet data (by rw [hraw.mp hi'])
    rw [hslot]
    exact ⟨rfl, rfl, hsame⟩
  | pushDatagram raw' sender data =>
    have hslot : a' = if SocketHandle.slotOf? raw' = some i then
        { a with datagrams := a.datagrams ++ [⟨sender, data⟩] } else a :=
      State.get_onSocket _ _ _ _
    rw [hslot, pushes]
    by_cases hi' : raw' = raw
    · rw [if_pos (hraw.mpr hi'), if_pos hi']
      exact ⟨rfl, rfl, rfl⟩
    · rw [if_neg (mt hraw.mp hi'), if_neg hi']
      exact ⟨rfl, rfl, hsame⟩
  | closeRemote raw' =>
    have hslot : a' = if SocketHandle.slotOf? raw' = some i then
        (if a.state = .established then { a with state := .closeWait } else a) else a :=
      State.get_onSocket _ _ _ _
    rw [hslot]
    split
    · split <;> exact ⟨rfl, rfl, hsame⟩
    · exact ⟨rfl, rfl, hsame⟩
  | _ => exact ⟨rfl, rfl, hsame⟩

end Device

namespace Board

variable {b : Board} {left : List (Fin socketCount)} {k : Nat} {d : DatagramSocket}
  {e : BoardEvent} {pushed : List Datagram} {received : Bytes}

/-- There is a datagram socket in the place, and its slot and its cache have what is due of the
datagrams that were pushed. -/
structure Receives (b : Board) (k : Nat) (d : DatagramSocket) (pushed : List Datagram)
    (received : Bytes) : Prop where
  here : b.owners[k]? = some (.datagrams d)
  delivers : ∀ i, d.socket.index? = some i →
    (b.found i).Delivers pushed received (b.host.cache.bytes d.socket)

theorem Receives.told (r : Receives b k d pushed received) (h : Sound b left)
    {happening : Happening} (quiet : ∀ data, happening ≠ .push d.socket.raw data) :
    Receives (b.told happening) k d (pushed ++ happening.pushes d.socket.raw) received := by
  refine ⟨r.here, fun i hi => ?_⟩
  obtain ⟨j, index, reserved, kind⟩ := kind_of_serves h r.here
  cases index.symm.trans hi
  have hinit : b.host.link.initialized = true := Link.initialized_of_reserved reserved
  have hbefore : b.found i = b.host.link.transport.state.sockets.get i :=
    Link.found_of_initialized hinit i
  have hafter : (b.told happening).found i =
      (happening.apply b.host.link.transport.state).sockets.get i :=
    Link.found_told hinit happening.apply i
  have hdue := r.delivers i hi
  rw [hbefore] at reserved kind hdue
  rw [hafter]
  obtain ⟨hrx, hremote, hdatagrams⟩ := Happening.apply_pushes hi reserved kind quiet
  exact hdue.congr hrx hremote hdatagrams

theorem Receives.operation (r : Receives b k d pushed received) (h : Faithful b left)
    (inside : ∀ happening, e ≠ .happens happening)
    (only : e.onlyReceives k d.socket.raw = true) :
    Receives (b.step e) k d pushed (received ++ b.yielded k e) := by
  have stays : e ≠ .closeDatagrams k := by
    rintro rfl
    simp [BoardEvent.onlyReceives] at only
  have there := step_stays h.sound inside r.here stays
  refine ⟨there, fun i hi => ?_⟩
  cases step_concerns h.sound inside there with
  | spared here other spares =>
    obtain ⟨hrx, hremote, hdatagrams⟩ := Socket.inward_of_aside (spares.slot i hi)
    have hcache : (b.step e).host.cache.bytes d.socket = b.host.cache.bytes d.socket :=
      ReceiveCache.bytes_of_same hi (spares.cache i hi)
    have hdue : ((b.step e).found i).Delivers (pushed ++ []) received _ :=
      (r.delivers i hi).congr hrx hremote (hdatagrams.trans (List.append_nil _).symm)
    rw [yielded, datagramOp?_of_other other, hcache, List.append_nil]
    rwa [List.append_nil] at hdue
  | used here op own step =>
    subst own
    have receives : op.receives = true := by simpa [BoardEvent.onlyReceives] using only
    rw [step, yielded, datagramOp?_of_here here op]
    exact DatagramOp.run_delivers receives (h.served (holds_pos here hi)) hi (r.delivers i hi)
  | bound binds =>
    have hlt := (List.getElem?_eq_some_iff.mp r.here).1
    exact absurd binds.place (Nat.ne_of_gt hlt)

theorem step_receives (r : Receives b k d pushed received) (h : Faithful b left)
    (only : e.onlyReceives k d.socket.raw = true) :
    Receives (b.step e) k d (pushed ++ e.pushes d.socket.raw) (received ++ b.yielded k e) := by
  by_cases inside : ∀ happening, e ≠ .happens happening
  · have hpushes : e.pushes d.socket.raw = [] := by
      cases e with
      | happens happening => exact absurd rfl (inside happening)
      | _ => rfl
    rw [hpushes, List.append_nil]
    exact r.operation h inside only
  · obtain ⟨happening, rfl⟩ := not_forall_not.mp inside
    have hyielded : b.yielded k (.happens happening) = [] := rfl
    rw [hyielded, List.append_nil]
    refine r.told h.sound ?_
    rintro data rfl
    simp [BoardEvent.onlyReceives] at only

theorem run_receives (r : Receives b k d pushed received) (h : Faithful b left)
    {events : List BoardEvent} (keeps : ∀ e ∈ events, e.losesNothing = true)
    (only : ∀ e ∈ events, e.onlyReceives k d.socket.raw = true) :
    Receives (b.run events) k d (pushed ++ events.flatMap (BoardEvent.pushes d.socket.raw))
        (received ++ b.returned k events) ∧
      ∃ left', Faithful (b.run events) left' := by
  induction events generalizing b left pushed received with
  | nil =>
    rw [List.flatMap_nil, List.append_nil, returned, List.append_nil]
    exact ⟨r, left, h⟩
  | cons e rest ih =>
    obtain ⟨hkept, hkeeps⟩ := List.forall_mem_cons.mp keeps
    obtain ⟨hfirst, hrest⟩ := List.forall_mem_cons.mp only
    obtain ⟨new, hstep⟩ := h.step hkept
    have hrun := ih (step_receives r h hfirst) hstep hkeeps hrest
    rw [List.append_assoc, List.append_assoc] at hrun
    rw [List.flatMap_cons, returned]
    exact hrun

/-- A datagram socket that was just bound has handed nothing over. -/
theorem bound_receives (h : Sound b left) (binds : Binds b e k d)
    (there : (b.step e).owners[k]? = some (.datagrams d)) {i : Fin socketCount}
    (hi : d.socket.index? = some i) (silent : ((b.step e).found i).rx = []) :
    Receives (b.step e) k d ((b.step e).found i).datagrams [] := by
  refine ⟨there, fun j hj => ?_⟩
  cases hi.symm.trans hj
  obtain ⟨m, port, mode, index, vacant, -⟩ := binds.slot
  cases index.symm.trans hi
  rw [binds.cache, h.bytes_of_vacant hi vacant]
  exact .start silent

/-- An object in a place that was new is a datagram socket only if it was just bound. -/
theorem binds_of_new (h : Sound b left)
    (there : (b.step e).owners[b.owners.length]? = some (.datagrams d)) :
    (∀ happening, e ≠ .happens happening) ∧ Binds b e b.owners.length d := by
  have hnone : b.owners[b.owners.length]? = none := List.getElem?_eq_none (Nat.le_refl _)
  have inside : ∀ happening, e ≠ .happens happening := by
    rintro happening rfl
    cases hnone.symm.trans there
  refine ⟨inside, ?_⟩
  cases step_concerns h inside there with
  | spared here | used here => cases hnone.symm.trans here
  | bound binds => exact binds

/-- On a board on which no reply gets lost, over a link that carries the largest replies, a datagram
socket is bound, on a slot in which nothing of a stream is left. From then on no stream comes in there,
and the socket is only received from; the other objects of the board may do anything. At every point
of every such run: what all reads returned, then what is cached, then the receive queue of the device,
then the datagrams behind it are together the bytes of all that were pushed, in order. A read that
returns anything returns bytes of one of them, in which it goes on where the reads before ended; and
the sender that is asked for next is the one of that datagram. -/
theorem datagrams_delivered {link : Link Line} (fresh : ∀ i, link.found i = Socket.free)
    (size : 252 ≤ link.settings.maxFrameSize.toNat) (kept : ∀ c, link.device.lossesLeft c = 0)
    (sockets : SocketSettings) (station : StationSettings) (before after : List BoardEvent)
    (keeps : ∀ e ∈ before ++ after, e.losesNothing = true) (binding : BoardEvent) :
    let b := (start link sockets station).run before
    let k := b.owners.length
    let bound := b.step binding
    let last := bound.run after
    ∀ d i, bound.owners[k]? = some (.datagrams d) → d.socket.index? = some i →
      (bound.found i).rx = [] → (∀ e ∈ after, e.onlyReceives k d.socket.raw = true) →
      let pushed := (bound.found i).datagrams ++ after.flatMap (BoardEvent.pushes d.socket.raw)
      let returned := bound.returned k after
      let slot := last.host.link.transport.state.sockets.get i
      returned ++ last.host.cache.bytes d.socket ++ slot.rx ++ payloads slot.datagrams =
        payloads pushed ∧
      ∀ n, let read := (d.read n).run last.host
        read.1 ≠ [] → ∃ (j : Nat) (g : Datagram) (skip : Nat), pushed[j]? = some g ∧
          returned = payloads (pushed.take j) ++ g.data.take skip ∧
          read.1 <+: g.data.drop skip ∧ (d.remote.run read.2).1 = some g.sender := by
  intro b k bound last d i there hi silent only pushed returned slot
  obtain ⟨hbefore, hafter⟩ := List.forall_mem_append.mp keeps
  obtain ⟨-, left, hfaithful⟩ := run_recorded (start_faithful fresh size kept sockets station)
    (start_recorded link sockets station k) hbefore
  obtain ⟨inside, binds⟩ := binds_of_new hfaithful.sound there
  have hkeeps : binding.losesNothing = true := by
    cases binding with
    | happens happening => exact absurd rfl (inside happening)
    | _ => rfl
  obtain ⟨new, hbound⟩ := hfaithful.step hkeeps
  obtain ⟨hreceives, left', hlast⟩ :=
    run_receives (bound_receives hfaithful.sound binds there hi silent) hbound hafter only
  have hserved : last.host.link.Served := hlast.served (holds_pos hreceives.here hi)
  have hdue : (last.host.link.found i).Delivers pushed returned (last.host.cache.bytes d.socket) :=
    hreceives.delivers i hi
  refine ⟨?_, ?_⟩
  · rw [Link.found_of_initialized hserved.reset] at hdue
    exact hdue.conserves
  · intro n read hread
    have hserved' : read.2.link.Served := hserved.of_uses (Host.read_receives d.socket _ n).link
    obtain ⟨j, g, skip, hplace, hreturned, hprefix, hsender⟩ :=
      (Host.read_delivers hserved hi hdue n).source hread
    refine ⟨j, g, skip, hplace, hreturned, hprefix, ?_⟩
    exact (Host.remote_faithful (hserved'.faithful.smaller (by decide)) hi).trans hsender

/-- With a cache that keeps two bytes a datagram of three takes two refills. The empty datagram behind
it is skipped, and the last read does not reach back into the one before. -/
theorem datagrams_delivered_in_turn :
    let link : Link Line := .new .new .instant
    let sockets : SocketSettings := { SocketSettings.standard with bufferSize := 3 }
    let first : Endpoint := ⟨⟨10, 0, 0, 1⟩, 53⟩
    let second : Endpoint := ⟨⟨10, 0, 0, 2⟩, 54⟩
    let before : List BoardEvent := [.bindDatagrams 5000, .datagrams 0 (.write [9])]
    let after : List BoardEvent :=
      [.happens (.pushDatagram 1 first [1, 2, 3]), .datagrams 1 (.read 9),
        .happens (.pushDatagram 1 first []), .happens (.pushDatagram 0 first [7]),
        .datagrams 0 .endPacket, .happens (.pushDatagram 1 second [4, 5]), .datagrams 1 (.read 1),
        .datagrams 1 .available]
    let b := (start link sockets .standard).run before
    let bound := b.step (.bindDatagrams 6000)
    let last := bound.run after
    let d : DatagramSocket := ⟨⟨1⟩, 6000⟩
    let read := (d.read 9).run last.host
    (∀ i, link.found i = Socket.free) ∧ 252 ≤ link.settings.maxFrameSize.toNat ∧
      (∀ c, link.device.lossesLeft c = 0) ∧ (∀ e ∈ before ++ after, e.losesNothing = true) ∧
      bound.owners[1]? = some (.datagrams d) ∧ d.socket.index? = some ⟨1, by decide⟩ ∧
      (bound.found ⟨1, by decide⟩).rx = [] ∧ (∀ e ∈ after, e.onlyReceives 1 1 = true) ∧
      bound.returned 1 after = [1, 2, 3] ∧ read.1 = [4, 5] ∧
      (d.remote.run read.2).1 = some second := by
  intro link sockets first second before after b bound last d read
  have fresh : ∀ i, link.found i = Socket.free := by decide
  have size : 252 ≤ link.settings.maxFrameSize.toNat := by decide
  have kept : ∀ c, link.device.lossesLeft c = 0 := fun _ => rfl
  have keeps : ∀ e ∈ before ++ after, e.losesNothing = true := by decide
  have here : bound.owners[1]? = some (.datagrams d) := by decide +kernel
  have silent : (bound.found ⟨1, by decide⟩).rx = [] := by decide +kernel
  have only : ∀ e ∈ after, e.onlyReceives 1 1 = true := by decide
  have hreturned : bound.returned 1 after = [1, 2, 3] := by decide +kernel
  have hread : read.1 = [4, 5] := by decide +kernel
  have hcount : b.owners.length = 1 := by decide +kernel
  have hsenders : ∀ g ∈ (bound.found ⟨1, by decide⟩).datagrams ++
      after.flatMap (BoardEvent.pushes 1), [4, 5] <:+: g.data → g.sender = second := by
    decide +kernel
  have hdelivers := datagrams_delivered fresh size kept sockets .standard before after keeps
    (.bindDatagrams 6000)
  dsimp only at hdelivers
  rw [show ((start link sockets .standard).run before).owners.length = 1 from hcount] at hdelivers
  obtain ⟨-, hreads⟩ := hdelivers d ⟨1, by decide⟩ here rfl silent only
  obtain ⟨j, g, skip, hplace, -, hprefix, hsender⟩ := hreads 9 (by
    rw [show ((d.read 9).run (bound.run after).host).1 = [4, 5] from hread]
    exact nofun)
  rw [show ((d.read 9).run (bound.run after).host).1 = [4, 5] from hread] at hprefix
  have hinfix : [4, 5] <:+: g.data := hprefix.isInfix.trans (List.drop_suffix skip g.data).isInfix
  rw [hsenders g (List.mem_of_getElem? hplace) hinfix] at hsender
  exact ⟨fresh, size, kept, keeps, here, rfl, silent, only, hreturned, hread, hsender⟩

end Board

end SpiWifi
