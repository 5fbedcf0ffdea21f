import SpiWifi.Proofs.Board.Steps
import SpiWifi.Proofs.Board.Sent
import SpiWifi.Proofs.Socket.Backlog

/-!
# Runs across resets

The link under a board can be started and stopped at any point of a run. Either resets the device,
which forgets all its sockets, while the objects of the board keep their handles; from then on a handle
may name a slot that is free, or one that was given to another object. So the ledger of the board is
lost with a reset. What stays is what a single operation can do: of the slots that are in use it touches
at most the one that its object holds, it keeps free slots free of what was on them, and it makes no
reply get lost.
-/

namespace SpiWifi

open Device

namespace Device.Socket

/-- A slot that nobody had serves nothing, and nobody waits on it. -/
def Orderly (a : Socket) : Prop := a.reserved = false → a.kind = .unused ∧ a.waiting = []

namespace Orderly

variable {a b : Socket}

theorem free : Socket.free.Orderly := fun _ => ⟨rfl, rfl⟩

theorem of_reserved (h : a.reserved = true) : a.Orderly := by
  intro hfree
  rw [h] at hfree
  cases hfree

theorem of_same (h : a.Orderly) (reserved : b.reserved = a.reserved) (kind : b.kind = a.kind)
    (waiting : b.waiting = a.waiting) : b.Orderly := by
  rw [Orderly, reserved, kind, waiting]
  exact h

theorem of_standing (h : a.Orderly) (same : b.standing = a.standing) : b.Orderly :=
  h.of_same (reserved_of_standing same) (kind_of_standing same) (waiting_of_standing same)

/-- A slot that serves something is taken. -/
theorem reserved (h : a.Orderly) (kind : a.kind ≠ .unused) : a.reserved = true := by
  cases hreserved : a.reserved with
  | true => rfl
  | false => exact absurd (h hreserved).1 kind

theorem stopped (h : a.Orderly) (close : CloseBehavior) : (a.stopped close).Orderly := by
  cases close with
  | immediate => exact .free
  | linger => exact h

theorem asked (h : a.Orderly) : a.asked.Orderly := by
  unfold Socket.asked
  split
  · next hkind => exact of_reserved (h.reserved (hkind ▸ nofun))
  · exact h.of_standing (standing_of_record (record_of_outward (outward_loadDatagram a)))

end Orderly

end Device.Socket

namespace Host

/-- From the one host to the other, of the slots that were in use at most this one was touched. -/
structure Touches (slot : Option (Fin socketCount)) (host host' : Host Line) : Prop where
  settings : host'.link.settings = host.link.settings
  losses : ∀ c, host'.link.device.lossesLeft c ≤ host.link.device.lossesLeft c
  others : ∀ i, slot ≠ some i → (host.link.found i).reserved = true →
    host'.link.found i = host.link.found i
  orderly : (∀ i, (host.link.found i).Orderly) → ∀ i, (host'.link.found i).Orderly

namespace Touches

variable {slot : Option (Fin socketCount)} {host host' host'' : Host Line} {socket : SocketHandle}
  {i : Fin socketCount}

theorem refl (slot : Option (Fin socketCount)) (host : Host Line) : Touches slot host host :=
  ⟨rfl, fun _ => Nat.le_refl _, fun _ _ _ => rfl, id⟩

theorem trans (h : Touches slot host host') (h' : Touches slot host' host'') :
    Touches slot host host'' where
  settings := h'.settings.trans h.settings
  losses c := Nat.le_trans (h'.losses c) (h.losses c)
  others i hi hreserved := by
    have hsame := h.others i hi hreserved
    exact (h'.others i hi (hsame ▸ hreserved)).trans hsame
  orderly horderly := h'.orderly (h.orderly horderly)

theorem of_uses (uses : Uses Socket.standing socket host host') :
    Touches socket.index? host host' where
  settings := uses.link.settings
  losses := uses.link.losses
  others i hi _ := uses.link.others i hi
  orderly horderly i := (horderly i).of_standing (uses.link.own i)

theorem of_change (index : socket.index? = some i) (uses : Uses Socket.nothing socket host host')
    (own : (host.link.found i).Orderly → (host'.link.found i).Orderly) :
    Touches socket.index? host host' where
  settings := uses.link.settings
  losses := uses.link.losses
  others j hj _ := uses.link.others j hj
  orderly horderly j := by
    by_cases hj : socket.index? = some j
    · cases hj.symm.trans index
      exact own (horderly i)
    · rw [uses.link.others j hj]
      exact horderly j

/-- A slot that nobody had was taken. -/
theorem of_taken (slot : Option (Fin socketCount)) (index : socket.index? = some i)
    (uses : Uses Socket.nothing socket host host')
    (vacant : (host.link.found i).reserved = false)
    (taken : Socket.Taken (host.link.found i) (host'.link.found i)) : Touches slot host host' := by
  have hchange := of_change index uses fun _ => .of_reserved taken.reserved
  refine ⟨hchange.settings, hchange.losses, fun j _ hreserved => ?_, hchange.orderly⟩
  refine uses.link.others j fun hj => ?_
  cases hj.symm.trans index
  rw [vacant] at hreserved
  cases hreserved

end Touches

section
variable {kind : SocketKind} {host : Host Line}

theorem Opening.touches {result : Except NetError SocketHandle × Host Line}
    (h : Opening kind host result) (slot : Option (Fin socketCount)) :
    Touches slot host result.2 := by
  cases h with
  | nothing e after uses =>
    have hnone : Touches none host after := .of_uses uses.standing
    exact ⟨hnone.settings, hnone.losses, fun i _ => hnone.others i nofun, hnone.orderly⟩
  | spent e after socket i index vacant uses taken =>
    exact .of_taken slot index uses vacant taken
  | opened socket after i index vacant uses taken =>
    exact .of_taken slot index uses vacant taken.toTaken

theorem tryStop_touches (socket : SocketHandle) (host : Host Line) :
    Touches socket.index? host ((tryStop socket).run host).2 := by
  cases hi : socket.index? with
  | none =>
    rw [tryStop_of_invalid (SocketHandle.isValid_of_none hi)]
    exact .refl _ host
  | some i =>
    have hstops := tryStop_stops hi host
    refine hi ▸ .of_change hi hstops.uses fun horderly => ?_
    rcases hstops.slot with hsame | hstopped
    · rwa [hsame]
    · rw [hstopped]
      exact horderly.stopped _

theorem accept_touches (socket : SocketHandle) (host : Host Line) :
    Touches socket.index? host (accept socket host).2 := by
  cases hi : socket.index? with
  | none =>
    have hinvalid : socket.isValid = false := SocketHandle.isValid_of_none hi
    have hrun : accept socket host = (.none, host) := by
      simp only [accept, hinvalid, Bool.false_eq_true, if_false]
      rfl
    rw [hrun]
    exact .refl _ host
  | some i =>
    have hasks := accept_asks hi host
    refine hi ▸ .of_change hi hasks.uses fun horderly => ?_
    rcases hasks.slot with hsame | hasked
    · rwa [hsame]
    · rw [hasked]
      exact horderly.asked

/-- A request to set where datagrams go, made of a slot that serves anything. -/
theorem require_touches {c : Command} {x : LinkM Line Bool} {socket : SocketHandle}
    {i : Fin socketCount} (index : socket.index? = some i)
    (starts : Link.Starts kind socket i host.link (x.run host.link)) :
    Touches socket.index? host ((DatagramSocket.require c x).run host).2 := by
  have hlink : ((DatagramSocket.require c x).run host).2.link = (x.run host.link).2 := by
    rw [DatagramSocket.require, run_bind, run_ask]
    rcases x.run host.link with ⟨e | _ | _, link⟩ <;> rfl
  refine .of_change index (DatagramSocket.require_uses starts.uses) fun horderly => ?_
  rw [hlink]
  rcases starts.slot with hsame | hopened
  · rwa [hsame]
  · exact .of_reserved hopened.reserved

end

end Host

theorem StreamOp.run_touches (op : StreamOp) (s : Stream) (host : Host Line) :
    Host.Touches s.socket.index? host (op.run (s, host)).2 := by
  have hstop : Host.Touches s.socket.index? host (Stream.stop (s, host)).2.2 := by
    cases hvalid : s.socket.isValid with
    | false =>
      rw [s.stop_of_invalid host hvalid]
      exact .refl _ host
    | true =>
      rw [s.stop_of_valid host hvalid]
      exact Host.tryStop_touches s.socket host
  cases opens : op.opens with
  | true =>
    obtain ⟨kind, connect, -, opening, hop⟩ := StreamOp.run_opens opens
    have htouches := hstop.trans ((opening _).touches _)
    rw [(hop _).1, Stream.run_connectBy]
    rcases hconnect : connect.run (Stream.stop (s, host)).2.2 with ⟨e | socket, after⟩
    all_goals
      rw [hconnect] at htouches
      exact htouches
  | false =>
    by_cases stops : op = .stop
    · subst stops
      exact hstop
    · cases writes : op.writes with
      | false => exact .of_uses (op.run_lasts opens stops writes s host).uses.standing
      | true => exact .of_uses (op.run_writes writes s host).2

theorem DatagramOp.run_touches (op : DatagramOp) {d : DatagramSocket} {i : Fin socketCount}
    (index : d.socket.index? = some i) (host : Host Line) :
    Host.Touches d.socket.index? host (op.run d host) := by
  cases op with
  | beginPacket ip port =>
    exact Host.require_touches index (Link.startClient_starts host.link index ip port .udp)
  | beginPacketHost name port =>
    exact Host.require_touches index (Link.startClientHost_starts host.link index name port .udp)
  | write data => exact .of_uses (d.write_uses index data host).standing
  | endPacket =>
    exact .of_uses
      (DatagramSocket.require_uses (Link.sendUdpData_uses host.link index)).standing
  | available => exact .of_uses (Host.available_uses d.socket host).standing
  | read n => exact .of_uses (Host.read_uses d.socket host n).standing
  | peek => exact .of_uses (Host.peek_uses d.socket host).standing
  | remote => exact .of_uses (Host.remote_uses d.socket host).standing

/-- The place of the object that acts in an event. -/
def BoardEvent.actor? : BoardEvent → Option Nat
  | stream k _ | accept k | isListening k | closeListener k | datagrams k _ | closeDatagrams k => some k
  | _ => none

namespace Board

variable {b : Board} {e : BoardEvent} {k : Nat} {o : Owner}

/-- The slot of the object that acts in an event. -/
def actingSlot (b : Board) (e : BoardEvent) : Option (Fin socketCount) := e.actor?.bind b.slotAt

/-- Datagram sockets hold a socket for good. -/
def Named (b : Board) : Prop := ∀ d, .datagrams d ∈ b.owners → d.socket.isValid = true

theorem make_host {α : Type} (b : Board) (x : HostM Line α) (owner : α → Owner) :
    (b.make x owner).host = (x.run.run b.host).2 := by
  rw [make]
  rcases x.run.run b.host with ⟨e | a, host⟩ <;> rfl

/-- Of the slots that are in use an event touches at most that of the object which acts. -/
theorem step_touches (named : b.Named) (inside : ∀ happening, e ≠ .happens happening) :
    Host.Touches (b.actingSlot e) b.host (b.step e).host := by
  have hmake : ∀ {α : Type} (x : HostM Line α) (owner : α → Owner) (object : SocketHandle → α)
      {kind : SocketKind} {y : HostM Line SocketHandle},
      x.run.run b.host = ((y.run b.host).1.map object, (y.run b.host).2) →
      Host.Opening kind b.host (y.run b.host) →
      Host.Touches none b.host (b.make x owner).host := by
    intro α x owner object kind y run opening
    rw [make_host, run]
    exact opening.touches none
  -- an operation on a place without such an object is none
  have hacts : ∀ {k : Nat} {o : Owner} {host : Host Line}, b.owners[k]? = some o →
      Host.Touches o.socket.index? b.host host → Host.Touches (b.slotAt k) b.host host :=
    fun here htouches => (slotAt_of_here here).symm ▸ htouches
  cases e with
  | happens happening => exact absurd rfl (inside happening)
  | newStream => exact .refl _ b.host
  | bind port =>
    exact hmake (Listener.bind port) .listener _ (Host.run_map _ _ _)
      (Host.startServer_opening port .tcp)
  | bindDatagrams port =>
    exact hmake (DatagramSocket.bind port) .datagrams _ (Host.run_map _ _ _)
      (Host.startServer_opening port .udp)
  | bindMulticast group port =>
    exact hmake (DatagramSocket.bindMulticast group port) .datagrams _ (Host.run_map _ _ _)
      (Host.startServerAt_opening group port .udpMulticast)
  | stream k op =>
    rw [step]
    split
    · next s here => exact hacts here (op.run_touches s b.host)
    · exact .refl _ b.host
  | accept k =>
    rw [step]
    split
    · next l here => exact hacts here (Host.accept_touches l.socket b.host)
    · exact .refl _ b.host
  | isListening k =>
    rw [step]
    split
    · next l here =>
      exact hacts here (.of_uses (Host.serverStatus_uses l.socket b.host).standing)
    · exact .refl _ b.host
  | closeListener k =>
    rw [step]
    split
    · next l here => exact hacts here (Host.tryStop_touches l.socket b.host)
    · exact .refl _ b.host
  | datagrams k op =>
    rw [step]
    split
    · next d here =>
      obtain ⟨i, index⟩ := Option.isSome_iff_exists.mp (named d (List.mem_of_getElem? here))
      exact hacts here (op.run_touches index b.host)
    · exact .refl _ b.host
  | closeDatagrams k =>
    rw [step]
    split
    · next d here => exact hacts here (Host.tryStop_touches d.socket b.host)
    · exact .refl _ b.host

/-- Where an object of the board after an event comes from. -/
inductive Origin (b : Board) (e : BoardEvent) (k : Nat) : Owner → Prop
  | kept (o : Owner) (here : b.owners[k]? = some o) : Origin b e k o
  | stream (s : Stream) : Origin b e k (.stream s)
  | closed : Origin b e k .closed
  | listener (l : Listener) (new : b.owners.length ≤ k)
    (opening : Host.Opening .server b.host (.ok l.socket, (b.step e).host)) :
    Origin b e k (.listener l)
  | datagrams (d : DatagramSocket) (new : b.owners.length ≤ k)
    (opening : Host.Opening .datagram b.host (.ok d.socket, (b.step e).host)) :
    Origin b e k (.datagrams d)

theorem step_origin (there : (b.step e).owners[k]? = some o) : Origin b e k o := by
  have happend : ∀ {new : List Owner}, (b.owners ++ new)[k]? = some o →
      b.owners[k]? = some o ∨ b.owners.length ≤ k ∧ o ∈ new := by
    intro new hget
    rcases Nat.lt_or_ge k b.owners.length with hlt | hge
    · exact Or.inl ((List.getElem?_append_left hlt).symm.trans hget)
    · rw [List.getElem?_append_right hge] at hget
      exact Or.inr ⟨hge, List.mem_of_getElem? hget⟩
  have hset : ∀ {j : Nat} {p : Owner}, (b.owners.set j p)[k]? = some o →
      b.owners[k]? = some o ∨ o = p := by
    intro j p hget
    by_cases hj : j = k
    · subst hj
      rw [List.getElem?_set_self'] at hget
      cases here : b.owners[j]? with
      | none =>
        rw [here] at hget
        cases hget
      | some q =>
        rw [here] at hget
        exact Or.inr (Option.some.inj hget).symm
    · exact Or.inl ((List.getElem?_set_ne hj).symm.trans hget)
  have hmake : ∀ {α : Type} {x : HostM Line α} {owner : α → Owner} (object : SocketHandle → α)
      {kind : SocketKind} {y : HostM Line SocketHandle},
      x.run.run b.host = ((y.run b.host).1.map object, (y.run b.host).2) →
      Host.Opening kind b.host (y.run b.host) → (b.make x owner).owners[k]? = some o →
      b.owners[k]? = some o ∨ b.owners.length ≤ k ∧ ∃ socket, o = owner (object socket) ∧
        Host.Opening kind b.host (.ok socket, (b.make x owner).host) := by
    intro α x owner object kind y run opening hget
    have hmade := make_eq object run owner
    rcases hy : y.run b.host with ⟨e | socket, after⟩
    all_goals
      rw [hy] at opening hmade
      rw [hmade] at hget ⊢
    · exact Or.inl hget
    · refine (happend hget).imp id fun ⟨hlength, hmem⟩ => ⟨hlength, socket, ?_, opening⟩
      exact List.mem_singleton.mp hmem
  cases e with
  | happens happening => exact .kept o there
  | newStream =>
    rcases happend there with here | ⟨-, hnew⟩
    · exact .kept o here
    · exact List.mem_singleton.mp hnew ▸ .stream .idle
  | bind port =>
    rcases hmake (fun socket => (⟨socket, port⟩ : Listener)) (Host.run_map _ _ _)
      (Host.startServer_opening port .tcp) there with here | ⟨hlength, socket, rfl, opening⟩
    · exact .kept o here
    · exact .listener ⟨socket, port⟩ hlength opening
  | bindDatagrams port =>
    rcases hmake (fun socket => (⟨socket, port⟩ : DatagramSocket)) (Host.run_map _ _ _)
      (Host.startServer_opening port .udp) there with here | ⟨hlength, socket, rfl, opening⟩
    · exact .kept o here
    · exact .datagrams ⟨socket, port⟩ hlength opening
  | bindMulticast group port =>
    rcases hmake (fun socket => (⟨socket, port⟩ : DatagramSocket)) (Host.run_map _ _ _)
      (Host.startServerAt_opening group port .udpMulticast) there with
      here | ⟨hlength, socket, rfl, opening⟩
    · exact .kept o here
    · exact .datagrams ⟨socket, port⟩ hlength opening
  | stream j op =>
    rw [step] at there
    split at there
    · rcases hset there with here | rfl
      · exact .kept o here
      · exact .stream _
    · exact .kept o there
  | accept j =>
    rw [step] at there
    split at there
    · rcases happend there with here | ⟨-, hnew⟩
      · exact .kept o here
      · obtain ⟨client, -, rfl⟩ := List.mem_map.mp hnew
        exact .stream client
    · exact .kept o there
  | isListening j =>
    rw [step] at there
    split at there <;> exact .kept o there
  | closeListener j | closeDatagrams j =>
    rw [step] at there
    split at there
    · rcases hset there with here | rfl
      · exact .kept o here
      · exact .closed
    · exact .kept o there
  | datagrams j op =>
    rw [step] at there
    split at there <;> exact .kept o there

end Board

/-- What happens on a board, or to the link under it. -/
inductive Occurrence where
  | event (e : BoardEvent)
  | startLink
  | stopLink
  deriving DecidableEq

namespace Occurrence

def keepsLink : Occurrence → Bool
  | event _ => true
  | _ => false

def losesNothing : Occurrence → Bool
  | event e => e.losesNothing
  | _ => true

end Occurrence

namespace Board

def occur (b : Board) : Occurrence → Board
  | .event e => b.step e
  | .startLink => ⟨{ b.host with link := b.host.link.start }, b.owners⟩
  | .stopLink => ⟨{ b.host with link := b.host.link.stop }, b.owners⟩

def occurs (b : Board) : List Occurrence → Board
  | [] => b
  | o :: rest => (b.occur o).occurs rest

variable {b : Board} {o : Occurrence}

theorem occurs_append (b : Board) (first rest : List Occurrence) :
    b.occurs (first ++ rest) = (b.occurs first).occurs rest := by
  induction first generalizing b with
  | nil => rfl
  | cons o first ih => exact ih (b.occur o)

/-- What no reset takes from a board: free slots are as they should be, datagram sockets hold a
socket, and no reply is to be lost. -/
structure Tidy (b : Board) : Prop where
  orderly : ∀ i, (b.found i).Orderly
  named : b.Named
  kept : ∀ c, b.host.link.device.lossesLeft c = 0

theorem start_tidy {link : Link Line} (fresh : ∀ i, link.found i = Socket.free)
    (kept : ∀ c, link.device.lossesLeft c = 0) (sockets : SocketSettings)
    (station : StationSettings) : Tidy (start link sockets station) where
  orderly i := by
    have hfound : (start link sockets station).found i = Socket.free := fresh i
    rw [hfound]
    exact .free
  named _ hd := absurd hd List.not_mem_nil
  kept := kept

namespace Tidy

theorem told (h : Tidy b) {happening : Happening} (keeps : happening.losesNothing = true) :
    Tidy (b.told happening) where
  orderly i := by
    cases hinit : b.host.link.initialized with
    | false =>
      have hsame : (b.told happening).found i = b.found i :=
        Link.found_told_before hinit happening.apply i
      rw [hsame]
      exact h.orderly i
    | true =>
      have hafter : (b.told happening).found i =
          (happening.apply b.host.link.transport.state).sockets.get i :=
        Link.found_told hinit happening.apply i
      have horderly : (b.host.link.transport.state.sockets.get i).Orderly := by
        have hbefore := h.orderly i
        rwa [found, Link.found_of_initialized hinit] at hbefore
      rw [hafter]
      rcases happening.apply_cases b.host.link.transport.state with
        ⟨-, hclaims⟩ | ⟨port, peer, data, listener, m, -, -, hserves, -, -, hstate⟩
      · exact horderly.of_same (hclaims i).1 (hclaims i).2.1 (hclaims i).2.2.1
      · rw [hstate, State.get_modifySocket, State.get_modifySocket]
        -- the slot is the listener's, the new connection's, both or neither
        split
        · next hlistener =>
          split
          · exact .of_reserved rfl
          · exact .of_reserved (horderly.reserved (by rw [← hlistener, hserves]; decide))
        · split
          · exact .of_reserved rfl
          · exact horderly
  named := h.named
  kept c := by
    refine (Link.lossesLeft_device _ c).trans ?_
    refine Happening.apply_kept keeps (fun c => ?_) c
    exact (Link.lossesLeft_device _ c).symm.trans (h.kept c)

theorem step (h : Tidy b) {e : BoardEvent} (keeps : e.losesNothing = true) : Tidy (b.step e) := by
  by_cases inside : ∀ happening, e ≠ .happens happening
  · have htouches := step_touches h.named inside
    refine ⟨htouches.orderly h.orderly, fun d hd => ?_,
      fun c => Nat.le_zero.mp (h.kept c ▸ htouches.losses c)⟩
    obtain ⟨k, hk⟩ := List.mem_iff_getElem?.mp hd
    cases step_origin hk with
    | kept o here => exact h.named d (List.mem_of_getElem? here)
    | datagrams d new opening =>
      cases opening with
      | opened socket after i index => exact SocketHandle.isValid_of_some index
  · obtain ⟨happening, he⟩ := not_forall_not.mp inside
    subst he
    exact h.told keeps

theorem occur (h : Tidy b) (keeps : o.losesNothing = true) : Tidy (b.occur o) := by
  have hreset : ∀ link : Link Line, (∀ i, link.found i = Socket.free) →
      (∀ c, link.transport.state.lossesLeft c = b.host.link.transport.state.lossesLeft c) →
      Tidy ⟨{ b.host with link := link }, b.owners⟩ := by
    intro link free lost
    refine ⟨fun i => ?_, h.named, fun c => ?_⟩
    · change (link.found i).Orderly
      rw [free]
      exact .free
    · change link.device.lossesLeft c = 0
      rw [Link.lossesLeft_device, lost, ← Link.lossesLeft_device]
      exact h.kept c
  cases o with
  | event e => exact h.step keeps
  | startLink => exact hreset _ (Link.start_found _) fun _ => rfl
  | stopLink => exact hreset _ (Link.stop_found _) fun _ => rfl

theorem occurs (h : Tidy b) {occurrences : List Occurrence}
    (keeps : ∀ o ∈ occurrences, o.losesNothing = true) : Tidy (b.occurs occurrences) := by
  induction occurrences generalizing b with
  | nil => exact h
  | cons o rest ih =>
    obtain ⟨hfirst, hrest⟩ := List.forall_mem_cons.mp keeps
    exact ih (h.occur hfirst) hrest

end Tidy

end Board

end SpiWifi
