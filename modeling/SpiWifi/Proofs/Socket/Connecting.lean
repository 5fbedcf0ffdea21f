import SpiWifi.Proofs.Link.Delivery
import SpiWifi.Proofs.Socket.Receiving

/-!
# Opening a connection

To connect, the host reserves a socket on the device, asks for the connection and polls its state.
However that ends, the sockets that were reserved before are left alone, and so are their receive
caches. If it succeeds, the connection is on a socket that nobody had, it is established, and nothing
was received on it yet.
-/

namespace SpiWifi

open Device

namespace Device.State

theorem findSlot?_some {s : State} {p : Device.Socket → Bool} {i : Fin socketCount}
    (h : s.findSlot? p = some i) : p (s.sockets.get i) = true := by
  obtain ⟨j, hj, rfl⟩ := Option.map_eq_some_iff.mp h
  exact (Array.findFinIdx?_eq_some_iff.mp hj).1

/-- A reservation takes a socket that nobody has. -/
theorem reserve_cases (s : State) :
    (∃ i, (s.sockets.get i).reserved = false ∧ s.reserve = (UInt8.ofNat i,
      s.modifySocket i fun socket => { socket with reserved := true })) ∨
    s.reserve = (SocketHandle.none.raw, s) := by
  unfold reserve
  cases hfound : s.findSlot? fun socket => !socket.reserved with
  | none => exact Or.inr rfl
  | some i =>
    refine Or.inl ⟨i, ?_, rfl⟩
    have hfree := findSlot?_some hfound
    rwa [Bool.not_eq_true'] at hfree

/-- A socket on which a client connected, or is in a handshake that never ends. -/
structure Fresh (socket : Device.Socket) : Prop where
  reserved : socket.reserved = true
  kind : socket.kind = .client
  rx : socket.rx = []
  established : socket.state.isConnected = true → socket.state = .established

theorem connectSlot_cases (s : State) (i : Fin socketCount) (peer : Endpoint) :
    let (acknowledged, s') := s.connectSlot i peer 0
    (∀ j, j ≠ i → s'.sockets.get j = s.sockets.get j) ∧
      (acknowledged = true → Fresh (s'.sockets.get i)) := by
  have hstream : SocketMode.isDatagram 0 ≠ true := by decide
  have hclient : ∀ f : Device.Socket → Device.Socket, Fresh (f (s.sockets.get i)) →
      (∀ j, j ≠ i → (s.modifySocket i f).sockets.get j = s.sockets.get j) ∧
        (true = true → Fresh ((s.modifySocket i f).sockets.get i)) := by
    intro f hf
    refine ⟨fun j hne => (get_modifySocket _ _ _ _).trans (if_neg hne.symm), fun _ => ?_⟩
    rw [get_modifySocket, if_pos rfl]
    exact hf
  unfold connectSlot
  rw [if_neg hstream]
  cases s.connect with
  | establish => exact hclient _ ⟨rfl, rfl, rfl, fun _ => rfl⟩
  | stuck => exact hclient _ ⟨rfl, rfl, rfl, fun h => nomatch h⟩
  | refuse => exact ⟨fun _ _ => rfl, fun h => nomatch h⟩

end Device.State

theorem SocketHandle.index?_ofNat (i : Fin socketCount) :
    SocketHandle.index? ⟨UInt8.ofNat i⟩ = some i := by
  revert i
  decide

namespace Link

variable {l : Link Line} {f : Frame}

/-- After a reset that is due, a link is served if its settings allow it and no reply is to be
lost. -/
theorem ensureReset_served_iff :
    l.ensureReset.Served ↔ 252 ≤ l.settings.maxFrameSize.toNat ∧
      1 ≤ l.settings.startBudget.toNat ∧ ∀ c, l.transport.state.lossesLeft c = 0 := by
  obtain ⟨d, signals, settings, initialized, patience⟩ := l
  cases initialized with
  | false => exact ⟨fun h => ⟨h.size, h.budget, h.kept⟩, fun h => ⟨rfl, h.1, h.2.1, h.2.2⟩⟩
  | true => exact ⟨fun h => ⟨h.size, h.budget, h.kept⟩, fun h => ⟨rfl, h.1, h.2.1, h.2.2⟩⟩

theorem ensureReset_settings (l : Link Line) : l.ensureReset.settings = l.settings := by
  unfold ensureReset
  split <;> rfl

theorem ensureReset_of_initialized (h : l.initialized = true) : l.ensureReset = l := if_pos h

/-- A request begins with the reset that is due. -/
theorem request_ensureReset (size : 252 ≤ l.settings.maxFrameSize.toNat) (fits : f.Fits)
    (slots : List Slot) : (request f slots).run l.ensureReset = (request f slots).run l := by
  have hout : ∀ l' : Link Line, l'.settings = l.settings → l'.settings.outgoing f = .ok f.bytes := by
    intro l' h
    rw [h]
    exact outgoing_of_encode size (Frame.encode_ok_iff.mpr ⟨fits, rfl⟩)
  rw [run_request, run_request, send_device (hout l rfl) rfl,
    send_device (hout l.ensureReset (ensureReset_settings l)) rfl]
  obtain ⟨d, signals, settings, initialized, patience⟩ := l
  cases initialized <;> rfl

/-- If no byte is searched for the beginning of a reply, every request fails. -/
theorem request_of_no_budget (h : l.settings.startBudget.toNat = 0) (f : Frame)
    (slots : List Slot) :
    ∃ e after l', (request f slots).run l = ((.error e, after), l') ∧ l'.settings = l.settings := by
  cases hout : l.settings.outgoing f with
  | error e => exact ⟨.protocol e, slots, l, by rw [run_request, run_send, hout], rfl⟩
  | ok tx =>
    rw [run_request, send_device hout (head?_of_outgoing hout)]
    dsimp only
    rw [run_receive, fetch_device, ensureReset_settings]
    dsimp only
    generalize Bytes.fit _ _ = rx
    rcases hread : readReply l.settings f.opcode (replyWidth f) slots rx with ⟨e | reply, after⟩
    · exact ⟨e, after, _, rfl, ensureReset_settings _⟩
    · obtain ⟨_, filler, hbudget, -, -⟩ :=
        header_of_readReply (congrArg Prod.fst hread)
      rw [h] at hbudget
      exact absurd hbudget (Nat.not_lt_zero _)

end Link

namespace Host

section
variable {host : Host Line} (served : host.link.Served)
include served

theorem acquire_cases :
    (∃ e after, acquire.run host = (.error e, after) ∧ Rests host after) ∨
    (∃ socket i after, acquire.run host = (.ok socket, after) ∧ socket.index? = some i ∧
      (host.link.socketAt i).reserved = false ∧ after.link.Served ∧ after.cache = host.cache ∧
      ∀ j, j ≠ i → after.link.socketAt j = host.link.socketAt j) := by
  obtain ⟨hget, hserved⟩ := Link.getSocket_served served
  unfold acquire
  rw [run_bind, run_ask, hget]
  dsimp only
  rcases (host.link.transport.state.recorded .getSocket).reserve_cases with
    ⟨i, hfree, hreserve⟩ | hreserve
  · rw [hreserve] at hserved ⊢
    have hvalid : SocketHandle.isValid ⟨UInt8.ofNat i⟩ = true :=
      SocketHandle.isValid_of_some (SocketHandle.index?_ofNat i)
    rw [if_pos hvalid]
    refine Or.inr ⟨⟨UInt8.ofNat i⟩, i, _, rfl, SocketHandle.index?_ofNat i, hfree, hserved, rfl,
      fun j hne => ?_⟩
    exact (State.get_modifySocket _ _ _ _).trans (if_neg hne.symm)
  · rw [hreserve] at hserved ⊢
    exact Or.inl ⟨.noSocketAvailable, _, rfl, hserved, rfl, fun _ => rfl⟩

theorem start_cases (ip : Ipv4) (port : UInt16) {socket : SocketHandle} {i : Fin socketCount}
    (hi : socket.index? = some i) :
    ∃ acknowledged after,
      (ask (Link.startClient ip port socket .tcp)).run host = (.ok acknowledged, after) ∧
      after.link.Served ∧ after.cache = host.cache ∧
      (∀ j, j ≠ i → after.link.socketAt j = host.link.socketAt j) ∧
      (acknowledged = true → State.Fresh (after.link.socketAt i)) := by
  obtain ⟨hstart, hserved⟩ := Link.startClient_served served ip port hi
  have hslot := (host.link.transport.state.recorded .startClientTcp).connectSlot_cases i ⟨ip, port⟩
  exact ⟨_, _, run_ask_of_ok hstart, hserved, rfl, hslot⟩

/-- A poll for a connection changes nothing, and what it waits for is that it is alive. -/
theorem poll_cases {socket : SocketHandle} {i : Fin socketCount} (hi : socket.index? = some i)
    (budget : Nat) :
    let polled := pollFor (attempt (Link.clientState socket)) connectedAnswer budget host
    Rests host polled.2 ∧
      (polled.1.isSome = true → (host.link.socketAt i).state.isConnected = true) := by
  induction budget generalizing host with
  | zero => exact ⟨⟨served, rfl, fun _ => rfl⟩, fun h => nomatch h⟩
  | succ budget ih =>
    obtain ⟨hask, hrests⟩ := attempt_clientState served hi
    rcases hasked : attempt (Link.clientState socket) host with ⟨answer, after⟩
    rw [hasked] at hask hrests
    cases hask
    cases hlive : (host.link.socketAt i).state.isConnected with
    | true =>
      have hpoll : pollFor (attempt (Link.clientState socket)) connectedAnswer (budget + 1) host =
          (some (), after) := by
        simp only [pollFor, bind, StateT.bind, hasked, connectedAnswer, hlive, if_true]
        rfl
      dsimp only
      rw [hpoll]
      exact ⟨hrests, fun _ => rfl⟩
    | false =>
      have hpoll : pollFor (attempt (Link.clientState socket)) connectedAnswer (budget + 1) host =
          pollFor (attempt (Link.clientState socket)) connectedAnswer budget after := by
        simp only [pollFor, bind, StateT.bind, hasked, connectedAnswer, hlive, Bool.false_eq_true,
          if_false]
      obtain ⟨hrest, hfound⟩ := ih hrests.served
      dsimp only
      rw [hpoll]
      refine ⟨hrests.trans hrest, fun h => ?_⟩
      have hafter := hfound h
      rw [hrests.sockets, hlive] at hafter
      exact hafter

theorem awaitConnected_cases {socket : SocketHandle} {i : Fin socketCount}
    (hi : socket.index? = some i) :
    (∃ after, (awaitConnected socket).run host = (.ok socket, after) ∧ Rests host after ∧
      (host.link.socketAt i).state.isConnected = true) ∨
    (∃ e after, (awaitConnected socket).run host = (.error e, after.closeCache socket) ∧
      Rests host after) := by
  obtain ⟨hrests, hfound⟩ := poll_cases served hi host.sockets.connectAttempts.toNat
  rw [run_awaitConnected]
  rcases hpolled : pollFor (attempt (Link.clientState socket)) connectedAnswer
    host.sockets.connectAttempts.toNat host with ⟨_ | _, after⟩
  · rw [hpolled] at hrests
    exact Or.inr ⟨_, after, rfl, hrests⟩
  · rw [hpolled] at hrests hfound
    exact Or.inl ⟨after, rfl, hrests, hfound rfl⟩

/-- What opening a connection does, however it ends. -/
structure Opens (before after : Host Line) (result : Except NetError SocketHandle) : Prop where
  served : after.link.Served
  fits : after.cache.Fits
  capacity : after.cache.capacity = before.cache.capacity
  kept : ∀ i, (before.link.socketAt i).reserved = true →
    after.link.socketAt i = before.link.socketAt i
  cached : ∀ h i, h.index? = some i → (before.link.socketAt i).reserved = true →
    after.cache.bytes h = before.cache.bytes h
  dry : ∀ h, before.cache.bytes h = [] → after.cache.bytes h = []
  opened : ∀ socket, result = .ok socket → ∃ i, socket.index? = some i ∧
    (before.link.socketAt i).reserved = false ∧ State.Fresh (after.link.socketAt i) ∧
    (after.link.socketAt i).state = .established

omit served in
/-- As long as only a socket that nobody had was changed, and its cache at most freed. -/
theorem opens_of_changed {host' : Host Line} {result : Except NetError SocketHandle}
    {socket : SocketHandle} {i : Fin socketCount} (fits : host.cache.Fits)
    (hi : socket.index? = some i) (hfree : (host.link.socketAt i).reserved = false)
    (hserved : host'.link.Served)
    (hcache : host'.cache = host.cache ∨ host'.cache = host.cache.close socket)
    (hothers : ∀ j, j ≠ i → host'.link.socketAt j = host.link.socketAt j)
    (hopened : ∀ opened, result = .ok opened → opened = socket ∧
      State.Fresh (host'.link.socketAt i) ∧ (host'.link.socketAt i).state = .established) :
    Opens host host' result := by
  have hne : ∀ j, (host.link.socketAt j).reserved = true → j ≠ i := by
    rintro j hj rfl
    rw [hfree] at hj
    cases hj
  have hbytes : ∀ h, h ≠ socket → host'.cache.bytes h = host.cache.bytes h := by
    intro h hh
    rcases hcache with hsame | hclosed
    · rw [hsame]
    · rw [hclosed]
      exact ReceiveCache.bytes_congr (ReceiveCache.entry?_close_ne hh _)
  refine ⟨hserved, ?_, ?_, fun j hj => hothers j (hne j hj), fun h j hj hres => hbytes h ?_,
    fun h hdry => ?_, fun opened hok => ?_⟩
  · rcases hcache with hsame | hclosed
    · rw [hsame]
      exact fits
    · rw [hclosed]
      exact fits.close socket
  · rcases hcache with hsame | hclosed
    · rw [hsame]
    · rw [hclosed, ReceiveCache.capacity_close]
  · rintro rfl
    exact hne j hres (Option.some.inj (hj.symm.trans hi))
  · by_cases hh : h = socket
    · rcases hcache with hsame | hclosed
      · rw [hsame]
        exact hdry
      · rw [hclosed, hh, ReceiveCache.bytes, ReceiveCache.entry?_close_self]
        rfl
    · rw [hbytes h hh, hdry]
  · obtain ⟨rfl, hfresh, hestablished⟩ := hopened opened hok
    exact ⟨i, hi, hfree, hfresh, hestablished⟩

theorem tryConnect_opens (fits : host.cache.Fits) (ip : Ipv4) (port : UInt16) :
    Opens host ((tryConnect ip port .tcp).run host).2 ((tryConnect ip port .tcp).run host).1 := by
  unfold tryConnect connectBy
  rw [run_bind]
  rcases acquire_cases served with ⟨e, after, hacquire, hrests⟩ |
    ⟨socket, i, acquired, hacquire, hi, hfree, hserved, hcache, hothers⟩
  · rw [hacquire]
    exact ⟨hrests.served, by rw [hrests.cache]; exact fits, by rw [hrests.cache],
      fun i _ => hrests.sockets i, fun _ _ _ _ => by rw [hrests.cache],
      fun _ hdry => by rw [hrests.cache]; exact hdry, fun _ h => nomatch h⟩
  · rw [hacquire]
    obtain ⟨acknowledged, started, hstart, hstarted, hsame, hrest, hfresh⟩ :=
      start_cases hserved ip port hi
    dsimp only
    rw [run_bind, hstart]
    dsimp only
    cases acknowledged with
    | false =>
      refine opens_of_changed fits hi hfree hstarted (Or.inl (hsame.trans hcache))
        (fun j hj => (hrest j hj).trans (hothers j hj)) (fun _ h => nomatch h)
    | true =>
      rw [if_pos rfl]
      rcases awaitConnected_cases hstarted hi with
        ⟨last, hawait, hlast, hlive⟩ | ⟨e, last, hawait, hlast⟩
      · rw [hawait]
        refine opens_of_changed fits hi hfree hlast.served
          (Or.inl (hlast.cache.trans (hsame.trans hcache)))
          (fun j hj => (hlast.sockets j).trans ((hrest j hj).trans (hothers j hj)))
          fun opened hok => ?_
        cases hok
        rw [hlast.sockets]
        exact ⟨rfl, hfresh rfl, (hfresh rfl).established hlive⟩
      · rw [hawait]
        refine opens_of_changed fits hi hfree hlast.served (Or.inr ?_)
          (fun j hj => (hlast.sockets j).trans ((hrest j hj).trans (hothers j hj)))
          (fun _ h => nomatch h)
        rw [closeCache, hlast.cache, hsame, hcache]

end

theorem run_tryConnect_congr {host host' : Host Line}
    (h : acquire.run host = acquire.run host') (ip : Ipv4) (port : UInt16) :
    (tryConnect ip port .tcp).run host = (tryConnect ip port .tcp).run host' := by
  unfold tryConnect connectBy
  rw [run_bind, run_bind, h]

theorem getSocket_fits : (Frame.command .getSocket).Fits :=
  Frame.fits_of_short (Nat.zero_le _) fun _ hp => absurd hp List.not_mem_nil

/-- A connection begins with the reset that is due. -/
theorem run_tryConnect_ensureReset {host : Host Line}
    (size : 252 ≤ host.link.settings.maxFrameSize.toNat) (ip : Ipv4) (port : UInt16) :
    (tryConnect ip port .tcp).run host =
      (tryConnect ip port .tcp).run { host with link := host.link.ensureReset } := by
  refine run_tryConnect_congr ?_ ip port
  have hrequest := Link.request_ensureReset size getSocket_fits [Slot.forValue 1]
  have hget : (Link.getSocket : LinkM Line SocketHandle).run host.link.ensureReset =
      (Link.getSocket : LinkM Line SocketHandle).run host.link := by
    unfold Link.getSocket Link.readU8 Link.readValue
    simp only [Link.run_bind, Link.run_call, hrequest]
  unfold acquire
  rw [run_bind, run_bind, run_ask, run_ask, hget]

theorem tryConnect_of_no_budget {host : Host Line}
    (h : host.link.settings.startBudget.toNat = 0) (ip : Ipv4) (port : UInt16) :
    ∃ e link, (tryConnect ip port .tcp).run host = (.error e, { host with link := link }) ∧
      link.settings = host.link.settings := by
  obtain ⟨e, after, link, hrequest, hsettings⟩ :=
    Link.request_of_no_budget h (Frame.command .getSocket) [Slot.forValue 1]
  refine ⟨.link e, link, ?_, hsettings⟩
  unfold tryConnect connectBy acquire
  unfold Link.getSocket Link.readU8 Link.readValue
  simp only [run_bind, run_ask, Link.run_bind, Link.run_call, hrequest]

end Host

end SpiWifi
