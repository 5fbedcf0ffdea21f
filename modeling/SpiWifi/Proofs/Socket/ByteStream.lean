import SpiWifi.Proofs.Socket.Conversation

/-!
# Connections carry byte streams

In every conversation what was returned to a client, what is cached for it and what the device still
holds are together what its peer pushed, in order. From this follows what a client can conclude from
an answer: a byte it looked at comes next, a read that would block has nothing left to give, and the
end of the stream is where its peer closed.
-/

namespace SpiWifi

open Device

namespace Device.State

theorem get_onSocket (s : State) (raw : UInt8) (f : Device.Socket → Device.Socket)
    (i : Fin socketCount) :
    (s.onSocket raw f).sockets.get i =
      if SocketHandle.slotOf? raw = some i then f (s.sockets.get i) else s.sockets.get i := by
  unfold onSocket
  cases SocketHandle.slotOf? raw with
  | none => rfl
  | some j => simp only [get_modifySocket, Option.some.injEq]

theorem lost_onSocket (s : State) (raw : UInt8) (f : Device.Socket → Device.Socket) :
    (s.onSocket raw f).lost = s.lost := by
  unfold onSocket
  split <;> rfl

end Device.State

theorem SocketHandle.slotOf?_eq_iff {h : SocketHandle} {i : Fin socketCount} (hi : h.index? = some i)
    (raw : UInt8) : slotOf? raw = some i ↔ h.raw = raw := by
  constructor
  · intro hraw
    exact congrArg SocketHandle.raw (@eq_of_index? h ⟨raw⟩ i hi hraw)
  · rintro rfl
    exact hi

theorem Host.socketAt_told (host : Host Line) (raw : UInt8) (f : Device.Socket → Device.Socket)
    (i : Fin socketCount) :
    (host.told fun device => device.onSocket raw f).link.socketAt i =
      if SocketHandle.slotOf? raw = some i then f (host.link.socketAt i)
      else host.link.socketAt i :=
  State.get_onSocket host.link.transport.state raw f i

/-- The client's socket on the device is its own, and the bytes returned to it, those cached for it
and those that the device holds are those that were pushed. If its handle was dropped there is
nothing more to come. -/
structure Client.Sound (host : Host Line) (c : Client) (i : Fin socketCount) : Prop where
  home : c.home.index? = some i
  reserved : (host.link.socketAt i).reserved = true
  kind : (host.link.socketAt i).kind = .client
  state : (host.link.socketAt i).state = if c.closed then .closeWait else .established
  unread : c.returned ++ host.unread c.home = c.pushed
  handle : c.stream.socket = c.home ∨
    (c.stream.socket = .none ∧ c.closed = true ∧ c.returned = c.pushed)

theorem Client.Sound.closed {host : Host Line} {c : Client} {i : Fin socketCount}
    (h : c.Sound host i) (hdead : (host.link.socketAt i).state.isConnected = false) :
    c.closed = true := by
  rw [h.state] at hdead
  cases hclosed : c.closed with
  | true => rfl
  | false =>
    rw [hclosed] at hdead
    cases hdead

/-- What an operation of a client does: it takes the bytes that it returns off the front of the
unread ones, and drops the handle only where nothing more can come. -/
structure Client.Turns {α : Type} (c : Client) (host : Host Line) (i : Fin socketCount)
    (x : StateM (Stream × Host Line) α) (bytes : α → Bytes) : Prop where
  takes : Host.Takes c.home (bytes (x.run (c.stream, host)).1) host (x.run (c.stream, host)).2.2
  handle : (x.run (c.stream, host)).2.1.socket = c.stream.socket ∨
    ((x.run (c.stream, host)).2.1.socket = .none ∧
      (host.link.socketAt i).state.isConnected = false ∧
      (x.run (c.stream, host)).2.2.unread c.home = [])

namespace Client.Sound

variable {c : Client} {host : Host Line} {i : Fin socketCount} (hc : c.Sound host i)
  (ha : host.Attends c.home i)
include hc ha

/-- Either the client still has its handle, or the operation does nothing. -/
theorem turns_of_cases {α : Type} {x : StateM (Stream × Host Line) α} {bytes : α → Bytes}
    (live : c.stream.socket = c.home → host.Attends c.stream.socket i → c.Turns host i x bytes)
    (ended : c.stream.socket = .none →
      ∃ a, x.run (c.stream, host) = (a, c.stream, host) ∧ bytes a = []) :
    c.Turns host i x bytes := by
  rcases hc.handle with hhome | ⟨hnone, -, -⟩
  · exact live hhome (by rwa [hhome])
  · obtain ⟨a, hrun, hbytes⟩ := ended hnone
    refine ⟨?_, Or.inl (by rw [hrun])⟩
    rw [hrun, hbytes]
    exact Host.Takes.nothing ha.served ha.fits

theorem receive_turns (n : Nat) : c.Turns host i (Stream.receive n).run bytesRead := by
  refine hc.turns_of_cases ha (fun hhome hstream => ?_)
    fun hnone => ⟨.ok [], Stream.receive_of_ended hnone host n, rfl⟩
  by_cases hn : 0 < n
  · rcases Stream.receive_cases hstream hn with
      ⟨b, bytes, after, hrun, htakes⟩ | ⟨after, hrun, htakes, -, -⟩ |
      ⟨after, hrun, htakes, hunread, hdead⟩
    all_goals
      change (Stream.receive n).run.run (c.stream, host) = _ at hrun
      rw [hhome] at htakes
    · exact ⟨by rw [hrun]; exact htakes, Or.inl (by rw [hrun])⟩
    · exact ⟨by rw [hrun]; exact htakes, Or.inl (by rw [hrun])⟩
    · rw [hhome] at hunread
      exact ⟨by rw [hrun]; exact htakes, Or.inr (by rw [hrun]; exact ⟨rfl, hdead, hunread⟩)⟩
  · have hzero : n = 0 := by omega
    rw [hzero]
    exact ⟨Host.Takes.nothing ha.served ha.fits, Or.inl rfl⟩

theorem available_turns : c.Turns host i Stream.available fun _ => [] := by
  refine hc.turns_of_cases ha (fun hhome hstream => ⟨?_, Or.inl rfl⟩)
    fun hnone => ⟨0, Stream.available_of_ended hnone host, rfl⟩
  rw [← hhome]
  exact hstream.available.1

theorem peek_turns : c.Turns host i Stream.peek fun _ => [] := by
  refine hc.turns_of_cases ha (fun hhome hstream => ⟨?_, Or.inl rfl⟩)
    fun hnone => ⟨none, Stream.peek_of_ended hnone host, rfl⟩
  rw [← hhome]
  exact hstream.peek.1

theorem connected_turns : c.Turns host i Stream.connected fun _ => [] := by
  refine hc.turns_of_cases ha (fun hhome hstream => ?_)
    fun hnone => ⟨false, Stream.connected_of_ended hnone host, rfl⟩
  obtain ⟨answer, after, hrun, htakes, hdead, -⟩ := Stream.connected_cases hstream
  change Stream.connected.run (c.stream, host) = _ at hrun
  rw [hhome] at htakes hdead
  refine ⟨by rw [hrun]; exact htakes, ?_⟩
  rw [hrun]
  cases answer with
  | true => exact Or.inl rfl
  | false => exact Or.inr ⟨rfl, (hdead rfl).2, (hdead rfl).1⟩

omit hc ha in
/-- The operation leaves the client in order. -/
theorem turned (hc : c.Sound host i) {α : Type} {x : StateM (Stream × Host Line) α}
    {bytes : α → Bytes} (hturns : c.Turns host i x bytes) :
    Client.Sound (x.run (c.stream, host)).2.2
      { c with
        stream := (x.run (c.stream, host)).2.1
        returned := c.returned ++ bytes (x.run (c.stream, host)).1 } i := by
  obtain ⟨htakes, hhandle⟩ := hturns
  have hunread := hc.unread
  rw [htakes.unread, ← List.append_assoc] at hunread
  refine ⟨hc.home, (htakes.reserved i).trans hc.reserved, (htakes.kind i).trans hc.kind,
    (htakes.state i).trans hc.state, hunread, ?_⟩
  rcases hhandle with hsame | ⟨hnone, hdead, hempty⟩
  · dsimp only
    rw [hsame]
    rcases hc.handle with hhome | ⟨hnone, hclosed, hall⟩
    · exact Or.inl hhome
    · refine Or.inr ⟨hnone, hclosed, ?_⟩
      -- what was returned before is all, so nothing was added to it
      rw [← hall, List.append_assoc] at hunread
      have hnil := List.append_right_eq_self.mp hunread
      rw [(List.append_eq_nil_iff.mp hnil).1, List.append_nil]
      exact hall
  · rw [hempty, List.append_nil] at hunread
    exact Or.inr ⟨hnone, hc.closed hdead, hunread⟩

omit hc ha in
/-- A host with the same socket and the same cached bytes. -/
theorem congr (hc : c.Sound host i) {host' : Host Line}
    (cached : host'.cache.bytes c.home = host.cache.bytes c.home)
    (socket : host'.link.socketAt i = host.link.socketAt i) : c.Sound host' i where
  home := hc.home
  reserved := by rw [socket, hc.reserved]
  kind := by rw [socket, hc.kind]
  state := by rw [socket, hc.state]
  unread := by
    rw [Host.unread, cached, Link.queue_eq hc.home, socket, ← Link.queue_eq hc.home]
    exact hc.unread
  handle := hc.handle

section
variable (raw : UInt8)
omit hc ha

/-- What happens to another socket does not touch the client. -/
theorem told_elsewhere (hc : c.Sound host i) (hne : c.home.raw ≠ raw)
    (f : Device.Socket → Device.Socket) :
    c.Sound (host.told fun device => device.onSocket raw f) i := by
  refine hc.congr rfl ?_
  rw [Host.socketAt_told, if_neg]
  rwa [SocketHandle.slotOf?_eq_iff hc.home]

theorem pushed (hc : c.Sound host i) (hraw : c.home.raw = raw) (live : c.closed = false)
    (data : Bytes) :
    Client.Sound (host.told fun device => device.pushIncoming raw data)
      { c with pushed := c.pushed ++ data } i := by
  have hsocket : (host.told fun device => device.pushIncoming raw data).link.socketAt i =
      { host.link.socketAt i with rx := (host.link.socketAt i).rx ++ data } := by
    refine (Host.socketAt_told host raw _ i).trans (if_pos ?_)
    rwa [SocketHandle.slotOf?_eq_iff hc.home]
  refine ⟨hc.home, by rw [hsocket]; exact hc.reserved, by rw [hsocket]; exact hc.kind,
    by rw [hsocket]; exact hc.state, ?_, ?_⟩
  · have hunread := hc.unread
    rw [Host.unread, Link.queue_eq hc.home] at hunread
    rw [Host.unread, Link.queue_eq hc.home, hsocket, ← hunread, List.append_assoc,
      List.append_assoc]
    rfl
  · rcases hc.handle with hhome | ⟨-, hclosed, -⟩
    · exact Or.inl hhome
    · rw [live] at hclosed
      cases hclosed

theorem remoteClosed (hc : c.Sound host i) (hraw : c.home.raw = raw) :
    Client.Sound (host.told fun device => device.closeRemote raw) { c with closed := true } i := by
  have hsocket : (host.told fun device => device.closeRemote raw).link.socketAt i =
      { host.link.socketAt i with state := .closeWait } := by
    refine (Host.socketAt_told host raw _ i).trans ?_
    rw [if_pos ((SocketHandle.slotOf?_eq_iff hc.home raw).mpr hraw)]
    have hstate := hc.state
    split
    · rfl
    · next hother =>
      cases hclosed : c.closed with
      | true =>
        rw [hclosed, if_pos rfl] at hstate
        rw [← hstate]
      | false =>
        rw [hclosed] at hstate
        exact absurd hstate hother
  refine ⟨hc.home, by rw [hsocket]; exact hc.reserved, by rw [hsocket]; exact hc.kind,
    by rw [hsocket]; rfl, ?_, ?_⟩
  · have hunread := hc.unread
    rw [Host.unread, Link.queue_eq hc.home] at hunread
    rw [Host.unread, Link.queue_eq hc.home, hsocket]
    exact hunread
  · rcases hc.handle with hhome | ⟨hnone, -, hall⟩
    · exact Or.inl hhome
    · exact Or.inr ⟨hnone, rfl, hall⟩

end

omit hc ha in
/-- An operation on another socket does not touch the client. -/
theorem untouched (hc : c.Sound host i) {socket : SocketHandle} {bytes : Bytes} {host' : Host Line}
    (htakes : Host.Takes socket bytes host host') (hne : c.home ≠ socket) : c.Sound host' i where
  home := hc.home
  reserved := (htakes.reserved i).trans hc.reserved
  kind := (htakes.kind i).trans hc.kind
  state := (htakes.state i).trans hc.state
  unread := by
    rw [Host.unread, htakes.cached _ hne, htakes.queues _ hne]
    exact hc.unread
  handle := hc.handle

end Client.Sound

/-- What holds in the middle of a conversation. -/
structure Conversation.Sound (s : Conversation) : Prop where
  link : s.host.link.ensureReset.Served
  reset : s.clients ≠ [] → s.host.link.initialized = true
  fits : s.host.cache.Fits
  capacity : 2 ≤ s.host.cache.capacity
  dry : ∀ h, (∀ (k : Nat) (c : Client), s.clients[k]? = some c → c.home ≠ h) →
    s.host.cache.bytes h = []
  apart : ∀ (j k : Nat) (c d : Client), s.clients[j]? = some c → s.clients[k]? = some d →
    c.home = d.home → j = k
  each : ∀ (k : Nat) (c : Client), s.clients[k]? = some c → ∃ i, c.Sound s.host i

namespace Conversation

theorem start_sound {link : Link Line} {sockets : SocketSettings} (station : StationSettings)
    (lossless : ∀ c, link.transport.state.lossesLeft c = 0)
    (size : 252 ≤ link.settings.maxFrameSize.toNat) (budget : 1 ≤ link.settings.startBudget.toNat)
    (buffer : 2 ≤ sockets.bufferSize.toNat) : (start link sockets station).Sound where
  link := Link.ensureReset_served_iff.mpr ⟨size, budget, lossless⟩
  reset h := absurd rfl h
  fits := ReceiveCache.new_fits _
  capacity := buffer
  dry h _ := by
    rw [ReceiveCache.bytes, start, Host.new, ReceiveCache.entry?_new]
    rfl
  apart j k c d hc := nomatch hc
  each k c hc := nomatch hc

namespace Sound

variable {s : Conversation} (h : s.Sound)
include h

section
variable {k : Nat} {c : Client} (hk : s.clients[k]? = some c)
include hk

theorem served : s.host.link.Served := by
  have hne : s.clients ≠ [] := List.ne_nil_of_mem (List.mem_of_getElem? hk)
  have hserved := h.link
  rwa [Link.ensureReset_of_initialized (h.reset hne)] at hserved

theorem attends {i : Fin socketCount} (hi : c.Sound s.host i) : s.host.Attends c.home i where
  served := h.served hk
  fits := h.fits
  capacity := h.capacity
  index := hi.home
  stream := by rw [hi.kind]; exact fun h => nomatch h

end

/-- What an event must keep that lets nobody in. -/
theorem keep {host : Host Line} {clients : List Client}
    (homes : ∀ j : Nat, clients[j]?.map Client.home = s.clients[j]?.map Client.home)
    (link : host.link.ensureReset.Served)
    (reset : s.host.link.initialized = true → host.link.initialized = true)
    (fits : host.cache.Fits) (capacity : host.cache.capacity = s.host.cache.capacity)
    (cached : ∀ x, (∀ (k : Nat) (c : Client), s.clients[k]? = some c → c.home ≠ x) →
      host.cache.bytes x = s.host.cache.bytes x)
    (each : ∀ (k : Nat) (c : Client), clients[k]? = some c → ∃ i, c.Sound host i) :
    Sound ⟨host, clients⟩ where
  link := link
  reset hne := by
    refine reset (h.reset fun hnil => hne ?_)
    cases clients with
    | nil => rfl
    | cons c rest =>
      have hfirst := homes 0
      rw [hnil] at hfirst
      cases hfirst
  fits := fits
  capacity := by
    rw [capacity]
    exact h.capacity
  dry x hx := by
    have hbefore : ∀ (k : Nat) (c : Client), s.clients[k]? = some c → c.home ≠ x := by
      intro k c hk
      have hhome := homes k
      rw [hk] at hhome
      obtain ⟨c', hk', hsame⟩ := Option.map_eq_some_iff.mp hhome
      rw [← hsame]
      exact hx k c' hk'
    rw [cached x hbefore]
    exact h.dry x hbefore
  apart j k c d hj hk hsame := by
    have hhome : ∀ {m : Nat} {e : Client}, clients[m]? = some e →
        ∃ e', s.clients[m]? = some e' ∧ e'.home = e.home := by
      intro m e hm
      have hhome := homes m
      rw [hm] at hhome
      exact Option.map_eq_some_iff.mp hhome.symm
    obtain ⟨c', hj', hc⟩ := hhome hj
    obtain ⟨d', hk', hd⟩ := hhome hk
    exact h.apart j k c' d' hj' hk' ((hc.trans hsame).trans hd.symm)
  each := each

theorem act {α : Type} (k : Nat) {x : StateM (Stream × Host Line) α} {bytes : α → Bytes}
    (turns : ∀ (c : Client) (i : Fin socketCount), c.Sound s.host i → s.host.Attends c.home i →
      c.Turns s.host i x bytes) : (s.act k x bytes).Sound := by
  cases hk : s.clients[k]? with
  | none =>
    rw [Conversation.act, hk]
    exact h
  | some c =>
    obtain ⟨i, hc⟩ := h.each k c hk
    have hturns := turns c i hc (h.attends hk hc)
    have hturned := hc.turned hturns
    have htakes := hturns.takes
    have hclients := getElem?_act hk x bytes
    rw [act_of_client hk] at hclients ⊢
    generalize x.run (c.stream, s.host) = result at htakes hturned hclients ⊢
    obtain ⟨answer, stream, host⟩ := result
    dsimp only at htakes hturned hclients ⊢
    refine h.keep (fun j => ?_) ?_ (fun _ => htakes.served.reset) htakes.fits htakes.capacity
      (fun y hy => htakes.cached y (hy k c hk).symm) fun j d hj => ?_
    · rw [hclients]
      split
      · next hkj =>
        rw [← hkj, hk]
        rfl
      · rfl
    · rw [Link.ensureReset_of_initialized htakes.served.reset]
      exact htakes.served
    · rw [hclients] at hj
      split at hj
      · cases hj
        exact ⟨i, hturned⟩
      · next hkj =>
        obtain ⟨i', hd⟩ := h.each j d hj
        refine ⟨i', hd.untouched htakes fun hsame => hkj ?_⟩
        exact (h.apart j k d c hj hk hsame).symm

/-- Something that happens to the device from outside and keeps every client in order. -/
theorem tell {f : State → State} {note : Client → Client}
    (lost : ∀ device, (f device).lost = device.lost) (homes : ∀ c, (note c).home = c.home)
    (each : ∀ (c : Client) (i : Fin socketCount), c ∈ s.clients → c.Sound s.host i →
      (note c).Sound (s.tell f note).host i) : (s.tell f note).Sound := by
  refine h.keep (fun j => ?_) ?_ (fun hreset => hreset) h.fits rfl (fun _ _ => rfl)
    fun j c' hj => ?_
  · rw [List.getElem?_map, Option.map_map]
    exact congrArg (fun g => Option.map g _) (funext homes)
  · obtain ⟨hsize, hbudget, hkept⟩ := Link.ensureReset_served_iff.mp h.link
    refine Link.ensureReset_served_iff.mpr ⟨hsize, hbudget, fun c => Eq.trans ?_ (hkept c)⟩
    exact congrArg (fun left => (Table.get? c left).getD 0) (lost _)
  · rw [List.getElem?_map] at hj
    obtain ⟨c, hc, rfl⟩ := Option.map_eq_some_iff.mp hj
    obtain ⟨i, hsound⟩ := h.each j c hc
    exact ⟨i, each c i (List.mem_of_getElem? hc) hsound⟩

theorem push (raw : UInt8) (data : Bytes)
    (allowed : ∀ c ∈ s.clients, c.home.raw = raw → c.closed = false) :
    (s.step (.push raw data)).Sound := by
  refine h.tell (fun device => State.lost_onSocket device raw _) (fun c => ?_)
    fun c i hmem hc => ?_
  · split <;> rfl
  · split
    · next hraw => exact hc.pushed raw hraw (allowed c hmem hraw) data
    · next hraw => exact hc.told_elsewhere raw hraw _

theorem closeRemote (raw : UInt8) : (s.step (.closeRemote raw)).Sound := by
  refine h.tell (fun device => State.lost_onSocket device raw _) (fun c => ?_)
    fun c i hmem hc => ?_
  · split <;> rfl
  · split
    · next hraw => exact hc.remoteClosed raw hraw
    · next hraw => exact hc.told_elsewhere raw hraw _

omit h in
/-- A new client, on a socket of its own, takes part in the conversation. -/
theorem join {host : Host Line} {clients : List Client} (h : Sound ⟨host, clients⟩)
    (reset : host.link.initialized = true) {c : Client} {i : Fin socketCount}
    (hc : c.Sound host i) (own : ∀ (k : Nat) (d : Client), clients[k]? = some d → d.home ≠ c.home) :
    Sound ⟨host, clients ++ [c]⟩ := by
  have hcases : ∀ {k : Nat} {d : Client}, (clients ++ [c])[k]? = some d →
      clients[k]? = some d ∨ (k = clients.length ∧ d = c) := by
    intro k d hk
    rcases Nat.lt_trichotomy k clients.length with hlt | rfl | hgt
    · rw [List.getElem?_append_left hlt] at hk
      exact Or.inl hk
    · rw [List.getElem?_concat_length] at hk
      cases hk
      exact Or.inr ⟨rfl, rfl⟩
    · rw [List.getElem?_eq_none (by rw [List.length_append]; exact hgt)] at hk
      cases hk
  have hlast : (clients ++ [c])[clients.length]? = some c := List.getElem?_concat_length
  have hbefore : ∀ {k : Nat} {d : Client}, clients[k]? = some d → (clients ++ [c])[k]? = some d :=
    fun hk => (List.getElem?_append_left (List.getElem?_eq_some_iff.mp hk).1).trans hk
  refine ⟨h.link, fun _ => reset, h.fits, h.capacity,
    fun x hx => h.dry x fun k d hk => hx k d (hbefore hk), fun j k d e hj hk hsame => ?_,
    fun k d hk => ?_⟩
  · rcases hcases hj with hj' | ⟨rfl, rfl⟩ <;> rcases hcases hk with hk' | ⟨rfl, rfl⟩
    · exact h.apart j k d e hj' hk' hsame
    · exact absurd hsame (own j d hj')
    · exact absurd hsame.symm (own k e hk')
    · rfl
  · rcases hcases hk with hk | ⟨rfl, rfl⟩
    · exact h.each k d hk
    · exact ⟨i, hc⟩

/-- A new client has a socket of its own. -/
theorem connect (ip : Ipv4) (port : UInt16) : (s.connect ip port).Sound := by
  let host : Host Line := { s.host with link := s.host.link.ensureReset }
  obtain ⟨hsize, -, -⟩ := Link.ensureReset_served_iff.mp h.link
  have hserved : host.link.Served := h.link
  have hfits : host.cache.Fits := h.fits
  have hopens := Host.tryConnect_opens hserved hfits ip port
  have hreset : ∀ (k : Nat) (c : Client), s.clients[k]? = some c → host = s.host := by
    intro k c hk
    have hne : s.clients ≠ [] := List.ne_nil_of_mem (List.mem_of_getElem? hk)
    have hlink := Link.ensureReset_of_initialized (h.reset hne)
    simp only [host, hlink]
  rw [connect_eq, Host.run_tryConnect_ensureReset hsize]
  rcases hconnect : (Host.tryConnect ip port .tcp).run host with ⟨result, after⟩
  rw [hconnect] at hopens
  have hsound : ∀ (k : Nat) (c : Client), s.clients[k]? = some c →
      ∃ i, c.Sound host i := by
    intro k c hk
    rw [hreset k c hk]
    exact h.each k c hk
  have hkept : Sound ⟨after, s.clients⟩ := by
    refine h.keep (fun _ => rfl) ?_ (fun _ => hopens.served.reset) hopens.fits hopens.capacity
      (fun x hx => ?_) fun k c hk => ?_
    · rw [Link.ensureReset_of_initialized hopens.served.reset]
      exact hopens.served
    · rw [h.dry x hx]
      exact hopens.dry x (h.dry x hx)
    · obtain ⟨i, hc⟩ := hsound k c hk
      exact ⟨i, hc.congr (hopens.cached c.home i hc.home hc.reserved) (hopens.kept i hc.reserved)⟩
  cases result with
  | error e => exact hkept
  | ok socket =>
    obtain ⟨i, hi, hfree, hfresh, hstate⟩ := hopens.opened socket rfl
    have hown : ∀ (k : Nat) (d : Client), s.clients[k]? = some d → d.home ≠ socket := by
      rintro k d hk rfl
      obtain ⟨i', hd⟩ := hsound k d hk
      cases hi.symm.trans hd.home
      rw [hd.reserved] at hfree
      cases hfree
    refine hkept.join hopens.served.reset (i := i) ⟨hi, hfresh.reserved, hfresh.kind, hstate, ?_,
      Or.inl rfl⟩ hown
    have hcached := hopens.dry socket (h.dry socket hown)
    dsimp only
    rw [Host.unread, hcached, Link.queue_eq hi, hfresh.rx]
    rfl

theorem step {e : TcpEvent} (allowed : s.Allows e) : (s.step e).Sound := by
  cases e with
  | connect ip port => exact h.connect ip port
  | push raw data => exact h.push raw data allowed
  | closeRemote raw => exact h.closeRemote raw
  | read k n => exact h.act k fun c i hc ha => hc.receive_turns ha n
  | available k => exact h.act k fun c i hc ha => hc.available_turns ha
  | peek k => exact h.act k fun c i hc ha => hc.peek_turns ha
  | connected k => exact h.act k fun c i hc ha => hc.connected_turns ha

omit h in
theorem run (h : s.Sound) {events : List TcpEvent} (orderly : s.Orderly events) :
    (s.run events).Sound := by
  induction events generalizing s with
  | nil => exact h
  | cons e rest ih => exact ih (h.step orderly.1) orderly.2

end Sound

/-- If no byte is searched for the beginning of a reply, nobody can connect. -/
theorem clients_of_no_budget {s : Conversation}
    (budget : s.host.link.settings.startBudget.toNat = 0) (nobody : s.clients = [])
    (events : List TcpEvent) : (s.run events).clients = [] := by
  induction events generalizing s with
  | nil => exact nobody
  | cons e rest ih =>
    have hact : ∀ {α : Type} (k : Nat) (x : StateM (Stream × Host Line) α) (bytes : α → Bytes),
        s.act k x bytes = s := by
      intro α k x bytes
      rw [act, nobody]
      rfl
    cases e with
    | connect ip port =>
      obtain ⟨fault, link, hfails, hsettings⟩ := Host.tryConnect_of_no_budget budget ip port
      have hstep : s.step (.connect ip port) = ⟨{ s.host with link := link }, s.clients⟩ := by
        rw [step, connect_eq, hfails]
      rw [run, hstep]
      exact ih (by rw [← budget, ← hsettings]) nobody
    | push raw data => exact ih budget (by rw [step, tell, nobody]; rfl)
    | closeRemote raw => exact ih budget (by rw [step, tell, nobody]; rfl)
    | read k n => exact ih (by rwa [step, hact]) (by rwa [step, hact])
    | available k => exact ih (by rwa [step, hact]) (by rwa [step, hact])
    | peek k => exact ih (by rwa [step, hact]) (by rwa [step, hact])
    | connected k => exact ih (by rwa [step, hact]) (by rwa [step, hact])

/-- A read of a client gives what its stream gives, and leaves the client with that stream. -/
theorem step_read_of_run {s : Conversation} {k n : Nat} {c : Client}
    (hk : s.clients[k]? = some c) {answer : Except StreamError Bytes} {stream : Stream}
    {host : Host Line} (hrun : (Stream.receive n).run.run (c.stream, s.host) = (answer, stream, host)) :
    s.readAnswer k n = some answer ∧
      ∃ c', (s.step (.read k n)).clients[k]? = some c' ∧ c'.stream = stream := by
  refine ⟨by rw [readAnswer, hk, Option.map_some, hrun],
    { c with stream := stream, returned := c.returned ++ bytesRead answer }, ?_, rfl⟩
  rw [step, getElem?_act hk, hrun]
  exact if_pos rfl

namespace Sound

variable {s : Conversation} (h : s.Sound) {k : Nat} {c : Client} (hk : s.clients[k]? = some c)
include h hk

theorem read_cases {n : Nat} (hn : 0 < n) :
    (∃ b bytes, s.readAnswer k n = some (.ok (b :: bytes)) ∧
      (s.host.unread c.home).head? = some b) ∨
    (s.readAnswer k n = some (.error .wouldBlock) ∧ c.returned = c.pushed ∧
      s.host.unread c.home = [] ∧
      s.host.link.transport.state.socketState c.home.raw = .established) ∨
    (s.readAnswer k n = some (.ok []) ∧ c.returned = c.pushed ∧ s.host.unread c.home = [] ∧
      c.closed = true ∧
      ∃ c', (s.step (.read k n)).clients[k]? = some c' ∧ c'.stream.socket = .none) := by
  obtain ⟨i, hc⟩ := h.each k c hk
  have ha := h.attends hk hc
  have hall : s.host.unread c.home = [] → c.returned = c.pushed := by
    intro hempty
    have hunread := hc.unread
    rwa [hempty, List.append_nil] at hunread
  rcases hc.handle with hhome | ⟨hnone, hclosed, hdone⟩
  · rcases Stream.receive_cases (by rwa [hhome]) hn with
      ⟨b, bytes, after, hrun, htakes⟩ | ⟨after, hrun, htakes, hempty, hlive⟩ |
      ⟨after, hrun, htakes, hempty, hdead⟩
    all_goals
      obtain ⟨hanswer, hafter⟩ := step_read_of_run hk hrun
      have hunread := htakes.unread
      rw [hhome] at hunread
    · refine Or.inl ⟨b, bytes, hanswer, ?_⟩
      rw [hunread]
      rfl
    · rw [hhome] at hempty
      rw [hempty, List.append_nil] at hunread
      refine Or.inr (Or.inl ⟨hanswer, hall hunread, hunread, ?_⟩)
      rw [State.socketState, State.socket?, show SocketHandle.slotOf? c.home.raw = some i from hc.home]
      change (s.host.link.socketAt i).state = .established
      rw [hc.state] at hlive ⊢
      cases hclosed : c.closed with
      | false => rfl
      | true =>
        rw [hclosed] at hlive
        cases hlive
    · rw [hhome] at hempty
      rw [hempty, List.append_nil] at hunread
      obtain ⟨c', hc', hstream'⟩ := hafter
      exact Or.inr (Or.inr ⟨hanswer, hall hunread, hunread, hc.closed hdead, c', hc',
        by rw [hstream']⟩)
  · obtain ⟨hanswer, c', hc', hstream'⟩ :=
      step_read_of_run hk (Stream.receive_of_ended hnone s.host n)
    have hunread := hc.unread
    rw [hdone] at hunread
    exact Or.inr (Or.inr ⟨hanswer, hdone, List.append_right_eq_self.mp hunread, hclosed, c', hc',
      by rw [hstream', hnone]⟩)

/-- A byte that a peek shows is the first of the unread ones. -/
theorem head?_of_peek {b : UInt8} (hpeek : s.peekAnswer k = some (some b)) :
    (s.host.unread c.home).head? = some b := by
  obtain ⟨i, hc⟩ := h.each k c hk
  have ha := h.attends hk hc
  rw [peekAnswer, hk, Option.map_some] at hpeek
  rcases hc.handle with hhome | ⟨hnone, -, -⟩
  · rw [← hhome] at ha
    obtain ⟨htakes, hhead⟩ := ha.peek
    rw [← hhome, htakes.unread, List.nil_append, ← hhead]
    exact Option.some.inj hpeek
  · have hended := Stream.peek_of_ended hnone s.host
    cases (congrArg Prod.fst hended).symm.trans (Option.some.inj hpeek)

end Sound

/-- An ended stream gives its end whenever it is read. -/
theorem readAnswer_of_ended {s : Conversation} {k : Nat} {c : Client} (hk : s.clients[k]? = some c)
    (ended : c.stream.socket = .none) (n : Nat) : s.readAnswer k n = some (.ok []) :=
  (step_read_of_run hk (Stream.receive_of_ended ended s.host n)).1

/-- A client whose peer pushed more than was returned still gets the next byte. -/
theorem Sound.read_next {s : Conversation} (h : s.Sound) {k : Nat} {c : Client}
    (hk : s.clients[k]? = some c) {b : UInt8} (hb : c.returned ++ [b] <+: c.pushed) {n : Nat}
    (hn : 0 < n) : ∃ bytes, s.readAnswer k n = some (.ok (b :: bytes)) := by
  obtain ⟨i, hc⟩ := h.each k c hk
  obtain ⟨rest, hpushed⟩ := hb
  have hunread : s.host.unread c.home = b :: rest := by
    have := hc.unread
    rw [← hpushed, List.append_assoc] at this
    exact List.append_cancel_left this
  rcases h.read_cases hk hn with ⟨b', bytes, hanswer, hhead⟩ | ⟨-, -, hempty, -⟩ |
    ⟨-, -, hempty, -, -⟩
  · rw [hunread] at hhead
    cases hhead
    exact ⟨bytes, hanswer⟩
  · rw [hunread] at hempty
    cases hempty
  · rw [hunread] at hempty
    cases hempty

namespace Sound

variable {s : Conversation} (h : s.Sound) {k : Nat} {c : Client} (hk : s.clients[k]? = some c)
include h hk

/-- What a peek shows is not lost in what happens until the next read. -/
theorem read_after_peek {b : UInt8} (hpeek : s.peekAnswer k = some (some b))
    {later : List TcpEvent} (orderly : (s.step (.peek k)).Orderly later)
    (unread : ∀ m, .read k m ∉ later) {n : Nat} (hn : 0 < n) :
    ∃ bytes, ((s.step (.peek k)).run later).readAnswer k n = some (.ok (b :: bytes)) := by
  obtain ⟨i, hc⟩ := h.each k c hk
  obtain ⟨rest, hrest⟩ := List.head?_eq_some_iff.mp (h.head?_of_peek hk hpeek)
  have hnext : c.returned ++ [b] <+: c.pushed := by
    refine ⟨rest, ?_⟩
    rw [← hc.unread, hrest, List.append_assoc]
    rfl
  have hlast : (s.run (.peek k :: later)).Sound := h.run ⟨trivial, orderly⟩
  obtain ⟨c', hk', hfollows, hreturned⟩ := run_follows hk (.peek k :: later)
  have hsame : c'.returned = c.returned := by
    refine hreturned fun m hm => ?_
    rcases List.mem_cons.mp hm with heq | hmem
    · cases heq
    · exact unread m hmem
  refine hlast.read_next hk' ?_ hn
  rw [hsame]
  exact hnext.trans hfollows.pushed

theorem of_read_error {n : Nat} {e : StreamError} (hanswer : s.readAnswer k n = some (.error e)) :
    e = .wouldBlock ∧ c.returned = c.pushed ∧
      s.host.link.transport.state.socketState c.home.raw = .established := by
  by_cases hn : 0 < n
  · rcases h.read_cases hk hn with ⟨b, bytes, hgot, -⟩ | ⟨hgot, hall, -, hstate⟩ |
      ⟨hgot, -, -, -, -⟩
    · cases hgot.symm.trans hanswer
    · cases hgot.symm.trans hanswer
      exact ⟨rfl, hall, hstate⟩
    · cases hgot.symm.trans hanswer
  · have hzero : n = 0 := by omega
    rw [readAnswer, hk, hzero] at hanswer
    cases hanswer

theorem of_read_end {n : Nat} (hn : 0 < n) (hanswer : s.readAnswer k n = some (.ok [])) :
    c.closed = true ∧ c.returned = c.pushed ∧
      (∃ c', (s.step (.read k n)).clients[k]? = some c' ∧ c'.stream.socket = .none) ∧
      ∀ later m, ((s.step (.read k n)).run later).readAnswer k m = some (.ok []) := by
  rcases h.read_cases hk hn with ⟨b, bytes, hgot, -⟩ | ⟨hgot, -, -, -⟩ |
    ⟨-, hall, -, hclosed, c', hk', hended⟩
  · cases hgot.symm.trans hanswer
  · cases hgot.symm.trans hanswer
  · refine ⟨hclosed, hall, ⟨c', hk', hended⟩, fun later m => ?_⟩
    obtain ⟨last, hlast, hfollows, -⟩ := run_follows hk' later
    exact readAnswer_of_ended hlast (hfollows.ended hended) m

end Sound

theorem start_orderly_sound {link : Link Line} {sockets : SocketSettings}
    {station : StationSettings} (lossless : ∀ c, link.transport.state.lossesLeft c = 0)
    (size : 252 ≤ link.settings.maxFrameSize.toNat) (buffer : 2 ≤ sockets.bufferSize.toNat)
    {events : List TcpEvent} (orderly : (start link sockets station).Orderly events) {k : Nat}
    {c : Client} (hk : ((start link sockets station).run events).clients[k]? = some c) :
    ((start link sockets station).run events).Sound := by
  by_cases hbudget : 1 ≤ link.settings.startBudget.toNat
  · exact (start_sound station lossless size hbudget buffer).run orderly
  · have hzero : link.settings.startBudget.toNat = 0 := by omega
    rw [clients_of_no_budget (s := start link sockets station) hzero rfl] at hk
    cases hk

/-- A client receives exactly what its peer pushes. At any time what its reads returned, what is
cached for it and what the device holds are together what was pushed since it connected. A byte that
a peek shows is what its next read begins with, whatever happens in between. A read fails only if
everything pushed was returned and the connection is established; it gives the end of the stream only
if everything pushed was returned and the peer has closed, and from then on the handle is dropped and
every read gives the end. -/
theorem delivers_exactly (link : Link Line) (sockets : SocketSettings) (station : StationSettings)
    (lossless : ∀ c, link.transport.state.lossesLeft c = 0)
    (size : 252 ≤ link.settings.maxFrameSize.toNat) (buffer : 2 ≤ sockets.bufferSize.toNat)
    (events : List TcpEvent) (orderly : (start link sockets station).Orderly events) :
    let s := (start link sockets station).run events
    (∀ c ∈ s.clients,
      c.returned ++ s.host.cache.bytes c.home ++ s.host.link.queue c.home = c.pushed) ∧
    (∀ k b later n, s.peekAnswer k = some (some b) → (s.step (.peek k)).Orderly later →
      (∀ m, .read k m ∉ later) → 0 < n →
        ∃ bytes, ((s.step (.peek k)).run later).readAnswer k n = some (.ok (b :: bytes))) ∧
    (∀ (k n : Nat) (c : Client) e, s.clients[k]? = some c → s.readAnswer k n = some (.error e) →
      e = .wouldBlock ∧ c.returned = c.pushed ∧
        s.host.link.transport.state.socketState c.home.raw = .established) ∧
    (∀ (k n : Nat) (c : Client), s.clients[k]? = some c → 0 < n →
      s.readAnswer k n = some (.ok []) →
        c.closed = true ∧ c.returned = c.pushed ∧
        (∃ c', (s.step (.read k n)).clients[k]? = some c' ∧ c'.stream.socket = .none) ∧
        ∀ later m, ((s.step (.read k n)).run later).readAnswer k m = some (.ok [])) := by
  intro s
  have hsound : ∀ {k : Nat} {c : Client}, s.clients[k]? = some c → s.Sound :=
    start_orderly_sound lossless size buffer orderly
  refine ⟨fun c hmem => ?_, fun k b later n hpeek hlater hunread hn => ?_,
    fun k n c e hk => (hsound hk).of_read_error hk, fun k n c hk => (hsound hk).of_read_end hk⟩
  · obtain ⟨k, hk⟩ := List.mem_iff_getElem?.mp hmem
    obtain ⟨i, hc⟩ := (hsound hk).each k c hk
    rw [List.append_assoc]
    exact hc.unread
  · obtain ⟨c, hk⟩ : ∃ c, s.clients[k]? = some c := by
      rw [peekAnswer, Option.map_eq_some_iff] at hpeek
      obtain ⟨c, hk, -⟩ := hpeek
      exact ⟨c, hk⟩
    exact (hsound hk).read_after_peek hk hpeek hlater hunread hn

/-- Through a cache for single bytes: two bytes are pushed, read one by one, and the peer closes. -/
theorem delivers_exactly_byte_by_byte :
    let first := start (.new .new .instant) { SocketSettings.standard with bufferSize := 2 } .standard
    let events : List TcpEvent :=
      [.connect ⟨10, 0, 0, 1⟩ 80, .push 0 [7, 8], .peek 0, .read 0 5, .closeRemote 0, .read 0 5]
    let s := first.run events
    first.Orderly events ∧ s.clients.map Client.returned = [[7, 8]] ∧
      (∀ c ∈ s.clients,
        c.returned ++ s.host.cache.bytes c.home ++ s.host.link.queue c.home = [7, 8]) ∧
      ∀ later m, ((s.step (.read 0 1)).run later).readAnswer 0 m = some (.ok []) := by
  intro first events
  have orderly : first.Orderly events := orderly_of_pairwise (by decide) (by simp [first, start])
  have hclient : (first.run events).clients[0]?.isSome = true := by decide +kernel
  have hreturned : (first.run events).clients.map Client.returned = [[7, 8]] := by decide +kernel
  have hpushed : ∀ c ∈ (first.run events).clients, c.pushed = [7, 8] := by decide +kernel
  have hanswer : (first.run events).readAnswer 0 1 = some (.ok []) := by decide +kernel
  have h := delivers_exactly (.new .new .instant)
    { SocketSettings.standard with bufferSize := 2 } .standard (fun _ => rfl) (by decide) (by decide)
    events orderly
  change let s := first.run events; _ at h
  generalize first.run events = s at *
  obtain ⟨hbytes, -, -, hend⟩ := h
  obtain ⟨c, hk⟩ := Option.isSome_iff_exists.mp hclient
  exact ⟨orderly, hreturned, fun c hmem => (hbytes c hmem).trans (hpushed c hmem),
    (hend 0 1 c hk Nat.one_pos hanswer).2.2.2⟩

end Conversation

end SpiWifi
