import SpiWifi.Proofs.Board.Ledger
import SpiWifi.Proofs.Socket.ByteStream

/-!
# Moves of a board

Whatever the objects of a board do comes down to a few moves: a socket is used, taken or given up, or
a connection passes from a listener to a new object. Each move names the place of the one object that
it concerns and the slots that it leaves to nobody, and each keeps the ledger, as does whatever happens
to the device from outside. What an operation keeps is then read off the moves that it is made of.
-/

namespace SpiWifi

open Device

namespace Device

def Socket.incoming (port : UInt16) (peer : Endpoint) (data : Bytes) (a : Socket) : Socket :=
  { a with
    reserved := true
    kind := .client
    state := .established
    remote := some peer
    localPort := port
    rx := a.rx ++ data }

/-- A peer connects to a listener, on a slot that nobody had and that the answer names; or nothing
happens, and the answer names no slot. -/
theorem State.injectConnection_cases (s : State) (port : UInt16) (peer : Endpoint) (data : Bytes) :
    let answer := s.injectConnection port peer data
    (SocketHandle.slotOf? answer.1 = none ∧ answer.2 = s) ∨
    ∃ listener i, s.listenerOn? port = some listener ∧ (s.sockets.get listener).kind = .server ∧
      (s.sockets.get i).reserved = false ∧ answer.1 = UInt8.ofNat i ∧
      answer.2 = (s.modifySocket i (Socket.incoming port peer data)).modifySocket listener
        fun a => { a with waiting := a.waiting ++ [UInt8.ofNat i] } := by
  unfold injectConnection
  cases hlistener : s.listenerOn? port with
  | none => exact Or.inl ⟨rfl, rfl⟩
  | some listener =>
    have hserves := findSlot?_some hlistener
    rw [Bool.and_eq_true, Bool.and_eq_true, beq_iff_eq] at hserves
    rcases s.reserve_cases with ⟨i, hfree, hreserve⟩ | hreserve
    · rw [hreserve]
      have hi : SocketHandle.slotOf? (UInt8.ofNat i) = some i := SocketHandle.index?_ofNat i
      simp only [hi, State.modifySocket_modifySocket]
      exact Or.inr ⟨listener, i, rfl, hserves.1.1, hfree, rfl, rfl⟩
    · rw [hreserve]
      exact Or.inl ⟨rfl, rfl⟩

/-- Short of a new connection, nothing from outside changes what a slot is for, or what was sent. -/
theorem Happening.apply_claims {h : Happening} (s : State)
    (hc : ∀ port peer data, h ≠ .connection port peer data) (i : Fin socketCount) :
    ((h.apply s).sockets.get i).reserved = (s.sockets.get i).reserved ∧
      ((h.apply s).sockets.get i).kind = (s.sockets.get i).kind ∧
      ((h.apply s).sockets.get i).waiting = (s.sockets.get i).waiting ∧
      ((h.apply s).sockets.get i).tx = (s.sockets.get i).tx := by
  have honSocket : ∀ (raw : UInt8) (f : Socket → Socket),
      (∀ a, (f a).reserved = a.reserved ∧ (f a).kind = a.kind ∧ (f a).waiting = a.waiting ∧
        (f a).tx = a.tx) →
      ((s.onSocket raw f).sockets.get i).reserved = (s.sockets.get i).reserved ∧
        ((s.onSocket raw f).sockets.get i).kind = (s.sockets.get i).kind ∧
        ((s.onSocket raw f).sockets.get i).waiting = (s.sockets.get i).waiting ∧
        ((s.onSocket raw f).sockets.get i).tx = (s.sockets.get i).tx := by
    intro raw f hf
    rw [State.get_onSocket]
    split
    · exact hf _
    · exact ⟨rfl, rfl, rfl, rfl⟩
  cases h with
  | connection port peer data => exact absurd rfl (hc port peer data)
  | push raw data => exact honSocket raw _ fun a => ⟨rfl, rfl, rfl, rfl⟩
  | pushDatagram raw sender data => exact honSocket raw _ fun a => ⟨rfl, rfl, rfl, rfl⟩
  | closeRemote raw =>
    refine honSocket raw _ fun a => ?_
    split <;> exact ⟨rfl, rfl, rfl, rfl⟩
  | _ => exact ⟨rfl, rfl, rfl, rfl⟩

/-- What happens from outside leaves to every slot what it is for, and no connection comes in; or a
peer connects to a listener. -/
theorem Happening.apply_cases (h : Happening) (s : State) :
    ((∀ port peer data, h = .connection port peer data →
        SocketHandle.slotOf? (s.injectConnection port peer data).1 = none) ∧
      ∀ i, ((h.apply s).sockets.get i).reserved = (s.sockets.get i).reserved ∧
        ((h.apply s).sockets.get i).kind = (s.sockets.get i).kind ∧
        ((h.apply s).sockets.get i).waiting = (s.sockets.get i).waiting ∧
        ((h.apply s).sockets.get i).tx = (s.sockets.get i).tx) ∨
    ∃ port peer data listener i, h = .connection port peer data ∧
      s.listenerOn? port = some listener ∧ (s.sockets.get listener).kind = .server ∧
      (s.sockets.get i).reserved = false ∧ (s.injectConnection port peer data).1 = UInt8.ofNat i ∧
      h.apply s = (s.modifySocket i (Socket.incoming port peer data)).modifySocket listener
        fun a => { a with waiting := a.waiting ++ [UInt8.ofNat i] } := by
  by_cases hc : ∃ port peer data, h = .connection port peer data
  · obtain ⟨port, peer, data, rfl⟩ := hc
    rcases s.injectConnection_cases port peer data with
      ⟨hanswer, hnothing⟩ | ⟨listener, i, hlistener, hserves, hfree, hanswer, hstate⟩
    · refine Or.inl ⟨fun _ _ _ heq => ?_, fun i => ?_⟩
      · cases heq
        exact hanswer
      · rw [apply, hnothing]
        exact ⟨rfl, rfl, rfl, rfl⟩
    · exact Or.inr ⟨port, peer, data, listener, i, rfl, hlistener, hserves, hfree, hanswer, hstate⟩
  · have hnone : ∀ port peer data, h ≠ .connection port peer data :=
      fun port peer data heq => hc ⟨port, peer, data, heq⟩
    exact Or.inl ⟨fun port peer data heq => absurd heq (hnone port peer data),
      fun i => apply_claims s hnone i⟩

/-- The device is not told to lose replies. -/
def Happening.losesNothing : Happening → Bool
  | loseReplies _ n => n = 0
  | _ => true

theorem Happening.apply_kept {h : Happening} (hkeeps : h.losesNothing = true) {s : State}
    (kept : ∀ c, s.lossesLeft c = 0) (c : Command) : (h.apply s).lossesLeft c = 0 := by
  have honSocket : ∀ (raw : UInt8) (f : Socket → Socket), (s.onSocket raw f).lossesLeft c = 0 := by
    intro raw f
    rw [State.lossesLeft, State.lost_onSocket]
    exact kept c
  cases h with
  | connection port peer data =>
    rcases s.injectConnection_cases port peer data with
      ⟨-, hnothing⟩ | ⟨listener, i, -, -, -, -, hstate⟩
    · rw [apply, hnothing]
      exact kept c
    · rw [apply, hstate]
      exact kept c
  | push raw data => exact honSocket raw _
  | pushDatagram raw sender data => exact honSocket raw _
  | closeRemote raw => exact honSocket raw _
  | loseReplies c' n =>
    simp only [losesNothing, decide_eq_true_eq] at hkeeps
    simp only [apply, State.loseReplies, State.lossesLeft]
    by_cases hc : c = c'
    · rw [hc, Table.get?_set_self, hkeeps]
      rfl
    · rw [Table.get?_set_ne hc]
      exact kept c
  | _ => exact kept c

end Device

namespace Board

namespace Sound

variable {b : Board} {left : List (Fin socketCount)}

theorem of_same_owners (h : Sound b left) {host : Host Line}
    (settings : host.link.settings = b.host.link.settings) (cache : host.cache = b.host.cache)
    (claims : ∀ i, (host.link.found i).reserved = (b.found i).reserved ∧
      (host.link.found i).kind = (b.found i).kind ∧
      (host.link.found i).waiting = (b.found i).waiting ∧
      (host.link.found i).tx = (b.found i).tx) :
    Sound ⟨host, b.owners⟩ left := by
  have hsound : Sound ⟨host, b.owners⟩ (left ++ []) := by
    refine h.of_claims settings (fun i => ⟨(claims i).1, (claims i).2.1, (claims i).2.2.1⟩)
      (fun i _ => (claims i).2.2.2) (fun i => rfl) (fun o ho => Or.inl ho) fun i hi => ?_
    rw [cache] at hi
    exact h.cached i hi
  rwa [List.append_nil] at hsound

/-- A peer connects, and its slot waits on the listener. -/
theorem connection (h : Sound b left) {host : Host Line}
    (settings : host.link.settings = b.host.link.settings) (cache : host.cache = b.host.cache)
    {listener i : Fin socketCount} (port : UInt16) (peer : Endpoint) (data : Bytes)
    (serves : (b.found listener).kind = .server) (free : (b.found i).reserved = false)
    (others : ∀ j, j ≠ i → j ≠ listener → host.link.found j = b.found j)
    (taken : host.link.found i = (b.found i).incoming port peer data)
    (queued : host.link.found listener =
      { b.found listener with waiting := (b.found listener).waiting ++ [UInt8.ofNat i] }) :
    Sound ⟨host, b.owners⟩ left := by
  obtain ⟨hkind, hwaiting, htx⟩ := h.vacant i free
  obtain ⟨hholds, hwaits, hleft⟩ := h.nobody free
  have hne : i ≠ listener := by
    rintro rfl
    rw [serves] at hkind
    cases hkind
  have hclaims : ∀ j, j ≠ i → (host.link.found j).reserved = (b.found j).reserved ∧
      (host.link.found j).kind = (b.found j).kind ∧ (host.link.found j).tx = (b.found j).tx := by
    intro j hj
    by_cases hjl : j = listener
    · rw [hjl, queued]
      exact ⟨rfl, rfl, rfl⟩
    · rw [others j hj hjl]
      exact ⟨rfl, rfl, rfl⟩
  have hmore : ∀ j, host.link.waits j = b.host.link.waits j + if i = j then 1 else 0 := by
    intro j
    have hchange := Link.waits_change b.host.link host.link (j := listener)
      (fun m hm => by
        by_cases hmi : m = i
        · rw [hmi, taken]
          rfl
        · exact congrArg Device.Socket.waiting (others m hmi hm)) j
    have hraw : SocketHandle.slotOf? (UInt8.ofNat i) = some i := SocketHandle.index?_ofNat i
    have hqueues : (host.link.found listener).queues j =
        (b.host.link.found listener).queues j + if i = j then 1 else 0 := by
      rw [queued]
      simp only [Socket.queues, List.countP_append, List.countP_singleton, hraw, Option.some.injEq,
        decide_eq_true_eq]
      rfl
    omega
  have hi : ∀ j, 0 < b.holds j → j ≠ i := by
    rintro j hj rfl
    omega
  refine ⟨fun j => ?_, fun o ho => ?_, fun j hj => ?_, fun j hj => ?_, fun j hj => ?_,
    fun j hj => ?_, fun j hj => ?_⟩
  · have hledger := h.ledger j
    have hwaits' := hmore j
    by_cases hij : i = j
    · subst hij
      rw [if_pos rfl] at hwaits'
      change b.holds i + host.link.waits i + left.count i = (host.link.found i).reserved.toNat
      rw [taken, hwaits', hholds, hwaits, hleft]
      rfl
    · rw [if_neg hij] at hwaits'
      change b.holds j + host.link.waits j + left.count j = (host.link.found j).reserved.toNat
      rw [(hclaims j (Ne.symm hij)).1, hwaits']
      exact hledger
  · refine (h.serves o ho).congr fun j hj => (hclaims j (hi j ?_)).2.1
    exact List.countP_pos_iff.mpr ⟨o, ho, decide_eq_true hj⟩
  · change (host.cache.entries.get j).isSome at hj
    rw [cache] at hj
    exact h.cached j hj
  · change 8 ≤ host.link.settings.maxFrameSize.toNat ∧ 1 ≤ host.link.settings.startBudget.toNat
    rw [settings]
    exact h.carries j hj
  · change (host.link.found j).reserved = false at hj
    have hji : j ≠ i := by
      rintro rfl
      rw [taken] at hj
      cases hj
    have hjl : j ≠ listener := by
      rintro rfl
      rw [(hclaims j hji).1] at hj
      cases serves.symm.trans (h.vacant j hj).1
    change (host.link.found j).kind = _ ∧ (host.link.found j).waiting = _ ∧
      (host.link.found j).tx = _
    rw [others j hji hjl] at hj ⊢
    exact h.vacant j hj
  · change (host.link.found j).waiting ≠ [] at hj
    change (host.link.found j).kind = .server
    by_cases hji : j = i
    · rw [hji, taken] at hj
      exact absurd hwaiting hj
    · rw [(hclaims j hji).2.1]
      by_cases hjl : j = listener
      · rw [hjl]
        exact serves
      · rw [others j hji hjl] at hj
        exact h.queued j hj
  · change 0 < host.link.waits j at hj
    change (host.link.found j).kind = .client ∧ (host.link.found j).tx = []
    by_cases hji : j = i
    · rw [hji, taken]
      exact ⟨rfl, htx⟩
    · rw [hmore j, if_neg (Ne.symm hji)] at hj
      rw [(hclaims j hji).2.1, (hclaims j hji).2.2]
      exact h.pending j hj

theorem told (h : Sound b left) (happening : Happening) : Sound (b.told happening) left := by
  cases hinit : b.host.link.initialized with
  | false =>
    refine h.of_same_owners rfl rfl fun i => ?_
    have hi : (b.host.told happening.apply).link.found i = b.found i :=
      Link.found_told_before hinit happening.apply i
    rw [hi]
    exact ⟨rfl, rfl, rfl, rfl⟩
  | true =>
    have hfound : ∀ i, (b.told happening).found i =
        (happening.apply b.host.link.transport.state).sockets.get i :=
      fun i => Link.found_told hinit happening.apply i
    have hbefore : ∀ i, b.found i = b.host.link.transport.state.sockets.get i :=
      fun i => Link.found_of_initialized hinit i
    rcases happening.apply_cases b.host.link.transport.state with
      ⟨-, hclaims⟩ | ⟨port, peer, data, listener, i, -, -, hserves, hfree, -, hstate⟩
    · refine h.of_same_owners rfl rfl fun i => ?_
      have hi : (b.host.told happening.apply).link.found i = _ := hfound i
      rw [hi, hbefore]
      exact hclaims i
    · simp only [hstate] at hfound
      rw [← hbefore] at hserves hfree
      have hne : i ≠ listener := by
        rintro rfl
        cases hserves.symm.trans (h.vacant i hfree).1
      refine h.connection rfl rfl port peer data hserves hfree (fun j hji hjl => ?_) ?_ ?_
      · refine (hfound j).trans ?_
        rw [State.get_modifySocket_ne _ hjl, State.get_modifySocket_ne _ hji, hbefore]
      · refine (hfound i).trans ?_
        rw [State.get_modifySocket_ne _ hne, State.get_modifySocket_self, hbefore]
      · refine (hfound listener).trans ?_
        rw [State.get_modifySocket_self, State.get_modifySocket_ne _ hne.symm, hbefore]

end Sound

/-- A handle is taken, given up or passed on. -/
inductive Transfer (b : Board) : Nat → List (Fin socketCount) → Board → Prop
  /-- There is a new object, which holds nothing. -/
  | joined (o : Owner) (rid : o.socket.index? = none) (serves : ∀ l, o.Serves l) :
    Transfer b b.owners.length [] ⟨b.host, b.owners ++ [o]⟩
  /-- An object drops its handle, and the slot stays what it was. -/
  | dropped (k : Nat) (o o' : Owner) (i : Fin socketCount) (host : Host Line)
    (here : b.owners[k]? = some o) (index : o.socket.index? = some i)
    (rid : o'.socket.index? = none) (serves : ∀ l, o'.Serves l)
    (uses : Host.Uses Socket.nothing o.socket b.host host)
    (claims : (host.link.found i).reserved = (b.found i).reserved ∧
      (host.link.found i).kind = (b.found i).kind ∧
      (host.link.found i).waiting = (b.found i).waiting)
    (lives : (host.link.found i).state.isConnected = true → (b.found i).state.isConnected = true)
    (uncached : host.cache.entries.get i = none) : Transfer b k [i] ⟨host, b.owners.set k o'⟩
  /-- An object gives up its socket, and the slot is free. -/
  | freed (k : Nat) (o o' : Owner) (i : Fin socketCount) (host : Host Line)
    (here : b.owners[k]? = some o) (index : o.socket.index? = some i)
    (rid : o'.socket.index? = none) (serves : ∀ l, o'.Serves l)
    (uses : Host.Uses Socket.nothing o.socket b.host host)
    (slot : host.link.found i = Socket.free) (uncached : host.cache.entries.get i = none) :
    Transfer b k (b.found i).queue ⟨host, b.owners.set k o'⟩
  /-- A slot is taken, though no object gets its handle. -/
  | spent (k : Nat) (socket : SocketHandle) (i : Fin socketCount) (host : Host Line)
    (index : socket.index? = some i) (vacant : (b.found i).reserved = false)
    (uses : Host.Uses Socket.nothing socket b.host host)
    (taken : Socket.Taken (b.found i) (host.link.found i))
    (cache : host.cache = b.host.cache ∨ host.cache = b.host.cache.close socket) :
    Transfer b k [i] ⟨host, b.owners⟩
  /-- An object takes a slot. -/
  | opened (k : Nat) (o o' : Owner) (i : Fin socketCount) (host : Host Line)
    (here : b.owners[k]? = some o) (rid : o.socket.index? = none)
    (index : o'.socket.index? = some i) (vacant : (b.found i).reserved = false)
    (uses : Host.Uses Socket.nothing o'.socket b.host host)
    (taken : Socket.Taken (b.found i) (host.link.found i)) (serves : o'.Serves host.link)
    (cache : host.cache = b.host.cache)
    (carries : 8 ≤ b.host.link.settings.maxFrameSize.toNat ∧
      1 ≤ b.host.link.settings.startBudget.toNat) : Transfer b k [] ⟨host, b.owners.set k o'⟩
  /-- The connection that waits first on a listener is handed out to nobody. -/
  | lost (k j : Nat) (l : Owner) (i : Fin socketCount) (host : Host Line)
    (listener : b.owners[j]? = some l) (index : l.socket.index? = some i)
    (uses : Host.Uses Socket.nothing l.socket b.host host) (cache : host.cache = b.host.cache)
    (slot : host.link.found i = (b.found i).dequeued) :
    Transfer b k (b.found i).first.toList ⟨host, b.owners⟩
  /-- The connection that waits first on a listener goes to an object. -/
  | accepted (k : Nat) (o : Owner) (j : Nat) (l : Owner) (i m : Fin socketCount)
    (client : SocketHandle) (host : Host Line)
    (here : b.owners[k]? = some o) (rid : o.socket.index? = none)
    (listener : b.owners[j]? = some l) (index : l.socket.index? = some i)
    (uses : Host.Uses Socket.nothing l.socket b.host host) (cache : host.cache = b.host.cache)
    (names : client.index? = some m) (first : (b.found i).waiting.head? = some client.raw)
    (slot : host.link.found i = (b.found i).dequeued) :
    Transfer b k [] ⟨host, b.owners.set k (.stream (.ofHandle client))⟩

/-- One move: the place of the object that it concerns, the slots that it leaves to nobody, and the
board after it. The view is what stays of a slot that is only used. -/
inductive Move (view : Device.Socket → Device.Socket) (b : Board) :
    Nat → List (Fin socketCount) → Board → Prop
  /-- The device is asked something that concerns no socket. -/
  | quiet (k : Nat) (host : Host Line) (uses : Host.Uses view .none b.host host) :
    Move view b k [] ⟨host, b.owners⟩
  /-- An object uses its socket. -/
  | used (k : Nat) (o o' : Owner) (host : Host Line) (here : b.owners[k]? = some o)
    (index : o'.socket.index? = o.socket.index?) (serves : ∀ l, o.Serves l → o'.Serves l)
    (uses : Host.Uses view o.socket b.host host) :
    Move view b k [] ⟨host, b.owners.set k o'⟩
  /-- A handle changes hands. -/
  | passed {k : Nat} {left : List (Fin socketCount)} {b' : Board} (h : Transfer b k left b') :
    Move view b k left b'

theorem Transfer.others {b b' : Board} {k : Nat} {left : List (Fin socketCount)}
    (h : Transfer b k left b') {j : Nat} (hj : j ≠ k) (hlen : j < b.owners.length) :
    b'.owners[j]? = b.owners[j]? := by
  cases h with
  | joined => exact List.getElem?_append_left hlen
  | dropped => exact List.getElem?_set_ne hj.symm
  | freed => exact List.getElem?_set_ne hj.symm
  | spent => rfl
  | opened => exact List.getElem?_set_ne hj.symm
  | lost => rfl
  | accepted => exact List.getElem?_set_ne hj.symm

namespace Sound

variable {b b' : Board} {left new : List (Fin socketCount)} {k : Nat}

/-- Objects in which one took the place of another. -/
theorem serves_of_set {owners : List Owner} {o o' : Owner} (h : o ∈ owners.set k o') :
    o = o' ∨ o ∈ owners := by
  rcases List.mem_or_eq_of_mem_set h with hold | rfl
  · exact Or.inr hold
  · exact Or.inl rfl

/-- Only the socket's own cache entry may be new. -/
theorem cached_of_uses (h : Sound b left) {view : Device.Socket → Device.Socket}
    {socket : SocketHandle} {host : Host Line} (uses : Host.Uses view socket b.host host)
    {owners : List Owner}
    (holds : ∀ i, socket.index? ≠ some i → 0 < b.holds i → 0 < holds ⟨host, owners⟩ i)
    (own : ∀ i, socket.index? = some i → (host.cache.entries.get i).isSome →
      0 < Board.holds ⟨host, owners⟩ i) (i : Fin socketCount)
    (hi : (host.cache.entries.get i).isSome) : 0 < Board.holds ⟨host, owners⟩ i := by
  by_cases hown : socket.index? = some i
  · exact own i hown hi
  · rw [uses.cached i hown] at hi
    exact holds i hown (h.cached i hi)

theorem claims_of_standing {socket : SocketHandle} {host : Host Line}
    (uses : Host.Uses Socket.standing socket b.host host) (i : Fin socketCount) :
    (host.link.found i).reserved = (b.found i).reserved ∧
      (host.link.found i).kind = (b.found i).kind ∧
      (host.link.found i).waiting = (b.found i).waiting :=
  ⟨Socket.reserved_of_standing (uses.link.own i), Socket.kind_of_standing (uses.link.own i),
    Socket.waiting_of_standing (uses.link.own i)⟩

theorem quiet (h : Sound b left) {host : Host Line}
    (uses : Host.Uses Socket.standing .none b.host host) : Sound ⟨host, b.owners⟩ left := by
  have hsame : ∀ i, host.link.found i = b.found i := fun i => uses.link.others i nofun
  have hsound : Sound ⟨host, b.owners⟩ (left ++ []) :=
    h.of_claims uses.link.settings (claims_of_standing uses)
      (fun i _ => congrArg Device.Socket.tx (hsame i)) (fun i => rfl) (fun o ho => Or.inl ho)
      (h.cached_of_uses uses (fun i _ => id) fun i hi => nomatch hi)
  rwa [List.append_nil] at hsound

theorem used (h : Sound b left) {o o' : Owner} {host : Host Line} (here : b.owners[k]? = some o)
    (index : o'.socket.index? = o.socket.index?) (serves : ∀ l, o.Serves l → o'.Serves l)
    (uses : Host.Uses Socket.standing o.socket b.host host) :
    Sound ⟨host, b.owners.set k o'⟩ left := by
  have hholds : ∀ i, Board.holds ⟨host, b.owners.set k o'⟩ i = b.holds i := by
    intro i
    have hset := holds_set here o' host i
    rw [index] at hset
    omega
  have hserves : o'.Serves b.host.link := serves _ (h.serves o (List.mem_of_getElem? here))
  have hsound : Sound ⟨host, b.owners.set k o'⟩ (left ++ []) := by
    refine h.of_claims uses.link.settings (claims_of_standing uses) (fun i hi => ?_)
      (fun i => hholds i) (fun p hp => ?_)
      (h.cached_of_uses uses (fun i _ hi => hholds i ▸ hi) fun i hi _ => ?_)
    · refine congrArg Device.Socket.tx (uses.link.others i fun hown => ?_)
      exact Nat.lt_irrefl 0 (hi ▸ holds_pos here hown)
    · rcases serves_of_set hp with rfl | hold
      · exact Or.inr hserves
      · exact Or.inl hold
    · rw [hholds]
      exact holds_pos here hi
  rwa [List.append_nil] at hsound

theorem dropped (h : Sound b left) {o o' : Owner} {i : Fin socketCount} {host : Host Line}
    (here : b.owners[k]? = some o) (index : o.socket.index? = some i)
    (rid : o'.socket.index? = none) (serves : ∀ l, o'.Serves l)
    (uses : Host.Uses Socket.nothing o.socket b.host host)
    (claims : (host.link.found i).reserved = (b.found i).reserved ∧
      (host.link.found i).kind = (b.found i).kind ∧
      (host.link.found i).waiting = (b.found i).waiting)
    (uncached : host.cache.entries.get i = none) :
    Sound ⟨host, b.owners.set k o'⟩ (left ++ [i]) := by
  have hothers : ∀ j, j ≠ i → host.link.found j = b.found j := fun j hj =>
    uses.link.others j fun hown => hj (Option.some.inj (hown.symm.trans index))
  have hholds : ∀ j, Board.holds ⟨host, b.owners.set k o'⟩ j + [i].count j = b.holds j := by
    intro j
    have hset := holds_set here o' host j
    rw [index, rid] at hset
    simp only [Option.some.injEq, reduceCtorEq, if_false] at hset
    rw [List.count_singleton, beq_eq_decide]
    simp only [decide_eq_true_eq]
    omega
  refine h.of_claims uses.link.settings (fun j => ?_) (fun j hj => ?_) hholds (fun p hp => ?_)
    (h.cached_of_uses uses (fun j hj hpos => ?_) fun j hj hsome => ?_)
  · by_cases hji : j = i
    · subst hji
      exact claims
    · have hj : (⟨host, b.owners.set k o'⟩ : Board).found j = b.found j := hothers j hji
      rw [hj]
      exact ⟨rfl, rfl, rfl⟩
  · refine congrArg Device.Socket.tx (hothers j ?_)
    rintro rfl
    exact Nat.lt_irrefl 0 (hj ▸ holds_pos here index)
  · rcases serves_of_set hp with rfl | hold
    · exact Or.inr (serves _)
    · exact Or.inl hold
  · have hj' := hholds j
    have hne : i ≠ j := by
      rintro rfl
      exact hj index
    rw [List.count_singleton, if_neg (by simpa using hne)] at hj'
    omega
  · rw [Option.some.inj (hj.symm.trans index), uncached] at hsome
    cases hsome

/-- Nobody holds a slot once the only object that held it gave it up. -/
theorem nobody_after (h : Sound b left) {o o' : Owner} {i : Fin socketCount} (host : Host Line)
    (here : b.owners[k]? = some o) (index : o.socket.index? = some i)
    (rid : o'.socket.index? = none) : Board.holds ⟨host, b.owners.set k o'⟩ i = 0 := by
  have hset := holds_set here o' host i
  have halone := (h.alone (holds_pos here index)).1
  rw [if_pos index, rid] at hset
  simp only [reduceCtorEq, if_false] at hset
  omega

theorem index_ne_of_holds {owners : List Owner} (host : Host Line) {i : Fin socketCount}
    (free : Board.holds ⟨host, owners⟩ i = 0) {o : Owner} (ho : o ∈ owners) :
    o.socket.index? ≠ some i := fun hi =>
  Nat.lt_irrefl 0 (free ▸ List.countP_pos_iff.mpr ⟨o, ho, decide_eq_true hi⟩)

theorem freed (h : Sound b left) {o o' : Owner} {i : Fin socketCount} {host : Host Line}
    (here : b.owners[k]? = some o) (index : o.socket.index? = some i)
    (rid : o'.socket.index? = none) (serves : ∀ l, o'.Serves l)
    (uses : Host.Uses Socket.nothing o.socket b.host host)
    (slot : host.link.found i = Socket.free) (uncached : host.cache.entries.get i = none) :
    Sound ⟨host, b.owners.set k o'⟩ (left ++ (b.found i).queue) := by
  have hothers : ∀ j, j ≠ i → host.link.found j = b.found j := fun j hj =>
    uses.link.others j fun hown => hj (Option.some.inj (hown.symm.trans index))
  have hwaits : ∀ j, host.link.waits j + (b.found i).queues j = b.host.link.waits j := by
    intro j
    have hchange := Link.waits_change b.host.link host.link (j := i)
      (fun m hm => congrArg Device.Socket.waiting (hothers m hm)) j
    rw [slot, Socket.queues_of_nil (a := Socket.free) rfl] at hchange
    exact hchange
  obtain ⟨hone, hunqueued, hkept⟩ := h.alone (holds_pos here index)
  have hnone := h.nobody_after host here index rid
  have hset : ∀ j, j ≠ i → Board.holds ⟨host, b.owners.set k o'⟩ j = b.holds j := by
    intro j hj
    have hset := holds_set here o' host j
    rw [index, rid, if_neg (by simpa using Ne.symm hj)] at hset
    simpa using hset
  have hslot : (⟨host, b.owners.set k o'⟩ : Board).found i = Socket.free := slot
  refine h.of_change (i := i) uses.link.settings hothers (fun j => ?_) (fun p hp => ?_)
    (h.cached_of_uses uses (fun j hj hpos => ?_) fun j hj hsome => ?_) (fun j hj => Or.inl ?_)
    (fun _ => ?_) (fun hj => ?_) (fun j => ?_) fun hj => ?_
  · have hj := hwaits j
    rw [List.count_append, Socket.count_queue]
    by_cases hji : j = i
    · subst hji
      rw [hslot, hnone]
      change 0 + host.link.waits j + (left.count j + (b.found j).queues j) = 0
      omega
    · rw [hset j hji]
      change b.holds j + host.link.waits j + (left.count j + (b.found i).queues j) =
        (host.link.found j).reserved.toNat
      rw [hothers j hji, ← h.ledger j]
      omega
  · rcases serves_of_set hp with rfl | hold
    · exact Or.inr (serves _)
    · exact Or.inl ⟨hold, index_ne_of_holds host hnone hp⟩
  · rw [hset j]
    · exact hpos
    · rintro rfl
      exact hj index
  · rw [Option.some.inj (hj.symm.trans index), uncached] at hsome
    cases hsome
  · by_cases hji : j = i
    · rw [hji, hone]
      exact Nat.one_pos
    · rwa [hset j hji] at hj
  · rw [hslot]
    exact ⟨rfl, rfl, rfl⟩
  · rw [hslot] at hj
    exact absurd rfl hj
  · exact Nat.le.intro (hwaits j)
  · have hj' := hwaits i
    change 0 < host.link.waits i at hj
    omega

/-- A slot that nobody had is taken. What belongs to whom is said by the ledger after it. -/
theorem taken (h : Sound b left) {socket : SocketHandle} {i : Fin socketCount} {host : Host Line}
    {owners : List Owner} (index : socket.index? = some i) (vacant : (b.found i).reserved = false)
    (uses : Host.Uses Socket.nothing socket b.host host)
    (taken : Socket.Taken (b.found i) (host.link.found i))
    (holds : ∀ j, Board.holds ⟨host, owners⟩ j + new.count j =
      b.holds j + if i = j then 1 else 0)
    (more : ∀ j, b.holds j ≤ Board.holds ⟨host, owners⟩ j)
    (serves : ∀ o ∈ owners, o ∈ b.owners ∨ o.Serves host.link)
    (cache : ∀ j, (host.cache.entries.get j).isSome → (b.host.cache.entries.get j).isSome)
    (carries : ∀ j, b.holds j < Board.holds ⟨host, owners⟩ j →
      8 ≤ b.host.link.settings.maxFrameSize.toNat ∧
        1 ≤ b.host.link.settings.startBudget.toNat) : Sound ⟨host, owners⟩ (left ++ new) := by
  obtain ⟨-, hwaiting, htx⟩ := h.vacant i vacant
  obtain ⟨hholds, hunqueued, hkept⟩ := h.nobody vacant
  have hothers : ∀ j, j ≠ i → host.link.found j = b.found j := fun j hj =>
    uses.link.others j fun hown => hj (Option.some.inj (hown.symm.trans index))
  have hwaits : ∀ j, host.link.waits j = b.host.link.waits j := by
    refine Link.waits_congr fun j => ?_
    by_cases hji : j = i
    · rw [hji, taken.waiting hwaiting]
      exact hwaiting.symm
    · exact congrArg Device.Socket.waiting (hothers j hji)
  have hslot : (⟨host, owners⟩ : Board).found i = host.link.found i := rfl
  refine h.of_change (i := i) uses.link.settings hothers (fun j => ?_) (fun p hp => ?_)
    (fun j hj => ?_) (fun j hj => ?_) (fun hj => ?_) (fun hj => ?_) (fun j => ?_) fun hj => ?_
  · have hledger := h.ledger j
    have hj := holds j
    have hj' := hwaits j
    rw [List.count_append]
    change _ + host.link.waits j + _ = (host.link.found j).reserved.toNat
    by_cases hij : i = j
    · subst hij
      rw [taken.reserved, Bool.toNat_true]
      rw [if_pos rfl] at hj
      omega
    · rw [hothers j (Ne.symm hij)]
      rw [if_neg hij] at hj
      omega
  · rcases serves p hp with hold | hserves
    · exact Or.inl ⟨hold, index_ne_of_holds b.host hholds hold⟩
    · exact Or.inr hserves
  · exact Nat.lt_of_lt_of_le (h.cached j (cache j hj)) (more j)
  · rcases Nat.eq_zero_or_pos (b.holds j) with hnone | hsome
    · exact Or.inr (carries j (by omega))
    · exact Or.inl hsome
  · rw [hslot, taken.reserved] at hj
    cases hj
  · exact absurd (taken.waiting hwaiting) hj
  · exact Nat.le_of_eq (hwaits j)
  · change 0 < host.link.waits i at hj
    rw [hwaits i, hunqueued] at hj
    exact absurd hj (Nat.lt_irrefl 0)

/-- The connection that waits first leaves the queue of a listener. What belongs to whom is said by
the ledger after it. -/
theorem unqueued (h : Sound b left) {socket : SocketHandle} {i : Fin socketCount} {host : Host Line}
    {owners : List Owner} (index : socket.index? = some i)
    (uses : Host.Uses Socket.nothing socket b.host host) (cache : host.cache = b.host.cache)
    (slot : host.link.found i = (b.found i).dequeued)
    (holds : ∀ j, Board.holds ⟨host, owners⟩ j + new.count j =
      b.holds j + (b.found i).first.toList.count j)
    (more : ∀ j, b.holds j ≤ Board.holds ⟨host, owners⟩ j) (held : 0 < b.holds i)
    (serves : ∀ o ∈ owners, o ∈ b.owners ∨ o.Serves b.host.link) :
    Sound ⟨host, owners⟩ (left ++ new) := by
  have hothers : ∀ j, j ≠ i → host.link.found j = b.found j := fun j hj =>
    uses.link.others j fun hown => hj (Option.some.inj (hown.symm.trans index))
  have hclaims : ∀ j, (host.link.found j).reserved = (b.found j).reserved ∧
      (host.link.found j).kind = (b.found j).kind ∧ (host.link.found j).tx = (b.found j).tx := by
    intro j
    by_cases hji : j = i
    · rw [hji, slot]
      exact ⟨rfl, rfl, rfl⟩
    · rw [hothers j hji]
      exact ⟨rfl, rfl, rfl⟩
  have hwaits : ∀ j, host.link.waits j + (b.found i).first.toList.count j =
      b.host.link.waits j := by
    intro j
    have hchange := Link.waits_change b.host.link host.link (j := i)
      (fun m hm => congrArg Device.Socket.waiting (hothers m hm)) j
    have hqueue := (b.found i).queues_eq_dequeued j
    rw [slot] at hchange
    change host.link.waits j + (b.found i).queues j = _ at hchange
    omega
  have hserves : ∀ o : Owner, o.Serves b.host.link → o.Serves host.link :=
    fun o ho => ho.congr fun j _ => (hclaims j).2.1
  have hslot : (⟨host, owners⟩ : Board).found i = host.link.found i := rfl
  refine h.of_change (i := i) uses.link.settings hothers (fun j => ?_) (fun p hp => Or.inr ?_)
    (fun j hj => ?_) (fun _ _ => Or.inr (h.carries i held)) (fun hj => ?_) (fun hj => ?_)
    (fun j => Nat.le.intro (hwaits j)) fun hj => ?_
  · have hledger := h.ledger j
    have hj := holds j
    have hj' := hwaits j
    rw [List.count_append]
    change _ + host.link.waits j + _ = (host.link.found j).reserved.toNat
    rw [(hclaims j).1]
    omega
  · rcases serves p hp with hold | hnew
    · exact hserves p (h.serves p hold)
    · exact hserves p hnew
  · change (host.cache.entries.get j).isSome at hj
    rw [cache] at hj
    exact Nat.lt_of_lt_of_le (h.cached j hj) (more j)
  · rw [hslot, (hclaims i).1, h.reserved_of_holds held] at hj
    cases hj
  · rw [hslot, slot] at hj ⊢
    refine h.queued i fun hnil => hj ?_
    rw [Socket.dequeued, hnil]
    rfl
  · have hj' := hwaits i
    have hnone := (h.alone held).2.1
    change 0 < host.link.waits i at hj
    omega

theorem transfer (h : Sound b left) (hmove : Transfer b k new b') : Sound b' (left ++ new) := by
  cases hmove with
  | joined o rid serves =>
    have hholds : ∀ i, Board.holds ⟨b.host, b.owners ++ [o]⟩ i = b.holds i := by
      intro i
      have hnone : Board.holds ⟨b.host, [o]⟩ i = 0 := by
        rw [Board.holds, List.countP_singleton, rid]
        rfl
      rw [holds_append, hnone]
      rfl
    refine h.of_claims rfl (fun i => ⟨rfl, rfl, rfl⟩) (fun i _ => rfl) hholds (fun p hp => ?_)
      fun i hi => ?_
    · rcases List.mem_append.mp hp with hold | hnew
      · exact Or.inl hold
      · cases List.mem_singleton.mp hnew
        exact Or.inr (serves _)
    · rw [hholds]
      exact h.cached i hi
  | dropped k o o' i host here index rid serves uses claims lives uncached =>
    exact h.dropped here index rid serves uses claims uncached
  | freed k o o' i host here index rid serves uses slot uncached =>
    exact h.freed here index rid serves uses slot uncached
  | spent k socket i host index vacant uses taken cache =>
    refine h.taken index vacant uses taken (fun j => ?_) (fun j => Nat.le_refl _)
      (fun o ho => Or.inl ho) (fun j hj => ?_) fun j hj => absurd hj (Nat.lt_irrefl _)
    · rw [List.count_singleton, beq_eq_decide]
      simp only [decide_eq_true_eq]
      rfl
    · rcases cache with hsame | hclosed
      · rwa [hsame] at hj
      · rw [hclosed] at hj
        exact ReceiveCache.isSome_of_close hj
  | opened k o o' i host here rid index vacant uses taken serves cache carries =>
    have hset : ∀ j, Board.holds ⟨host, b.owners.set k o'⟩ j =
        b.holds j + if i = j then 1 else 0 := by
      intro j
      have hset := holds_set here o' host j
      rw [rid, index] at hset
      simpa using hset
    refine h.taken index vacant uses taken hset (fun j => ?_) (fun p hp => ?_) (fun j hj => ?_)
      fun _ _ => carries
    · rw [hset]
      exact Nat.le_add_right _ _
    · rcases serves_of_set hp with rfl | hold
      · exact Or.inr serves
      · exact Or.inl hold
    · rwa [cache] at hj
  | lost k j l i host listener index uses cache slot =>
    exact h.unqueued index uses cache slot (fun j => rfl) (fun j => Nat.le_refl _)
      (holds_pos listener index) fun o ho => Or.inl ho
  | accepted k o j l i m client host here rid listener index uses cache names first slot =>
    have hfirst : (b.found i).first = some m := by
      rw [Socket.first, first]
      exact names
    have hset : ∀ j, Board.holds ⟨host, b.owners.set k (.stream (.ofHandle client))⟩ j =
        b.holds j + (b.found i).first.toList.count j := by
      intro j
      have hset := holds_set here (.stream (.ofHandle client)) host j
      have hindex : (Owner.stream (.ofHandle client)).socket.index? = some m := names
      rw [rid, hindex] at hset
      rw [hfirst, Option.toList_some, List.count_singleton, beq_eq_decide]
      simpa using hset
    have hclient : (Owner.stream (.ofHandle client)).Serves b.host.link := by
      intro j hj
      cases hj.symm.trans names
      have hwaits : 0 < b.host.link.waits m := by
        refine Nat.lt_of_lt_of_le ?_ (Link.queues_le_waits b.host.link i m)
        have hqueue := (b.found i).queues_eq_dequeued m
        rw [hfirst, Option.toList_some, List.count_singleton_self] at hqueue
        exact hqueue ▸ Nat.succ_pos _
      have hkind := (h.pending m hwaits).1
      intro hserver
      cases hkind.symm.trans hserver
    refine h.unqueued index uses cache slot hset (fun j => ?_) (holds_pos listener index)
      fun p hp => ?_
    · rw [hset]
      exact Nat.le_add_right _ _
    · rcases serves_of_set hp with rfl | hold
      · exact Or.inr hclient
      · exact Or.inl hold

theorem move (h : Sound b left) (hmove : Move Socket.standing b k new b') :
    Sound b' (left ++ new) := by
  cases hmove with
  | quiet host uses =>
    rw [List.append_nil]
    exact h.quiet uses
  | used o o' host here index serves uses =>
    rw [List.append_nil]
    exact h.used here index serves uses
  | passed htransfer => exact h.transfer htransfer

end Sound

theorem Move.standing {b b' : Board} {k : Nat} {new : List (Fin socketCount)}
    (h : Move Socket.record b k new b') : Move Socket.standing b k new b' := by
  cases h with
  | quiet host uses => exact .quiet k host uses.standing
  | used o o' host here index serves uses =>
    exact .used k o o' host here index serves uses.standing
  | passed htransfer => exact .passed htransfer

/-- In every move the device is only used, and that about one socket. -/
theorem Move.uses {view : Device.Socket → Device.Socket} {b b' : Board} {k : Nat}
    {new : List (Fin socketCount)} (h : Move view b k new b') :
    ∃ socket, Host.Uses Socket.nothing socket b.host b'.host := by
  have hnothing : ∀ {socket : SocketHandle} {host : Host Line},
      Host.Uses view socket b.host host → Host.Uses Socket.nothing socket b.host host :=
    fun uses => ⟨uses.link.weaken fun _ _ _ => rfl, uses.sockets, uses.cached⟩
  cases h with
  | quiet host uses => exact ⟨_, hnothing uses⟩
  | used o o' host here index serves uses => exact ⟨_, hnothing uses⟩
  | passed htransfer =>
    cases htransfer with
    | joined => exact ⟨.none, .refl b.host⟩
    | dropped k o o' i host here index rid serves uses => exact ⟨_, uses⟩
    | freed k o o' i host here index rid serves uses => exact ⟨_, uses⟩
    | spent k socket i host index vacant uses => exact ⟨_, uses⟩
    | opened k o o' i host here rid index vacant uses => exact ⟨_, uses⟩
    | lost k j l i host listener index uses => exact ⟨_, uses⟩
    | accepted k o j l i m client host here rid listener index uses => exact ⟨_, uses⟩

/-- Some moves about one object. -/
inductive Path (view : Device.Socket → Device.Socket) (k : Nat) :
    Board → List (Fin socketCount) → Board → Prop
  | nil (b : Board) : Path view k b [] b
  | cons {b b' b'' : Board} {new new' : List (Fin socketCount)} (first : Move view b k new b')
    (rest : Path view k b' new' b'') : Path view k b (new ++ new') b''

namespace Path

variable {view : Device.Socket → Device.Socket} {k : Nat} {b b' b'' : Board}
  {left new new' : List (Fin socketCount)}

theorem one (h : Move view b k new b') : Path view k b new b' :=
  List.append_nil new ▸ .cons h (.nil b')

theorem append (h : Path view k b new b') (h' : Path view k b' new' b'') :
    Path view k b (new ++ new') b'' := by
  induction h with
  | nil b => exact h'
  | cons first rest ih =>
    rw [List.append_assoc]
    exact .cons first (ih h')

theorem standing (h : Path Socket.record k b new b') : Path Socket.standing k b new b' := by
  induction h with
  | nil b => exact .nil b
  | cons first rest ih => exact .cons first.standing ih

theorem sound (h : Path Socket.standing k b new b') (hb : Sound b left) :
    Sound b' (left ++ new) := by
  induction h generalizing left with
  | nil b => rwa [List.append_nil]
  | cons first rest ih =>
    rw [← List.append_assoc]
    exact ih (hb.move first)

end Path

end Board

end SpiWifi
