import SpiWifi.Proofs.Board.Steps

/-!
# What moves leave alone

A move concerns one object. Every other object keeps its handle, its slot and its cache. What the
object itself sent stays recorded, unless its socket is another one afterwards, and through that one
nothing was sent. A slot that nobody has stays as it is, or was freed by the move. Beside this stands
that only sockets of connections are ever established.
-/

namespace SpiWifi

open Device

namespace Device

/-- A slot but for who waits on it. -/
def Socket.aside (a : Socket) : Socket := { a with waiting := [] }

/-- A connection that comes in changes nothing of what was sent, and establishes a connection if
anything. -/
theorem State.injectConnection_slot (s : State) (port : UInt16) (peer : Endpoint) (data : Bytes)
    (i : Fin socketCount) :
    let a := s.sockets.get i
    let a' := (s.injectConnection port peer data).2.sockets.get i
    a'.tx = a.tx ∧ (a'.kind = .client ∨ a'.state = a.state ∧ a'.kind = a.kind) := by
  rcases s.injectConnection_cases port peer data with
    ⟨-, hnothing⟩ | ⟨listener, m, -, -, -, -, hstate⟩
  · rw [hnothing]
    exact ⟨rfl, Or.inr ⟨rfl, rfl⟩⟩
  · -- the slot is the listener's, the new connection's, both or neither
    rw [hstate, State.get_modifySocket, State.get_modifySocket]
    by_cases hm : m = i
    · rw [if_pos hm]
      split <;> exact ⟨rfl, Or.inl rfl⟩
    · rw [if_neg hm]
      split <;> exact ⟨rfl, Or.inr ⟨rfl, rfl⟩⟩

/-- Nothing from outside changes what was sent. -/
theorem Happening.apply_tx (h : Happening) (s : State) (i : Fin socketCount) :
    ((h.apply s).sockets.get i).tx = (s.sockets.get i).tx := by
  by_cases hc : ∃ port peer data, h = .connection port peer data
  · obtain ⟨port, peer, data, rfl⟩ := hc
    exact (s.injectConnection_slot port peer data i).1
  · exact (Happening.apply_claims s
      (fun port peer data heq => hc ⟨port, peer, data, heq⟩) i).2.2.2

/-- What a peer or the surroundings establish is a connection. -/
theorem Happening.apply_live {h : Happening} (s : State) (i : Fin socketCount)
    (live : (s.sockets.get i).state.isConnected = true → (s.sockets.get i).kind = .client)
    (hi : ((h.apply s).sockets.get i).state.isConnected = true) :
    ((h.apply s).sockets.get i).kind = .client := by
  have honSocket : ∀ (raw : UInt8) (f : Socket → Socket),
      (∀ a, (f a).state.isConnected = true → a.state.isConnected = true ∧ (f a).kind = a.kind) →
      ((s.onSocket raw f).sockets.get i).state.isConnected = true →
      ((s.onSocket raw f).sockets.get i).kind = .client := by
    intro raw f hf hlive
    rw [State.get_onSocket] at hlive ⊢
    split at hlive
    · next hraw =>
      obtain ⟨hbefore, hkind⟩ := hf _ hlive
      rw [if_pos hraw, hkind]
      exact live hbefore
    · next hraw =>
      rw [if_neg hraw]
      exact live hlive
  cases h with
  | connection port peer data =>
    rcases (s.injectConnection_slot port peer data i).2 with hclient | ⟨hstate, hkind⟩
    · exact hclient
    · exact hkind.trans (live (hstate ▸ hi))
  | push raw data => exact honSocket raw _ (fun a ha => ⟨ha, rfl⟩) hi
  | pushDatagram raw sender data => exact honSocket raw _ (fun a ha => ⟨ha, rfl⟩) hi
  | closeRemote raw =>
    refine honSocket raw _ (fun a ha => ?_) hi
    split at ha
    · cases ha
    · exact ⟨ha, by split <;> rfl⟩
  | _ => exact live hi

end Device

namespace Link

theorem tx_told (l : Link Line) (happening : Happening) (i : Fin socketCount) :
    ((l.onTransport (Line.onState happening.apply)).found i).tx = (l.found i).tx := by
  cases hinit : l.initialized with
  | false => rw [found_told_before hinit happening.apply i]
  | true =>
    rw [found_told hinit happening.apply i, found_of_initialized hinit]
    exact happening.apply_tx _ i

end Link

namespace Board

variable {b b' : Board} {left new : List (Fin socketCount)} {k j : Nat} {o p : Owner}
  {i m : Fin socketCount} {host : Host Line}

/-- Two objects never hold the same slot. -/
theorem Sound.apart (h : Sound b left) (here : b.owners[k]? = some o)
    (there : b.owners[j]? = some p) (hne : j ≠ k) (index : o.socket.index? = some i) :
    p.socket.index? ≠ some i := by
  have hnone : Board.holds ⟨b.host, b.owners.set k .closed⟩ i = 0 :=
    h.nobody_after b.host here index rfl
  have hset : (b.owners.set k .closed)[j]? = some p :=
    (List.getElem?_set_ne hne.symm).trans there
  exact Sound.index_ne_of_holds b.host hnone (List.mem_of_getElem? hset)

/-- A slot that was vacant is none that an object holds. -/
theorem Sound.held_ne (h : Sound b left) (there : b.owners[j]? = some p)
    (index : p.socket.index? = some i) (vacant : (b.found m).reserved = false) : m ≠ i := by
  rintro rfl
  rw [h.reserved_of_holds (holds_pos there index)] at vacant
  cases vacant

theorem aside_of_dequeued {socket : SocketHandle} (index : socket.index? = some m)
    (uses : Host.Uses Socket.nothing socket b.host host)
    (slot : host.link.found m = (b.found m).dequeued) (i : Fin socketCount) :
    (host.link.found i).aside = (b.found i).aside := by
  by_cases him : i = m
  · rw [him, slot]
    rfl
  · exact congrArg Device.Socket.aside (uses.link.others i fun hown =>
      him (Option.some.inj (hown.symm.trans index)))

theorem tx_of_dequeued {socket : SocketHandle} (index : socket.index? = some m)
    (uses : Host.Uses Socket.nothing socket b.host host)
    (slot : host.link.found m = (b.found m).dequeued) (i : Fin socketCount) :
    (host.link.found i).tx = (b.found i).tx := by
  have heq := congrArg Device.Socket.tx (aside_of_dequeued index uses slot i)
  exact heq

/-- What belongs to the object in a place stays: its handle, its slot but for who waits there, and
what is cached for it. -/
structure Spares (b : Board) (j : Nat) (p : Owner) (b' : Board) : Prop where
  place : b'.owners[j]? = some p
  slot : ∀ i, p.socket.index? = some i → (b'.found i).aside = (b.found i).aside
  cache : ∀ i, p.socket.index? = some i →
    b'.host.cache.entries.get i = b.host.cache.entries.get i

theorem Spares.tx (h : Spares b j p b') (hi : p.socket.index? = some i) :
    (b'.found i).tx = (b.found i).tx := by
  have heq := congrArg Device.Socket.tx (h.slot i hi)
  exact heq

/-- A move leaves the other objects what they have. -/
theorem Move.others (h : Sound b left) (hmove : Move Socket.standing b k new b')
    (there : b.owners[j]? = some p) (hne : j ≠ k) : Spares b j p b' := by
  have hspares : ∀ {view : Device.Socket → Device.Socket} {socket : SocketHandle}
      {host : Host Line} {owners : List Owner}, owners[j]? = some p →
      Host.Uses view socket b.host host →
      (∀ i, p.socket.index? = some i → socket.index? ≠ some i) → Spares b j p ⟨host, owners⟩ :=
    fun place uses hother => ⟨place,
      fun i hi => congrArg Device.Socket.aside (uses.link.others i (hother i hi)),
      fun i hi => uses.cached i (hother i hi)⟩
  have hvacant : ∀ {socket : SocketHandle} {m : Fin socketCount}, socket.index? = some m →
      (b.found m).reserved = false → ∀ i, p.socket.index? = some i → socket.index? ≠ some i :=
    fun index vacant i hi hown =>
      h.held_ne there hi vacant (Option.some.inj (index.symm.trans hown))
  cases hmove with
  | quiet host uses => exact hspares there uses fun _ _ => nofun
  | used o o' host here index serves uses =>
    exact hspares ((List.getElem?_set_ne hne.symm).trans there) uses
      fun i hi hown => h.apart here there hne hown hi
  | passed htransfer =>
    have hplace := (htransfer.others hne (List.getElem?_eq_some_iff.mp there).1).trans there
    cases htransfer with
    | joined => exact ⟨hplace, fun _ _ => rfl, fun _ _ => rfl⟩
    | dropped k o o' m host here index rid serves uses =>
      exact hspares hplace uses fun i hi hown => h.apart here there hne hown hi
    | freed k o o' m host here index rid serves uses =>
      exact hspares hplace uses fun i hi hown => h.apart here there hne hown hi
    | spent k socket m host index vacant uses =>
      exact hspares hplace uses (hvacant index vacant)
    | opened k o o' m host here rid index vacant uses =>
      exact hspares hplace uses (hvacant index vacant)
    | lost k j l m host listener index uses cache slot =>
      exact ⟨hplace, fun i _ => aside_of_dequeued index uses slot i, fun i _ => by rw [cache]⟩
    | accepted k o j l m n client host here rid listener index uses cache names first slot =>
      exact ⟨hplace, fun i _ => aside_of_dequeued index uses slot i, fun i _ => by rw [cache]⟩

theorem Path.others (h : Path Socket.standing k b new b') (hb : Sound b left)
    (there : b.owners[j]? = some p) (hne : j ≠ k) : Spares b j p b' := by
  induction h generalizing left with
  | nil b => exact ⟨there, fun _ _ => rfl, fun _ _ => rfl⟩
  | cons first rest ih =>
    have hfirst := first.others hb there hne
    have hrest := ih (hb.move first) hfirst.place
    exact ⟨hrest.place, fun i hi => (hrest.slot i hi).trans (hfirst.slot i hi),
      fun i hi => (hrest.cache i hi).trans (hfirst.cache i hi)⟩

/-- A slot that nobody has after a move was freed by it, or is as it was. -/
theorem Move.vacated (h : Sound b left) (hmove : Move Socket.standing b k new b')
    (vacant : (b'.found i).reserved = false) :
    b'.found i = Socket.free ∨ b'.found i = b.found i := by
  -- only the slot that was used can have changed, and that one somebody has
  have hused : ∀ {view : Device.Socket → Device.Socket} {socket : SocketHandle}
      {m : Fin socketCount}, socket.index? = some m → Host.Uses view socket b.host b'.host →
      (i = m → (b'.found i).reserved = true) → b'.found i = Socket.free ∨ b'.found i = b.found i := by
    intro view socket m index uses hreserved
    refine Or.inr (uses.link.others i fun hown => ?_)
    rw [hreserved (Option.some.inj (hown.symm.trans index))] at vacant
    cases vacant
  have hheld : ∀ {o : Owner} {j : Nat} {m : Fin socketCount}, b.owners[j]? = some o →
      o.socket.index? = some m → (b.found m).reserved = true :=
    fun here index => h.reserved_of_holds (holds_pos here index)
  cases hmove with
  | quiet host uses => exact Or.inr (uses.link.others i nofun)
  | used o o' host here index serves uses =>
    cases hi : o.socket.index? with
    | none => exact Or.inr (uses.link.others i (hi ▸ nofun))
    | some m =>
      refine hused hi uses ?_
      rintro rfl
      exact (Socket.reserved_of_standing (uses.link.own i)).trans (hheld here hi)
  | passed htransfer =>
    cases htransfer with
    | joined => exact Or.inr rfl
    | dropped k o o' m host here index rid serves uses claims =>
      refine hused index uses ?_
      rintro rfl
      exact claims.1.trans (hheld here index)
    | freed k o o' m host here index rid serves uses slot =>
      by_cases him : i = m
      · subst him
        exact Or.inl slot
      · exact hused index uses fun heq => absurd heq him
    | spent k socket m host index vacant uses taken =>
      refine hused index uses ?_
      rintro rfl
      exact taken.reserved
    | opened k o o' m host here rid index vacant uses taken =>
      refine hused index uses ?_
      rintro rfl
      exact taken.reserved
    | lost k j l m host listener index uses cache slot =>
      refine hused index uses ?_
      rintro rfl
      exact (congrArg Device.Socket.reserved slot).trans (hheld listener index)
    | accepted k o j l m n client host here rid listener index uses cache names first slot =>
      refine hused index uses ?_
      rintro rfl
      exact (congrArg Device.Socket.reserved slot).trans (hheld listener index)

theorem Path.vacated (h : Path Socket.standing k b new b') (hb : Sound b left)
    (vacant : (b'.found i).reserved = false) :
    b'.found i = Socket.free ∨ b'.found i = b.found i := by
  induction h generalizing left with
  | nil b => exact Or.inr rfl
  | cons first rest ih =>
    rcases ih (hb.move first) vacant with hfree | hsame
    · exact Or.inl hfree
    · rw [hsame] at vacant ⊢
      exact first.vacated hb vacant

/-- Objects are only ever added, and that in the place that the move concerns. -/
theorem Move.length {view : Device.Socket → Device.Socket} (h : Move view b k new b') :
    b'.owners.length = b.owners.length ∨
      b.owners.length = k ∧ b'.owners.length = k + 1 := by
  cases h with
  | quiet => exact Or.inl rfl
  | used => exact Or.inl List.length_set
  | passed htransfer =>
    cases htransfer with
    | joined => exact Or.inr ⟨rfl, List.length_append⟩
    | spent | lost => exact Or.inl rfl
    | dropped | freed | opened | accepted => exact Or.inl List.length_set

theorem Path.length {view : Device.Socket → Device.Socket} (h : Path view k b new b') :
    b'.owners.length = b.owners.length ∨
      b.owners.length = k ∧ b'.owners.length = k + 1 := by
  induction h with
  | nil b => exact Or.inl rfl
  | cons first rest ih =>
    have hfirst := first.length
    omega

/-- What the object holds after a move is what it held, with all that was sent, or something through
which nothing was sent. -/
theorem Move.own (h : Sound b left) (hmove : Move Socket.record b k new b')
    (held : b'.slotAt k = some i) :
    b.slotAt k = some i ∧ (b'.found i).tx = (b.found i).tx ∨ (b'.found i).tx = [] := by
  cases hmove with
  | quiet host uses => exact Or.inl ⟨held, Socket.tx_of_record (uses.link.own i)⟩
  | used o o' host here index serves uses =>
    rw [slotAt_set here, index, ← slotAt_of_here here] at held
    exact Or.inl ⟨held, Socket.tx_of_record (uses.link.own i)⟩
  | passed htransfer =>
    cases htransfer with
    | joined o rid =>
      rw [slotAt, List.getElem?_concat_length, Option.bind_some, rid] at held
      cases held
    | dropped k o o' m host here index rid =>
      rw [slotAt_set here, rid] at held
      cases held
    | freed k o o' m host here index rid =>
      rw [slotAt_set here, rid] at held
      cases held
    | spent k socket m host index vacant uses =>
      have hslot : b.slotAt k = some i := held
      obtain ⟨o, here, ho⟩ := Option.bind_eq_some_iff.mp hslot
      refine Or.inl ⟨hslot, congrArg Device.Socket.tx (uses.link.others i fun hown => ?_)⟩
      exact h.held_ne here ho vacant (Option.some.inj (index.symm.trans hown))
    | opened k o o' m host here rid index vacant uses taken =>
      rw [slotAt_set here, index] at held
      cases held
      exact Or.inr (taken.tx (h.vacant i vacant).2.2)
    | lost k j l m host listener index uses cache slot =>
      exact Or.inl ⟨held, tx_of_dequeued index uses slot i⟩
    | accepted k o j l m n client host here rid listener index uses cache names first slot =>
      have hindex : (Owner.stream (.ofHandle client)).socket.index? = some n := names
      rw [slotAt_set here, hindex] at held
      cases held
      refine Or.inr ((tx_of_dequeued index uses slot i).trans (h.pending i ?_).2)
      refine Nat.lt_of_lt_of_le ?_ (Link.queues_le_waits b.host.link m i)
      obtain ⟨rest, hwaiting⟩ := List.head?_eq_some_iff.mp first
      change 0 < (b.found m).queues i
      rw [Socket.queues, hwaiting]
      exact List.countP_pos_iff.mpr ⟨client.raw, List.mem_cons_self, decide_eq_true names⟩

theorem Path.own (h : Path Socket.record k b new b') (hb : Sound b left)
    (held : b'.slotAt k = some i) :
    b.slotAt k = some i ∧ (b'.found i).tx = (b.found i).tx ∨ (b'.found i).tx = [] := by
  induction h generalizing left with
  | nil b => exact Or.inl ⟨held, rfl⟩
  | cons first rest ih =>
    rcases ih (hb.move first.standing) held with ⟨hslot, hsame⟩ | hnew
    · rw [hsame]
      exact first.own hb hslot
    · exact Or.inr hnew

/-- Only connections are found connected. -/
def Live (b : Board) : Prop :=
  ∀ i, (b.found i).state.isConnected = true → (b.found i).kind = .client

theorem Live.used (h : Live b) {socket : SocketHandle}
    (uses : Host.Uses Socket.standing socket b.host host) (owners : List Owner) :
    Live ⟨host, owners⟩ := fun i hi =>
  (Socket.kind_of_standing (uses.link.own i)).trans
    (h i (Socket.state_of_standing (uses.link.own i) ▸ hi))

/-- A socket about which the device was asked, when all but its slot is as it was. -/
theorem Live.changed (h : Live b) {socket : SocketHandle} (index : socket.index? = some m)
    (uses : Host.Uses Socket.nothing socket b.host host)
    (slot : (host.link.found m).state.isConnected = true → (host.link.found m).kind = .client)
    (owners : List Owner) : Live ⟨host, owners⟩ := by
  intro i hi
  by_cases him : i = m
  · subst him
    exact slot hi
  · have hsame : (⟨host, owners⟩ : Board).found i = b.found i := uses.link.others i fun hown =>
      him (Option.some.inj (hown.symm.trans index))
    rw [hsame] at hi ⊢
    exact h i hi

theorem Live.move (h : Live b) (hb : Sound b left) (hmove : Move Socket.standing b k new b') :
    Live b' := by
  have htaken : ∀ {m : Fin socketCount} {a : Device.Socket}, (b.found m).reserved = false →
      Socket.Taken (b.found m) a → a.state.isConnected = true → a.kind = .client := by
    intro m a vacant taken hlive
    rcases taken.live hlive with hkind | hsame
    · exact hkind
    · cases (hb.vacant m vacant).1.symm.trans (h m (hsame ▸ hlive))
  have hdequeued : ∀ {m : Fin socketCount} {a : Device.Socket}, a = (b.found m).dequeued →
      a.state.isConnected = true → a.kind = .client := by
    rintro m a rfl hlive
    exact h m hlive
  cases hmove with
  | quiet host uses => exact h.used uses _
  | used o o' host here index serves uses => exact h.used uses _
  | passed htransfer =>
    cases htransfer with
    | joined => exact h
    | dropped k o o' m host here index rid serves uses claims lives =>
      exact h.changed index uses (fun hlive => claims.2.1.trans (h m (lives hlive))) _
    | freed k o o' m host here index rid serves uses slot =>
      refine h.changed index uses (fun hlive => ?_) _
      rw [slot] at hlive
      cases hlive
    | spent k socket m host index vacant uses taken =>
      exact h.changed index uses (htaken vacant taken) _
    | opened k o o' m host here rid index vacant uses taken =>
      exact h.changed index uses (htaken vacant taken) _
    | lost k j l m host listener index uses cache slot =>
      exact h.changed index uses (hdequeued slot) _
    | accepted k o j l m n client host here rid listener index uses cache names first slot =>
      exact h.changed index uses (hdequeued slot) _

theorem Live.path (h : Path Socket.standing k b new b') (live : Live b) (hb : Sound b left) :
    Live b' := by
  induction h generalizing left with
  | nil b => exact live
  | cons first rest ih => exact ih (live.move hb first) (hb.move first)

theorem Live.told (h : Live b) (happening : Happening) : Live (b.told happening) := by
  intro i hi
  change ((b.host.link.onTransport (Line.onState happening.apply)).found i).state.isConnected = _ at hi
  change ((b.host.link.onTransport (Line.onState happening.apply)).found i).kind = _
  have hlive : (b.host.link.found i).state.isConnected = true →
      (b.host.link.found i).kind = .client := h i
  cases hinit : b.host.link.initialized with
  | false =>
    rw [Link.found_told_before hinit happening.apply i] at hi ⊢
    exact hlive hi
  | true =>
    rw [Link.found_of_initialized hinit] at hlive
    rw [Link.found_told hinit happening.apply i] at hi ⊢
    exact Happening.apply_live _ i hlive hi

theorem start_live {link : Link Line} (fresh : ∀ i, link.found i = Socket.free)
    (sockets : SocketSettings) (station : StationSettings) : Live (start link sockets station) := by
  intro i hi
  have hfree : (start link sockets station).found i = Socket.free := fresh i
  rw [hfree] at hi
  cases hi

theorem run_live (h : Sound b left) (live : Live b) (events : List BoardEvent) :
    Live (b.run events) := by
  induction events generalizing b left with
  | nil => exact live
  | cons e rest ih =>
    obtain ⟨new, hsound, -⟩ := step_sound h e
    refine ih hsound ?_
    by_cases inside : ∀ happening, e ≠ .happens happening
    · obtain ⟨_, hpath, -⟩ := operation_path h inside
      exact live.path hpath h
    · obtain ⟨happening, rfl⟩ := not_forall_not.mp inside
      exact live.told happening

end Board

end SpiWifi
