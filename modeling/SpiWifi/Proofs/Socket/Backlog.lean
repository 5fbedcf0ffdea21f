import SpiWifi.Proofs.Socket.ByteStream
import SpiWifi.Proofs.Socket.Fetching

/-!
# What a socket has to give

The bytes that can still be read from a socket are those in its cache and those that the device holds
for it. Looking for them moves bytes from the device to the cache, and loses some if the reply gets
lost. Whatever else the host does, to this socket or another, can only make them fewer. This holds
though the socket is given up and its slot is taken again, and though the device is reset.
-/

namespace SpiWifi

open Device

namespace ReceiveCache

section
variable {σ : Type} (fetch : Fetch σ) (h : SocketHandle) (c : ReceiveCache) (s : σ)

theorem available_remaining :
    (c.available fetch h s).1 = (c.available fetch h s).2.1.remaining h := by
  cases hi : h.index? with
  | none => rw [available_of_invalid hi, remaining_of_index?_none hi]
  | some i =>
    by_cases hr : c.remaining h = 0
    · rw [available_of_dry hi hr, remaining, entry?_setEntry_self hi]
      rfl
    · rw [available_of_cached hi (Nat.pos_of_ne_zero hr)]

/-- A look leaves bytes that are cached as they are. If there are none, it caches what it fetches. -/
theorem available_draws {i : Fin socketCount} (hi : h.index? = some i) :
    (c.remaining h ≠ 0 ∧ (c.available fetch h s).2 = (c, s)) ∨
    (c.bytes h = [] ∧ ∃ slot, slot = (c.entryAt i).slot ∧
      (c.available fetch h s).2.1.bytes h =
        (fetch h slot s).1.2.bytes.take (fetch h slot s).1.1 ∧
      (c.available fetch h s).2.2 = (fetch h slot s).2) := by
  by_cases hr : c.remaining h = 0
  · have hdry : (c.entryAt i).remaining = 0 := by rwa [← remaining_eq hi]
    refine Or.inr ⟨?_, _, rfl, ?_⟩
    · rw [bytes_eq hi, CacheEntry.bytes, hdry, List.take_zero]
    · rw [available_of_dry hi hr]
      refine ⟨?_, rfl⟩
      dsimp only
      rw [bytes, entry?_setEntry_self hi]
      change CacheEntry.bytes _ = _
      rw [CacheEntry.bytes_refilled hdry]
  · rw [available_of_cached hi (Nat.pos_of_ne_zero hr)]
    exact Or.inl ⟨hr, rfl⟩

/-- What is cached after a look was cached before, or fetched. -/
theorem available_sublist (queue : σ → Bytes)
    (hfetch : ∀ slot, ((fetch h slot s).1.2.bytes.take (fetch h slot s).1.1 ++
      queue (fetch h slot s).2).Sublist (queue s)) :
    ((c.available fetch h s).2.1.bytes h ++ queue (c.available fetch h s).2.2).Sublist
      (c.bytes h ++ queue s) := by
  cases hi : h.index? with
  | none => rw [available_of_invalid hi]
  | some i =>
    rcases available_draws fetch h c s hi with ⟨-, hsame⟩ | ⟨hbytes, slot, -, hdrawn, hleft⟩
    · rw [hsame]
    · rw [hbytes, hdrawn, hleft]
      exact hfetch slot

/-- A read takes the first of the bytes that a look leaves cached, as many as were counted. -/
theorem read_takes (n : Nat) :
    let looked := c.available fetch h s
    (c.read fetch h n s).1 = (looked.2.1.bytes h).take (min looked.1 n) ∧
      (c.read fetch h n s).2.1.bytes h = (looked.2.1.bytes h).drop (min looked.1 n) := by
  have hcount := available_remaining fetch h c s
  unfold read
  generalize c.available fetch h s = looked at hcount ⊢
  obtain ⟨ready, c', s'⟩ := looked
  dsimp only at hcount ⊢
  have hnothing : min ready n = 0 → ([] : Bytes) = (c'.bytes h).take (min ready n) ∧
      c'.bytes h = (c'.bytes h).drop (min ready n) := by
    intro hmin
    rw [hmin, List.take_zero, List.drop_zero]
    exact ⟨rfl, rfl⟩
  split
  · next hi =>
    refine hnothing ?_
    rw [hcount, remaining_of_index?_none hi, Nat.zero_min]
  · next i hi =>
    split
    · next he =>
      refine hnothing ?_
      rw [hcount, remaining, entry?_eq hi, he]
      exact Nat.zero_min n
    · next e he =>
      split
      · next hmin => exact hnothing hmin
      · have hbytes : c'.bytes h = e.bytes := by
          rw [bytes_eq hi, entryAt, he]
          rfl
        have hremaining : ready = e.remaining := by
          rw [hcount, remaining_eq hi, entryAt, he]
          rfl
        obtain ⟨htake, hdrop⟩ := e.advance_bytes (n := min ready n) (by omega)
        rw [hbytes]
        refine ⟨htake, ?_⟩
        rw [bytes, entry?_setEntry_self hi]
        exact hdrop

/-- A read takes its bytes off those that a look leaves cached. -/
theorem read_append (n : Nat) :
    (c.read fetch h n s).1 ++ (c.read fetch h n s).2.1.bytes h =
      (c.available fetch h s).2.1.bytes h := by
  obtain ⟨hreturned, hleft⟩ := read_takes fetch h c s n
  rw [hreturned, hleft, List.take_append_drop]

/-- What a peek shows is the first of the bytes that a look leaves cached. -/
theorem peek_prefix :
    (c.peek fetch h s).1.toList <+: (c.available fetch h s).2.1.bytes h := by
  have hcount := available_remaining fetch h c s
  unfold peek
  generalize c.available fetch h s = looked at hcount ⊢
  obtain ⟨_ | n, c', s'⟩ := looked
  · exact List.nil_prefix
  · dsimp only at hcount ⊢
    cases he : c'.entry? h with
    | none => exact List.nil_prefix
    | some e =>
      rw [remaining, he] at hcount
      have hpos : 0 < e.remaining := by
        change n + 1 = e.remaining at hcount
        omega
      rw [Option.bind_some, CacheEntry.head?_bytes hpos, bytes, he]
      change e.bytes.head?.toList <+: e.bytes
      cases e.bytes with
      | nil => exact List.nil_prefix
      | cons b rest => exact ⟨rest, rfl⟩

end

theorem bytes_of_same {c c' : ReceiveCache} {h : SocketHandle} {i : Fin socketCount}
    (hi : h.index? = some i) (hsame : c'.entries.get i = c.entries.get i) :
    c'.bytes h = c.bytes h := by
  refine bytes_congr ?_
  rw [entry?_eq hi, entry?_eq hi, hsame]

end ReceiveCache

namespace Device.Socket

/-- No datagrams wait in the slot, and it is not connected unless it is reserved. -/
def Bare (a : Socket) : Prop :=
  a.datagrams = [] ∧ (a.reserved = false → a.state.isConnected = false)

theorem free_bare : free.Bare := ⟨rfl, fun _ => rfl⟩

theorem loadDatagram_of_bare {a : Socket} (h : a.Bare) : a.loadDatagram = a := by
  unfold loadDatagram
  rw [h.1]
  split <;> rfl

/-- What a slot can become while nothing comes in. -/
structure Fades (a b : Socket) : Prop where
  rx : b.rx.Sublist a.rx
  bare : a.Bare → b.Bare

namespace Fades

variable {a b c : Socket}

theorem refl (a : Socket) : Fades a a := ⟨.refl a.rx, id⟩

theorem trans (h : Fades a b) (h' : Fades b c) : Fades a c :=
  ⟨h'.rx.trans h.rx, fun bare => h'.bare (h.bare bare)⟩

theorem free (a : Socket) : Fades a free := ⟨List.nil_sublist a.rx, fun _ => free_bare⟩

theorem taken (h : Taken a b) : Fades a b := by
  refine ⟨h.rx, fun bare => ⟨h.datagrams bare.1, fun hfree => ?_⟩⟩
  rw [h.reserved] at hfree
  cases hfree

theorem stopped (close : CloseBehavior) (a : Socket) : Fades a (a.stopped close) := by
  cases close with
  | immediate => exact .free a
  | linger => exact ⟨.refl a.rx, fun bare => ⟨bare.1, fun _ => rfl⟩⟩

theorem remoteClosed (a : Socket) :
    Fades a (if a.state = .established then { a with state := .closeWait } else a) := by
  split
  · exact ⟨.refl a.rx, fun bare => ⟨bare.1, fun _ => rfl⟩⟩
  · exact .refl a

end Fades

end Device.Socket

namespace Link

variable {l : Link Line} {socket : SocketHandle} {i : Fin socketCount}

/-- What a fetch stores went off the front of the queue. If the reply gets lost, so do its bytes. -/
theorem fetchInto_sublist (hi : socket.index? = some i) (bare : (l.found i).Bare) (slot : Slot) :
    ((fetchInto socket slot l).1.2.bytes.take (fetchInto socket slot l).1.1 ++
        ((fetchInto socket slot l).2.found i).rx).Sublist (l.found i).rx ∧
      ((fetchInto socket slot l).2.found i).datagrams = [] := by
  have hfetched := fetchInto_fetched l hi slot
  have happend := Socket.due_append slot.capacity (l.found i)
  have hload := Socket.loadDatagram_of_bare bare
  rw [hload] at happend
  by_cases hasks : 12 ≤ l.settings.maxFrameSize.toNat
  · rw [hfetched.sent hasks]
    refine ⟨?_, (congrArg Socket.datagrams hload).trans bare.1⟩
    by_cases hcarries :
        l.Carries .getDatabufTcp 12 (fetchSize ((l.found i).due slot.capacity).length)
    · obtain ⟨hcount, hbytes⟩ := hfetched.carried hcarries
      rw [hcount, hbytes, List.take_length, happend]
    · have hrest := List.sublist_append_right ((l.found i).due slot.capacity)
        ((l.found i).drained ((l.found i).due slot.capacity).length).rx
      rw [happend] at hrest
      rw [hfetched.failed hcarries, List.take_zero, List.nil_append]
      exact hrest
  · rw [hfetched.failed fun hcarries => hasks hcarries.asks, List.take_zero, List.nil_append,
      hfetched.unsent (Nat.not_le.mp hasks)]
    exact ⟨.refl _, bare.1⟩

theorem start_found (l : Link Line) (i : Fin socketCount) : l.start.found i = Socket.free :=
  (found_of_initialized rfl i).trans (get_replicate _ i)

theorem stop_found (l : Link Line) (i : Fin socketCount) : l.stop.found i = Socket.free :=
  found_of_uninitialized rfl i

theorem found_told_onSocket (l : Link Line) (raw : UInt8) (f : Device.Socket → Device.Socket)
    (i : Fin socketCount) :
    (l.onTransport (Line.onState fun s => s.onSocket raw f)).found i =
      if l.initialized = true ∧ SocketHandle.slotOf? raw = some i then f (l.found i)
      else l.found i := by
  cases hinit : l.initialized with
  | false =>
    rw [found_told_before hinit, if_neg]
    exact fun h => nomatch h.1
  | true =>
    rw [found_told hinit, State.get_onSocket, found_of_initialized hinit]
    by_cases hraw : SocketHandle.slotOf? raw = some i
    · rw [if_pos hraw, if_pos ⟨rfl, hraw⟩]
      rfl
    · rw [if_neg hraw, if_neg fun h => hraw h.2]
      rfl

theorem found_told_of_same (l : Link Line) {f : State → State}
    (same : ∀ s : State, (f s).sockets = s.sockets) (i : Fin socketCount) :
    (l.onTransport (Line.onState f)).found i = l.found i := by
  cases hinit : l.initialized with
  | false => exact found_told_before hinit f i
  | true =>
    rw [found_told hinit, found_of_initialized hinit, same]
    rfl

/-- The state that the device reports is that of the slot. -/
theorem clientState_outcome (l : Link Line) (hi : socket.index? = some i) :
    Outcome l .getClientStateTcp 8 8 (l.device.recorded .getClientStateTcp) (l.found i).state
      ((clientState socket).run l) := by
  have hstate : l.device.socketState socket.raw = (l.found i).state := by
    rw [State.socketState, State.socket?, show SocketHandle.slotOf? socket.raw = some i from hi]
    rfl
  have hread := readValue_outcome (l := l) (f := about .getClientStateTcp socket) ⟨rfl, rfl⟩
    (about_fits _ _) (Nat.le_of_ble_eq_true rfl)
    (run_serve_state (Or.inr rfl) socket.raw (l.device.recorded .getClientStateTcp)) 1 Slot.u8?
  have hmap := hread.map fun answer => (Option.bind answer TcpState.ofRaw?).getD .closed
  rw [← run_map fun answer => (Option.bind answer TcpState.ofRaw?).getD .closed, length_about]
    at hmap
  have hvalue : (Option.bind (Slot.holding (1 + 1) [(l.found i).state.raw]).u8?
      TcpState.ofRaw?).getD .closed = (l.found i).state :=
    congrArg (fun state : Option TcpState => state.getD .closed) (TcpState.ofRaw?_raw _)
  rw [← hvalue, ← hstate]
  exact hmap

end Link

namespace Host

def backlog (host : Host Line) (socket : SocketHandle) (i : Fin socketCount) : Bytes :=
  host.cache.bytes socket ++ (host.link.found i).rx

/-- What becomes of a host while nothing comes in and nothing is looked for. -/
structure Fades (host host' : Host Line) : Prop where
  sockets : ∀ j, Socket.Fades (host.link.found j) (host'.link.found j)
  cached : ∀ j, host'.cache.entries.get j = host.cache.entries.get j ∨
    host'.cache.entries.get j = none

/-- From the one host to the other a socket returned and received these bytes. It gave nothing that it
did not have, and nothing twice. -/
structure Yields (socket : SocketHandle) (i : Fin socketCount) (returned received : Bytes)
    (host host' : Host Line) : Prop where
  bytes : (returned ++ host'.backlog socket i).Sublist (host.backlog socket i ++ received)
  bare : (host'.link.found i).Bare

theorem cached_close (c : ReceiveCache) (socket : SocketHandle) (j : Fin socketCount) :
    (c.close socket).entries.get j = c.entries.get j ∨
      (c.close socket).entries.get j = none := by
  unfold ReceiveCache.close
  split
  · next i hi =>
    rw [ReceiveCache.get_setEntry]
    split
    · exact Or.inr rfl
    · exact Or.inl rfl
  · exact Or.inl rfl

section
variable {host host' host'' : Host Line} {socket : SocketHandle} {i : Fin socketCount}

namespace Fades

theorem refl (host : Host Line) : Fades host host := ⟨fun _ => .refl _, fun _ => Or.inl rfl⟩

theorem trans (h : Fades host host') (h' : Fades host' host'') : Fades host host'' := by
  refine ⟨fun j => (h.sockets j).trans (h'.sockets j), fun j => ?_⟩
  rcases h'.cached j with hsame | hnone
  · rw [hsame]
    exact h.cached j
  · exact Or.inr hnone

/-- Requests about one slot, after which its cache may have been freed. -/
theorem of_change (index : socket.index? = some i) (uses : Uses Socket.nothing socket host host')
    (slot : Socket.Fades (host.link.found i) (host'.link.found i))
    (cache : host'.cache = host.cache ∨ host'.cache = host.cache.close socket) :
    Fades host host' := by
  constructor
  · intro j
    by_cases hj : socket.index? = some j
    · cases hj.symm.trans index
      exact slot
    · rw [uses.link.others j hj]
      exact .refl _
  · intro j
    rcases cache with hsame | hclosed
    · exact Or.inl (by rw [hsame])
    · rw [hclosed]
      exact cached_close host.cache socket j

theorem closeCache (host : Host Line) (socket : SocketHandle) :
    Fades host (host.closeCache socket) :=
  ⟨fun _ => .refl _, cached_close host.cache socket⟩

theorem closeAll (host : Host Line) : Fades host host.closeAll :=
  ⟨fun _ => .refl _, fun j => Or.inr (get_replicate _ j)⟩

/-- Whatever happens to the device but that bytes come in. -/
theorem told {f : State → State}
    (sockets : ∀ j, Socket.Fades (host.link.found j)
      ((host.link.onTransport (Line.onState f)).found j)) : Fades host (host.told f) :=
  ⟨sockets, fun _ => Or.inl rfl⟩

theorem told_of_same (host : Host Line) (f : State → State)
    (same : ∀ s : State, (f s).sockets = s.sockets) : Fades host (host.told f) :=
  .told fun j => (Link.found_told_of_same host.link same j).symm ▸ .refl _

theorem reset {link : Link Line} (free : ∀ j, link.found j = Socket.free) :
    Fades host { host with link := link } :=
  ⟨fun j => (free j).symm ▸ .free _, fun _ => Or.inl rfl⟩

theorem bytes (h : Fades host host') (socket : SocketHandle) :
    (host'.cache.bytes socket).Sublist (host.cache.bytes socket) := by
  cases hi : socket.index? with
  | none =>
    rw [ReceiveCache.bytes_of_index?_none hi]
    exact List.nil_sublist _
  | some i =>
    rcases h.cached i with hsame | hnone
    · rw [ReceiveCache.bytes_of_same hi hsame]
    · rw [ReceiveCache.bytes, ReceiveCache.entry?_eq hi, hnone]
      exact List.nil_sublist _

theorem yields (h : Fades host host') (bare : (host.link.found i).Bare) (socket : SocketHandle) :
    Yields socket i [] [] host host' := by
  refine ⟨?_, (h.sockets i).bare bare⟩
  rw [List.nil_append, List.append_nil]
  exact (h.bytes socket).append (h.sockets i).rx

end Fades

theorem Yields.trans {returned returned' received received' : Bytes}
    (h : Yields socket i returned received host host')
    (h' : Yields socket i returned' received' host' host'') :
    Yields socket i (returned ++ returned') (received ++ received') host host'' := by
  refine ⟨?_, h'.bare⟩
  have hlast := h'.bytes.append_left returned
  have hfirst := h.bytes.append_right received'
  rw [← List.append_assoc, ← List.append_assoc] at hlast
  rw [← List.append_assoc]
  exact hlast.trans hfirst

theorem closeRemote_fades (host : Host Line) (raw : UInt8) :
    Fades host (host.told fun s => s.closeRemote raw) := by
  refine .told fun j => ?_
  let hangUp (a : Device.Socket) : Device.Socket :=
    if a.state = .established then { a with state := .closeWait } else a
  have hfound : (host.link.onTransport (Line.onState fun s => s.closeRemote raw)).found j =
      if host.link.initialized = true ∧ SocketHandle.slotOf? raw = some j then
        hangUp (host.link.found j)
      else host.link.found j := Link.found_told_onSocket host.link raw hangUp j
  rw [hfound]
  split
  · exact .remoteClosed _
  · exact .refl _

/-- The use of another socket. -/
theorem Uses.yields {view : Device.Socket → Device.Socket} {h : SocketHandle}
    (uses : Uses view h host host') (hi : socket.index? = some i)
    (bare : (host.link.found i).Bare) (hne : h.index? ≠ some i) :
    Yields socket i [] [] host host' := by
  constructor
  · rw [List.nil_append, List.append_nil, backlog, backlog,
      ReceiveCache.bytes_of_same hi (uses.cached i hne), uses.link.others i hne]
  · rw [uses.link.others i hne]
    exact bare

theorem Opening.fades {kind : SocketKind} {result : Except NetError SocketHandle × Host Line}
    (h : Opening kind host result) : Fades host result.2 := by
  cases h with
  | nothing e after uses =>
    have hnone : ∀ j, SocketHandle.none.index? ≠ some j := fun j hj => nomatch hj
    refine ⟨fun j => ?_, fun j => Or.inl (uses.cached j (hnone j))⟩
    dsimp only
    rw [uses.link.others j (hnone j)]
    exact .refl _
  | spent e after socket i index vacant uses taken cache =>
    exact .of_change index uses (.taken taken) cache
  | opened socket after i index vacant uses taken cache =>
    exact .of_change index uses (.taken taken.toTaken) (Or.inl cache)

theorem Stops.fades (hi : socket.index? = some i) (h : Stops socket i host host') :
    Fades host host' := by
  refine .of_change hi h.uses ?_ (Or.inr h.cache)
  rcases h.slot with hsame | hstopped
  · rw [hsame]
    exact .refl _
  · rw [hstopped]
    exact .stopped _ _

theorem tryStop_fades (socket : SocketHandle) (host : Host Line) :
    Fades host ((tryStop socket).run host).2 := by
  cases hi : socket.index? with
  | none =>
    have hinvalid : socket.isValid = false := SocketHandle.isValid_of_none hi
    rw [tryStop_of_invalid hinvalid]
    exact .refl host
  | some i => exact (tryStop_stops hi host).fades hi

theorem status_fades (socket : SocketHandle) (host : Host Line) :
    Fades host (status socket host).2 := by
  have huses : Uses id socket host (status socket host).2 :=
    stateBy_uses Link.clientState_uses host
  have hcache : (status socket host).2.cache = host.cache := by
    cases hvalid : socket.isValid with
    | false =>
      simp only [status, stateBy, hvalid, Bool.false_eq_true, if_false]
      rfl
    | true =>
      simp only [status, stateBy, hvalid, if_true, bind, StateT.bind, run_attempt]
      rcases (Link.clientState socket).run host.link with ⟨e | state, link⟩ <;> rfl
  refine ⟨fun j => ?_, fun j => Or.inl (by rw [hcache])⟩
  have hsame : (status socket host).2.link.found j = host.link.found j := huses.link.own j
  rw [hsame]
  exact .refl _

section
variable (hi : socket.index? = some i) (bare : (host.link.found i).Bare)
include hi bare

theorem available_yields_self : Yields socket i [] [] host (available socket host).2 := by
  have huses := available_uses socket host
  have hown := Socket.standing_of_record (huses.link.own i)
  refine ⟨?_, ?_, fun hfree => ?_⟩
  · rw [List.nil_append, List.append_nil]
    exact ReceiveCache.available_sublist Link.fetchInto socket host.cache host.link
      (fun l => (l.found i).rx) fun slot => (Link.fetchInto_sublist hi bare slot).1
  · rw [available, run_onCache]
    dsimp only
    rcases (ReceiveCache.available_reaches Link.fetchInto socket host.cache host.link).1 with
      hsame | ⟨slot, -, hfetched⟩
    · rw [hsame]
      exact bare.1
    · rw [hfetched]
      exact (Link.fetchInto_sublist hi bare slot).2
  · rw [Socket.state_of_standing hown]
    exact bare.2 ((Socket.reserved_of_standing hown).symm.trans hfree)

theorem available_yields (h : SocketHandle) :
    Yields socket i [] [] host (available h host).2 := by
  by_cases hh : h = socket
  · subst hh
    exact available_yields_self hi bare
  · exact (available_uses h host).yields hi bare fun hown =>
      hh (SocketHandle.eq_of_index? hown hi)

end

theorem peek_host (h : SocketHandle) (host : Host Line) :
    (peek h host).2 = (available h host).2 := by
  rw [peek, available, run_onCache, run_onCache, ReceiveCache.peek_rest]

theorem read_link (h : SocketHandle) (n : Nat) (host : Host Line) :
    (read h n host).2.link = (available h host).2.link := by
  rw [read, available, run_onCache, run_onCache]
  exact ReceiveCache.read_source Link.fetchInto h host.cache host.link n

section
variable (hi : socket.index? = some i) (bare : (host.link.found i).Bare)
include hi bare

theorem read_yields (h : SocketHandle) (n : Nat) :
    Yields socket i (if h = socket then (read h n host).1 else []) [] host
      (read h n host).2 := by
  by_cases hh : h = socket
  · subst hh
    obtain ⟨hbytes, hbare⟩ := available_yields_self hi bare
    have hread := ReceiveCache.read_append Link.fetchInto h host.cache host.link n
    refine ⟨?_, by rw [read_link]; exact hbare⟩
    rw [if_pos rfl, backlog, read_link, ← List.append_assoc]
    rw [List.nil_append, backlog] at hbytes
    refine List.Sublist.trans ?_ hbytes
    rw [available, read, run_onCache, run_onCache, ← hread]
  · rw [if_neg hh]
    exact (read_uses h host n).yields hi bare fun hown => hh (SocketHandle.eq_of_index? hown hi)

theorem connected_yields (h : SocketHandle) :
    Yields socket i [] [] host (connected h host).2 := by
  cases hvalid : h.isValid with
  | false =>
    simp only [connected, hvalid, Bool.not_false, if_true]
    exact (Fades.refl host).yields bare socket
  | true =>
    have hlook := available_yields hi bare h
    have hask := status_fades h (available h host).2
    rw [Attends.run_connected hvalid]
    split
    · exact hlook
    · split
      · exact hlook.trans (hask.yields hlook.bare socket)
      · exact hlook.trans ((hask.trans (.closeCache _ h)).yields hlook.bare socket)

/-- What a peek shows is among the bytes that can be read. -/
theorem peek_sublist : (peek socket host).1.toList.Sublist (host.backlog socket i) := by
  have hbytes := (available_yields_self hi bare).bytes
  rw [List.nil_append, List.append_nil, backlog] at hbytes
  refine List.Sublist.trans ?_ hbytes
  rw [peek, available, run_onCache, run_onCache]
  exact (ReceiveCache.peek_prefix Link.fetchInto socket host.cache host.link).sublist.trans
    (List.sublist_append_left _ _)

theorem push_yields (raw : UInt8) (data : Bytes) :
    Yields socket i [] (if raw = socket.raw then data else []) host
      (host.told fun s => s.pushIncoming raw data) := by
  have hfound : (host.told fun s => s.pushIncoming raw data).link.found i =
      if host.link.initialized = true ∧ SocketHandle.slotOf? raw = some i then
        { host.link.found i with rx := (host.link.found i).rx ++ data }
      else host.link.found i :=
    Link.found_told_onSocket host.link raw (fun a => { a with rx := a.rx ++ data }) i
  constructor
  · rw [List.nil_append]
    change (host.cache.bytes socket ++ _).Sublist (host.cache.bytes socket ++ _ ++ _)
    rw [List.append_assoc, hfound]
    refine List.Sublist.append_left ?_ _
    split
    · next hin => rw [if_pos ((SocketHandle.slotOf?_eq_iff hi raw).mp hin.2).symm]
    · exact List.sublist_append_left _ _
  · rw [hfound]
    split
    · exact bare
    · exact bare

end

end

end Host

end SpiWifi
