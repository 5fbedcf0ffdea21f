import SpiWifi.Proofs.Socket.Requests
import SpiWifi.Proofs.Socket.Stages
import SpiWifi.Socket.Stream

/-!
# Receiving from a socket

The unread bytes of a socket are those in its receive cache, followed by those that the device still
holds for it. An operation that receives takes bytes off their front and changes nothing else: a
refill moves bytes from the device into the cache, the place where the two parts meet, and a look at
the state of the connection moves none. That nothing is read means that there is nothing unread,
because a cache that keeps at least one byte is refilled as long as the device holds any.
-/

namespace SpiWifi

open Device

namespace Link

def queue (l : Link Line) (socket : SocketHandle) : Bytes :=
  ((l.transport.state.socket? socket.raw).map Socket.rx).getD []

/-- A socket on the device. -/
def socketAt (l : Link Line) (i : Fin socketCount) : Device.Socket := l.transport.state.sockets.get i

variable {l : Link Line} {socket : SocketHandle} {i : Fin socketCount}

theorem queue_eq (hi : socket.index? = some i) : l.queue socket = (l.socketAt i).rx := by
  rw [queue, State.socket?, show SocketHandle.slotOf? socket.raw = some i from hi]
  rfl

theorem queue_of_index?_none (hi : socket.index? = none) : l.queue socket = [] := by
  rw [queue, State.socket?, show SocketHandle.slotOf? socket.raw = none from hi]
  rfl

theorem queue_congr {l' : Link Line} (h : ∀ i, socket.index? = some i → l'.socketAt i = l.socketAt i) :
    l'.queue socket = l.queue socket := by
  cases hi : socket.index? with
  | none => rw [queue_of_index?_none hi, queue_of_index?_none hi]
  | some i => rw [queue_eq hi, queue_eq hi, h i hi]

end Link

def Device.Socket.emptied (s : Device.Socket) : Device.Socket := { s with rx := [] }

namespace Link

section
variable {l : Link Line} {socket : SocketHandle} {i : Fin socketCount} (served : l.Served)
  (hi : socket.index? = some i) (stream : (l.socketAt i).kind ≠ .datagram) (slot : Slot)
include served hi stream

/-- What a fetch does to the sockets of the device. -/
theorem fetchInto_sockets :
    let n := min (min (l.queue socket).length bulkReplyMax) (slot.capacity - 1)
    let result := fetchInto socket slot l
    result.2.Served ∧ result.1.1 = n ∧ result.1.2.capacity = slot.capacity ∧
      result.1.2.bytes = (l.queue socket).take n ∧
      ∀ j, result.2.socketAt j =
        if i = j then { l.socketAt j with rx := (l.queue socket).drop n } else l.socketAt j := by
  have hload : (l.socketAt i).loadDatagram = l.socketAt i :=
    if_neg fun h => stream h.1
  obtain ⟨hserved, filled, hfetch, hcapacity, hbytes⟩ := fetchInto_served served hi slot
  rw [show l.transport.state.sockets.get i = l.socketAt i from rfl, hload, ← queue_eq hi]
    at hserved hfetch hbytes
  dsimp only
  rw [hfetch]
  refine ⟨hserved, rfl, hcapacity, hbytes, fun j => ?_⟩
  refine (State.get_modifySocket _ _ _ _).trans ?_
  split
  · next hij =>
    subst hij
    change Device.Socket.drained _ (l.socketAt i) = _
    rw [Device.Socket.drained, hload, ← queue_eq hi]
  · rfl

theorem fetchInto_moves : Moves queue socket slot l (fetchInto socket slot l) := by
  obtain ⟨-, hcount, hcapacity, hbytes, hsockets⟩ := fetchInto_sockets served hi stream slot
  refine ⟨hcapacity, fun h' hne => queue_congr fun j hj => ?_, Or.inl ⟨bulkReplyMax, hcount, ?_, ?_⟩⟩
  · rw [hsockets, if_neg]
    rintro rfl
    exact hne (SocketHandle.eq_of_index? hj hi)
  · rw [hcount]
    exact hbytes
  · rw [queue_eq hi, hsockets, if_pos rfl, hcount]

end

end Link

namespace Host

/-- The bytes of a socket that were received and not yet read. -/
def unread (host : Host Line) (socket : SocketHandle) : Bytes :=
  host.cache.bytes socket ++ host.link.queue socket

theorem run_onCache {α : Type} (x : ReceiveCache → Link Line → α × ReceiveCache × Link Line)
    (host : Host Line) :
    onCache x host = ((x host.cache host.link).1,
      { host with cache := (x host.cache host.link).2.1, link := (x host.cache host.link).2.2 }) :=
  rfl

/-- The host after requests that changed neither a socket nor a cache. -/
structure Rests (before after : Host Line) : Prop where
  served : after.link.Served
  cache : after.cache = before.cache
  sockets : ∀ i, after.link.socketAt i = before.link.socketAt i

theorem Rests.trans {host host' host'' : Host Line} (h : Rests host host')
    (h' : Rests host' host'') : Rests host host'' where
  served := h'.served
  cache := h'.cache.trans h.cache
  sockets i := (h'.sockets i).trans (h.sockets i)

theorem attempt_clientState {host : Host Line} (served : host.link.Served) {socket : SocketHandle}
    {i : Fin socketCount} (hi : socket.index? = some i) :
    let asked := attempt (Link.clientState socket) host
    asked.1 = .ok (host.link.socketAt i).state ∧ Rests host asked.2 := by
  obtain ⟨hstate, hserved⟩ := Link.clientState_served served socket
  dsimp only
  rw [run_attempt, hstate]
  refine ⟨?_, hserved, rfl, fun _ => rfl⟩
  rw [State.socketState, State.socket?, show SocketHandle.slotOf? socket.raw = some i from hi]
  rfl

/-- The host can receive from a socket: its link is served, its caches keep at least one byte, and
the socket is a place on the device where no datagrams come in. -/
structure Attends (host : Host Line) (socket : SocketHandle) (i : Fin socketCount) : Prop where
  served : host.link.Served
  fits : host.cache.Fits
  capacity : 2 ≤ host.cache.capacity
  index : socket.index? = some i
  stream : (host.link.socketAt i).kind ≠ .datagram

/-- These bytes went off the front of the unread bytes of a socket, and nothing else changed but
what of its bytes is cached. -/
structure Takes (socket : SocketHandle) (bytes : Bytes) (before after : Host Line) : Prop where
  served : after.link.Served
  fits : after.cache.Fits
  capacity : after.cache.capacity = before.cache.capacity
  unread : before.unread socket = bytes ++ after.unread socket
  cached : ∀ h, h ≠ socket → after.cache.bytes h = before.cache.bytes h
  queues : ∀ h, h ≠ socket → after.link.queue h = before.link.queue h
  sockets : ∀ i, (after.link.socketAt i).emptied = (before.link.socketAt i).emptied

theorem Rests.takes {host host' : Host Line} (h : Rests host host') (socket : SocketHandle)
    (fits : host.cache.Fits) : Takes socket [] host host' where
  served := h.served
  fits := by rw [h.cache]; exact fits
  capacity := by rw [h.cache]
  unread := by
    rw [Host.unread, Host.unread, h.cache, Link.queue_congr fun i _ => h.sockets i,
      List.nil_append]
  cached other _ := by rw [h.cache]
  queues other _ := Link.queue_congr fun i _ => h.sockets i
  sockets i := by rw [h.sockets]

namespace Takes

variable {socket : SocketHandle} {bytes bytes' : Bytes} {host host' host'' : Host Line}
  {i : Fin socketCount}

theorem nothing (served : host.link.Served) (fits : host.cache.Fits) :
    Takes socket [] host host :=
  Rests.takes ⟨served, rfl, fun _ => rfl⟩ socket fits

theorem trans (h : Takes socket bytes host host') (h' : Takes socket bytes' host' host'') :
    Takes socket (bytes ++ bytes') host host'' where
  served := h'.served
  fits := h'.fits
  capacity := h'.capacity.trans h.capacity
  unread := by rw [h.unread, h'.unread, List.append_assoc]
  cached other hne := (h'.cached other hne).trans (h.cached other hne)
  queues other hne := (h'.queues other hne).trans (h.queues other hne)
  sockets i := (h'.sockets i).trans (h.sockets i)

theorem reserved (h : Takes socket bytes host host') (i : Fin socketCount) :
    (host'.link.socketAt i).reserved = (host.link.socketAt i).reserved := by
  have hreserved := congrArg Device.Socket.reserved (h.sockets i)
  exact hreserved

theorem kind (h : Takes socket bytes host host') (i : Fin socketCount) :
    (host'.link.socketAt i).kind = (host.link.socketAt i).kind := by
  have hkind := congrArg Device.Socket.kind (h.sockets i)
  exact hkind

theorem state (h : Takes socket bytes host host') (i : Fin socketCount) :
    (host'.link.socketAt i).state = (host.link.socketAt i).state := by
  have hstate := congrArg Device.Socket.state (h.sockets i)
  exact hstate

theorem attends (h : Takes socket bytes host host') (ha : Attends host socket i) :
    Attends host' socket i where
  served := h.served
  fits := h.fits
  capacity := by rw [h.capacity]; exact ha.capacity
  index := ha.index
  stream := by rw [h.kind]; exact ha.stream

/-- The cache of a socket without unread bytes can be freed. -/
theorem close (h : Takes socket bytes host host') (hnone : host'.unread socket = []) :
    Takes socket bytes host (host'.closeCache socket) ∧
      (host'.closeCache socket).unread socket = [] := by
  obtain ⟨hcached, hqueue⟩ := List.append_eq_nil_iff.mp hnone
  have hfreed : (host'.closeCache socket).cache.bytes socket = [] := by
    rw [ReceiveCache.bytes, closeCache, ReceiveCache.entry?_close_self]
    rfl
  have hunread : (host'.closeCache socket).unread socket = [] := by
    rw [Host.unread, hfreed]
    exact hqueue
  refine ⟨⟨h.served, h.fits.close socket, (ReceiveCache.capacity_close _ _).trans h.capacity, ?_,
    fun other hne => ?_, h.queues, h.sockets⟩, hunread⟩
  · rw [h.unread, hnone, hunread]
  · rw [← h.cached other hne]
    exact ReceiveCache.bytes_congr (ReceiveCache.entry?_close_ne hne _)

end Takes

namespace Attends

variable {host : Host Line} {socket : SocketHandle} {i : Fin socketCount}
  (ha : Attends host socket i)
include ha

theorem isValid : socket.isValid = true := SocketHandle.isValid_of_some ha.index

theorem moves (slot : Slot) :
    Moves Link.queue socket slot host.link (Link.fetchInto socket slot host.link) :=
  Link.fetchInto_moves ha.served ha.index ha.stream slot

/-- Looking for bytes of a socket takes none. If there are none to be found, none are unread. -/
theorem available :
    let looked := Host.available socket host
    Takes socket [] host looked.2 ∧ looked.1 = (looked.2.cache.bytes socket).length ∧
      (looked.2.cache.bytes socket = [] → looked.2.unread socket = []) := by
  obtain ⟨hcount, hlooked⟩ := ReceiveCache.available_looked ha.fits fun slot _ _ => ha.moves slot
  change let looked := host.cache.available Link.fetchInto socket host.link
    Takes socket [] host { host with cache := looked.2.1, link := looked.2.2 } ∧
      looked.1 = (looked.2.1.bytes socket).length ∧
      (looked.2.1.bytes socket = [] →
        looked.2.1.bytes socket ++ looked.2.2.queue socket = [])
  generalize host.cache.available Link.fetchInto socket host.link = looked at hcount hlooked ⊢
  obtain ⟨count, cache, link⟩ := looked
  dsimp only at hcount hlooked ⊢
  rcases hlooked.fetched with ⟨hcached, rfl, rfl⟩ | ⟨-, hdry, ⟨slot, hslot, rfl⟩, hqueue, hothers⟩
  · refine ⟨Takes.nothing ha.served ha.fits, hcount, fun hnone => ?_⟩
    have hpos := hcached ha.isValid
    rw [← ha.fits.length_bytes, hnone] at hpos
    exact absurd hpos (Nat.lt_irrefl 0)
  · obtain ⟨hserved, -, -, -, hsockets⟩ :=
      Link.fetchInto_sockets ha.served ha.index ha.stream slot
    have hempty : host.cache.bytes socket = [] :=
      List.length_eq_zero_iff.mp ((ha.fits.length_bytes socket).trans hdry)
    have hrest := hsockets i
    rw [if_pos rfl] at hrest
    have hleft : (Link.fetchInto socket slot host.link).2.queue socket = _ :=
      (Link.queue_eq ha.index).trans (congrArg Device.Socket.rx hrest)
    refine ⟨⟨hserved, hlooked.fits, hlooked.capacity, ?_, fun other hne => ?_, hothers,
      fun j => ?_⟩, hcount, fun hnone => ?_⟩
    · rw [Host.unread, hempty]
      exact hqueue
    · exact ReceiveCache.bytes_congr (hlooked.others other hne)
    · rw [hsockets]
      split <;> rfl
    · -- the queue is as long as before, and yet a byte of it would have been fetched
      have hcapacity := ha.capacity
      rw [hnone, List.nil_append, hleft] at hqueue
      have hlength := congrArg List.length hqueue
      rw [List.length_drop, hslot, bulkReplyMax] at hlength
      rw [hnone, List.nil_append, hleft]
      refine List.length_eq_zero_iff.mp ?_
      rw [List.length_drop]
      omega

theorem peek :
    let looked := Host.peek socket host
    Takes socket [] host looked.2 ∧ looked.1 = (looked.2.unread socket).head? := by
  obtain ⟨htakes, -, hnone⟩ := ha.available
  have hpeek := ReceiveCache.peek_eq ha.fits fun slot _ _ => ha.moves slot
  have heq : Host.peek socket host =
      (((Host.available socket host).2.cache.bytes socket).head?, (Host.available socket host).2) := by
    rw [Host.peek, run_onCache, hpeek]
    rfl
  dsimp only
  rw [heq]
  refine ⟨htakes, ?_⟩
  cases hbytes : (Host.available socket host).2.cache.bytes socket with
  | nil => rw [hnone hbytes]
  | cons b bytes => rw [Host.unread, hbytes]; rfl

/-- A read takes what it returns, and returns nothing only if there is nothing unread. -/
theorem read (n : Nat) :
    let result := Host.read socket n host
    Takes socket result.1 host result.2 ∧
      (0 < n → result.1 = [] → result.2.unread socket = []) := by
  obtain ⟨htakes, -, hnone⟩ := ha.available
  obtain ⟨cache, hread, hfits, hcapacity, hleft, hothers⟩ :=
    ReceiveCache.read_eq ha.fits (fun slot _ _ => ha.moves slot) n
  let after : Host Line := { (Host.available socket host).2 with cache := cache }
  have heq : Host.read socket n host =
      (((Host.available socket host).2.cache.bytes socket).take n, after) := by
    rw [Host.read, run_onCache, hread]
    rfl
  have hafter : after.cache.bytes socket =
      ((Host.available socket host).2.cache.bytes socket).drop n := hleft
  dsimp only
  rw [heq]
  refine ⟨⟨htakes.served, hfits, hcapacity, ?_, fun other hne => ?_, htakes.queues,
    htakes.sockets⟩, fun hn hempty => ?_⟩
  · rw [htakes.unread, List.nil_append, Host.unread, Host.unread, hafter, ← List.append_assoc,
      List.take_append_drop]
  · rw [← htakes.cached other hne]
    exact ReceiveCache.bytes_congr (hothers other hne)
  · have hbytes : (Host.available socket host).2.cache.bytes socket = [] := by
      rcases List.take_eq_nil_iff.mp hempty with rfl | hbytes
      · exact absurd hn (Nat.lt_irrefl 0)
      · exact hbytes
    have hunread := hnone hbytes
    rw [Host.unread, hbytes, List.nil_append] at hunread
    rw [Host.unread, hafter, hbytes, List.drop_nil, List.nil_append]
    exact hunread

/-- Asking for the state of a connection takes no bytes. -/
theorem status :
    let asked := Host.status socket host
    Takes socket [] host asked.2 ∧ asked.1 = (host.link.socketAt i).state := by
  obtain ⟨hstate, hrests⟩ := attempt_clientState ha.served ha.index
  rcases hasked : attempt (Link.clientState socket) host with ⟨answer, after⟩
  rw [hasked] at hstate hrests
  cases hstate
  have heq : Host.status socket host = ((host.link.socketAt i).state, after) := by
    simp only [Host.status, Host.stateBy, ha.isValid, if_true, bind, StateT.bind, hasked]
    rfl
  dsimp only
  rw [heq]
  exact ⟨hrests.takes socket ha.fits, rfl⟩

omit ha in
theorem run_connected (hvalid : socket.isValid = true) :
    let looked := Host.available socket host
    let asked := Host.status socket looked.2
    Host.connected socket host =
      if 0 < looked.1 then (true, looked.2)
      else if asked.1.isConnected then (true, asked.2)
      else (false, asked.2.closeCache socket) := by
  rcases hlook : Host.available socket host with ⟨count, after⟩
  simp only [Host.connected, hvalid, Bool.not_true, Bool.false_eq_true, if_false, bind,
    StateT.bind, hlook]
  split
  · rfl
  · rcases hasked : Host.status socket after with ⟨state, last⟩
    simp only [StateT.bind, hasked]
    change (ite (state.isConnected = true) (pure true) _ : StateM (Host Line) Bool) last = _
    split <;> rfl

/-- A socket counts as connected if it has unread bytes or its connection is alive. -/
theorem connected :
    let answer := Host.connected socket host
    Takes socket [] host answer.2 ∧
      (answer.1 = false →
        answer.2.unread socket = [] ∧ (host.link.socketAt i).state.isConnected = false) ∧
      (answer.1 = true →
        answer.2.unread socket ≠ [] ∨ (host.link.socketAt i).state.isConnected = true) := by
  obtain ⟨hlook, hcount, hnone⟩ := ha.available
  obtain ⟨hask, hstate⟩ := (hlook.attends ha).status
  dsimp only
  rw [run_connected ha.isValid]
  split
  · next hpos =>
    refine ⟨hlook, (fun h => nomatch h), fun _ => Or.inl fun hunread => ?_⟩
    have hbytes := (List.append_eq_nil_iff.mp hunread).1
    rw [hcount, hbytes] at hpos
    exact absurd hpos (Nat.lt_irrefl 0)
  · next hzero =>
    have hunread : (Host.available socket host).2.unread socket = [] :=
      hnone (List.length_eq_zero_iff.mp (by omega))
    have hlast : (Host.status socket (Host.available socket host).2).2.unread socket = [] := by
      rw [← hunread, hask.unread, List.nil_append]
    rw [hstate, hlook.state i]
    split
    · next hlive => exact ⟨hlook.trans hask, (fun h => nomatch h), fun _ => Or.inr hlive⟩
    · next hdead =>
      obtain ⟨hclose, hfreed⟩ := (hlook.trans hask).close hlast
      exact ⟨hclose, fun _ => ⟨hfreed, Bool.eq_false_iff.mpr hdead⟩, fun h => nomatch h⟩

end Attends

end Host

namespace Stream

open Host

section
variable {s : Stream} (ended : s.socket = .none) (host : Host Line)
include ended

theorem connected_of_ended : connected (s, host) = (false, s, host) := by
  obtain ⟨socket, writeFailed⟩ := s
  cases ended
  rfl

theorem look_of_ended :
    host.cache.available Link.fetchInto s.socket host.link = (0, host.cache, host.link) := by
  rw [ended]
  exact ReceiveCache.available_of_invalid rfl

theorem available_of_ended : available (s, host) = (0, s, host) := by
  simp only [available, onSocket, Host.available, run_onCache, look_of_ended ended]

theorem peek_of_ended : peek (s, host) = (none, s, host) := by
  simp only [peek, onSocket, Host.peek, run_onCache, ReceiveCache.peek, look_of_ended ended]

theorem readBytes_of_ended (n : Nat) : readBytes n (s, host) = ([], s, host) := by
  simp only [readBytes, onSocket, Host.read, run_onCache, ReceiveCache.read, ended]
  rfl

/-- A stream that has ended stays at its end. -/
theorem receive_of_ended (n : Nat) : receive n (s, host) = (.ok [], s, host) := by
  unfold receive
  split
  · rfl
  · rw [readBytes_of_ended ended]
    dsimp only
    rw [connected_of_ended ended]

end

section
variable {s : Stream} {host : Host Line} {i : Fin socketCount} (ha : Attends host s.socket i)
include ha

/-- A connection that is not connected has no unread bytes, and its handle is dropped. -/
theorem connected_cases :
    ∃ answer after, connected (s, host) =
        (answer, if answer then s else { s with socket := .none }, after) ∧
      Takes s.socket [] host after ∧
      (answer = false →
        after.unread s.socket = [] ∧ (host.link.socketAt i).state.isConnected = false) ∧
      (answer = true →
        after.unread s.socket ≠ [] ∨ (host.link.socketAt i).state.isConnected = true) := by
  have h := ha.connected
  refine ⟨(Host.connected s.socket host).1, (Host.connected s.socket host).2, ?_, h⟩
  rcases hanswer : Host.connected s.socket host with ⟨_ | _, after⟩ <;>
    simp only [connected, hanswer] <;> rfl

/-- What a wish for some bytes gives: some of them, off the front of the unread bytes; a fault if
there is nothing unread on a connection that is alive; or the end of the stream, if there is nothing
unread on one that is not. -/
theorem receive_cases {n : Nat} (hn : 0 < n) :
    (∃ b bytes after, receive n (s, host) = (.ok (b :: bytes), s, after) ∧
      Takes s.socket (b :: bytes) host after) ∨
    (∃ after, receive n (s, host) = (.error .wouldBlock, s, after) ∧
      Takes s.socket [] host after ∧ after.unread s.socket = [] ∧
      (host.link.socketAt i).state.isConnected = true) ∨
    (∃ after, receive n (s, host) = (.ok [], { s with socket := .none }, after) ∧
      Takes s.socket [] host after ∧ after.unread s.socket = [] ∧
      (host.link.socketAt i).state.isConnected = false) := by
  obtain ⟨hread, hnone⟩ := ha.read n
  have hbytes : readBytes n (s, host) =
      ((Host.read s.socket n host).1, s, (Host.read s.socket n host).2) := rfl
  unfold receive
  rw [if_neg (Nat.ne_of_gt hn), hbytes]
  rcases hresult : Host.read s.socket n host with ⟨_ | ⟨b, bytes⟩, middle⟩
  · rw [hresult] at hread hnone
    have hempty := hnone hn rfl
    obtain ⟨answer, after, hconnected, htakes, hdead, hlive⟩ := connected_cases (hread.attends ha)
    have hlast : after.unread s.socket = [] := by
      rw [← hempty, htakes.unread, List.nil_append]
    simp only [hconnected]
    rw [hread.state i] at hdead hlive
    cases answer with
    | false => exact Or.inr (Or.inr ⟨after, rfl, hread.trans htakes, hlast, (hdead rfl).2⟩)
    | true =>
      exact Or.inr (Or.inl ⟨after, rfl, hread.trans htakes, hlast,
        (hlive rfl).resolve_left fun h => h hlast⟩)
  · rw [hresult] at hread
    exact Or.inl ⟨b, bytes, middle, rfl, hread⟩

end

end Stream

end SpiWifi
