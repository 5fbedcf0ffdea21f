import SpiWifi.Proofs.Device.Sockets
import SpiWifi.Proofs.Link.Outcome

/-!
# Using a socket

An operation on a socket makes requests about that socket only. Whatever becomes of them, the other
sockets stay exactly as they were, and of the one that was used some view stays: reading, asking and
sending change neither what the socket is for nor who waits on it, and only sending changes what was
sent. Such facts hold for any settings and any replies that get lost, so that nothing has to be known
about the outcome of a single request.
-/

namespace SpiWifi

open Device

namespace Device.Socket

/-- What the use of a socket leaves of it. -/
def standing (a : Socket) : Socket :=
  { a with
    rx := [], tx := [], staged := [], packets := [], datagrams := []
    remote := none, dest := none, mode := 0 }

/-- What any use of a socket but sending over a connection leaves of it. -/
def record (a : Socket) : Socket := { a.standing with tx := a.tx }

/-- What receiving from a socket leaves of it. -/
def outward (a : Socket) : Socket := { a with rx := [], datagrams := [], remote := none }

/-- Nothing of a socket. -/
def nothing (_ : Socket) : Socket := free

theorem standing_of_record {a b : Socket} (h : a.record = b.record) : a.standing = b.standing := by
  have heq := congrArg standing h
  exact heq

section
variable {a b : Socket} (h : a.standing = b.standing)
include h

theorem reserved_of_standing : a.reserved = b.reserved := by
  have heq := congrArg reserved h
  exact heq

theorem kind_of_standing : a.kind = b.kind := by
  have heq := congrArg kind h
  exact heq

theorem state_of_standing : a.state = b.state := by
  have heq := congrArg state h
  exact heq

theorem waiting_of_standing : a.waiting = b.waiting := by
  have heq := congrArg waiting h
  exact heq

end

theorem tx_of_record {a b : Socket} (h : a.record = b.record) : a.tx = b.tx := by
  have heq := congrArg tx h
  exact heq

theorem record_of_outward {a b : Socket} (h : a.outward = b.outward) : a.record = b.record := by
  have heq := congrArg record h
  exact heq

theorem outward_loadDatagram (a : Socket) : a.loadDatagram.outward = a.outward := by
  unfold loadDatagram
  split
  · cases a.datagrams <;> rfl
  · rfl

theorem outward_drained (n : Nat) (a : Socket) : (a.drained n).outward = a.outward :=
  outward_loadDatagram a

theorem standing_sending (s : State) (data : Bytes) (a : Socket) :
    (s.sending data a).standing = a.standing := by
  unfold State.sending
  split <;> rfl

end Device.Socket

namespace Link

/-- From the one link to the other nothing happened but the use of one socket, of which this view
stayed. -/
structure Uses (view : Device.Socket → Device.Socket) (socket : SocketHandle) (l l' : Link Line) :
    Prop where
  settings : l'.settings = l.settings
  rest : l'.device.rest = l.device.rest
  losses : ∀ c, l'.device.lossesLeft c ≤ l.device.lossesLeft c
  untouched : l'.initialized = false → l' = l
  others : ∀ i, socket.index? ≠ some i → l'.found i = l.found i
  own : ∀ i, view (l'.found i) = view (l.found i)

namespace Uses

variable {view view' : Device.Socket → Device.Socket} {socket : SocketHandle} {l l' l'' : Link Line}

theorem refl (l : Link Line) : Uses view socket l l :=
  ⟨rfl, rfl, fun _ => Nat.le_refl _, fun _ => rfl, fun _ _ => rfl, fun _ => rfl⟩

theorem trans (h : Uses view socket l l') (h' : Uses view socket l' l'') :
    Uses view socket l l'' where
  settings := h'.settings.trans h.settings
  rest := h'.rest.trans h.rest
  losses c := Nat.le_trans (h'.losses c) (h.losses c)
  untouched hnot := by
    have hlast := h'.untouched hnot
    rw [hlast] at hnot ⊢
    exact h.untouched hnot
  others i hi := (h'.others i hi).trans (h.others i hi)
  own i := (h'.own i).trans (h.own i)

theorem weaken (h : Uses view socket l l') (le : ∀ a b, view a = view b → view' a = view' b) :
    Uses view' socket l l' :=
  ⟨h.settings, h.rest, h.losses, h.untouched, h.others, fun i => le _ _ (h.own i)⟩

theorem standing (h : Uses Socket.record socket l l') : Uses Socket.standing socket l l' :=
  h.weaken fun _ _ => Socket.standing_of_record

theorem record (h : Uses Socket.outward socket l l') : Uses Socket.record socket l l' :=
  h.weaken fun _ _ => Socket.record_of_outward

theorem close (h : Uses view socket l l') : l'.device.close = l.device.close := by
  have heq := congrArg State.close h.rest
  exact heq

theorem kept (h : Uses view socket l l') (hkept : ∀ c, l.device.lossesLeft c = 0) (c : Command) :
    l'.device.lossesLeft c = 0 := Nat.le_zero.mp (hkept c ▸ h.losses c)

end Uses

section
variable {view : Device.Socket → Device.Socket} {socket : SocketHandle} {i : Fin socketCount}
  {l l' : Link Line} {c : Command} {f : Frame} {g : Device.Socket → Device.Socket}

/-- A command that changed one slot used the socket there. -/
theorem uses_of_effect (hi : socket.index? = some i)
    (hg : view (g (l.found i)) = view (l.found i))
    (h : l' = l ∨ ∃ s', ((l.device.recorded c).modifySocket i g).Replied s' ∧
      l' = l.ensureReset.leaving s') : Uses view socket l l' := by
  rcases h with rfl | ⟨s', hreplied, rfl⟩
  · exact .refl l'
  · have hfound : ∀ j, (l.ensureReset.leaving s').found j =
        if i = j then g (l.found j) else l.found j := by
      intro j
      rw [found_leaving, hreplied.same]
      exact State.get_modifySocket _ i j g
    refine ⟨ensureReset_settings l, ?_, ?_, fun hnot => ?_, fun j hj => ?_, fun j => ?_⟩
    · rw [device_leaving, hreplied.same]
      rfl
    · rw [device_leaving]
      exact hreplied.losses
    · cases hnot.symm.trans (ensureReset_initialized l)
    · rw [hfound, if_neg]
      rintro rfl
      exact hj hi
    · rw [hfound]
      split
      · next hij => rw [← hij, hg]
      · rfl

theorem uses_of_request (hi : socket.index? = some i) (hf : IsRequestFor c f)
    {reply : Option Frame}
    (served : (Device.serve c ⟨f.params⟩).run (l.device.recorded c) =
      (reply, (l.device.recorded c).modifySocket i g))
    (hg : view (g (l.found i)) = view (l.found i)) (slots : List Slot) :
    Uses view socket l ((request f slots).run l).2 :=
  uses_of_effect hi hg (request_effect hf served slots)

/-- A command that the device only answers uses nothing of any socket. -/
theorem uses_of_answer (h : l' = l ∨ ∃ s', (l.device.recorded c).Replied s' ∧
    l' = l.ensureReset.leaving s') : Uses view socket l l' := by
  rcases h with rfl | ⟨s', hreplied, rfl⟩
  · exact .refl l'
  · have hfound : ∀ j, (l.ensureReset.leaving s').found j = l.found j := by
      intro j
      rw [found_leaving, hreplied.same]
      rfl
    refine ⟨ensureReset_settings l, ?_, ?_, fun hnot => ?_, fun j _ => hfound j,
      fun j => congrArg view (hfound j)⟩
    · rw [device_leaving, hreplied.same]
      rfl
    · rw [device_leaving]
      exact hreplied.losses
    · cases hnot.symm.trans (ensureReset_initialized l)

theorem uses_of_question (hf : IsRequestFor c f) {reply : Option Frame}
    (served : (Device.serve c ⟨f.params⟩).run (l.device.recorded c) =
      (reply, l.device.recorded c)) (slots : List Slot) :
    Uses view socket l ((request f slots).run l).2 :=
  uses_of_answer (request_effect hf served slots)

end

section
variable {α β : Type}

theorem link_call (f : Frame) (slots : List Slot) (l : Link Line) :
    ((call f slots).run l).2 = ((request f slots).run l).2 := by
  rw [run_call]
  rcases (request f slots).run l with ⟨⟨e | reply, filled⟩, l'⟩ <;> rfl

theorem link_readValue (size : Nat) (read : Slot → Option α) (f : Frame) (l : Link Line) :
    ((readValue size read f).run l).2 = ((request f [Slot.forValue size]).run l).2 := by
  rw [← link_call, readValue, run_bind]
  rcases (call f [Slot.forValue size]).run l with ⟨e | ⟨count, slots⟩, l'⟩
  · rfl
  · dsimp only
    split <;> rfl

end

section
variable {view : Device.Socket → Device.Socket} {socket : SocketHandle} (l : Link Line)

theorem clientState_uses : Uses view socket l ((clientState socket).run l).2 := by
  unfold clientState socketState
  rw [run_map fun answer => (Option.bind answer TcpState.ofRaw?).getD .closed]
  rw [readU8, link_readValue]
  exact uses_of_question ⟨rfl, rfl⟩ (run_serve_state (Or.inr rfl) socket.raw _) _

theorem serverState_uses : Uses view socket l ((serverState socket).run l).2 := by
  unfold serverState socketState
  rw [run_map fun answer => (Option.bind answer TcpState.ofRaw?).getD .closed]
  rw [readU8, link_readValue]
  exact uses_of_question ⟨rfl, rfl⟩ (run_serve_state (Or.inl rfl) socket.raw _) _

theorem checkDataSent_uses : Uses view socket l ((checkDataSent socket).run l).2 := by
  unfold checkDataSent
  rw [run_map fun answer => (Option.map (fun sent => sent != 0) answer).getD false]
  rw [readU8, link_readValue]
  exact uses_of_question ⟨rfl, rfl⟩ (run_serve_dataSent _ _) _

variable {i : Fin socketCount} (hi : socket.index? = some i)
include hi

theorem remoteData_uses : Uses view socket l ((remoteData socket).run l).2 := by
  have hcall : ((remoteData socket).run l).2 =
      ((request (about .getRemoteData socket) [Slot.forValue 4, Slot.forValue 2]).run l).2 := by
    rw [← link_call, remoteData, run_bind]
    rcases (call (about .getRemoteData socket) [Slot.forValue 4, Slot.forValue 2]).run l with
      ⟨e | ⟨count, slots⟩, l'⟩
    · rfl
    · dsimp only
      split
      · split <;> rfl
      · rfl
  rw [hcall]
  exact uses_of_question ⟨rfl, rfl⟩ (run_serve_remote hi _) _

theorem sendData_uses (data : Bytes) :
    Uses Socket.standing socket l ((sendData socket data).run l).2 := by
  unfold sendData
  rw [run_map fun answer => Option.getD answer 0, readU16LE, link_readValue]
  exact uses_of_request hi ⟨rfl, rfl⟩ (run_serve_sendData hi _ data)
    (Socket.standing_sending _ _ _) _

theorem insertDataBuf_uses (data : Bytes) :
    Uses Socket.record socket l ((insertDataBuf socket data).run l).2 := by
  unfold insertDataBuf ack
  rw [run_map fun answer => answer == some ackByte, readU8, link_readValue]
  exact uses_of_request hi ⟨rfl, rfl⟩ (run_serve_insert hi _ data) rfl _

theorem sendUdpData_uses : Uses Socket.record socket l ((sendUdpData socket).run l).2 := by
  unfold sendUdpData ack
  rw [run_map fun answer => answer == some ackByte, readU8, link_readValue]
  exact uses_of_request hi ⟨rfl, rfl⟩ (run_serve_sendUdp hi _) rfl _

omit hi in
theorem link_fetchInto (slot : Slot) :
    (fetchInto socket slot l).2 = ((request ((about .getDatabufTcp socket).withU16
      (UInt16.ofNat (min (slot.capacity - 1) 65535))) [slot]).run l).2 := by
  rcases hrequest : (request ((about .getDatabufTcp socket).withU16
    (UInt16.ofNat (min (slot.capacity - 1) 65535))) [slot]).run l with ⟨⟨e | reply, slots⟩, l'⟩
  · simp only [StateT.run] at hrequest
    simp only [fetchInto, getDataBuf, bind, StateT.bind, hrequest]
    rfl
  · rw [fetchInto_of_request hrequest]

theorem fetchInto_uses (slot : Slot) :
    Uses Socket.outward socket l (fetchInto socket slot l).2 := by
  rw [link_fetchInto]
  exact uses_of_request hi ⟨rfl, rfl⟩ (run_serve_getDatabuf hi _ _) (Socket.outward_drained _ _) _

end

end Link

namespace ReceiveCache

section
variable {σ : Type} (fetch : Fetch σ) (h : SocketHandle) (c : ReceiveCache) (s : σ)

/-- Looking for bytes fetches at most once, and touches no entry but the socket's own. -/
theorem available_reaches :
    ((c.available fetch h s).2.2 = s ∨ ∃ slot, h.index?.isSome ∧
      (c.available fetch h s).2.2 = (fetch h slot s).2) ∧
    ∀ j, h.index? ≠ some j → (c.available fetch h s).2.1.entries.get j = c.entries.get j := by
  cases hi : h.index? with
  | none =>
    rw [available_of_invalid hi]
    exact ⟨Or.inl rfl, fun _ _ => rfl⟩
  | some i =>
    by_cases hr : c.remaining h = 0
    · rw [available_of_dry hi hr]
      refine ⟨Or.inr ⟨_, rfl, rfl⟩, fun j hj => ?_⟩
      exact (get_setEntry j _).trans (if_neg fun hij => hj (congrArg some hij))
    · rw [available_of_cached hi (Nat.pos_of_ne_zero hr)]
      exact ⟨Or.inl rfl, fun _ _ => rfl⟩

theorem peek_rest : (c.peek fetch h s).2 = (c.available fetch h s).2 := by
  unfold peek
  rcases c.available fetch h s with ⟨_ | n, c', s'⟩ <;> rfl

theorem read_source (n : Nat) : (c.read fetch h n s).2.2 = (c.available fetch h s).2.2 := by
  unfold read
  rcases c.available fetch h s with ⟨ready, c', s'⟩
  dsimp only
  split
  · rfl
  · split
    · rfl
    · split <;> rfl

theorem read_others (n : Nat) {j : Fin socketCount} (hj : h.index? ≠ some j) :
    (c.read fetch h n s).2.1.entries.get j =
      (c.available fetch h s).2.1.entries.get j := by
  unfold read
  rcases c.available fetch h s with ⟨ready, c', s'⟩
  dsimp only
  split
  · rfl
  · next i hi =>
    split
    · rfl
    · split
      · rfl
      · refine (get_setEntry j _).trans (if_neg ?_)
        rintro rfl
        exact hj hi

end

end ReceiveCache

namespace Host

/-- From the one host to the other nothing happened but the use of one socket and its cache. -/
structure Uses (view : Device.Socket → Device.Socket) (socket : SocketHandle)
    (host host' : Host Line) : Prop where
  link : Link.Uses view socket host.link host'.link
  sockets : host'.sockets = host.sockets
  cached : ∀ i, socket.index? ≠ some i →
    host'.cache.entries.get i = host.cache.entries.get i

namespace Uses

variable {view view' : Device.Socket → Device.Socket} {socket : SocketHandle}
  {host host' host'' : Host Line}

theorem refl (host : Host Line) : Uses view socket host host :=
  ⟨.refl host.link, rfl, fun _ _ => rfl⟩

theorem trans (h : Uses view socket host host') (h' : Uses view socket host' host'') :
    Uses view socket host host'' where
  link := h.link.trans h'.link
  sockets := h'.sockets.trans h.sockets
  cached i hi := (h'.cached i hi).trans (h.cached i hi)

theorem standing (h : Uses Socket.record socket host host') :
    Uses Socket.standing socket host host' := ⟨h.link.standing, h.sockets, h.cached⟩

theorem record (h : Uses Socket.outward socket host host') :
    Uses Socket.record socket host host' := ⟨h.link.record, h.sockets, h.cached⟩

theorem closeCache (h : Uses view socket host host') :
    Uses view socket host (host'.closeCache socket) := by
  refine ⟨h.link, h.sockets, fun i hi => ?_⟩
  rw [← h.cached i hi]
  simp only [Host.closeCache, ReceiveCache.close]
  split
  · next j hj =>
    refine (ReceiveCache.get_setEntry i _).trans (if_neg ?_)
    rintro rfl
    exact hi hj
  · rfl

end Uses

section
variable {view : Device.Socket → Device.Socket} {socket : SocketHandle} {α β : Type}

theorem attempt_uses {x : LinkM Line α} {host : Host Line}
    (h : Link.Uses view socket host.link (x.run host.link).2) :
    Uses view socket host (attempt x host).2 := ⟨h, rfl, fun _ _ => rfl⟩

theorem ask_uses {x : LinkM Line α} {host : Host Line}
    (h : Link.Uses view socket host.link (x.run host.link).2) :
    Uses view socket host ((ask x).run host).2 := by
  rw [run_ask]
  rcases hx : x.run host.link with ⟨e | a, l⟩ <;> rw [hx] at h <;> exact ⟨h, rfl, fun _ _ => rfl⟩

theorem pollFor_uses {ask : StateM (Host Line) α}
    (h : ∀ host, Uses view socket host (ask host).2) (wanted : α → Option β) (budget : Nat)
    (host : Host Line) : Uses view socket host (pollFor ask wanted budget host).2 :=
  pollFor_along .refl (fun _ _ _ => .trans) h wanted budget host

/-- To poll the device leaves the receive caches alone. -/
theorem cache_pollFor (x : LinkM Line α) (wanted : Except LinkError α → Option β) (budget : Nat)
    (host : Host Line) : (pollFor (attempt x) wanted budget host).2.cache = host.cache :=
  pollFor_along (R := fun host host' : Host Line => host'.cache = host.cache) (fun _ => rfl)
    (fun _ _ _ h h' => h'.trans h) (fun _ => rfl) wanted budget host

theorem stateBy_uses {state : SocketHandle → LinkM Line TcpState}
    (h : ∀ l : Link Line, Link.Uses view socket l ((state socket).run l).2) (host : Host Line) :
    Uses view socket host (stateBy state socket host).2 := by
  cases hvalid : socket.isValid with
  | false =>
    simp only [stateBy, hvalid, Bool.false_eq_true, if_false]
    exact .refl host
  | true =>
    have hask : Uses view socket host (attempt (state socket) host).2 := attempt_uses (h host.link)
    rcases hasked : attempt (state socket) host with ⟨e | answer, after⟩
    all_goals
      rw [hasked] at hask
      simp only [stateBy, hvalid, if_true, bind, StateT.bind, hasked]
      exact hask

end

section
variable (socket : SocketHandle) (host : Host Line)

theorem available_receives : Uses Socket.outward socket host (available socket host).2 := by
  obtain ⟨hsource, hothers⟩ := ReceiveCache.available_reaches Link.fetchInto socket host.cache host.link
  rw [available, run_onCache]
  refine ⟨?_, rfl, hothers⟩
  dsimp only
  rcases hsource with hsame | ⟨slot, hvalid, hfetched⟩
  · rw [hsame]
    exact .refl host.link
  · obtain ⟨i, hi⟩ := Option.isSome_iff_exists.mp hvalid
    rw [hfetched]
    exact Link.fetchInto_uses host.link hi slot

theorem peek_receives : Uses Socket.outward socket host (peek socket host).2 := by
  have h := available_receives socket host
  rw [available, run_onCache] at h
  rw [peek, run_onCache, ReceiveCache.peek_rest]
  exact h

theorem read_receives (n : Nat) : Uses Socket.outward socket host (read socket n host).2 := by
  have h := available_receives socket host
  rw [available, run_onCache] at h
  rw [read, run_onCache]
  refine ⟨?_, rfl, fun i hi => ?_⟩
  · rw [ReceiveCache.read_source]
    exact h.link
  · rw [ReceiveCache.read_others _ _ _ _ _ hi]
    exact h.cached i hi

theorem available_uses : Uses Socket.record socket host (available socket host).2 :=
  (available_receives socket host).record

theorem peek_uses : Uses Socket.record socket host (peek socket host).2 :=
  (peek_receives socket host).record

theorem read_uses (n : Nat) : Uses Socket.record socket host (read socket n host).2 :=
  (read_receives socket host n).record

theorem status_uses : Uses Socket.record socket host (status socket host).2 :=
  stateBy_uses Link.clientState_uses host

theorem serverStatus_uses : Uses Socket.record socket host (serverStatus socket host).2 :=
  stateBy_uses Link.serverState_uses host

/-- A socket that is found not connected has no receive cache any more. -/
theorem connected_uses :
    Uses Socket.record socket host (connected socket host).2 ∧
      ((connected socket host).1 = false → ∀ i, socket.index? = some i →
        (connected socket host).2.cache.entries.get i = none) := by
  cases hi : socket.index? with
  | none =>
    have hinvalid : socket.isValid = false := SocketHandle.isValid_of_none hi
    simp only [connected, hinvalid, Bool.not_false, if_true]
    exact ⟨.refl host, fun _ _ h => by cases h⟩
  | some i =>
    have hvalid : socket.isValid = true := SocketHandle.isValid_of_some hi
    have hlook := available_uses socket host
    have hask := status_uses socket (available socket host).2
    rw [Attends.run_connected hvalid]
    split
    · exact ⟨hlook, fun h => by cases h⟩
    · split
      · exact ⟨hlook.trans hask, fun h => by cases h⟩
      · refine ⟨(hlook.trans hask).closeCache, fun _ j hj => ?_⟩
        cases hj
        simp only [closeCache, ReceiveCache.close, hi]
        exact (ReceiveCache.get_setEntry i none).trans (if_pos rfl)

theorem remote_asks {view : Device.Socket → Device.Socket} :
    Uses view socket host (remote socket host).2 := by
  cases hi : socket.index? with
  | none =>
    have hinvalid : socket.isValid = false := SocketHandle.isValid_of_none hi
    simp only [remote, hinvalid, Bool.false_eq_true, if_false]
    exact .refl host
  | some i =>
    have hvalid : socket.isValid = true := SocketHandle.isValid_of_some hi
    have hask : Uses view socket host _ :=
      attempt_uses (Link.remoteData_uses host.link hi)
    rcases hasked : attempt (Link.remoteData socket) host with ⟨e | answer, after⟩
    all_goals
      rw [hasked] at hask
      simp only [remote, hvalid, if_true, bind, StateT.bind, hasked]
      exact hask

theorem remote_uses : Uses Socket.record socket host (remote socket host).2 :=
  remote_asks socket host

variable {socket host}

theorem write_uses (socket : SocketHandle) (host : Host Line) (data : Bytes) :
    Uses Socket.standing socket host ((write socket data).run host).2 := by
  cases hi : socket.index? with
  | none =>
    have hinvalid : socket.isValid = false := SocketHandle.isValid_of_none hi
    rw [run_write_invalid hinvalid]
    exact .refl host
  | some i =>
    have hvalid : socket.isValid = true := SocketHandle.isValid_of_some hi
    by_cases hdata : data = []
    · rw [hdata, run_write_empty hvalid]
      exact .refl host
    · have hsend : Uses Socket.standing socket host _ :=
        ask_uses (Link.sendData_uses host.link hi (data.take chunkMax))
      rw [run_write hvalid hdata]
      rcases hsent : (ask (Link.sendData socket (data.take chunkMax))).run host with
        ⟨e | accepted, after⟩
      · rw [hsent] at hsend
        exact hsend
      · rw [hsent] at hsend
        dsimp only
        split
        · exact hsend
        · have hpoll : Uses Socket.standing socket after _ :=
            pollFor_uses (fun host => attempt_uses (Link.checkDataSent_uses host.link))
              deliveredAnswer after.sockets.confirmAttempts.toNat after
          rcases hpolled : pollFor (attempt (Link.checkDataSent socket)) deliveredAnswer
            after.sockets.confirmAttempts.toNat after with ⟨_ | _, last⟩
          all_goals
            rw [hpolled] at hpoll
            exact hsend.trans hpoll

end

end Host

end SpiWifi
