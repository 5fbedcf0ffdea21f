import SpiWifi.Proofs.Board.Records
import SpiWifi.Proofs.Board.Exclusivity
import SpiWifi.Proofs.Socket.Sending

/-!
# What was sent

The device records what was sent over each connection. Every connection has an account of it: the
bytes that its writes since it was opened count as sent by what they answered. If no reply gets lost
and the link carries the largest requests, what was recorded is what the account says, whatever else
happens on the board. If moreover deliveries get confirmed, all of any data can be sent.
-/

namespace SpiWifi

open Device

/-- The bytes that count as sent by the answer of a write, when at most so many are sendable at
once. -/
def credited (sendable : Nat) (data : Bytes) : Except (Option NetError) Nat → Bytes
  | .ok n => data.take n
  | .error (some (.sendUnconfirmed _ _)) => data.take (min data.length sendable)
  | .error _ => []

def StreamOp.credits (op : StreamOp) (st : Stream × Host Line) : Bytes :=
  let sendable := st.2.link.transport.state.sendable
  match op with
  | write data => credited sendable data (((Stream.write data).run.run st).1.mapError some)
  | send data =>
    credited sendable data (((Stream.send data).run.run st).1.mapError StreamError.cause?)
  | _ => []

/-- The event does not tell the device to lose replies. -/
def BoardEvent.losesNothing : BoardEvent → Bool
  | happens h => h.losesNothing
  | _ => true

namespace Board

/-- The account of the connection in a place after an event. It begins anew when the connection is
opened. -/
def entry (b : Board) (k : Nat) (log : Bytes) (e : BoardEvent) : Bytes :=
  match e, b.owners[k]? with
  | .stream j op, some (.stream s) =>
    if j = k then if op.opens then [] else log ++ op.credits (s, b.host) else log
  | _, _ => log

/-- The account of the connection in a place after a run. -/
def account (b : Board) (k : Nat) (log : Bytes) : List BoardEvent → Bytes
  | [] => log
  | e :: rest => (b.step e).account k (b.entry k log e) rest

end Board

namespace Device.State

theorem take_sendable_of_taken {s : State} {i : Fin socketCount} {data : Bytes}
    (h : s.taken i data ≠ []) : data.take (min data.length s.sendable) = s.taken i data := by
  unfold taken at h ⊢
  split at h
  · next hsends => rw [if_pos hsends, Nat.min_comm, ← List.take_eq_take_min]
  · exact absurd rfl h

end Device.State

namespace Stream

variable {s : Stream} {host : Host Line} {i : Fin socketCount}

/-- What a write answers is what it handed over. -/
theorem credited_writeAnswer (host : Host Line) (socket : SocketHandle) (i : Fin socketCount)
    (data : Bytes) :
    credited host.link.transport.state.sendable data
        ((host.writeAnswer socket (host.link.transport.state.taken i data)).mapError some) =
      host.link.transport.state.taken i data := by
  unfold Host.writeAnswer
  split
  · next hnone => exact hnone.symm
  · next hsome =>
    split
    · exact State.take_length_taken _ i data
    · exact State.take_sendable_of_taken hsome

/-- What an operation that hands data over counts as sent is what is recorded as sent. -/
structure Credits (s : Stream) (host : Host Line) (i : Fin socketCount) (credits : Bytes)
    (after : Stream × Host Line) : Prop where
  served : after.2.link.Served
  tx : (after.2.link.socketAt i).tx = (host.link.socketAt i).tx ++ credits

theorem write_answer (s : Stream) (host : Host Line) (data : Bytes) :
    (Stream.write data (s, host)).1 = ((Host.write s.socket data).run host).1 ∧
      (Stream.write data (s, host)).2.2 = ((Host.write s.socket data).run host).2 := by
  rcases hwrite : Host.write s.socket data host with ⟨e | n, after⟩
  all_goals
    simp only [Stream.write, ExceptT.run, hwrite]
    exact ⟨trivial, trivial⟩

/-- Of some data, what is sent is what is written, with the fault beneath. -/
theorem send_answer (s : Stream) (host : Host Line) {data : Bytes} (hdata : data ≠ []) :
    (Stream.send data (s, host)).1.mapError StreamError.cause? =
        (Stream.write data (s, host)).1.mapError some ∧
      (Stream.send data (s, host)).2 = (Stream.write data (s, host)).2 := by
  have hfull : data.isEmpty = false := by
    rw [Bool.eq_false_iff]
    exact fun hempty => hdata (List.isEmpty_iff.mp hempty)
  have hcause : ∀ e, (StreamError.ofNet e).cause? = some e := by
    intro e
    cases e <;> rfl
  rcases hwrite : Stream.write data (s, host) with ⟨e | n, st⟩
  all_goals simp only [Stream.send, hfull, Bool.false_eq_true, if_false, hwrite]
  · exact ⟨congrArg Except.error (hcause e), trivial⟩
  · exact ⟨rfl, trivial⟩

section
variable (served : host.link.Served) (hi : s.socket.index? = some i)
include served hi

theorem write_credits (data : Bytes) :
    s.Credits host i ((StreamOp.write data).credits (s, host))
      ((StreamOp.write data).run (s, host)) := by
  obtain ⟨hanswer, hhost⟩ := write_answer s host data
  change s.Credits host i (credited _ _ ((Stream.write data (s, host)).1.mapError some))
    (Stream.write data (s, host)).2
  rw [hanswer]
  by_cases hdata : data = []
  · subst hdata
    rw [Host.run_write_empty (SocketHandle.isValid_of_some hi)] at hhost ⊢
    refine ⟨hhost ▸ served, ?_⟩
    rw [hhost]
    exact (List.append_nil _).symm
  · obtain ⟨hwritten, hpasses⟩ := Host.write_passes served hi hdata
    rw [hwritten, credited_writeAnswer]
    refine ⟨hhost ▸ hpasses.served, ?_⟩
    rw [hhost, hpasses.socket]
    rfl

theorem send_credits (data : Bytes) :
    s.Credits host i ((StreamOp.send data).credits (s, host))
      ((StreamOp.send data).run (s, host)) := by
  by_cases hdata : data = []
  · subst hdata
    exact ⟨served, (List.append_nil _).symm⟩
  · obtain ⟨hanswer, hafter⟩ := send_answer s host hdata
    change s.Credits host i (credited _ _ ((Stream.send data (s, host)).1.mapError _))
      (Stream.send data (s, host)).2
    rw [hanswer, hafter]
    exact write_credits served hi data

theorem run_credits {op : StreamOp} (writes : op.writes = true) :
    s.Credits host i (op.credits (s, host)) (op.run (s, host)) := by
  cases op with
  | write data => exact write_credits served hi data
  | send data => exact send_credits served hi data
  | _ => cases writes

end

/-- A write that succeeds hands over some of the data, and no more than one frame carries. -/
theorem write_ok (served : ∀ i, s.socket.index? = some i → host.link.Served) {data : Bytes}
    {n : Nat} (hok : (Stream.write data (s, host)).1 = .ok n) :
    1 ≤ n ∧ n ≤ min data.length chunkMax := by
  rw [(write_answer s host data).1] at hok
  cases hi : s.socket.index? with
  | none =>
    rw [Host.run_write_invalid (SocketHandle.isValid_of_none hi)] at hok
    cases hok
  | some i =>
    by_cases hdata : data = []
    · rw [hdata, Host.run_write_empty (SocketHandle.isValid_of_some hi)] at hok
      cases hok
    · obtain ⟨hwritten, -⟩ := Host.write_passes (served i hi) hi hdata
      rw [hwritten, Host.writeAnswer] at hok
      split at hok
      · cases hok
      · next hsome =>
        split at hok
        · cases hok
          exact ⟨List.length_pos_iff.mpr hsome, Nat.le_min.mpr (State.length_taken_le _ i data)⟩
        · cases hok

end Stream

/-- The reset that is due does not change which replies are to be lost. -/
theorem Link.lossesLeft_device (l : Link Line) (c : Command) :
    l.device.lossesLeft c = l.transport.state.lossesLeft c := by
  obtain ⟨d, signals, settings, initialized, patience⟩ := l
  cases initialized <;> rfl

namespace Board

variable {b b' : Board} {left : List (Fin socketCount)} {k : Nat} {log : Bytes}
  {i : Fin socketCount} {j : Nat} {new : List (Fin socketCount)} {e : BoardEvent} {s : Stream}

structure Faithful (b : Board) (left : List (Fin socketCount)) : Prop where
  sound : Sound b left
  live : Live b
  size : 252 ≤ b.host.link.settings.maxFrameSize.toNat
  kept : ∀ c, b.host.link.device.lossesLeft c = 0

/-- Over a socket that an object holds, the link is served. -/
theorem Faithful.served (h : Faithful b left) (held : 0 < b.holds i) : b.host.link.Served := by
  have hreset : b.host.link.initialized = true :=
    Link.initialized_of_reserved (h.sound.reserved_of_holds held)
  refine ⟨hreset, h.size, (h.sound.carries i held).2, fun c => ?_⟩
  rw [← Link.device_of_initialized hreset]
  exact h.kept c

theorem Path.faithful (h : Path Socket.standing k b new b') (hb : Faithful b left) :
    Faithful b' (left ++ new) := by
  induction h generalizing left with
  | nil b => exact (List.append_nil left).symm ▸ hb
  | cons first rest ih =>
    obtain ⟨socket, uses⟩ := first.uses
    rw [← List.append_assoc]
    exact ih ⟨hb.sound.move first, hb.live.move hb.sound first, uses.link.settings ▸ hb.size,
      uses.link.kept hb.kept⟩

theorem Faithful.told (h : Faithful b left) {happening : Happening}
    (keeps : happening.losesNothing = true) : Faithful (b.told happening) left where
  sound := h.sound.told happening
  live := h.live.told happening
  size := h.size
  kept c := by
    refine (Link.lossesLeft_device _ c).trans ?_
    refine Happening.apply_kept keeps (fun c => ?_) c
    exact (Link.lossesLeft_device _ c).symm.trans (h.kept c)

theorem Faithful.step (h : Faithful b left) {e : BoardEvent} (keeps : e.losesNothing = true) :
    ∃ new, Faithful (b.step e) (left ++ new) := by
  by_cases inside : ∀ happening, e ≠ .happens happening
  · obtain ⟨new, hpath, -⟩ := operation_path h.sound inside
    exact ⟨new, hpath.faithful h⟩
  · obtain ⟨happening, he⟩ := not_forall_not.mp inside
    subst he
    exact ⟨[], (List.append_nil left).symm ▸ h.told keeps⟩

/-- What was sent through the socket of an object is what its account says. -/
structure Recorded (b : Board) (k : Nat) (log : Bytes) : Prop where
  sent : ∀ i, b.slotAt k = some i → (b.found i).tx = log
  fresh : b.owners.length ≤ k → log = []

theorem slotAt_of_length (h : b.owners.length ≤ k) : b.slotAt k = none := by
  rw [slotAt, List.getElem?_eq_none h]
  rfl

/-- A place in which nothing is concerned by an event. -/
theorem Recorded.others (h : Recorded b k log) (hpath : Path Socket.standing j b new b')
    (hb : Sound b left) (hne : k ≠ j) : Recorded b' k log := by
  rcases Nat.lt_or_ge k b.owners.length with hlt | hge
  · have hspares := hpath.others hb (List.getElem?_eq_getElem hlt) hne
    have hlength := hpath.length
    refine ⟨fun i hi => ?_, fun hle => absurd hle (by omega)⟩
    rw [slotAt_of_here hspares.place] at hi
    rw [hspares.tx hi]
    exact h.sent i ((slotAt_of_here (List.getElem?_eq_getElem hlt)).trans hi)
  · have hlength := hpath.length
    refine ⟨fun i hi => ?_, fun _ => h.fresh hge⟩
    rw [slotAt_of_length (by omega)] at hi
    cases hi

/-- What is in the place of an object that did not exist. -/
theorem Recorded.joined (h : Recorded b k log) (hpath : Path Socket.record k b new b')
    (hb : Sound b left) (hk : b.owners.length ≤ k) : Recorded b' k log := by
  refine ⟨fun i hi => ?_, fun _ => h.fresh hk⟩
  rw [h.fresh hk]
  rcases hpath.own hb hi with ⟨hslot, -⟩ | hnew
  · rw [slotAt_of_length hk] at hslot
    cases hslot
  · exact hnew

/-- An object that keeps what it holds and what it sent, or holds nothing any more. -/
theorem Recorded.lasts (h : Recorded b k log) (hk : k < b'.owners.length)
    (lasts : b'.slotAt k = none ∨ b'.slotAt k = b.slotAt k ∧ ∀ i, (b'.found i).tx = (b.found i).tx) :
    Recorded b' k log := by
  refine ⟨fun i hi => ?_, fun hle => absurd hle (Nat.not_le.mpr hk)⟩
  rcases lasts with hnone | ⟨hslot, hsame⟩
  · cases hnone.symm.trans hi
  · rw [hsame]
    exact h.sent i (hslot.symm.trans hi)

theorem entry_of_other (hk : k ≠ b.subject e) : b.entry k log e = log := by
  cases e with
  | stream j op =>
    unfold entry
    split
    · next heq _ =>
      cases heq
      exact if_neg (Ne.symm hk)
    · rfl
  | _ => rfl

theorem entry_of_stream (here : b.owners[k]? = some (.stream s)) (op : StreamOp) :
    b.entry k log (.stream k op) = if op.opens then [] else log ++ op.credits (s, b.host) := by
  simp only [entry, here, if_true]

/-- Only a connection has an account. -/
theorem entry_of_none (hnone : ∀ s, b.owners[k]? ≠ some (.stream s)) :
    b.entry k log e = log := by
  unfold entry
  split
  · next here => exact absurd here (hnone _)
  · rfl

/-- Short of opening a connection and handing data over, what an object keeps of its socket is all that
was sent. -/
theorem step_lasts (h : Sound b left) (inside : ∀ happening, e ≠ .happens happening)
    (opens : ∀ op, e = .stream (b.subject e) op → op.opens = false) (writes : e.writes = false)
    (hk : b.subject e < b.owners.length) :
    (b.step e).slotAt (b.subject e) = none ∨
      (b.step e).slotAt (b.subject e) = b.slotAt (b.subject e) ∧
        ∀ i, ((b.step e).found i).tx = (b.found i).tx := by
  cases e with
  | happens happening => exact absurd rfl (inside happening)
  | newStream | bind | bindDatagrams | bindMulticast | accept => exact absurd hk (Nat.lt_irrefl _)
  | stream k op =>
    change (b.step (.stream k op)).slotAt k = none ∨
      (b.step (.stream k op)).slotAt k = b.slotAt k ∧ _
    by_cases hstream : ∃ s, b.owners[k]? = some (.stream s)
    · obtain ⟨s, here⟩ := hstream
      rw [step_stream here, slotAt_set here]
      by_cases hstop : op = .stop
      · rw [hstop]
        exact Or.inl (stop_path h here).1
      · obtain ⟨huses, ⟨hsame, -⟩ | ⟨hnone, -⟩⟩ := op.run_lasts (opens op rfl) hstop writes s b.host
        · refine Or.inr ⟨?_, fun i => Socket.tx_of_record (huses.link.own i)⟩
          exact (congrArg SocketHandle.index? hsame).trans (slotAt_of_here here).symm
        · exact Or.inl (congrArg SocketHandle.index? hnone)
    · rw [step_stream_of_none fun s hs => hstream ⟨s, hs⟩]
      exact Or.inr ⟨rfl, fun _ => rfl⟩
  | isListening k =>
    rw [step]
    split
    · next l here =>
      have huses : Host.Uses Socket.record l.socket b.host (l.isListening.run b.host).2 :=
        Host.serverStatus_uses l.socket b.host
      exact Or.inr ⟨rfl, fun i => Socket.tx_of_record (huses.link.own i)⟩
    · exact Or.inr ⟨rfl, fun _ => rfl⟩
  | closeListener k =>
    rw [step]
    split
    · next l here => exact Or.inl (slotAt_set here .closed)
    · exact Or.inr ⟨rfl, fun _ => rfl⟩
  | datagrams k op =>
    rw [step]
    split
    · next d here =>
      obtain ⟨i, index, reserved, kind⟩ := kind_of_serves h here
      have huses := op.run_uses index reserved kind
      exact Or.inr ⟨rfl, fun i => Socket.tx_of_record (huses.link.own i)⟩
    · exact Or.inr ⟨rfl, fun _ => rfl⟩
  | closeDatagrams k =>
    rw [step]
    split
    · next d here => exact Or.inl (slotAt_set here .closed)
    · exact Or.inr ⟨rfl, fun _ => rfl⟩

/-- Nothing was sent through the socket of a connection that was just opened. -/
theorem open_fresh (h : Sound b left) (here : b.owners[k]? = some (.stream s)) {op : StreamOp}
    (opens : op.opens = true) (held : (b.step (.stream k op)).slotAt k = some i) :
    ((b.step (.stream k op)).found i).tx = [] := by
  obtain ⟨kind, connect, stream, opening, hop⟩ := StreamOp.run_opens opens
  obtain ⟨new, hstop, hopen, -⟩ := connectBy_path h here stream opening
  have hrid := (stop_path h here).1
  rw [step_stream here, (hop _).1] at held ⊢
  rcases hopen.own (hstop.standing.sound h) held with ⟨hslot, -⟩ | hnew
  · rw [slotAt_set here] at hslot
    cases hrid.symm.trans hslot
  · exact hnew

/-- Handing data over records what the account adds. -/
theorem write_recorded (h : Faithful b left) (r : Recorded b k log)
    (here : b.owners[k]? = some (.stream s)) {op : StreamOp} (writes : op.writes = true) :
    Recorded (b.step (.stream k op)) k (log ++ op.credits (s, b.host)) := by
  obtain ⟨hsame, -⟩ := op.run_writes writes s b.host
  rw [step_stream here]
  have hk := (List.getElem?_eq_some_iff.mp here).1
  refine ⟨fun i hi => ?_, fun hle => ?_⟩
  · rw [slotAt_set here] at hi
    have hindex : s.socket.index? = some i := (congrArg SocketHandle.index? hsame).symm.trans hi
    have hslot := r.sent i ((slotAt_of_here here).trans hindex)
    have hserved := h.served (holds_pos here hindex)
    have hcredits := Stream.run_credits hserved hindex writes
    rw [found, Link.found_of_initialized hserved.reset] at hslot
    change ((op.run (s, b.host)).2.link.found i).tx = _
    rw [Link.found_of_initialized hcredits.served.reset, hcredits.tx, hslot]
  · rw [List.length_set] at hle
    exact absurd hk (Nat.not_lt.mpr hle)

/-- The connection that an operation concerns. -/
theorem Recorded.stream_step (r : Recorded b k log) (h : Faithful b left) (op : StreamOp) :
    Recorded (b.step (.stream k op)) k (b.entry k log (.stream k op)) := by
  by_cases hstream : ∃ s, b.owners[k]? = some (.stream s)
  · obtain ⟨s, here⟩ := hstream
    rw [entry_of_stream here]
    cases opens : op.opens with
    | true => exact ⟨fun i hi => open_fresh h.sound here opens hi, fun _ => rfl⟩
    | false =>
      cases writes : op.writes with
      | true => exact write_recorded h r here writes
      | false =>
        have hk := (List.getElem?_eq_some_iff.mp here).1
        have hnothing : op.credits (s, b.host) = [] := by
          cases op with
          | write | send => cases writes
          | _ => rfl
        rw [hnothing, List.append_nil]
        refine r.lasts ?_ (step_lasts h.sound nofun (fun op' hop => ?_) writes hk)
        · rw [step_stream here, List.length_set]
          exact hk
        · cases hop
          exact opens
  · have hnone : ∀ s, b.owners[k]? ≠ some (.stream s) := fun s hs => hstream ⟨s, hs⟩
    rw [step_stream_of_none hnone, entry_of_none hnone]
    exact r

/-- The listener, the datagram socket or the new object that an operation concerns. -/
theorem Recorded.object_step (r : Recorded b (b.subject e) log) (h : Faithful b left)
    (inside : ∀ happening, e ≠ .happens happening) (hstream : ∀ k op, e ≠ .stream k op) :
    Recorded (b.step e) (b.subject e) log := by
  have writes : e.writes = false := by
    cases e with
    | stream k op => exact absurd rfl (hstream k op)
    | _ => rfl
  obtain ⟨new, hpath, -⟩ := step_path h.sound inside writes
  rcases Nat.lt_or_ge (b.subject e) b.owners.length with hlt | hge
  · have hlength := hpath.length
    exact r.lasts (by omega)
      (step_lasts h.sound inside (fun op hop => absurd hop (hstream _ op)) writes hlt)
  · exact r.joined hpath h.sound hge

theorem step_recorded (h : Faithful b left) (r : Recorded b k log) (e : BoardEvent) :
    Recorded (b.step e) k (b.entry k log e) := by
  by_cases inside : ∀ happening, e ≠ .happens happening
  · obtain ⟨new, hpath, -⟩ := operation_path h.sound inside
    by_cases hk : k = b.subject e
    · subst hk
      cases e with
      | stream k op => exact r.stream_step h op
      | _ => exact r.object_step h inside nofun
    · rw [entry_of_other hk]
      exact r.others hpath h.sound hk
  · obtain ⟨happening, he⟩ := not_forall_not.mp inside
    subst he
    exact ⟨fun i hi => (Link.tx_told b.host.link happening i).trans (r.sent i hi), r.fresh⟩

theorem run_recorded (h : Faithful b left) (r : Recorded b k log) {events : List BoardEvent}
    (keeps : ∀ e ∈ events, e.losesNothing = true) :
    Recorded (b.run events) k (b.account k log events) ∧ ∃ left', Faithful (b.run events) left' := by
  induction events generalizing b left log with
  | nil => exact ⟨r, left, h⟩
  | cons e rest ih =>
    obtain ⟨hfirst, hrest⟩ := List.forall_mem_cons.mp keeps
    obtain ⟨new, hstep⟩ := h.step hfirst
    exact ih hstep (step_recorded h r e) hrest

theorem start_faithful {link : Link Line} (fresh : ∀ i, link.found i = Socket.free)
    (size : 252 ≤ link.settings.maxFrameSize.toNat) (kept : ∀ c, link.device.lossesLeft c = 0)
    (sockets : SocketSettings) (station : StationSettings) :
    Faithful (start link sockets station) [] where
  sound := start_sound fresh sockets station
  live := start_live fresh sockets station
  size := size
  kept := kept

theorem start_recorded (link : Link Line) (sockets : SocketSettings) (station : StationSettings)
    (k : Nat) : Recorded (start link sockets station) k [] := by
  refine ⟨fun i hi => ?_, fun _ => rfl⟩
  rw [slotAt_of_length (Nat.zero_le k)] at hi
  cases hi

/-- At every point of every run in which no reply gets lost, over a link that carries the largest
requests: what the device recorded as sent through the socket of a connection is what the
connection's writes since it was opened count as sent by their answers; a write that succeeds hands
over some of its data, and no more than one frame carries; and on an established connection, if
deliveries are confirmed and asked for and the device accepts anything at all, sending all of any
data succeeds, hands over just that data, and takes as many requests as there are pieces of what is
sendable at once. -/
theorem sends_accounted {link : Link Line} (fresh : ∀ i, link.found i = Socket.free)
    (size : 252 ≤ link.settings.maxFrameSize.toNat) (kept : ∀ c, link.device.lossesLeft c = 0)
    (sockets : SocketSettings) (station : StationSettings) (events : List BoardEvent)
    (keeps : ∀ e ∈ events, e.losesNothing = true) :
    let first := start link sockets station
    let b := first.run events
    let device := b.host.link.transport.state
    ∀ k s, b.owners[k]? = some (.stream s) →
      (∀ data n, ((Stream.write data).run.run (s, b.host)).1 = .ok n →
        1 ≤ n ∧ n ≤ min data.length chunkMax) ∧
      (s.socket.isValid = true →
        device.sentData s.socket.raw = first.account k [] events ∧
        (device.socketState s.socket.raw = .established → device.confirmSends = true →
          0 < b.host.sockets.confirmAttempts.toNat → device.acceptLimit ≠ some 0 → ∀ data,
            let sent := (Stream.sendAll data).run.run (s, b.host)
            let after := sent.2.2.link.transport.state
            sent.1 = .ok () ∧
              after.sentData s.socket.raw = device.sentData s.socket.raw ++ data ∧
              after.count .sendDataTcp =
                device.count .sendDataTcp + data.length ⌈/⌉ device.sendable)) := by
  intro first b device k s here
  obtain ⟨hrecorded, left, hfaithful⟩ := run_recorded
    (start_faithful fresh size kept sockets station) (start_recorded link sockets station k) keeps
  have hserved : ∀ i, s.socket.index? = some i → b.host.link.Served :=
    fun i index => hfaithful.served (holds_pos here index)
  refine ⟨fun data n hok => Stream.write_ok hserved hok, fun valid => ?_⟩
  obtain ⟨i, index⟩ := Option.isSome_iff_exists.mp valid
  have hraw : SocketHandle.slotOf? s.socket.raw = some i := index
  have hslot : ∀ state : State, state.sentData s.socket.raw = (state.sockets.get i).tx := by
    intro state
    rw [State.sentData, State.socket?, hraw]
    rfl
  have hfound := Link.found_of_initialized (hserved i index).reset i
  refine ⟨?_, fun hstate hconfirms hasks haccepts data => ?_⟩
  · rw [hslot, ← hrecorded.sent i ((slotAt_of_here here).trans index), found, hfound]
    rfl
  · have hlive : (b.host.link.found i).state = .established := by
      rw [hfound, ← hstate, State.socketState, State.socket?, hraw]
      rfl
    have hsends : (b.host.link.socketAt i).Sends := by
      rw [← hfound]
      exact ⟨hfaithful.live i (congrArg TcpState.isConnected hlive), hlive⟩
    obtain ⟨after, hsent, hpasses⟩ := Stream.Ready.sendAll
      ⟨hserved i index, index, hsends, hconfirms, hasks, haccepts⟩ data
    dsimp only
    rw [show (Stream.sendAll data).run.run (s, b.host) = _ from hsent, hslot, hslot]
    refine ⟨rfl, ?_, hpasses.count⟩
    exact congrArg Device.Socket.tx hpasses.socket

/-- Two connections send in turn. The device takes two bytes at a time, and delivery is not confirmed
once; then three bytes take two requests. -/
theorem sends_accounted_in_pieces :
    let link : Link Line := .new .new .instant
    let sockets : SocketSettings := { SocketSettings.standard with confirmAttempts := 1 }
    let events : List BoardEvent :=
      [.newStream, .newStream, .stream 0 (.connect ⟨10, 0, 0, 1⟩ 80 .tcp),
        .stream 1 (.connect ⟨10, 0, 0, 1⟩ 80 .tcp), .stream 0 (.write [1]),
        .happens (.setAcceptLimit (some 2)), .stream 1 (.send [9]), .stream 0 (.send [2, 3, 4]),
        .happens (.setConfirmSends false), .stream 0 (.write [5, 6, 7]),
        .happens (.setConfirmSends true)]
    let first := start link sockets .standard
    let b := first.run events
    let s : Stream := ⟨⟨0⟩, true⟩
    let sent := (Stream.sendAll [7, 8, 9]).run.run (s, b.host)
    (∀ i, link.found i = Socket.free) ∧ 252 ≤ link.settings.maxFrameSize.toNat ∧
      (∀ c, link.device.lossesLeft c = 0) ∧ (∀ e ∈ events, e.losesNothing = true) ∧
      b.owners[0]? = some (.stream s) ∧ s.socket.isValid = true ∧
      b.host.link.transport.state.sentData 0 = [1, 2, 3, 5, 6] ∧ sent.1 = .ok () ∧
      sent.2.2.link.transport.state.sentData 0 = [1, 2, 3, 5, 6, 7, 8, 9] ∧
      sent.2.2.link.transport.state.count .sendDataTcp = 6 := by
  intro link sockets events
  have fresh : ∀ i, link.found i = Socket.free := by decide
  have size : 252 ≤ link.settings.maxFrameSize.toNat := by decide
  have kept : ∀ c, link.device.lossesLeft c = 0 := fun _ => rfl
  have keeps : ∀ e ∈ events, e.losesNothing = true := by decide
  have here : ((start link sockets .standard).run events).owners[0]? =
      some (.stream ⟨⟨0⟩, true⟩) := by decide +kernel
  have account : (start link sockets .standard).account 0 [] events = [1, 2, 3, 5, 6] := by
    decide +kernel
  have device : let b := (start link sockets .standard).run events
      let state := b.host.link.transport.state
      state.socketState 0 = .established ∧ state.confirmSends = true ∧
        0 < b.host.sockets.confirmAttempts.toNat ∧ state.acceptLimit ≠ some 0 ∧
        state.count .sendDataTcp = 4 ∧ state.sendable = 2 := by decide +kernel
  obtain ⟨-, haccount⟩ := sends_accounted fresh size kept sockets .standard events keeps 0 _ here
  obtain ⟨hsent, hall⟩ := haccount (by decide)
  obtain ⟨hstate, hconfirms, hasks, haccepts, hcount, hsendable⟩ := device
  obtain ⟨hok, hafter, hrequests⟩ := hall hstate hconfirms hasks haccepts [7, 8, 9]
  rw [account] at hsent
  rw [hsent] at hafter
  rw [hcount, hsendable] at hrequests
  exact ⟨fresh, size, kept, keeps, here, by decide, hsent, hok, hafter, hrequests⟩

end Board

end SpiWifi
