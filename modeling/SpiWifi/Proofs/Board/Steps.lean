import SpiWifi.Proofs.Board.Moves
import SpiWifi.Proofs.Board.Operations

/-!
# The moves that an event is made of

Every event on a board is a path of a few moves that concern one object. Short of handing data over,
the moves keep what was sent. If the device closes at once and loses no reply, the slots that an event
leaves to nobody follow from the operation and its answer.
-/

namespace SpiWifi

open Device

/-- The device closes sockets at once, and no reply is to be lost. -/
structure Link.Prompt (l : Link Line) : Prop where
  close : l.device.close = .immediate
  kept : ∀ c, l.device.lossesLeft c = 0

namespace Board

/-- The slot that the object in a place holds. -/
def slotAt (b : Board) (k : Nat) : Option (Fin socketCount) :=
  b.owners[k]?.bind fun o => o.socket.index?

/-- The slots that an event leaves to nobody, reserved as they are, by the operation and its answer:
those that an attempt to open a socket acquired before it failed, that of a connection whose handle was
dropped because its end was found, and those that wait on a listener which is closed. -/
def leaves (b : Board) (e : BoardEvent) : List (Fin socketCount) :=
  match e with
  | .bind port => b.host.wasted ((Listener.bind port).run.run b.host).1
  | .bindDatagrams port => b.host.wasted ((DatagramSocket.bind port).run.run b.host).1
  | .bindMulticast group port =>
    b.host.wasted ((DatagramSocket.bindMulticast group port).run.run b.host).1
  | .stream k op =>
    match b.owners[k]? with
    | some (.stream s) => op.leaves (s, b.host)
    | _ => []
  | .closeListener k =>
    match b.owners[k]? with
    | some (.listener l) => l.socket.index?.toList.flatMap fun i => (b.found i).queue
    | _ => []
  | _ => []

def subject (b : Board) : BoardEvent → Nat
  | .stream k _ | .isListening k | .closeListener k | .datagrams k _ | .closeDatagrams k => k
  | _ => b.owners.length

variable {b : Board} {left : List (Fin socketCount)} {k : Nat} {o : Owner}
  {i : Fin socketCount} {host : Host Line} {kind : SocketKind}

theorem set_self (here : b.owners[k]? = some o) : b.owners.set k o = b.owners := by
  obtain ⟨hk, rfl⟩ := List.getElem?_eq_some_iff.mp here
  exact List.set_getElem_self hk

/-- An attempt to open a socket that fails leaves what it acquired. -/
theorem failed_path (k : Nat) {e : NetError} (h : Host.Opening kind b.host (.error e, host)) :
    Path Socket.record k b b.host.acquires ⟨host, b.owners⟩ := by
  cases h with
  | nothing e after uses acquires =>
    rw [acquires]
    exact .one (.quiet k host uses)
  | spent e after socket i index vacant uses taken cache acquires =>
    rw [acquires]
    exact .one (.passed (.spent k socket i host index vacant uses taken cache))

theorem opened_path (here : b.owners[k]? = some o) (rid : o.socket.index? = none) (p : Owner)
    {socket : SocketHandle} (same : p.socket = socket)
    (serves : ∀ (l : Link Line) i, socket.index? = some i → (l.found i).kind = kind → p.Serves l)
    (h : Host.Opening kind b.host (.ok socket, host)) :
    Path Socket.record k b [] ⟨host, b.owners.set k p⟩ := by
  subst same
  cases h with
  | opened socket after i index vacant uses taken cache carries =>
    exact .one (.passed (.opened k o p i host here rid index vacant uses taken.toTaken
      (serves host.link i index taken.kind) cache carries))

/-- A new object, which gets a socket. -/
theorem new_path {p : Owner}
    (h : Path Socket.record b.owners.length ⟨b.host, b.owners ++ [Owner.closed]⟩ []
      ⟨host, (b.owners ++ [Owner.closed]).set b.owners.length p⟩) :
    Path Socket.record b.owners.length b [] ⟨host, b.owners ++ [p]⟩ := by
  have hset : (b.owners ++ [Owner.closed]).set b.owners.length p = b.owners ++ [p] := by
    rw [List.set_append_right _ _ (Nat.le_refl _), Nat.sub_self]
    rfl
  rw [hset] at h
  exact .cons (.passed (.joined .closed rfl fun _ => trivial)) h

/-- An object is made of the socket that was taken for it. -/
theorem make_eq {α : Type} {x : HostM Line α} {y : HostM Line SocketHandle}
    (object : SocketHandle → α)
    (run : x.run.run b.host = ((y.run b.host).1.map object, (y.run b.host).2)) (owner : α → Owner) :
    b.make x owner = match y.run b.host with
      | (.ok socket, host) => ⟨host, b.owners ++ [owner (object socket)]⟩
      | (.error _, host) => ⟨host, b.owners⟩ := by
  rw [make, run]
  rcases y.run b.host with ⟨e | socket, after⟩ <;> rfl

/-- To make an object takes a socket for it. -/
theorem make_path {α : Type} {x : HostM Line α} {y : HostM Line SocketHandle}
    {owner : α → Owner} (object : SocketHandle → α)
    (run : x.run.run b.host = ((y.run b.host).1.map object, (y.run b.host).2))
    (opening : Host.Opening kind b.host (y.run b.host))
    (same : ∀ socket, (owner (object socket)).socket = socket)
    (serves : ∀ (l : Link Line) socket i, socket.index? = some i → (l.found i).kind = kind →
      (owner (object socket)).Serves l) :
    Path Socket.record b.owners.length b (b.host.wasted (x.run.run b.host).1) (b.make x owner) := by
  have hmake := make_eq object run owner
  rw [run]
  rcases hy : y.run b.host with ⟨e | socket, after⟩
  all_goals
    rw [hy] at opening hmake
    rw [hmake]
  · exact failed_path _ opening
  · exact new_path (opened_path (b := ⟨b.host, b.owners ++ [.closed]⟩) List.getElem?_concat_length rfl
      (owner (object socket)) (same socket) (fun l i => serves l socket i) opening)

/-- An object stops its socket. A device that closes at once frees the slot. -/
theorem stopping_path (h : Sound b left) (here : b.owners[k]? = some o)
    (index : o.socket.index? = some i) (p : Owner) (rid : p.socket.index? = none)
    (serves : ∀ l, p.Serves l) :
    ∃ new, Path Socket.record k b new
        ⟨((Host.tryStop o.socket).run b.host).2, b.owners.set k p⟩ ∧
      (b.host.link.Prompt → new = (b.found i).queue) := by
  have hstops := Host.tryStop_stops index b.host
  have hslot := hstops.stopped (h.carries i (holds_pos here index)).1
  have huncached : ((Host.tryStop o.socket).run b.host).2.cache.entries.get i = none := by
    rw [hstops.cache, ReceiveCache.close, index]
    exact (ReceiveCache.get_setEntry i none).trans (if_pos rfl)
  cases hclose : b.host.link.device.close with
  | immediate =>
    rw [hclose] at hslot
    exact ⟨_, .one (.passed (.freed k o p i _ here index rid serves hstops.uses hslot huncached)),
      fun _ => rfl⟩
  | linger =>
    rw [hclose] at hslot
    have hclaims : ∀ a : Device.Socket, a = (b.found i).stopped .linger →
        (a.reserved = (b.found i).reserved ∧ a.kind = (b.found i).kind ∧
          a.waiting = (b.found i).waiting) ∧
        (a.state.isConnected = true → (b.found i).state.isConnected = true) := by
      rintro a rfl
      exact ⟨⟨rfl, rfl, rfl⟩, fun h => by cases h⟩
    refine ⟨_, .one (.passed (.dropped k o p i _ here index rid serves hstops.uses
      (hclaims _ hslot).1 (hclaims _ hslot).2 huncached)), fun hprompt => ?_⟩
    cases hclose.symm.trans hprompt.close

/-- A socket on which nobody can wait. -/
theorem queue_of_kind (h : Sound b left) (kind : (b.found i).kind ≠ .server) :
    (b.found i).queue = [] := by
  have hwaiting : (b.found i).waiting = [] := by
    by_contra hsome
    exact kind (h.queued i hsome)
  rw [Socket.queue, hwaiting]
  rfl

variable {s : Stream}

theorem Sound.serves_at (h : Sound b left) (here : b.owners[k]? = some o) :
    o.Serves b.host.link := h.serves o (List.mem_of_getElem? here)

/-- A connection is stopped, and holds nothing. -/
theorem stop_path (h : Sound b left) (here : b.owners[k]? = some (.stream s)) :
    let st := (Stream.stop (s, b.host)).2
    st.1.socket.index? = none ∧ ∃ new,
      Path Socket.record k b new ⟨st.2, b.owners.set k (.stream st.1)⟩ ∧
        (b.host.link.Prompt → new = []) := by
  cases hi : s.socket.index? with
  | none =>
    have hinvalid : s.socket.isValid = false := SocketHandle.isValid_of_none hi
    rw [s.stop_of_invalid b.host hinvalid]
    refine ⟨hi, [], ?_, fun _ => rfl⟩
    rw [set_self here]
    exact .nil b
  | some i =>
    rw [s.stop_of_valid b.host (SocketHandle.isValid_of_some hi)]
    obtain ⟨new, hpath, hnew⟩ := stopping_path h here hi
      (.stream { s with socket := .none }) rfl fun l i hi => by cases hi
    refine ⟨rfl, new, hpath, fun hprompt => ?_⟩
    rw [hnew hprompt]
    exact queue_of_kind h (h.serves_at here i hi)

/-- A connection is opened anew. -/
theorem connectBy_path (h : Sound b left) (here : b.owners[k]? = some (.stream s))
    {connect : HostM Line SocketHandle} (stream : kind ≠ .server)
    (opening : ∀ host, Host.Opening kind host (connect.run host)) :
    let stopped := (Stream.stop (s, b.host)).2
    let result := Stream.connectBy connect (s, b.host)
    ∃ new,
      Path Socket.record k b new ⟨stopped.2, b.owners.set k (.stream stopped.1)⟩ ∧
      Path Socket.record k ⟨stopped.2, b.owners.set k (.stream stopped.1)⟩
        (stopped.2.wasted result.1) ⟨result.2.2, b.owners.set k (.stream result.2.1)⟩ ∧
      (b.host.link.Prompt → new = []) := by
  intro stopped result
  obtain ⟨hrid, new, hpath, hnew⟩ := stop_path h here
  have hopening := opening stopped.2
  have hplace : (b.owners.set k (.stream stopped.1))[k]? = some (.stream stopped.1) :=
    List.getElem?_set_self (List.getElem?_eq_some_iff.mp here).1
  have hresult := Stream.run_connectBy s b.host connect
  dsimp only at hresult
  rcases hconnect : connect.run stopped.2 with ⟨e | socket, after⟩
  all_goals
    rw [hconnect] at hopening hresult
    rw [show result = _ from hresult]
  · exact ⟨new, hpath, failed_path k hopening, hnew⟩
  · have hopened := opened_path (b := ⟨stopped.2, b.owners.set k (.stream stopped.1)⟩)
      hplace hrid (.stream { stopped.1 with socket := socket }) rfl (fun l i hi hkind j hj => by
        cases hi.symm.trans hj
        rw [hkind]
        exact stream) hopening
    rw [List.set_set] at hopened
    exact ⟨new, hpath, hopened, hnew⟩

/-- Short of opening, a connection uses its socket, is stopped, or is found to have ended. -/
theorem stream_path (h : Sound b left) (here : b.owners[k]? = some (.stream s)) {op : StreamOp}
    (opens : op.opens = false) (writes : op.writes = false) :
    let st := op.run (s, b.host)
    ∃ new, Path Socket.record k b new ⟨st.2, b.owners.set k (.stream st.1)⟩ ∧
      (b.host.link.Prompt → new = op.leaves (s, b.host)) := by
  intro st
  by_cases hstop : op = .stop
  · obtain ⟨-, new, hpath, hnew⟩ := stop_path h here
    subst hstop
    exact ⟨new, hpath, hnew⟩
  · obtain ⟨huses, ⟨hsame, hleaves⟩ | ⟨hnone, hleaves, huncached⟩⟩ :=
      op.run_lasts opens hstop writes s b.host
    all_goals rw [hleaves]
    · refine ⟨[], .one (.used k (.stream s) (.stream st.1) st.2 here
        (congrArg SocketHandle.index? hsame) (fun l hl => ?_) huses), fun _ => rfl⟩
      intro i hi
      rw [hsame] at hi
      exact hl i hi
    · have hrid : st.1.socket.index? = none := congrArg SocketHandle.index? hnone
      cases hi : s.socket.index? with
      | none =>
        refine ⟨[], .one (.used k (.stream s) (.stream st.1) st.2 here (hrid.trans hi.symm)
          (fun l _ i hi => ?_) huses), fun _ => rfl⟩
        cases hrid.symm.trans hi
      | some i =>
        refine ⟨[i], .one (.passed (.dropped k (.stream s) (.stream st.1) i st.2 here hi hrid
          (fun l i hi => ?_) ⟨huses.link.weaken fun _ _ _ => rfl, huses.sockets, huses.cached⟩
          (Sound.claims_of_standing huses.standing i)
          (Socket.state_of_standing (huses.standing.link.own i) ▸ id) (huncached i hi))),
          fun _ => rfl⟩
        cases hrid.symm.trans hi

theorem quiet_of_same {socket : SocketHandle} (index : socket.index? = some i)
    (uses : Host.Uses Socket.nothing socket b.host host)
    (same : host.link.found i = b.host.link.found i) (cache : host.cache = b.host.cache) :
    Host.Uses Socket.record .none b.host host := by
  have hsame : ∀ j, host.link.found j = b.host.link.found j := by
    intro j
    by_cases hj : socket.index? = some j
    · cases index.symm.trans hj
      exact same
    · exact uses.link.others j hj
  exact ⟨⟨uses.link.settings, uses.link.rest, uses.link.losses, uses.link.untouched,
    fun j _ => hsame j, fun j => congrArg Device.Socket.record (hsame j)⟩, uses.sockets,
    fun j _ => by rw [cache]⟩

/-- What comes of asking a listener: the answer does not get through, and perhaps the connection that
waits first is handed out to nobody; or nothing waits; or what waits first is handed out. -/
theorem accept_cases (h : Sound b left) {socket : SocketHandle} {l : Owner}
    (here : b.owners[k]? = some l) (index : l.socket.index? = some i)
    {result : SocketHandle × Host Line} (haccepts : Host.Accepts socket i b.host result)
    (kind : (b.found i).kind = .server) :
    (result.1.index? = none ∧ result.2.link.found i = b.host.link.found i ∧
      ¬ b.host.link.Prompt) ∨
    (result.1.index? = none ∧ result.2.link.found i = (b.found i).dequeued ∧
      (b.host.link.Prompt → (b.found i).first = none)) ∨
    (∃ m, result.1.index? = some m ∧ (b.found i).waiting.head? = some result.1.raw ∧
      result.2.link.found i = (b.found i).dequeued) := by
  have hasked : (b.host.link.found i).asked = (b.found i).dequeued := if_pos kind
  by_cases hc : b.host.link.Carries .availDataTcp 8 8
  · obtain ⟨hclient, hslot⟩ := haccepts.carried hc
    rw [hasked] at hslot
    cases hw : (b.found i).waiting with
    | nil =>
      have hnone : result.1 = .none := by
        rw [hclient]
        change (⟨(b.found i).waiting.headD _⟩ : SocketHandle) = _
        rw [hw]
        rfl
      refine Or.inr (Or.inl ⟨by rw [hnone]; rfl, hslot, fun _ => ?_⟩)
      rw [Socket.first, hw]
      rfl
    | cons raw rest =>
      have hraw : result.1 = ⟨raw⟩ := by
        rw [hclient]
        change (⟨(b.found i).waiting.headD _⟩ : SocketHandle) = _
        rw [hw]
        rfl
      have hfirst : (b.found i).first = result.1.index? := by
        rw [Socket.first, hw, hraw]
        rfl
      cases hm : result.1.index? with
      | none => exact Or.inr (Or.inl ⟨rfl, hslot, fun _ => hfirst.trans hm⟩)
      | some m =>
        refine Or.inr (Or.inr ⟨m, rfl, ?_, hslot⟩)
        rw [hraw]
        rfl
  · obtain ⟨hclient, hslot⟩ := haccepts.failed hc
    have hnever : ¬ b.host.link.Prompt := fun hprompt =>
      have hcarries := h.carries i (holds_pos here index)
      hc ⟨hcarries.1, hcarries.1, hcarries.2, hprompt.kept _⟩
    rw [hclient]
    rcases hslot with hsame | hslot
    · exact Or.inl ⟨rfl, hsame, hnever⟩
    · exact Or.inr (Or.inl ⟨rfl, hslot.trans hasked, fun hprompt => absurd hprompt hnever⟩)

theorem accept_path (h : Sound b left) {l : Listener} (here : b.owners[k]? = some (.listener l)) :
    ∃ new, Path Socket.record b.owners.length b new
        ⟨(l.accept.run b.host).2, b.owners ++ (l.accept.run b.host).1.toList.map .stream⟩ ∧
      (b.host.link.Prompt → new = []) := by
  obtain ⟨i, index, kind⟩ := h.serves_at here
  have haccepts := Host.accept_accepts index kind
  rw [l.run_accept]
  generalize Host.accept l.socket b.host = result at haccepts
  have hcases := accept_cases h here index haccepts kind
  obtain ⟨client, after⟩ := result
  dsimp only at hcases ⊢
  rcases hcases with ⟨hm, hsame, hnever⟩ | ⟨hm, hslot, hnone⟩ | ⟨m, hm, hhead, hslot⟩
  · have hinvalid : client.isValid = false := SocketHandle.isValid_of_none hm
    simp only [hinvalid, Bool.false_eq_true, if_false, Option.toList_none, List.map_nil,
      List.append_nil]
    exact ⟨[], .one (.quiet _ after (quiet_of_same index haccepts.uses hsame haccepts.cache)),
      fun hprompt => absurd hprompt hnever⟩
  · have hinvalid : client.isValid = false := SocketHandle.isValid_of_none hm
    simp only [hinvalid, Bool.false_eq_true, if_false, Option.toList_none, List.map_nil,
      List.append_nil]
    refine ⟨_, .one (.passed (.lost _ k _ i after here index haccepts.uses haccepts.cache hslot)),
      fun hprompt => ?_⟩
    rw [hnone hprompt]
    rfl
  · have hvalid : client.isValid = true := SocketHandle.isValid_of_some hm
    have hlistener : (⟨b.host, b.owners ++ [.closed]⟩ : Board).owners[k]? = some (.listener l) :=
      (List.getElem?_append_left (List.getElem?_eq_some_iff.mp here).1).trans here
    rw [hvalid]
    exact ⟨[], new_path (.one (.passed (.accepted _ .closed k _ i m client after
      List.getElem?_concat_length rfl hlistener index haccepts.uses haccepts.cache hm hhead
      hslot))), fun _ => rfl⟩

theorem slotAt_set (here : b.owners[k]? = some o) (p : Owner) :
    slotAt ⟨host, b.owners.set k p⟩ k = p.socket.index? := by
  rw [slotAt, List.getElem?_set_self (List.getElem?_eq_some_iff.mp here).1]
  rfl

theorem slotAt_of_here (here : b.owners[k]? = some o) : b.slotAt k = o.socket.index? := by
  rw [slotAt, here]
  rfl

/-- An operation on a place without a connection is none. -/
theorem step_stream_of_none (h : ∀ s, b.owners[k]? ≠ some (.stream s)) (op : StreamOp) :
    b.step (.stream k op) = b := by
  rw [step]
  split
  · next s hs => exact absurd hs (h s)
  · rfl

theorem step_stream (here : b.owners[k]? = some (.stream s)) (op : StreamOp) :
    b.step (.stream k op) =
      ⟨(op.run (s, b.host)).2, b.owners.set k (.stream (op.run (s, b.host)).1)⟩ := by
  rw [step, here]

theorem leaves_stream_of_none (h : ∀ s, b.owners[k]? ≠ some (.stream s)) (op : StreamOp) :
    b.leaves (.stream k op) = [] := by
  rw [leaves]
  split
  · next s hs => exact absurd hs (h s)
  · rfl

theorem leaves_stream (here : b.owners[k]? = some (.stream s)) (op : StreamOp) :
    b.leaves (.stream k op) = op.leaves (s, b.host) := by
  rw [leaves, here]

theorem open_path (h : Sound b left) (here : b.owners[k]? = some (.stream s)) {op : StreamOp}
    (opens : op.opens = true) :
    ∃ new, Path Socket.record k b new (b.step (.stream k op)) ∧
      (b.host.link.Prompt → new = b.leaves (.stream k op)) := by
  obtain ⟨kind, connect, stream, opening, hop⟩ := StreamOp.run_opens opens
  obtain ⟨new, hstop, hopen, hnew⟩ := connectBy_path h here stream opening
  rw [leaves_stream here, step_stream here op, (hop _).1, (hop _).2]
  refine ⟨_, hstop.append hopen, fun hprompt => ?_⟩
  rw [hnew hprompt, List.nil_append]

theorem stream_step_path (h : Sound b left) (k : Nat) {op : StreamOp} (writes : op.writes = false) :
    ∃ new, Path Socket.record k b new (b.step (.stream k op)) ∧
      (b.host.link.Prompt → new = b.leaves (.stream k op)) := by
  by_cases hstream : ∃ s, b.owners[k]? = some (.stream s)
  · obtain ⟨s, here⟩ := hstream
    cases opens : op.opens with
    | true => exact open_path h here opens
    | false =>
      rw [leaves_stream here, step_stream here]
      exact stream_path h here opens writes
  · have hnone : ∀ s, b.owners[k]? ≠ some (.stream s) := fun s hs => hstream ⟨s, hs⟩
    rw [step_stream_of_none hnone, leaves_stream_of_none hnone]
    exact ⟨[], .nil b, fun _ => rfl⟩

theorem write_step_path (b : Board) (k : Nat) {op : StreamOp} (writes : op.writes = true) :
    Path Socket.standing k b [] (b.step (.stream k op)) ∧ b.leaves (.stream k op) = [] := by
  by_cases hstream : ∃ s, b.owners[k]? = some (.stream s)
  · obtain ⟨s, here⟩ := hstream
    obtain ⟨hsame, huses⟩ := op.run_writes writes s b.host
    rw [leaves_stream here, step_stream here]
    refine ⟨.one (.used k (.stream s) (.stream (op.run (s, b.host)).1) _ here
      (congrArg SocketHandle.index? hsame) (fun l hl i hi => ?_) huses), ?_⟩
    · rw [hsame] at hi
      exact hl i hi
    · cases op <;> first | rfl | cases writes
  · have hnone : ∀ s, b.owners[k]? ≠ some (.stream s) := fun s hs => hstream ⟨s, hs⟩
    rw [step_stream_of_none hnone, leaves_stream_of_none hnone]
    exact ⟨.nil b, rfl⟩

theorem kind_of_serves {d : DatagramSocket} (h : Sound b left)
    (here : b.owners[k]? = some (.datagrams d)) :
    ∃ i, d.socket.index? = some i ∧ (b.found i).reserved = true ∧ (b.found i).kind = .datagram := by
  obtain ⟨i, index, kind⟩ := h.serves_at here
  exact ⟨i, index, h.reserved_of_holds (holds_pos here index), kind⟩

/-- An operation that hands nothing over is a path of moves that keep what was sent. -/
theorem step_path (h : Sound b left) {e : BoardEvent} (inside : ∀ happening, e ≠ .happens happening)
    (writes : e.writes = false) :
    ∃ new, Path Socket.record (b.subject e) b new (b.step e) ∧
      (b.host.link.Prompt → new = b.leaves e) := by
  cases e with
  | happens happening => exact absurd rfl (inside happening)
  | newStream =>
    exact ⟨[], .one (.passed (.joined (.stream .idle) rfl fun l i hi => nomatch hi)), fun _ => rfl⟩
  | bind port =>
    refine ⟨_, make_path (fun socket => (⟨socket, port⟩ : Listener)) (Host.run_map _ _ _)
      (Host.startServer_opening port .tcp) (fun _ => rfl) fun l socket i hi hkind => ?_, fun _ => rfl⟩
    exact ⟨i, hi, hkind⟩
  | bindDatagrams port =>
    refine ⟨_, make_path (fun socket => (⟨socket, port⟩ : DatagramSocket)) (Host.run_map _ _ _)
      (Host.startServer_opening port .udp) (fun _ => rfl) fun l socket i hi hkind => ?_, fun _ => rfl⟩
    exact ⟨i, hi, hkind⟩
  | bindMulticast group port =>
    refine ⟨_, make_path (fun socket => (⟨socket, port⟩ : DatagramSocket)) (Host.run_map _ _ _)
      (Host.startServerAt_opening group port .udpMulticast) (fun _ => rfl)
      fun l socket i hi hkind => ?_, fun _ => rfl⟩
    exact ⟨i, hi, hkind⟩
  | stream k op => exact stream_step_path h k writes
  | accept k =>
    rw [step]
    split
    · next l here => exact accept_path h here
    · exact ⟨[], .nil b, fun _ => rfl⟩
  | isListening k =>
    rw [step]
    split
    · next l here =>
      have huses : Host.Uses Socket.record l.socket b.host (l.isListening.run b.host).2 :=
        Host.serverStatus_uses l.socket b.host
      have hpath := Path.one (.used k (.listener l) (.listener l) _ here rfl (fun _ => id) huses)
      rw [set_self here] at hpath
      exact ⟨[], hpath, fun _ => rfl⟩
    · exact ⟨[], .nil b, fun _ => rfl⟩
  | closeListener k =>
    rw [step, leaves]
    cases here : b.owners[k]? with
    | none => exact ⟨[], .nil b, fun _ => rfl⟩
    | some o =>
      cases o with
      | listener l =>
        obtain ⟨i, index, -⟩ := h.serves_at here
        obtain ⟨new, hpath, hnew⟩ := stopping_path h here index .closed rfl fun _ => trivial
        refine ⟨new, hpath, fun hprompt => (hnew hprompt).trans ?_⟩
        simp only [index, Option.toList_some, List.flatMap_singleton]
      | _ => exact ⟨[], .nil b, fun _ => rfl⟩
  | datagrams k op =>
    rw [step]
    split
    · next d here =>
      obtain ⟨i, index, reserved, kind⟩ := kind_of_serves h here
      have huses := op.run_uses index reserved kind
      have hpath := Path.one (.used k (.datagrams d) (.datagrams d) _ here rfl (fun _ => id) huses)
      rw [set_self here] at hpath
      exact ⟨[], hpath, fun _ => rfl⟩
    · exact ⟨[], .nil b, fun _ => rfl⟩
  | closeDatagrams k =>
    rw [step]
    split
    · next d here =>
      obtain ⟨i, index, reserved, kind⟩ := kind_of_serves h here
      obtain ⟨new, hpath, hnew⟩ := stopping_path h here index .closed rfl fun _ => trivial
      refine ⟨new, hpath, fun hprompt => (hnew hprompt).trans (queue_of_kind h ?_)⟩
      rw [kind]
      exact nofun
    · exact ⟨[], .nil b, fun _ => rfl⟩

/-- An operation is a path of moves. -/
theorem operation_path (h : Sound b left) {e : BoardEvent}
    (inside : ∀ happening, e ≠ .happens happening) :
    ∃ new, Path Socket.standing (b.subject e) b new (b.step e) ∧
      (b.host.link.Prompt → new = b.leaves e) := by
  cases writes : e.writes with
  | false =>
    obtain ⟨new, hpath, hnew⟩ := step_path h inside writes
    exact ⟨new, hpath.standing, hnew⟩
  | true =>
    cases e with
    | stream k op =>
      obtain ⟨hpath, hleaves⟩ := write_step_path b k writes
      exact ⟨[], hpath, fun _ => hleaves.symm⟩
    | _ => cases writes

theorem step_sound (h : Sound b left) (e : BoardEvent) :
    ∃ new, Sound (b.step e) (left ++ new) ∧ (b.host.link.Prompt → new = b.leaves e) := by
  by_cases inside : ∀ happening, e ≠ .happens happening
  · obtain ⟨new, hpath, hnew⟩ := operation_path h inside
    exact ⟨new, hpath.sound h, hnew⟩
  · obtain ⟨happening, he⟩ := not_forall_not.mp inside
    subst he
    exact ⟨[], (List.append_nil left).symm ▸ h.told happening, fun _ => rfl⟩

theorem run_sound (h : Sound b left) (events : List BoardEvent) :
    ∃ new, Sound (b.run events) (left ++ new) := by
  induction events generalizing b left with
  | nil => exact ⟨[], (List.append_nil left).symm ▸ h⟩
  | cons e rest ih =>
    obtain ⟨new, hstep, -⟩ := step_sound h e
    obtain ⟨new', hrest⟩ := ih hstep
    exact ⟨new ++ new', List.append_assoc left new new' ▸ hrest⟩

end Board

end SpiWifi
