import SpiWifi.Proofs.Board.Exclusivity

/-!
# Where the reserved slots are

If the device closes at once and loses no reply, every slot that is reserved is held by an object,
waits on a listener, or was left behind, and is so once. Slots are left behind in three ways, and none
of them asks the device to close anything: an attempt to open a socket that fails after the
reservation, a connection that loses its handle because its end was found, and a listener that is
closed while connections wait on it. Stopping and closing do free the slot.
-/

namespace SpiWifi

open Device

namespace Device

theorem State.close_onSocket (s : State) (raw : UInt8) (f : Socket → Socket) :
    (s.onSocket raw f).close = s.close := by
  unfold onSocket
  split <;> rfl

/-- The device is neither told to linger nor to lose replies. -/
def Happening.keepsPrompt : Happening → Bool
  | setClose behavior => behavior = .immediate
  | loseReplies _ n => n = 0
  | _ => true

theorem Happening.losesNothing_of_keepsPrompt {h : Happening} (hprompt : h.keepsPrompt = true) :
    h.losesNothing = true := by
  cases h with
  | loseReplies => exact hprompt
  | _ => rfl

theorem Happening.apply_prompt {h : Happening} (hprompt : h.keepsPrompt = true) {s : State}
    (close : s.close = .immediate) (kept : ∀ c, s.lossesLeft c = 0) :
    (h.apply s).close = .immediate ∧ ∀ c, (h.apply s).lossesLeft c = 0 := by
  refine ⟨?_, apply_kept (losesNothing_of_keepsPrompt hprompt) kept⟩
  cases h with
  | connection port peer data =>
    rcases s.injectConnection_cases port peer data with
      ⟨-, hnothing⟩ | ⟨listener, i, -, -, -, -, hstate⟩
    · rw [apply, hnothing]
      exact close
    · rw [apply, hstate]
      exact close
  | push raw data => exact (s.close_onSocket raw _).trans close
  | pushDatagram raw sender data => exact (s.close_onSocket raw _).trans close
  | closeRemote raw => exact (s.close_onSocket raw _).trans close
  | setClose behavior => exact of_decide_eq_true hprompt
  | _ => exact close

end Device

namespace Link

variable {l : Link Line}

theorem prompt_iff : l.Prompt ↔
    l.transport.state.close = .immediate ∧ ∀ c, l.transport.state.lossesLeft c = 0 := by
  obtain ⟨d, signals, settings, initialized, patience⟩ := l
  cases initialized <;> exact ⟨fun h => ⟨h.close, h.kept⟩, fun h => ⟨h.1, h.2⟩⟩

theorem Prompt.told (h : l.Prompt) {happening : Happening}
    (hprompt : happening.keepsPrompt = true) :
    (l.onTransport (Line.onState happening.apply)).Prompt := by
  obtain ⟨close, kept⟩ := prompt_iff.mp h
  exact prompt_iff.mpr (Happening.apply_prompt hprompt close kept)

/-- Before the first transaction no slot of the device is in use. -/
def Dormant (l : Link Line) : Prop :=
  l.initialized = false → ∀ i, (l.socketAt i).reserved = false ∧ (l.socketAt i).kind = .unused

theorem Dormant.reserved (h : l.Dormant) (i : Fin socketCount) :
    (l.socketAt i).reserved = (l.found i).reserved := by
  cases hinit : l.initialized with
  | true => rw [found_of_initialized hinit]
  | false =>
    rw [found_of_uninitialized hinit]
    exact (h hinit i).1

theorem Dormant.told (h : l.Dormant) (happening : Happening) :
    (l.onTransport (Line.onState happening.apply)).Dormant := by
  intro hinit i
  have hidle := h hinit
  change ((happening.apply l.transport.state).sockets.get i).reserved = false ∧
    ((happening.apply l.transport.state).sockets.get i).kind = .unused
  rcases happening.apply_cases l.transport.state with
    ⟨-, hclaims⟩ | ⟨-, -, -, listener, -, -, -, hserves, -⟩
  · rw [(hclaims i).1, (hclaims i).2.1]
    exact hidle i
  · cases (hidle listener).2.symm.trans hserves

end Link

def BoardEvent.keepsPrompt : BoardEvent → Bool
  | happens h => h.keepsPrompt
  | _ => true

/-- The event by which an object in this place stops or closes its socket, as befits its kind. -/
def Owner.closing (k : Nat) : Owner → Option BoardEvent
  | stream _ => some (.stream k .stop)
  | listener _ => some (.closeListener k)
  | datagrams _ => some (.closeDatagrams k)
  | closed => none

namespace Board

/-- The slots that wait to be accepted. -/
def pending (b : Board) : List (Fin socketCount) :=
  (List.finRange socketCount).flatMap fun j => (b.found j).queue

/-- The slots that are reserved on the device. -/
def reservedSlots (b : Board) : List (Fin socketCount) :=
  (List.finRange socketCount).filter fun i => (b.host.link.socketAt i).reserved

/-- The slots that a run leaves to nobody. -/
def abandoned (b : Board) : List BoardEvent → List (Fin socketCount)
  | [] => []
  | e :: rest => b.leaves e ++ (b.step e).abandoned rest

variable {b b' : Board} {left : List (Fin socketCount)}

theorem count_pending (b : Board) (i : Fin socketCount) :
    b.pending.count i = b.host.link.waits i := by
  rw [pending, List.count_flatMap, Link.waits, Fin.sum_univ_def]
  congr 2
  funext j
  exact Socket.count_queue (b.found j) i

theorem count_reservedSlots (dormant : b.host.link.Dormant) (i : Fin socketCount) :
    b.reservedSlots.count i = (b.found i).reserved.toNat := by
  rw [found, ← dormant.reserved i, reservedSlots]
  cases hreserved : (b.host.link.socketAt i).reserved with
  | true =>
    rw [List.count_filter (p := fun i => (b.host.link.socketAt i).reserved) hreserved]
    exact List.count_finRange i
  | false =>
    refine List.count_eq_zero_of_not_mem fun hmem => ?_
    rw [(List.mem_filter.mp hmem).2] at hreserved
    cases hreserved

theorem Path.prompt {view : Device.Socket → Device.Socket} {k : Nat}
    {new : List (Fin socketCount)} (h : Path view k b new b') (prompt : b.host.link.Prompt)
    (dormant : b.host.link.Dormant) : b'.host.link.Prompt ∧ b'.host.link.Dormant := by
  induction h with
  | nil b => exact ⟨prompt, dormant⟩
  | cons first rest ih =>
    obtain ⟨socket, uses⟩ := first.uses
    refine ih ⟨uses.link.close.trans prompt.close, uses.link.kept prompt.kept⟩ fun hinit => ?_
    have hsame := uses.link.untouched hinit
    rw [hsame] at hinit ⊢
    exact dormant hinit

theorem step_prompt (h : Sound b left) {e : BoardEvent} (hprompt : e.keepsPrompt = true)
    (prompt : b.host.link.Prompt) (dormant : b.host.link.Dormant) :
    (b.step e).host.link.Prompt ∧ (b.step e).host.link.Dormant := by
  by_cases inside : ∀ happening, e ≠ .happens happening
  · obtain ⟨new, hpath, -⟩ := operation_path h inside
    exact hpath.prompt prompt dormant
  · obtain ⟨happening, he⟩ := not_forall_not.mp inside
    subst he
    exact ⟨prompt.told hprompt, dormant.told happening⟩

theorem run_account (h : Sound b left) (prompt : b.host.link.Prompt)
    (dormant : b.host.link.Dormant) {events : List BoardEvent}
    (keeps : ∀ e ∈ events, e.keepsPrompt = true) :
    Sound (b.run events) (left ++ b.abandoned events) ∧ (b.run events).host.link.Prompt ∧
      (b.run events).host.link.Dormant := by
  induction events generalizing b left with
  | nil => exact ⟨(List.append_nil left).symm ▸ h, prompt, dormant⟩
  | cons e rest ih =>
    obtain ⟨hfirst, hrest⟩ := List.forall_mem_cons.mp keeps
    obtain ⟨new, hstep, hnew⟩ := step_sound h e
    obtain ⟨hprompt, hdormant⟩ := step_prompt h hfirst prompt dormant
    rw [hnew prompt] at hstep
    have hrun := ih hstep hprompt hdormant hrest
    rwa [List.append_assoc] at hrun

/-- An object that stops or closes its socket holds nothing afterwards. -/
theorem step_closing {k : Nat} {o : Owner} {i : Fin socketCount} {e : BoardEvent}
    (here : b.owners[k]? = some o) (held : o.socket.index? = some i) (closes : o.closing k = some e) :
    ∃ p : Owner, p.socket.index? = none ∧
      b.step e = ⟨((Host.tryStop o.socket).run b.host).2, b.owners.set k p⟩ := by
  cases o with
  | stream s =>
    cases closes
    refine ⟨.stream { s with socket := .none }, rfl, ?_⟩
    have hstop : StreamOp.stop.run (s, b.host) = (Stream.stop (s, b.host)).2 := rfl
    rw [step_stream here, hstop, s.stop_of_valid b.host (SocketHandle.isValid_of_some held)]
    rfl
  | listener l =>
    cases closes
    exact ⟨.closed, rfl, by rw [step, here]; rfl⟩
  | datagrams d =>
    cases closes
    exact ⟨.closed, rfl, by rw [step, here]; rfl⟩
  | closed => cases closes

/-- Stopping and closing free the slot, and no handle of it is left. -/
theorem closing_frees (h : Sound b left) (prompt : b.host.link.Prompt) {k : Nat} {o : Owner}
    {i : Fin socketCount} {e : BoardEvent} (here : b.owners[k]? = some o)
    (held : o.socket.index? = some i) (closes : o.closing k = some e) :
    (b.step e).slotAt k = none ∧ (b.step e).found i = Socket.free := by
  obtain ⟨p, rid, hstep⟩ := step_closing here held closes
  have hslot := (Host.tryStop_stops held b.host).stopped (h.carries i (holds_pos here held)).1
  rw [prompt.close] at hslot
  rw [hstep]
  exact ⟨(slotAt_set here p).trans rid, hslot⟩

/-- The three ways to leave a slot behind: a refused connection, a connection that is found closed by
its peer, and a listener closed before a connection on it was accepted. No object holds a slot any
more, nothing waits, and three slots are reserved. -/
theorem slots_leak :
    let link : Link Line := .new .new .instant
    let b := (start link .standard .standard).run
      [.newStream, .happens (.setConnect .refuse), .stream 0 (.connect ⟨10, 0, 0, 1⟩ 80 .tcp),
        .happens (.setConnect .establish), .stream 0 (.connect ⟨10, 0, 0, 1⟩ 80 .tcp),
        .happens (.closeRemote 1), .stream 0 .connected, .bind 8080,
        .happens (.connection 8080 ⟨⟨10, 0, 0, 2⟩, 5000⟩ []), .closeListener 1]
    b.held = [] ∧ b.pending = [] ∧ b.reservedSlots.map Fin.val = [0, 1, 3] := by decide +kernel

/-- At every point of a run in which the device closes at once and loses no reply, the reserved slots
are those that objects hold, those that wait on a listener, and those that the operations so far left
behind, each of them once: a slot that is left behind stays reserved. An object that stops or closes
its socket gives up the handle, and the slot is not reserved any more. -/
theorem slots_accounted {link : Link Line} (fresh : ∀ i, link.socketAt i = Socket.free)
    (prompt : link.Prompt) (sockets : SocketSettings) (station : StationSettings)
    (events : List BoardEvent) (keeps : ∀ e ∈ events, e.keepsPrompt = true) :
    let first := start link sockets station
    let b := first.run events
    (b.held ++ b.pending ++ first.abandoned events).Perm b.reservedSlots ∧
      ∀ k o i e, b.owners[k]? = some o → o.socket.index? = some i → o.closing k = some e →
        (b.step e).slotAt k = none ∧ i ∉ (b.step e).reservedSlots := by
  intro first b
  have hfound : ∀ i, link.found i = Socket.free := by
    intro i
    cases hinit : link.initialized with
    | true => rw [Link.found_of_initialized hinit, fresh]
    | false => exact Link.found_of_uninitialized hinit i
  have hdormant : link.Dormant := fun _ i => by
    rw [fresh]
    exact ⟨rfl, rfl⟩
  obtain ⟨hsound, hprompt, hkept⟩ :=
    run_account (start_sound hfound sockets station) prompt hdormant keeps
  rw [List.nil_append] at hsound
  refine ⟨List.perm_iff_count.mpr fun i => ?_, fun k o i e here held closes => ?_⟩
  · rw [count_reservedSlots hkept, ← hsound.ledger i, List.count_append, List.count_append,
      count_held, count_pending]
  · obtain ⟨hgone, hfree⟩ := closing_frees hsound hprompt here held closes
    have hinside : e.keepsPrompt = true := by
      cases e with
      | happens => cases o <;> cases closes
      | _ => rfl
    have hstill := (step_prompt hsound hinside hprompt hkept).2
    refine ⟨hgone, fun hmem => ?_⟩
    have hreserved := (List.mem_filter.mp hmem).2
    rw [hstill.reserved i, show (b.step e).host.link.found i = _ from hfree] at hreserved
    cases hreserved

/-- A run that leaves a slot behind in each way, with a connection, a listener, a datagram socket and
a waiting connection at its end. -/
theorem slots_accounted_each_way :
    let link : Link Line := .new .new .instant
    let remote : Ipv4 := ⟨10, 0, 0, 1⟩
    let events : List BoardEvent :=
      [.newStream, .happens (.setConnect .refuse), .stream 0 (.connect remote 80 .tcp),
        .happens (.setConnect .establish), .stream 0 (.connect remote 80 .tcp),
        .happens (.closeRemote 1), .stream 0 .connected, .stream 0 (.connect remote 80 .tcp),
        .happens (.closeRemote 2), .stream 0 (.receive 4), .bind 8080,
        .happens (.connection 8080 ⟨remote, 5000⟩ []), .closeListener 1, .bind 8081,
        .happens (.connection 8081 ⟨remote, 5001⟩ []), .stream 0 (.connect remote 80 .tcp),
        .bindDatagrams 2390]
    let first := start link .standard .standard
    let b := first.run events
    (∀ i, link.socketAt i = Socket.free) ∧ link.Prompt ∧ (∀ e ∈ events, e.keepsPrompt = true) ∧
      b.held.map Fin.val = [6, 3, 7] ∧ b.pending.map Fin.val = [5] ∧
      (first.abandoned events).map Fin.val = [0, 1, 2, 4] ∧
      (b.reservedSlots.map Fin.val).Perm [6, 3, 7, 5, 0, 1, 2, 4] ∧
      ((b.step (.stream 0 .stop)).slotAt 0 = none ∧
        ⟨6, by decide⟩ ∉ (b.step (.stream 0 .stop)).reservedSlots) ∧
      ((b.step (.closeListener 2)).slotAt 2 = none ∧
        ⟨3, by decide⟩ ∉ (b.step (.closeListener 2)).reservedSlots) ∧
      (b.step (.closeDatagrams 3)).slotAt 3 = none ∧
        ⟨7, by decide⟩ ∉ (b.step (.closeDatagrams 3)).reservedSlots := by
  intro link remote events first b
  have fresh : ∀ i, link.socketAt i = Socket.free := by decide
  have prompt : link.Prompt := Link.prompt_iff.mpr ⟨rfl, fun _ => rfl⟩
  have keeps : ∀ e ∈ events, e.keepsPrompt = true := by decide
  have held : b.held.map Fin.val = [6, 3, 7] := by decide +kernel
  have pending : b.pending.map Fin.val = [5] := by decide +kernel
  have abandoned : (first.abandoned events).map Fin.val = [0, 1, 2, 4] := by decide +kernel
  have stream : b.owners[0]? = some (.stream (.ofHandle ⟨6⟩)) := by decide +kernel
  have listener : b.owners[2]? = some (.listener ⟨⟨3⟩, 8081⟩) := by decide +kernel
  have datagrams : b.owners[3]? = some (.datagrams ⟨⟨7⟩, 2390⟩) := by decide +kernel
  obtain ⟨haccount, hclosing⟩ := slots_accounted fresh prompt .standard .standard events keeps
  have hperm := haccount.map Fin.val
  rw [List.map_append, List.map_append, held, pending, abandoned] at hperm
  exact ⟨fresh, prompt, keeps, held, pending, abandoned, hperm.symm,
    hclosing 0 _ ⟨6, by decide⟩ (.stream 0 .stop) stream rfl rfl,
    hclosing 2 _ ⟨3, by decide⟩ (.closeListener 2) listener rfl rfl,
    hclosing 3 _ ⟨7, by decide⟩ (.closeDatagrams 3) datagrams rfl rfl⟩

end Board

end SpiWifi
