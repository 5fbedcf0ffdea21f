import SpiWifi.Proofs.Board.Exclusivity
import SpiWifi.Proofs.Board.Records
import SpiWifi.Proofs.Board.Resets

/-!
# Accepting connections

A listener hands out every connection that came in on it once, in the order in which they came. For
this its slot must stay its own. The device answers the question for a waiting connection with the
number of waiting bytes if the slot is not one that listens, and the host takes that number for a
socket. So after a reset a listener hands out sockets that nobody opened; and an object from before a
reset whose handle names the slot can take connections away, or the slot itself. In a run without
resets neither happens, because no two objects hold the same slot.
-/

namespace SpiWifi

open Device

/-- The connection that comes in on a slot that listens. -/
def Device.State.arrival (s : State) (i : Fin socketCount) : Happening → List SocketHandle
  | .connection port peer data =>
    let client : SocketHandle := ⟨(s.injectConnection port peer data).1⟩
    if s.listenerOn? port = some i ∧ client.isValid = true then [client] else []
  | _ => []

namespace Board

/-- The connection that comes in on the listener in a place. -/
def arrival (b : Board) (k : Nat) (o : Occurrence) : List SocketHandle :=
  match o, b.slotAt k with
  | .event (.happens happening), some i => b.host.link.transport.state.arrival i happening
  | _, _ => []

/-- The connection that the listener in a place hands out. -/
def handedOut (b : Board) (k : Nat) (o : Occurrence) : List SocketHandle :=
  match o, b.owners[k]? with
  | .event (.accept j), some (.listener l) =>
    if j = k then ((l.accept.run b.host).1.map Stream.socket).toList else []
  | _, _ => []

/-- What each occurrence of a run gives on the board on which it falls, in order. -/
def gathered (f : Board → Occurrence → List SocketHandle) (b : Board) :
    List Occurrence → List SocketHandle
  | [] => []
  | o :: rest => f b o ++ (b.occur o).gathered f rest

def arrivals (b : Board) (k : Nat) : List Occurrence → List SocketHandle :=
  b.gathered fun b o => b.arrival k o

def accepted (b : Board) (k : Nat) : List Occurrence → List SocketHandle :=
  b.gathered fun b o => b.handedOut k o

/-- The device forgets the slot of the object in a place, or another object acts on it. -/
def disturbs (b : Board) (k : Nat) : Occurrence → Bool
  | .event e => (b.slotAt k).isSome && e.actor? != some k && b.actingSlot e == b.slotAt k
  | .startLink | .stopLink => (b.slotAt k).isSome

/-- Nothing in the run disturbs the object in a place. -/
def undisturbed (b : Board) (k : Nat) : List Occurrence → Bool
  | [] => true
  | o :: rest => !b.disturbs k o && (b.occur o).undisturbed k rest

end Board

namespace Listener

/-- The listener has its slot, and on it these clients wait. -/
structure Ready (l : Listener) (i : Fin socketCount) (clients : List SocketHandle)
    (host : Host Line) : Prop where
  index : l.socket.index? = some i
  reserved : (host.link.found i).reserved = true
  kind : (host.link.found i).kind = .server
  waiting : (host.link.found i).waiting = clients.map SocketHandle.raw
  valid : ∀ client ∈ clients, client.isValid = true
  size : 8 ≤ host.link.settings.maxFrameSize.toNat
  budget : 1 ≤ host.link.settings.startBudget.toNat

namespace Ready

variable {l : Listener} {i : Fin socketCount} {clients : List SocketHandle} {host host' : Host Line}

theorem of_same (h : l.Ready i clients host)
    (settings : host'.link.settings = host.link.settings)
    (reserved : (host'.link.found i).reserved = (host.link.found i).reserved)
    (kind : (host'.link.found i).kind = (host.link.found i).kind)
    (waiting : (host'.link.found i).waiting = (host.link.found i).waiting) :
    l.Ready i clients host' where
  index := h.index
  reserved := reserved.trans h.reserved
  kind := kind.trans h.kind
  waiting := waiting.trans h.waiting
  valid := h.valid
  size := settings ▸ h.size
  budget := settings ▸ h.budget

theorem of_found (h : l.Ready i clients host) (same : host'.link.found i = host.link.found i)
    (settings : host'.link.settings = host.link.settings) : l.Ready i clients host' :=
  h.of_same settings (congrArg Device.Socket.reserved same) (congrArg Device.Socket.kind same)
    (congrArg Device.Socket.waiting same)

/-- Other clients wait on the slot, and nothing else about it is different. -/
theorem of_queue {rest : List SocketHandle} (h : l.Ready i clients host)
    (slot : host'.link.found i =
      { host.link.found i with waiting := rest.map SocketHandle.raw })
    (settings : host'.link.settings = host.link.settings)
    (valid : ∀ client ∈ rest, client.isValid = true) : l.Ready i rest host' where
  index := h.index
  reserved := slot ▸ h.reserved
  kind := slot ▸ h.kind
  waiting := slot ▸ rfl
  valid := valid
  size := settings ▸ h.size
  budget := settings ▸ h.budget

/-- An operation on another slot. -/
theorem of_touches {slot : Option (Fin socketCount)} (h : l.Ready i clients host)
    (touches : Host.Touches slot host host') (hne : slot ≠ some i) : l.Ready i clients host' :=
  h.of_found (touches.others i hne h.reserved) touches.settings

theorem of_uses {socket : SocketHandle} (h : l.Ready i clients host)
    (uses : Host.Uses Socket.standing socket host host') : l.Ready i clients host' :=
  have hsame := uses.link.own i
  h.of_same uses.link.settings (Socket.reserved_of_standing hsame) (Socket.kind_of_standing hsame)
    (Socket.waiting_of_standing hsame)

/-- A listener that was just bound. -/
theorem of_opening (orderly : ∀ i, (host.link.found i).Orderly)
    (h : Host.Opening .server host (.ok l.socket, host')) : ∃ i, l.Ready i [] host' := by
  cases h with
  | opened socket after i index vacant uses taken cache carries =>
    refine ⟨i, index, taken.reserved, taken.kind, taken.waiting (orderly i vacant).2,
      fun client hclient => absurd hclient List.not_mem_nil, ?_, ?_⟩
    · rw [uses.link.settings]
      exact carries.1
    · rw [uses.link.settings]
      exact carries.2

/-- The client that waits first is handed out. -/
theorem accept (h : l.Ready i clients host) (kept : ∀ c, host.link.device.lossesLeft c = 0) :
    (l.accept.run host).1 = clients.head?.map Stream.ofHandle ∧
      l.Ready i clients.tail (l.accept.run host).2 := by
  obtain ⟨hclient, hslot⟩ := (Host.accept_accepts h.index h.kind).carried
    ⟨h.size, h.size, h.budget, kept _⟩
  have huses := (Host.accept_accepts h.index h.kind).uses
  have hdequeued : (host.link.found i).asked =
      { host.link.found i with waiting := clients.tail.map SocketHandle.raw } := by
    rw [Socket.asked, if_pos h.kind, h.waiting, List.map_tail]
  rw [run_accept]
  constructor
  · rw [hclient, h.waiting]
    cases hclients : clients with
    | nil => rfl
    | cons client rest =>
      exact if_pos (h.valid client (hclients ▸ List.mem_cons_self))
  · exact h.of_queue (hslot.trans hdequeued) huses.link.settings
      fun client hmem => h.valid client (List.mem_of_mem_tail hmem)

/-- A client that comes in waits behind the others. -/
theorem told (h : l.Ready i clients host) (happening : Happening) :
    l.Ready i (clients ++ host.link.transport.state.arrival i happening)
      (host.told happening.apply) := by
  have hinit : host.link.initialized = true := Link.initialized_of_reserved h.reserved
  have hafter : (host.told happening.apply).link.found i =
      (happening.apply host.link.transport.state).sockets.get i :=
    Link.found_told hinit happening.apply i
  have hbefore : host.link.found i = host.link.transport.state.sockets.get i :=
    Link.found_of_initialized hinit i
  rcases happening.apply_cases host.link.transport.state with
    ⟨hanswer, hclaims⟩ | ⟨port, peer, data, listener, m, rfl, hlistener, -, hfree, hanswer, hstate⟩
  · have hnobody : host.link.transport.state.arrival i happening = [] := by
      cases happening with
      | connection port peer data =>
        have hinvalid : (⟨(host.link.transport.state.injectConnection port peer data).1⟩ :
            SocketHandle).isValid = false := SocketHandle.isValid_of_none (hanswer _ _ _ rfl)
        rw [State.arrival, hinvalid]
        exact if_neg fun hboth => nomatch hboth.2
      | _ => rfl
    obtain ⟨hreserved, hkind, hwaiting, -⟩ := hclaims i
    rw [← hafter, ← hbefore] at hreserved hkind hwaiting
    rw [hnobody, List.append_nil]
    exact h.of_same rfl hreserved hkind hwaiting
  · have hnew : m ≠ i := by
      rintro rfl
      rw [← hbefore, h.reserved] at hfree
      cases hfree
    have hvalid : (⟨UInt8.ofNat m⟩ : SocketHandle).isValid = true :=
      SocketHandle.isValid_of_some (SocketHandle.index?_ofNat m)
    rw [hstate, State.get_modifySocket, State.get_modifySocket, if_neg hnew, ← hbefore] at hafter
    rw [State.arrival, hlistener, hanswer, hvalid]
    by_cases hown : listener = i
    · rw [if_pos hown] at hafter
      rw [if_pos ⟨congrArg some hown, rfl⟩]
      have hqueue : (host.link.found i).waiting ++ [UInt8.ofNat m] =
          (clients ++ [SocketHandle.mk (UInt8.ofNat m)]).map SocketHandle.raw := by
        rw [h.waiting, List.map_append]
        rfl
      rw [hqueue] at hafter
      refine h.of_queue hafter rfl fun client hmem => ?_
      rcases List.mem_append.mp hmem with hold | hlast
      · exact h.valid client hold
      · exact List.mem_singleton.mp hlast ▸ hvalid
    · rw [if_neg hown] at hafter
      rw [if_neg fun hboth => hown (Option.some.inj hboth.1), List.append_nil]
      exact h.of_found hafter rfl

end Ready

end Listener

namespace Board

variable {b : Board} {k : Nat} {l : Listener} {i : Fin socketCount} {clients : List SocketHandle}
  {o : Occurrence} {e : BoardEvent}

theorem arrival_of_inside (inside : ∀ happening, e ≠ .happens happening) :
    b.arrival k (.event e) = [] := by
  cases e with
  | happens happening => exact absurd rfl (inside happening)
  | _ => rfl

theorem handedOut_of_other (hne : e.actor? ≠ some k) : b.handedOut k (.event e) = [] := by
  cases e with
  | accept j =>
    have hj : ¬ j = k := fun hj => hne (congrArg some hj)
    unfold handedOut
    split
    · next hevent here =>
      cases hevent
      exact if_neg hj
    · rfl
  | _ => rfl

/-- What comes in on a listener and what it hands out, put beside what waits there before and
after. -/
theorem ready_step (h : l.Ready i clients b.host) (tidy : Tidy b)
    (here : b.owners[k]? = some (.listener l)) (calm : b.disturbs k (.event e) = false)
    (still : (b.step e).owners[k]? = some (.listener l)) :
    ∃ rest, l.Ready i rest (b.step e).host ∧
      clients ++ b.arrival k (.event e) = b.handedOut k (.event e) ++ rest := by
  have hslot : b.slotAt k = some i := (slotAt_of_here here).trans h.index
  by_cases inside : ∀ happening, e ≠ .happens happening
  · rw [arrival_of_inside inside, List.append_nil]
    by_cases hactor : e.actor? = some k
    · have hsame : b.step e = b → b.handedOut k (.event e) = [] →
          ∃ rest, l.Ready i rest (b.step e).host ∧ clients = b.handedOut k (.event e) ++ rest :=
        fun hstep hnothing => ⟨clients, hstep.symm ▸ h, by rw [hnothing]; rfl⟩
      cases e with
      | accept j =>
        cases hactor
        obtain ⟨hanswer, hready⟩ := h.accept tidy.kept
        refine ⟨clients.tail, ?_, ?_⟩
        · rw [step, here]
          exact hready
        · simp only [handedOut, here, if_true, hanswer]
          cases clients <;> rfl
      | isListening j =>
        cases hactor
        refine ⟨clients, ?_, rfl⟩
        rw [step, here]
        exact h.of_uses (Host.serverStatus_uses l.socket b.host).standing
      | closeListener j =>
        cases hactor
        rw [step, here] at still
        cases (List.getElem?_set_self (List.getElem?_eq_some_iff.mp here).1).symm.trans still
      | stream j op =>
        cases hactor
        exact hsame (by rw [step, here]) rfl
      | datagrams j op =>
        cases hactor
        exact hsame (by rw [step, here]) rfl
      | closeDatagrams j =>
        cases hactor
        exact hsame (by rw [step, here]) rfl
      | _ => cases hactor
    · rw [handedOut_of_other hactor]
      refine ⟨clients, h.of_touches (step_touches tidy.named inside) fun hacting => ?_, rfl⟩
      rw [disturbs, hslot, hacting, bne_iff_ne.mpr hactor] at calm
      simp at calm
  · obtain ⟨happening, he⟩ := not_forall_not.mp inside
    subst he
    refine ⟨_, h.told happening, ?_⟩
    simp only [arrival, hslot]
    rfl

/-- A listener of the board after an occurrence was there before, or was just bound. -/
theorem listener_origin (there : (b.occur o).owners[k]? = some (.listener l)) :
    b.owners[k]? = some (.listener l) ∨ b.owners.length ≤ k ∧
      Host.Opening .server b.host (.ok l.socket, (b.occur o).host) := by
  cases o with
  | event e =>
    cases step_origin there with
    | kept o here => exact Or.inl here
    | listener l new opening => exact Or.inr ⟨new, opening⟩
  | startLink => exact Or.inl there
  | stopLink => exact Or.inl there

theorem length_occur (b : Board) (o : Occurrence) :
    b.owners.length ≤ (b.occur o).owners.length := by
  have happend : ∀ new : List Owner, b.owners.length ≤ (b.owners ++ new).length :=
    fun new => List.length_append ▸ Nat.le_add_right _ _
  have hmake : ∀ {α : Type} (x : HostM Line α) (owner : α → Owner),
      b.owners.length ≤ (b.make x owner).owners.length := by
    intro α x owner
    rw [make]
    split
    · exact happend _
    · exact Nat.le_refl _
  cases o with
  | event e =>
    cases e with
    | happens => exact Nat.le_refl _
    | newStream => exact happend _
    | bind | bindDatagrams | bindMulticast => exact hmake _ _
    | accept =>
      rw [occur, step]
      split
      · exact happend _
      · exact Nat.le_refl _
    | _ =>
      simp only [occur, step]
      split <;> simp only [List.length_set, Nat.le_refl]
  | _ => exact Nat.le_refl _

theorem arrival_of_new (b : Board) (o : Occurrence) (h : b.owners.length ≤ k) :
    b.arrival k o = [] := by simp [arrival, slotAt_of_length h]

theorem handedOut_of_new (b : Board) (o : Occurrence) (h : b.owners.length ≤ k) :
    b.handedOut k o = [] := by simp [handedOut, List.getElem?_eq_none h]

theorem length_occurs (b : Board) (occurrences : List Occurrence) :
    b.owners.length ≤ (b.occurs occurrences).owners.length := by
  induction occurrences generalizing b with
  | nil => exact Nat.le_refl _
  | cons o rest ih => exact Nat.le_trans (length_occur b o) (ih (b.occur o))

theorem gathered_concat (f : Board → Occurrence → List SocketHandle) (b : Board)
    (first : List Occurrence) (o : Occurrence) :
    b.gathered f (first ++ [o]) = b.gathered f first ++ f (b.occurs first) o := by
  induction first generalizing b with
  | nil => exact List.append_nil (f b o)
  | cons o' first ih =>
    rw [List.cons_append, gathered, gathered, ih, List.append_assoc]
    rfl

theorem undisturbed_append (b : Board) (k : Nat) (first rest : List Occurrence) :
    b.undisturbed k (first ++ rest) =
      (b.undisturbed k first && (b.occurs first).undisturbed k rest) := by
  induction first generalizing b with
  | nil => rfl
  | cons o first ih =>
    rw [List.cons_append, undisturbed, undisturbed, ih, Bool.and_assoc]
    rfl

/-- Where nothing happens about an object that is not there yet, nothing was gathered. -/
theorem gathered_of_new {f : Board → Occurrence → List SocketHandle}
    (nothing : ∀ (b : Board) (o : Occurrence), b.owners.length ≤ k → f b o = [])
    {occurrences : List Occurrence} (new : (b.occurs occurrences).owners.length ≤ k) :
    b.gathered f occurrences = [] := by
  induction occurrences generalizing b with
  | nil => rfl
  | cons o rest ih =>
    have hlength : b.owners.length ≤ k :=
      Nat.le_trans (length_occur b o) (Nat.le_trans (length_occurs _ rest) new)
    rw [gathered, nothing b o hlength, ih new]
    rfl

/-- In a run that nothing disturbs, what came in on a listener is what it handed out and what still
waits there. -/
theorem run_ready (tidy : Tidy b) (empty : b.owners = []) {occurrences : List Occurrence}
    (keeps : ∀ o ∈ occurrences, o.losesNothing = true)
    (here : (b.occurs occurrences).owners[k]? = some (.listener l))
    (calm : b.undisturbed k occurrences = true) :
    ∃ i clients, l.Ready i clients (b.occurs occurrences).host ∧
      b.arrivals k occurrences = b.accepted k occurrences ++ clients := by
  induction occurrences using List.reverseRecOn with
  | nil =>
    rw [occurs, empty] at here
    cases here
  | append_singleton first o ih =>
    have hkeeps : ∀ o ∈ first, o.losesNothing = true :=
      fun o ho => keeps o (List.mem_append_left _ ho)
    have hbefore := tidy.occurs hkeeps
    rw [undisturbed_append, Bool.and_eq_true] at calm
    obtain ⟨hcalm, hlast⟩ := calm
    rw [undisturbed, undisturbed, Bool.and_true, Bool.not_eq_true'] at hlast
    rw [occurs_append] at here ⊢
    change ((b.occurs first).occur o).owners[k]? = _ at here
    rw [arrivals, accepted, gathered_concat, gathered_concat]
    rcases listener_origin here with hold | ⟨hnew, opening⟩
    · obtain ⟨i, clients, hready, haccount⟩ := ih hkeeps hold hcalm
      have hslot : ((b.occurs first).slotAt k).isSome = true := by
        rw [slotAt_of_here hold]
        exact Option.isSome_iff_exists.mpr ⟨i, hready.index⟩
      cases o with
      | event e =>
        obtain ⟨rest, hrest, hstep⟩ := ready_step hready hbefore hold hlast here
        refine ⟨i, rest, hrest, ?_⟩
        change b.gathered _ first = b.gathered _ first ++ clients at haccount
        rw [haccount, List.append_assoc, hstep, ← List.append_assoc]
      | startLink => cases hslot.symm.trans hlast
      | stopLink => cases hslot.symm.trans hlast
    · rw [gathered_of_new arrival_of_new hnew, gathered_of_new handedOut_of_new hnew,
        arrival_of_new _ o hnew, handedOut_of_new _ o hnew]
      obtain ⟨i, hready⟩ := Listener.Ready.of_opening hbefore.orderly opening
      exact ⟨i, [], hready, rfl⟩

/-- Without resets no run disturbs anything: no two objects hold the same slot. -/
theorem undisturbed_of_sound {left : List (Fin socketCount)} (h : Sound b left)
    {occurrences : List Occurrence} (keeps : ∀ o ∈ occurrences, o.keepsLink = true) (k : Nat) :
    b.undisturbed k occurrences = true := by
  induction occurrences generalizing b left with
  | nil => rfl
  | cons o rest ih =>
    obtain ⟨hfirst, hrest⟩ := List.forall_mem_cons.mp keeps
    cases o with
    | startLink => cases hfirst
    | stopLink => cases hfirst
    | event e =>
      obtain ⟨new, hstep, -⟩ := step_sound h e
      rw [undisturbed, Bool.and_eq_true, Bool.not_eq_true']
      refine ⟨Bool.eq_false_iff.mpr fun hdisturbs => ?_, ih hstep hrest⟩
      simp only [disturbs, Bool.and_eq_true, bne_iff_ne, beq_iff_eq] at hdisturbs
      obtain ⟨⟨hsome, hne⟩, hsame⟩ := hdisturbs
      obtain ⟨i, hi⟩ := Option.isSome_iff_exists.mp hsome
      rw [hi] at hsame
      obtain ⟨o, here, index⟩ := Option.bind_eq_some_iff.mp hi
      obtain ⟨j, hj, hacting⟩ := Option.bind_eq_some_iff.mp hsame
      obtain ⟨p, there, index'⟩ := Option.bind_eq_some_iff.mp hacting
      have hjk : j ≠ k := by
        rintro rfl
        exact hne hj
      exact h.apart here there hjk index index'

/-- In a run in which no reply gets lost, the link started and stopped at any point, a listener whose
slot was its own since it was bound has handed out the connections that came in on it, in their order
and none of them twice; and when it is asked again, it hands out the next of them if there is one, and
otherwise nothing. In a run without resets every slot is its holder's own. -/
theorem accepts_in_order {link : Link Line} (fresh : ∀ i, link.found i = Socket.free)
    (kept : ∀ c, link.device.lossesLeft c = 0) (sockets : SocketSettings)
    (station : StationSettings) (occurrences : List Occurrence)
    (keeps : ∀ o ∈ occurrences, o.losesNothing = true) :
    let first := start link sockets station
    let b := first.occurs occurrences
    (∀ k l, b.owners[k]? = some (.listener l) → first.undisturbed k occurrences = true →
      let arrivals := first.arrivals k occurrences
      let accepted := first.accepted k occurrences
      accepted <+: arrivals ∧
        (l.accept.run b.host).1 = arrivals[accepted.length]?.map Stream.ofHandle) ∧
    ((∀ o ∈ occurrences, o.keepsLink = true) → ∀ k, first.undisturbed k occurrences = true) := by
  intro first b
  have htidy : Tidy first := start_tidy fresh kept sockets station
  refine ⟨fun k l here calm => ?_, fun keepsLink k =>
    undisturbed_of_sound (start_sound fresh sockets station) keepsLink k⟩
  obtain ⟨i, clients, hready, haccount⟩ := run_ready htidy rfl keeps here calm
  refine ⟨⟨clients, haccount.symm⟩, (hready.accept (htidy.occurs keeps).kept).1.trans ?_⟩
  rw [haccount, List.getElem?_append_right (Nat.le_refl _), Nat.sub_self, List.head?_eq_getElem?]

/-- Across a reset: the first listener is forgotten, and the second has the same slot. Three
connections come in on it, two of them on the same slot, and two are handed out before the third is
asked for. -/
theorem accepts_in_order_after_reset :
    let link : Link Line := .new .new .instant
    let comes : BoardEvent := .happens (.connection 80 ⟨⟨10, 0, 0, 2⟩, 5000⟩ [1, 2, 3])
    let occurrences : List Occurrence :=
      [.startLink, .event (.bind 80), .event comes, .stopLink, .event (.bind 80), .event comes,
        .event comes, .event (.accept 1), .event (.stream 2 .stop), .event comes,
        .event (.accept 1)]
    let first := start link .standard .standard
    let b := first.occurs occurrences
    let l : Listener := ⟨⟨0⟩, 80⟩
    (∀ i, link.found i = Socket.free) ∧ (∀ c, link.device.lossesLeft c = 0) ∧
      (∀ o ∈ occurrences, o.losesNothing = true) ∧ b.owners[1]? = some (.listener l) ∧
      first.undisturbed 1 occurrences = true ∧ first.arrivals 1 occurrences = [⟨1⟩, ⟨2⟩, ⟨1⟩] ∧
      first.accepted 1 occurrences = [⟨1⟩, ⟨2⟩] ∧
      (l.accept.run b.host).1 = some (.ofHandle ⟨1⟩) := by
  intro link comes occurrences first b l
  have fresh : ∀ i, link.found i = Socket.free := by decide
  have kept : ∀ c, link.device.lossesLeft c = 0 := fun _ => rfl
  have keeps : ∀ o ∈ occurrences, o.losesNothing = true := by decide
  have here : b.owners[1]? = some (.listener l) := by decide +kernel
  have calm : first.undisturbed 1 occurrences = true := by decide +kernel
  have arrivals : first.arrivals 1 occurrences = [⟨1⟩, ⟨2⟩, ⟨1⟩] := by decide +kernel
  have accepted : first.accepted 1 occurrences = [⟨1⟩, ⟨2⟩] := by decide +kernel
  obtain ⟨-, hnext⟩ :=
    (accepts_in_order fresh kept .standard .standard occurrences keeps).1 1 l here calm
  rw [arrivals, accepted] at hnext
  exact ⟨fresh, kept, keeps, here, calm, arrivals, accepted, hnext⟩

/-- On a slot that was forgotten a listener hands out socket 0: no byte waits there, and the number is
taken for a socket. -/
theorem accept_of_free {l : Listener} {i : Fin socketCount} {host : Host Line}
    (index : l.socket.index? = some i) (free : host.link.found i = Socket.free)
    (carries : host.link.Carries .availDataTcp 8 8) :
    (l.accept.run host).1 = some (.ofHandle ⟨0⟩) := by
  obtain ⟨hanswer, -⟩ := (Host.accept_asks index host).carried carries
  rw [free] at hanswer
  have hclient : (Host.accept l.socket host).1 = ⟨0⟩ := hanswer.trans (by decide)
  rw [l.run_accept, hclient]
  rfl

/-- A listener hands out socket 0 after the link was stopped, though no connection ever came in. -/
theorem accepted_after_reset :
    let link : Link Line := .new .new .instant
    let occurrences : List Occurrence := [.event (.bind 80), .stopLink]
    let first := start link .standard .standard
    let b := first.occurs occurrences
    let l : Listener := ⟨⟨0⟩, 80⟩
    (∀ i, link.found i = Socket.free) ∧ (∀ c, link.device.lossesLeft c = 0) ∧
      b.owners[0]? = some (.listener l) ∧ first.arrivals 0 occurrences = [] ∧
      (l.accept.run b.host).1 = some (.ofHandle ⟨0⟩) := by
  intro link occurrences first b l
  have here : b.owners[0]? = some (.listener l) := by decide +kernel
  have arrivals : first.arrivals 0 occurrences = [] := by decide +kernel
  have free : b.host.link.found ⟨0, by decide⟩ = Socket.free := Link.stop_found _ _
  have carries : b.host.link.Carries .availDataTcp 8 8 := by
    refine ⟨?_, ?_, ?_, ?_⟩ <;> decide +kernel
  exact ⟨by decide, fun _ => rfl, here, arrivals, accept_of_free rfl free carries⟩

end Board

end SpiWifi
