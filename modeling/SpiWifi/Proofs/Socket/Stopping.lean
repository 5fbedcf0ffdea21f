import SpiWifi.Proofs.Socket.Awaiting
import SpiWifi.Proofs.Socket.Backlog

/-!
# Stopping a socket of the emulated device

The device frees the slot of a socket that is stopped, or lets it linger for good; it does so at the
request, whether or not its acknowledgement gets through. A question about the state of the socket
changes nothing but the record of commands, and one reply to it is lost as long as losses are due. So
the host sees the socket closed with the first reply that is not lost, and only if the slot was freed.
-/

namespace SpiWifi

open Device

variable {socket : SocketHandle} {i : Fin socketCount}

namespace Link

/-- What so many questions about the state of a socket leave of a link: every slot is as it was, the
device received so many more of them, and as many losses of their replies were used up. -/
structure Queried (n : Nat) (l l' : Link Line) : Prop where
  settings : l'.settings = l.settings
  ready : l.initialized = true → l'.initialized = true
  slots : ∀ j, l'.found j = l.found j
  losses : l'.device.lossesLeft .getClientStateTcp = l.device.lossesLeft .getClientStateTcp - n
  count : l'.device.count .getClientStateTcp = l.device.count .getClientStateTcp + n

namespace Queried

theorem refl (l : Link Line) : Queried 0 l l := ⟨rfl, id, fun _ => rfl, rfl, rfl⟩

theorem trans {n m : Nat} {l l' l'' : Link Line} (h : Queried n l l') (h' : Queried m l' l'') :
    Queried (n + m) l l'' where
  settings := h'.settings.trans h.settings
  ready := h'.ready ∘ h.ready
  slots j := (h'.slots j).trans (h.slots j)
  losses := by rw [h'.losses, h.losses, Nat.sub_sub]
  count := by rw [h'.count, h.count, Nat.add_assoc]

end Queried

theorem clientState_queried (l : Link Line) (hi : socket.index? = some i)
    (size : 8 ≤ l.settings.maxFrameSize.toNat) : Queried 1 l ((clientState socket).run l).2 := by
  obtain ⟨s, hreplied, hlink⟩ := (clientState_outcome l hi).sent size
  have hlosses : ((clientState socket).run l).2.device.lossesLeft .getClientStateTcp =
      l.device.lossesLeft .getClientStateTcp - 1 := by
    rw [clientState, socketState,
      run_map fun answer => (Option.bind answer TcpState.ofRaw?).getD .closed, readU8, link_readValue]
    exact lossesLeft_served ⟨rfl, rfl⟩ (about_fits _ _) (by rw [length_about]; exact size)
      (fits_short_reply _ (Nat.le_of_ble_eq_true rfl))
      (run_serve_state (Or.inr rfl) socket.raw (l.device.recorded .getClientStateTcp)) _
  rw [hlink] at hlosses ⊢
  constructor
  case settings => exact ensureReset_settings l
  case ready => exact fun _ => ensureReset_initialized l
  case slots =>
    intro j
    rw [found_leaving, hreplied.same]
    rfl
  case losses => exact hlosses
  case count =>
    rw [device_leaving, hreplied.same]
    exact List.count_cons_self

/-- The request to stop a socket, whether or not it is acknowledged. -/
theorem stopClient_leaves (l : Link Line) (hi : socket.index? = some i)
    (size : 8 ≤ l.settings.maxFrameSize.toNat) :
    let l' := ((stopClient socket).run l).2
    l'.settings = l.settings ∧ l'.initialized = true ∧
      l'.found i = (l.found i).stopped l.device.close ∧
      l'.device.lossesLeft .getClientStateTcp = l.device.lossesLeft .getClientStateTcp ∧
      l'.device.count .getClientStateTcp = l.device.count .getClientStateTcp := by
  have hstop := stopClient_outcome l hi
  obtain ⟨s, hreplied, hlink⟩ := hstop.sent size
  have hlosses : ((stopClient socket).run l).2.device.lossesLeft .getClientStateTcp =
      l.device.lossesLeft .getClientStateTcp := by
    rw [stopClient, ack, run_map fun answer => answer == some ackByte, readU8, link_readValue]
    exact lossesLeft_request (c := .stopClientTcp) ⟨rfl, rfl⟩ (by decide) _
  have hfound := found_of_sent hstop size
  dsimp only
  rw [hlink] at hlosses hfound ⊢
  refine ⟨ensureReset_settings l, ensureReset_initialized l, hfound, hlosses, ?_⟩
  rw [device_leaving, hreplied.same]
  exact List.count_cons_of_ne (by decide)

end Link

/-- A slot that was stopped is closed just if it was freed. -/
theorem Device.Socket.stopped_closed_iff (a : Device.Socket) (close : CloseBehavior) :
    (a.stopped close).state = .closed ↔ close = .immediate := by
  cases close with
  | immediate => exact ⟨fun _ => rfl, fun _ => rfl⟩
  | linger => exact ⟨fun h => (nomatch h), fun h => (nomatch h)⟩

namespace Host

/-- Step by step along the questions of a poll. -/
theorem afterAsking_queried (host : Host Line) (hi : socket.index? = some i)
    (size : 8 ≤ host.link.settings.maxFrameSize.toNat) (n : Nat) :
    Link.Queried n host.link (afterAsking (attempt (Link.clientState socket)) n host).link := by
  induction n with
  | zero => exact .refl host.link
  | succ n ih =>
    rw [afterAsking_succ]
    exact ih.trans (Link.clientState_queried _ hi (by rw [ih.settings]; exact size))

/-- The device is heard to say that a socket is closed once no more losses are due, if it is. -/
theorem answerAt_closed_iff {host : Host Line} (hi : socket.index? = some i)
    (size : 8 ≤ host.link.settings.maxFrameSize.toNat) (n : Nat) :
    answerAt (attempt (Link.clientState socket)) n host = .ok .closed ↔
      (host.link.found i).state = .closed ∧
      host.link.device.lossesLeft .getClientStateTcp ≤ n ∧
      1 ≤ host.link.settings.startBudget.toNat := by
  have hqueried := afterAsking_queried host hi size n
  rw [answerAt]
  generalize hlast : afterAsking (attempt (Link.clientState socket)) n host = last at hqueried
  have houtcome := Link.clientState_outcome last.link hi
  rw [run_attempt]
  rw [hqueried.slots i] at houtcome
  constructor
  · intro hclosed
    obtain ⟨hstate, hcarries⟩ := houtcome.of_ok hclosed
    have hkept := hcarries.kept
    have hbudget := hcarries.budget
    rw [hqueried.losses] at hkept
    rw [hqueried.settings] at hbudget
    exact ⟨hstate.symm, Nat.le_of_sub_eq_zero hkept, hbudget⟩
  · rintro ⟨hclosed, hlosses, hbudget⟩
    have hcarries : last.link.Carries .getClientStateTcp 8 8 := by
      refine ⟨?_, ?_, ?_, ?_⟩
      · rw [hqueried.settings]
        exact size
      · rw [hqueried.settings]
        exact size
      · rw [hqueried.settings]
        exact hbudget
      · rw [hqueried.losses]
        exact Nat.sub_eq_zero_of_le hlosses
    rw [houtcome.carried hcarries, hclosed]

section
variable {host : Host Line} (hi : socket.index? = some i)
  (size : 8 ≤ host.link.settings.maxFrameSize.toNat) (n : Nat)
include hi size

/-- What is heard after the request to stop, which may not have been heard itself. -/
theorem closed_after_request_iff :
    answerAt (attempt (Link.clientState socket)) n (attempt (Link.stopClient socket) host).2 =
        .ok .closed ↔
      host.link.device.close = .immediate ∧
      host.link.device.lossesLeft .getClientStateTcp ≤ n ∧
      1 ≤ host.link.settings.startBudget.toNat := by
  obtain ⟨hsettings, -, hslot, hlosses, -⟩ := Link.stopClient_leaves host.link hi size
  rw [run_attempt]
  generalize ((Link.stopClient socket).run host.link).2 = link at hsettings hslot hlosses
  rw [answerAt_closed_iff hi (by dsimp only; rw [hsettings]; exact size)]
  dsimp only
  rw [hslot, Socket.stopped_closed_iff, hlosses, hsettings]

theorem count_after_request :
    (afterAsking (attempt (Link.clientState socket)) n
        (attempt (Link.stopClient socket) host).2).link.transport.state.count .getClientStateTcp =
      host.link.device.count .getClientStateTcp + n := by
  obtain ⟨hsettings, hready, -, -, hcount⟩ := Link.stopClient_leaves host.link hi size
  rw [run_attempt]
  generalize ((Link.stopClient socket).run host.link).2 = link at hsettings hready hcount
  have hqueried := afterAsking_queried { host with link := link } hi
    (by dsimp only; rw [hsettings]; exact size) n
  rw [← Link.device_of_initialized (hqueried.ready hready), hqueried.count, hcount]

end

theorem tryStop_ok_iff {host : Host Line} (hi : socket.index? = some i)
    (ready : host.link.initialized = true) (size : 8 ≤ host.link.settings.maxFrameSize.toNat) :
    ((tryStop socket).run host).1 = .ok () ↔ host.link.transport.state.close = .immediate ∧
      host.link.transport.state.lossesLeft .getClientStateTcp < host.sockets.stopAttempts.toNat ∧
      1 ≤ host.link.settings.startBudget.toNat := by
  have hclosed := closed_after_request_iff hi size
  rw [Link.device_of_initialized ready] at hclosed
  rw [(tryStop_polls host (SocketHandle.isValid_of_some hi)).ok_iff]
  constructor
  · rintro ⟨n, hn, hanswer⟩
    obtain ⟨himmediate, hle, hbudget⟩ := (hclosed n).mp hanswer
    exact ⟨himmediate, Nat.lt_of_le_of_lt hle hn, hbudget⟩
  · rintro ⟨himmediate, hlt, hbudget⟩
    exact ⟨_, hlt, (hclosed _).mpr ⟨himmediate, Nat.le_refl _, hbudget⟩⟩

/-- What stopping a socket comes to: whether it succeeds, how many questions about the state of the
socket the device receives, and what happens to the slots and the cache. -/
structure StopOutcome (socket : SocketHandle) (i : Fin socketCount) (host : Host Line)
    (outcome : Except NetError Unit × Host Line) : Prop where
  /-- Slots are freed at once, fewer replies get lost than there are attempts, and replies are
  searched for at all. -/
  ok_iff : outcome.1 = .ok () ↔ host.link.transport.state.close = .immediate ∧
    host.link.transport.state.lossesLeft .getClientStateTcp < host.sockets.stopAttempts.toNat ∧
    1 ≤ host.link.settings.startBudget.toNat
  closed : outcome.1 = .ok () →
    outcome.2.link.transport.state.count .getClientStateTcp =
      host.link.transport.state.count .getClientStateTcp +
        (host.link.transport.state.lossesLeft .getClientStateTcp + 1) ∧
    outcome.2.link.transport.state.sockets.get i = Socket.free
  waited : outcome.1 ≠ .ok () →
    outcome.1 = .error (.closeTimeout socket host.sockets.stopAttempts) ∧
    outcome.2.link.transport.state.count .getClientStateTcp =
      host.link.transport.state.count .getClientStateTcp + host.sockets.stopAttempts.toNat
  freed : outcome.2.isBuffered socket = false
  others : ∀ j, j ≠ i → outcome.2.link.transport.state.sockets.get j =
    host.link.transport.state.sockets.get j

/-- Stopping a socket of whatever kind and in whatever state, over a link that was started and lets
frames of the usual size through. -/
theorem tryStop_decided {host : Host Line} (hi : socket.index? = some i)
    (ready : host.link.initialized = true)
    (size : host.link.settings.maxFrameSize = LinkSettings.standard.maxFrameSize) :
    StopOutcome socket i host ((tryStop socket).run host) := by
  have valid : socket.isValid = true := SocketHandle.isValid_of_some hi
  have hsize : 8 ≤ host.link.settings.maxFrameSize.toNat := by
    rw [size]
    decide
  have hpolls := tryStop_polls host valid
  have hstops := tryStop_stops hi host
  have hclosed := closed_after_request_iff hi hsize
  have hcount := count_after_request hi hsize
  rw [Link.device_of_initialized ready] at hclosed hcount
  have hslots : ∀ j, ((tryStop socket).run host).2.link.transport.state.sockets.get j =
      ((tryStop socket).run host).2.link.found j := by
    have hstarted : ((tryStop socket).run host).2.link.initialized = true :=
      (Bool.not_eq_false _).mp fun hnot => by
        rw [hstops.uses.link.untouched hnot, ready] at hnot
        cases hnot
    exact fun j => (Link.found_of_initialized hstarted j).symm
  have hok := tryStop_ok_iff hi ready hsize
  constructor
  case ok_iff => exact hok
  case closed =>
    intro hdone
    obtain ⟨himmediate, hlt, hbudget⟩ := hok.mp hdone
    have hfirst := hpolls.found _ hlt ((hclosed _).mpr ⟨himmediate, Nat.le_refl _, hbudget⟩)
      fun j hj hanswer => absurd ((hclosed j).mp hanswer).2.1 (Nat.not_le.mpr hj)
    constructor
    · rw [hfirst]
      exact hcount _
    · rw [hslots, hstops.stopped hsize, Link.device_of_initialized ready, himmediate]
      rfl
  case waited =>
    intro hnot
    have hmissed := hpolls.missed fun n hn hanswer => hnot (hpolls.ok_iff.mpr ⟨n, hn, hanswer⟩)
    rw [hmissed]
    exact ⟨rfl, hcount _⟩
  case freed =>
    rw [run_tryStop valid]
    exact isBuffered_closeCache _ _
  case others =>
    intro j hj
    have hsame := hstops.uses.link.others j fun h => hj (Option.some.inj (hi.symm.trans h)).symm
    rw [hslots, hsame, Link.found_of_initialized ready]
    rfl

/-- A listener is stopped while a connection waits on it. The acknowledgement gets lost and so do two
answers about the state; the third one says that the slot is free. -/
theorem tryStop_decided_for_listener :
    let device : State :=
      (((State.initial.onSocket 0 (Socket.listening 80 0)).injectConnection 80
        ⟨⟨10, 0, 0, 9⟩, 5000⟩ [7]).2.loseReplies .stopClientTcp 1).loseReplies .getClientStateTcp 2
    let host : Host Line := Host.new { Link.new { Line.new with state := device } .standard with
      initialized := true } .standard .standard
    let outcome := (tryStop ⟨0⟩).run host
    StopOutcome ⟨0⟩ ⟨0, by decide⟩ host outcome ∧ outcome.1 = .ok () ∧
      outcome.2.link.transport.state.count .getClientStateTcp = 3 := by
  intro device host outcome
  have decided : StopOutcome ⟨0⟩ ⟨0, by decide⟩ host outcome := tryStop_decided rfl rfl rfl
  have done : outcome.1 = .ok () :=
    decided.ok_iff.mpr ⟨by decide +kernel, by decide +kernel, by decide +kernel⟩
  have before : host.link.transport.state.count .getClientStateTcp = 0 := by decide +kernel
  have losses : host.link.transport.state.lossesLeft .getClientStateTcp = 2 := by decide +kernel
  have closed := (decided.closed done).1
  rw [before, losses] at closed
  exact ⟨decided, done, closed⟩

/-- Where no byte is searched for the start of a reply, no answer is heard, and a slot that was freed at
once and of which no reply got lost is waited for in vain. -/
theorem tryStop_unheard :
    let settings : LinkSettings := { LinkSettings.instant with startBudget := 0 }
    let host : Host Line := Host.new { Link.new Line.new settings with initialized := true }
      { SocketSettings.standard with stopAttempts := 2 } .standard
    host.link.initialized = true ∧
      host.link.settings.maxFrameSize = LinkSettings.standard.maxFrameSize ∧
      host.link.transport.state.close = .immediate ∧
      host.link.transport.state.lossesLeft .getClientStateTcp < host.sockets.stopAttempts.toNat ∧
      ¬ ((tryStop ⟨0⟩).run host).1 = .ok () ∧
      ((tryStop ⟨0⟩).run host).1 = .error (.closeTimeout ⟨0⟩ 2) := by
  decide +kernel

end Host

end SpiWifi
