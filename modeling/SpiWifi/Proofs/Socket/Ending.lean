import SpiWifi.Proofs.Socket.Refilling

/-!
# The end of a stream

A connection ends for its client when a look for bytes finds none and the device reports a state that
is not connected. The report is an answer to a question, and where the answer does not arrive the host
takes the socket for closed. So a client gives up its handle for either of two reasons, and the second
says nothing about the connection.
-/

namespace SpiWifi

open Device

namespace Host

variable {host : Host Line} {socket : SocketHandle} {i : Fin socketCount}

/-- A look for bytes leaves what the link carries of other commands. -/
theorem carries_available {c : Command} (hne : c ≠ .getDatabufTcp) (asks answers : Nat)
    (socket : SocketHandle) (host : Host Line) :
    (available socket host).2.link.Carries c asks answers ↔ host.link.Carries c asks answers := by
  have hsettings : (available socket host).2.link.settings = host.link.settings :=
    (available_uses socket host).link.settings
  have hlosses : (available socket host).2.link.device.lossesLeft c =
      host.link.device.lossesLeft c := by
    rw [available, run_onCache]
    dsimp only
    rcases (ReceiveCache.available_reaches Link.fetchInto socket host.cache host.link).1 with
      hsame | ⟨slot, -, hfetched⟩
    · rw [hsame]
    · rw [hfetched, Link.link_fetchInto]
      exact Link.lossesLeft_request ⟨rfl, rfl⟩ hne _
  constructor
  · rintro ⟨hasks, hanswers, hbudget, hkept⟩
    rw [hsettings] at hasks hanswers hbudget
    exact ⟨hasks, hanswers, hbudget, hlosses.symm.trans hkept⟩
  · rintro ⟨hasks, hanswers, hbudget, hkept⟩
    rw [← hsettings] at hasks hanswers hbudget
    exact ⟨hasks, hanswers, hbudget, hlosses.trans hkept⟩

theorem found_available (i : Fin socketCount) (socket : SocketHandle) (host : Host Line) :
    ((available socket host).2.link.found i).state = (host.link.found i).state :=
  Socket.state_of_standing (Socket.standing_of_record ((available_uses socket host).link.own i))

/-- The host takes a socket for ended that is not connected, or whose state it cannot learn. -/
def TakenForEnded (host : Host Line) (i : Fin socketCount) : Prop :=
  (host.link.found i).state.isConnected = false ∨ ¬ host.link.Carries .getClientStateTcp 8 8

theorem status_isConnected (hi : socket.index? = some i) :
    (status socket host).1.isConnected = false ↔ host.TakenForEnded i := by
  have hvalid : socket.isValid = true := SocketHandle.isValid_of_some hi
  have hstate := Link.clientState_outcome host.link hi
  have hrun : (status socket host).1 =
      ((Link.clientState socket).run host.link).1.toOption.getD .closed := by
    simp only [status, stateBy, hvalid, if_true, bind, StateT.bind, run_attempt]
    rcases (Link.clientState socket).run host.link with ⟨e | state, link⟩ <;> rfl
  by_cases hcarries : host.link.Carries .getClientStateTcp 8 8
  · rw [hrun, hstate.carried hcarries, TakenForEnded]
    exact ⟨Or.inl, fun h => h.elim id (absurd hcarries)⟩
  · obtain ⟨e, hfails⟩ := hstate.failed hcarries
    rw [hrun, hfails]
    exact ⟨fun _ => Or.inr hcarries, fun _ => rfl⟩

theorem takenForEnded_available (socket : SocketHandle) :
    (available socket host).2.TakenForEnded i ↔ host.TakenForEnded i := by
  rw [TakenForEnded, TakenForEnded, found_available,
    carries_available (by decide) 8 8 socket host]

/-- A socket is found not connected if no bytes are found and it is taken for ended. -/
theorem connected_eq_false_iff (hi : socket.index? = some i) :
    (connected socket host).1 = false ↔ (available socket host).1 = 0 ∧ host.TakenForEnded i := by
  rw [Attends.run_connected (SocketHandle.isValid_of_some hi), ← takenForEnded_available socket,
    ← status_isConnected hi]
  split
  · next hpos => exact ⟨nofun, fun h => absurd h.1 (Nat.ne_of_gt hpos)⟩
  · next hnone =>
    have hzero := Nat.eq_zero_of_not_pos hnone
    split
    · next hlive => exact ⟨nofun, fun h => absurd (hlive.symm.trans h.2) nofun⟩
    · next hdead => exact ⟨fun _ => ⟨hzero, Bool.eq_false_iff.mpr hdead⟩, fun _ => rfl⟩

theorem read_eq_nil_iff (fits : host.cache.Fits) (socket : SocketHandle) {n : Nat} (hn : 0 < n) :
    (read socket n host).1 = [] ↔ (available socket host).1 = 0 := by
  have hlength := length_available fits socket
  obtain ⟨hread, -⟩ := ReceiveCache.read_takes Link.fetchInto socket host.cache host.link n
  change (read socket n host).1 = ((available socket host).2.cache.bytes socket).take
    (min (available socket host).1 n) at hread
  rw [hread, List.take_eq_nil_iff, ← List.length_eq_zero_iff, ← hlength]
  omega

/-- A read that returns nothing is a look that finds nothing. -/
theorem read_of_none (h : (available socket host).1 = 0) (n : Nat) :
    (read socket n host).2 = (available socket host).2 := by
  rw [available, run_onCache] at h
  rw [available, read, run_onCache, run_onCache]
  unfold ReceiveCache.read
  rcases hlook : host.cache.available Link.fetchInto socket host.link with ⟨ready, cache, link⟩
  rw [hlook] at h
  cases h
  dsimp only
  rw [Nat.zero_min]
  split
  · rfl
  · split <;> rfl

end Host

namespace Stream

variable {s : Stream} {host : Host Line} {i : Fin socketCount}

theorem run_connected (s : Stream) (host : Host Line) :
    connected (s, host) = ((Host.connected s.socket host).1,
      if (Host.connected s.socket host).1 = true then s else { s with socket := .none },
      (Host.connected s.socket host).2) := by
  simp only [connected]
  rcases Host.connected s.socket host with ⟨_ | _, after⟩ <;> rfl

theorem run_receive (s : Stream) (host : Host Line) {n : Nat} (hn : 0 < n) :
    (receive n).run.run (s, host) =
      if (Host.read s.socket n host).1 = [] then
        (if (connected (s, (Host.read s.socket n host).2)).1 = true then .error .wouldBlock
          else .ok [], (connected (s, (Host.read s.socket n host).2)).2)
      else (.ok (Host.read s.socket n host).1, s, (Host.read s.socket n host).2) := by
  simp only [receive, ExceptT.run, StateT.run, if_neg (Nat.ne_of_gt hn), readBytes, onSocket]
  rcases Host.read s.socket n host with ⟨_ | ⟨b, bytes⟩, after⟩
  · dsimp only
    rcases connected (s, after) with ⟨_ | _, last⟩ <;> rfl
  · rfl

/-- A client is told that its connection has ended, by an answer or by an empty read, just if looks for
bytes find none and the socket is taken for ended; and just then it gives up its handle. -/
theorem ends_iff (hi : s.socket.index? = some i) (fits : host.cache.Fits) {n : Nat} (hn : 0 < n) :
    let looked := Host.available s.socket host
    let answer := connected (s, host)
    let received := (receive n).run.run (s, host)
    (answer.1 = false ↔ looked.1 = 0 ∧ host.TakenForEnded i) ∧
    (received.1 = .ok [] ↔
      looked.1 = 0 ∧ (Host.available s.socket looked.2).1 = 0 ∧ host.TakenForEnded i) ∧
    (answer.2.1.socket = .none ↔ answer.1 = false) ∧
    (received.2.1.socket = .none ↔ received.1 = .ok []) := by
  intro looked answer received
  have held : s.socket ≠ .none := by
    intro hnone
    rw [hnone] at hi
    cases hi
  have handle : ∀ host : Host Line,
      (connected (s, host)).2.1.socket = .none ↔ (connected (s, host)).1 = false := by
    intro host
    rw [run_connected]
    cases (Host.connected s.socket host).1 with
    | true => exact ⟨fun hnone => absurd hnone held, nofun⟩
    | false => exact ⟨fun _ => rfl, fun _ => rfl⟩
  have hanswer : ∀ host : Host Line, (connected (s, host)).1 = false ↔
      (Host.available s.socket host).1 = 0 ∧ host.TakenForEnded i := by
    intro host
    rw [run_connected]
    exact Host.connected_eq_false_iff hi
  have hread := Host.read_eq_nil_iff fits s.socket hn
  have hreceived : received = _ := run_receive s host hn
  refine ⟨hanswer host, ?_, handle host, ?_⟩
  · by_cases hnone : (Host.read s.socket n host).1 = []
    · have hrest := Host.read_of_none (hread.mp hnone) n
      have hlast := hanswer looked.2
      rw [Host.takenForEnded_available] at hlast
      rw [hreceived, if_pos hnone, hrest, ← hlast, ← hread]
      cases (connected (s, looked.2)).1 with
      | true => exact ⟨nofun, fun h => nomatch h.2⟩
      | false => exact ⟨fun _ => ⟨hnone, rfl⟩, fun _ => rfl⟩
    · rw [hreceived, if_neg hnone]
      exact ⟨fun h => absurd (Except.ok.inj h) hnone, fun h => absurd (hread.mpr h.1) hnone⟩
  · by_cases hnone : (Host.read s.socket n host).1 = []
    · have hlast := handle (Host.read s.socket n host).2
      rw [hreceived, if_pos hnone]
      dsimp only
      rw [hlast]
      cases (connected (s, (Host.read s.socket n host).2)).1 with
      | true => exact ⟨nofun, nofun⟩
      | false => exact ⟨fun _ => rfl, fun _ => rfl⟩
    · rw [hreceived, if_neg hnone]
      exact ⟨fun h => absurd h held, fun h => absurd (Except.ok.inj h) hnone⟩

/-- A connection that is alive, and whose state can be learnt, does not end. -/
theorem ends_iff_alive :
    let state := State.initial.modifySocket ⟨0, by decide⟩ fun a =>
      { a with reserved := true, kind := .client, state := .established }
    let link : Link Line := .new { Line.new with state := state } .instant
    let host : Host Line := .new { link with initialized := true } .standard .standard
    let s := ofHandle ⟨0⟩
    s.socket.index? = some ⟨0, by decide⟩ ∧ host.cache.Fits ∧ 0 < 8 ∧
      (connected (s, host)).1 = true ∧ ((receive 8).run.run (s, host)).1 ≠ .ok [] := by
  intro state link host s
  have hi : s.socket.index? = some ⟨0, by decide⟩ := rfl
  have fits : host.cache.Fits := ReceiveCache.new_fits _
  have alive : ¬ host.TakenForEnded ⟨0, by decide⟩ := by
    rintro (hdead | hsilent)
    · exact absurd hdead (by decide)
    · exact hsilent ⟨by decide, by decide, by decide, by decide⟩
  obtain ⟨hanswer, hreceived, -, -⟩ := ends_iff hi fits (n := 8) (by decide)
  refine ⟨hi, fits, by decide, ?_, fun hended => alive (hreceived.mp hended).2.2⟩
  rw [← Bool.not_eq_false]
  exact fun hended => alive (hanswer.mp hended).2

/-- One lost answer ends a connection that is established. -/
theorem established_ends :
    let host := (Host.new (.new .new .instant) .standard .standard).after
      [.connect (.address ⟨10, 0, 0, 1⟩) 80 .tcp, .loseReplies .getClientStateTcp 1]
    let s := ofHandle ⟨0⟩
    (host.link.found ⟨0, by decide⟩).state = .established ∧
      (connected (s, host)).1 = false ∧ (connected (s, host)).2.1.socket = .none ∧
      ((receive 8).run.run (s, host)).1 = .ok [] := by
  intro host s
  refine ⟨?_, ?_, ?_, ?_⟩
  · decide +kernel
  · decide +kernel
  · decide +kernel
  · decide +kernel

end Stream

end SpiWifi
