import SpiWifi.Proofs.Station.Inquiries

/-!
# Queries of the status

A join is pending for as many queries as the device's latency says; until then the device says that it
is idle. Each query brings the verdict one nearer, and uses up one lost reply if one is due, so what the
host hears at each query can be told beforehand: no module as long as replies get lost, idle as long as
the join is pending, and the verdict from then on.
-/

namespace SpiWifi

open Device

theorem StationStatus.ofRaw_raw (s : StationStatus) : ofRaw s.raw = s := by cases s <;> rfl

namespace Device.State

variable (s : State)

/-- The status that a query is answered with. -/
def shownStatus : StationStatus := if s.radio.pendingPolls = 0 then s.radio.status else .idle

/-- What a query of the status makes of the device. -/
def polled : State :=
  { s with
    radio := { s.radio with pendingPolls := s.radio.pendingPolls - 1 }
    received := .getConnStatus :: s.received }

theorem run_serve_status (p : Params) :
    (serve .getConnStatus p).run (s.recorded .getConnStatus) =
      (some ((Frame.reply .getConnStatus).withU8 s.shownStatus.raw), s.polled) := by
  have hpoll : (s.recorded .getConnStatus).pollStatus = (s.shownStatus, s.polled) := by
    rcases hradio : s.radio with ⟨status, pending, network⟩
    simp only [pollStatus, recorded, shownStatus, polled, hradio]
    cases pending <;> rfl
  unfold serve
  refine (Serving.run_bind _ _ _).trans ?_
  change (some ((Frame.reply .getConnStatus).withU8 (s.recorded .getConnStatus).pollStatus.1.raw),
    (s.recorded .getConnStatus).pollStatus.2) = _
  rw [hpoll]

theorem polled_ignoresLosses : IgnoresLosses polled := fun _ _ => rfl

theorem iterate_polled (n : Nat) :
    polled^[n] s =
      { s with
        radio := { s.radio with pendingPolls := s.radio.pendingPolls - n }
        received := List.replicate n .getConnStatus ++ s.received } := by
  induction n with
  | zero => rfl
  | succ n ih =>
    rw [Function.iterate_succ_apply', ih, polled, Nat.sub_sub, List.replicate_succ]
    rfl

end Device.State

namespace Host

variable (host : Host Line)

theorem connectionStatus_question (size : 4 ≤ host.link.settings.maxFrameSize.toNat) :
    Link.Questioned .getConnStatus State.polled 1 host.link (connectionStatus host).2.link := by
  have fits : (Frame.command .getConnStatus).Fits :=
    Frame.fits_of_short (Nat.zero_le _) fun _ hp => absurd hp List.not_mem_nil
  rw [connectionStatus_eq, Link.readU8, Link.link_readValue]
  exact Link.questioned_of_request State.polled ⟨rfl, rfl⟩ fits size
    (State.run_serve_status host.link.device _) (fits_value _ (Nat.le_of_ble_eq_true rfl)) _

/-- A status that does not arrive is taken for a missing module. -/
theorem connectionStatus_answer [Decidable (host.link.Carries .getConnStatus 4 8)] :
    (connectionStatus host).1 =
      if host.link.Carries .getConnStatus 4 8 then host.link.device.shownStatus else .noModule := by
  have fits : (Frame.command .getConnStatus).Fits :=
    Frame.fits_of_short (Nat.zero_le _) fun _ hp => absurd hp List.not_mem_nil
  have hread : Link.Outcome host.link .getConnStatus 4 8 _
      (some host.link.device.shownStatus.raw)
      ((Link.readU8 (Frame.command .getConnStatus)).run host.link) :=
    Link.readValue_outcome ⟨rfl, rfl⟩ fits (Nat.le_of_ble_eq_true rfl)
      (State.run_serve_status host.link.device _) 1 Slot.u8?
  rw [connectionStatus_eq]
  split
  · next carries =>
    rw [hread.carried carries]
    exact StationStatus.ofRaw_raw _
  · next lost =>
    obtain ⟨e, he⟩ := hread.failed lost
    rw [he]
    rfl

variable {host} (size : 8 ≤ host.link.settings.maxFrameSize.toNat)
  (budget : 1 ≤ host.link.settings.startBudget.toNat)

include size in
theorem questioned_status (n : Nat) :
    Link.Questioned .getConnStatus State.polled n host.link
      (afterAsking connectionStatus n host).link :=
  questioned_afterAsking State.polled_ignoresLosses
    (fun host => connectionStatus_question host) (Nat.le_trans (Nat.le_of_ble_eq_true rfl) size) n

theorem count_polled {n : Nat} {l l' : Link Line}
    (h : Link.Questioned .getConnStatus State.polled n l l') :
    l'.device.count .getConnStatus = l.device.count .getConnStatus + n := by
  rw [h.same, State.iterate_polled]
  simp only [State.count, List.count_append, List.count_replicate_self]
  omega

include size budget

/-- Each query uses up a lost reply, if one is due, and brings the verdict one nearer, heard or not. -/
theorem answerAt_status (n : Nat) :
    answerAt connectionStatus n host =
      if host.link.device.lossesLeft .getConnStatus ≤ n then
        if host.link.device.radio.pendingPolls ≤ n then host.link.device.radio.status else .idle
      else .noModule := by
  have hasked := questioned_status size n
  have hcarries : (afterAsking connectionStatus n host).link.Carries .getConnStatus 4 8 ↔
      host.link.device.lossesLeft .getConnStatus ≤ n :=
    hasked.carries_iff (by omega) size budget
  have hstatus : (afterAsking connectionStatus n host).link.device.shownStatus =
      if host.link.device.radio.pendingPolls ≤ n then host.link.device.radio.status else .idle := by
    rw [hasked.same, State.iterate_polled]
    simp only [State.shownStatus, Nat.sub_eq_zero_iff_le]
  classical
  rw [answerAt, connectionStatus_answer, hstatus]
  simp only [hcarries]

/-- A join of which no answer is lost ends with the verdict if that comes within the budget. -/
theorem awaitJoin_kept (kept : host.link.device.lossesLeft .getConnStatus = 0) :
    let radio := host.link.device.radio
    let attempts := host.station.joinAttempts.toNat
    awaitJoin host =
      (if radio.pendingPolls < attempts then radio.status else .idle,
        afterAsking connectionStatus
          (if radio.pendingPolls < attempts ∧ radio.status.isJoining = false then
            radio.pendingPolls + 1 else attempts) host) := by
  intro radio attempts
  have hanswer : ∀ n, answerAt connectionStatus n host =
      if radio.pendingPolls ≤ n then radio.status else .idle := by
    intro n
    rw [answerAt_status size budget n, if_pos (by omega)]
  change pollLast connectionStatus (fun status => !status.isJoining) attempts .idle host = _
  by_cases hsettled : radio.pendingPolls < attempts ∧ radio.status.isJoining = false
  · have hfound : (!(answerAt connectionStatus radio.pendingPolls host).isJoining) = true := by
      rw [hanswer, if_pos (Nat.le_refl _), hsettled.2]
      rfl
    have hbefore : ∀ j, j < radio.pendingPolls →
        (!(answerAt connectionStatus j host).isJoining) = false := by
      intro j hj
      rw [hanswer, if_neg (Nat.not_le.mpr hj)]
      rfl
    rw [pollLast_of_settled hsettled.1 hfound hbefore, hanswer, if_pos (Nat.le_refl _),
      if_pos hsettled.1, if_pos hsettled]
  · have hmissed : ∀ j, j < attempts →
        (!(answerAt connectionStatus j host).isJoining) = false := by
      intro j hj
      rw [hanswer]
      split
      · next hle =>
        have hjoining : radio.status.isJoining = true := by
          by_contra hnot
          exact hsettled ⟨by omega, Bool.not_eq_true _ ▸ hnot⟩
        rw [hjoining]
        rfl
      · rfl
    rw [pollLast_of_unsettled hmissed, if_neg hsettled]
    refine Prod.ext ?_ rfl
    dsimp only
    split
    · next hnone => rw [if_neg (by omega)]
    · next hsome =>
      rw [hanswer]
      split
      · rw [if_pos (by omega)]
      · rw [if_neg (by omega)]

/-- A join of which the first answer is lost ends with it. -/
theorem awaitJoin_lost (lost : 0 < host.link.device.lossesLeft .getConnStatus)
    (asks : 1 ≤ host.station.joinAttempts.toNat) :
    awaitJoin host = (.noModule, afterAsking connectionStatus 1 host) := by
  have hanswer : answerAt connectionStatus 0 host = .noModule := by
    rw [answerAt_status size budget 0, if_neg (by omega)]
  have hfound : (!(answerAt connectionStatus 0 host).isJoining) = true := by
    rw [hanswer]
    rfl
  change pollLast connectionStatus (fun status => !status.isJoining) _ .idle host = _
  rw [pollLast_of_settled asks hfound (fun j hj => absurd hj (Nat.not_lt_zero j)), hanswer]

end Host

end SpiWifi
