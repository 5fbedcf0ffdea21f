import SpiWifi.Proofs.Socket.Conversation
import SpiWifi.Proofs.Station.Joining
import SpiWifi.Proofs.Station.Scanning

/-!
# Polls of which replies get lost

A scan takes a lost reply for one that names nothing yet: it goes on just as if the device had answered
that the scan is pending. A join takes a lost reply for a missing module, which is none of the statuses
that it waits through. So there the first reply decides: if it is lost the join ends with it, whatever
the device would have said within the budget.
-/

namespace SpiWifi

open Device

/-- The device that loses no list of names, and has the scan pending for the queries whose replies it
would have lost. -/
def Device.State.pendingForLost (s : State) : State :=
  { s.loseReplies .scanNetworks 0 with
    scanLatency := max (s.lossesLeft .scanNetworks) s.scanLatency }

theorem Device.State.lossesLeft_pendingForLost (s : State) (c : Command) :
    s.pendingForLost.lossesLeft c = if c = .scanNetworks then 0 else s.lossesLeft c := by
  unfold lossesLeft pendingForLost loseReplies
  split
  · next hc => rw [hc, Table.get?_set_self, Option.getD_some]
  · next hc => rw [Table.get?_set_ne hc]

namespace Host

variable (host : Host Line)

/-- A reset that is due makes no difference to it. -/
theorem device_told_pendingForLost :
    (host.told State.pendingForLost).link.device = host.link.device.pendingForLost := by
  obtain ⟨⟨d, signals, settings, initialized, patience⟩⟩ := host
  cases initialized <;> rfl

variable {host}

/-- A scan of a device that reports so many networks goes on as it would if pending replies stood in the
place of lost ones. -/
structure ScanWaits (host : Host Line) (n : Nat) : Prop where
  found : (scanNetworks host).1 = n
  pending : (scanNetworks (host.told State.pendingForLost)).1 = n
  count : (scanNetworks host).2.link.device.count .scanNetworks =
    (scanNetworks (host.told State.pendingForLost)).2.link.device.count .scanNetworks
  names : (scanNetworks host).2.memory.networks =
    (scanNetworks (host.told State.pendingForLost)).2.memory.networks

theorem scanNetworks_waits (wide : 252 ≤ host.link.settings.maxFrameSize.toNat)
    (budget : 1 ≤ host.link.settings.startBudget.toNat)
    (kept : host.link.device.lossesLeft .startScanNetworks = 0)
    (within : host.link.device.lossesLeft .scanNetworks + host.link.device.scanLatency <
      host.station.scanAttempts.toNat) {n : Nat} (h : host.link.device.Reports n) :
    ScanWaits host n := by
  let told : Host Line := host.told State.pendingForLost
  have hdevice : told.link.device = host.link.device.pendingForLost :=
    device_told_pendingForLost host
  have hlosses := host.link.device.lossesLeft_pendingForLost
  have hreports : told.link.device.Reports n := h.of_networks (by rw [hdevice]; rfl)
  have hlossy : ScanOutcome host n (scanNetworks host) :=
    scanNetworks_started wide budget kept h
  have hpending : ScanOutcome told n (scanNetworks told) :=
    @scanNetworks_started told wide budget (by rw [hdevice, hlosses]; exact kept) n hreports
  -- both runs hear the list at the same query
  have hscan : told.link.device.lossesLeft .scanNetworks = 0 := by rw [hdevice, hlosses]; rfl
  have hlatency : told.link.device.scanLatency =
      max (host.link.device.lossesLeft .scanNetworks) host.link.device.scanLatency := by
    rw [hdevice]
    rfl
  have hcount : told.link.device.count .scanNetworks = host.link.device.count .scanNetworks := by
    rw [hdevice]
    rfl
  have hnetworks : told.link.device.networks = host.link.device.networks := by
    rw [hdevice]
    rfl
  have hstation : told.station = host.station := rfl
  have hfirst : max (host.link.device.lossesLeft .scanNetworks) host.link.device.scanLatency <
      host.station.scanAttempts.toNat := by omega
  have hfound : (scanNetworks host).1 = n := hlossy.found.trans (if_pos hfirst)
  have hfoundPending : (scanNetworks told).1 = n := by
    rw [hpending.found, hscan, hlatency, hstation, Nat.zero_max, if_pos hfirst]
  refine ⟨hfound, hfoundPending, ?_, ?_⟩
  · rw [hlossy.count, hpending.count, hscan, hlatency, hstation, hcount, Nat.zero_max]
  · rw [hlossy.remembered (by omega), hpending.remembered (by rw [hscan, hstation]; omega), hfound,
      hfoundPending, hnetworks]

/-- A join ends with its verdict, which the device holds, if no status is lost. If the first is lost,
the join ends there. -/
structure JoinEnds (host : Host Line) (ssid : String) (how : Credential) (status : StationStatus) :
    Prop where
  verdict : Verdict host.link.device.networks ssid how.secret status
  held : ((joinWith ssid how).run host).2.link.device.radio.status = status
  heard : host.link.device.lossesLeft .getConnStatus = 0 →
    ((joinWith ssid how).run host).1 = .ok status
  lost : 0 < host.link.device.lossesLeft .getConnStatus →
    ((joinWith ssid how).run host).1 = .ok .noModule ∧
      ((joinWith ssid how).run host).2.link.device.count .getConnStatus =
        host.link.device.count .getConnStatus + 1

theorem joinWith_ends {ssid : String} {how : Credential}
    (budget : 1 ≤ host.link.settings.startBudget.toNat) (fits : (how.request ssid).Fits)
    (size : (how.request ssid).bytes.length ≤ host.link.settings.maxFrameSize.toNat)
    (kept : host.link.device.lossesLeft how.command = 0)
    (within : host.link.device.lossesLeft .getConnStatus + host.link.device.joinLatency <
      host.station.joinAttempts.toNat) :
    ∃ status, JoinEnds host ssid how status := by
  obtain ⟨hlength, -⟩ := how.length_request ssid
  obtain ⟨started, hstation, htold, hrun⟩ :=
    joinWith_told fits ⟨size, Nat.le_trans hlength size, budget, kept⟩
  have hjoining := told_joining htold
  have hsize := htold.size (Nat.le_trans hlength size)
  have hbudget := htold.budget budget
  have hlosses : started.link.device.lossesLeft .getConnStatus =
      host.link.device.lossesLeft .getConnStatus := htold.others _ how.polls_apart
  have hradio (n : Nat) : (afterAsking connectionStatus n started).link.device.radio.status =
      started.link.device.radio.status := by
    rw [(questioned_status hsize n).same, State.iterate_polled]
  rcases Nat.eq_zero_or_pos (host.link.device.lossesLeft .getConnStatus) with hnone | hlost
  · have hawait : awaitJoin started = _ := awaitJoin_kept hsize hbudget (hlosses.trans hnone)
    rw [hstation, hjoining.pending, if_pos (by omega)] at hawait
    rw [hawait] at hrun
    refine ⟨started.link.device.radio.status, hjoining.verdict, ?_, fun _ => ?_,
      fun hlost => absurd hnone (Nat.ne_of_gt hlost)⟩
    · rw [hrun]
      exact hradio _
    · rw [hrun]
  · rw [awaitJoin_lost hsize hbudget (hlosses.symm ▸ hlost) (by rw [hstation]; omega)] at hrun
    refine ⟨started.link.device.radio.status, hjoining.verdict, ?_,
      fun hnone => absurd hnone (Nat.ne_of_gt hlost), fun _ => ?_⟩
    · rw [hrun]
      exact hradio 1
    · rw [hrun]
      refine ⟨rfl, ?_⟩
      rw [count_polled (questioned_status hsize 1), count_told htold]

/-- What lost replies do to polls whose budget is above their number and the latency together. A scan
goes on as if they were pending ones, and finds all that the device reports. A join gives the verdict if
none is lost, and otherwise no module after one query. -/
theorem losses_delay_scan_and_end_join (wide : 252 ≤ host.link.settings.maxFrameSize.toNat)
    (budget : 1 ≤ host.link.settings.startBudget.toNat) :
    let device := host.link.device
    (∀ n, device.Reports n → device.lossesLeft .startScanNetworks = 0 →
      device.lossesLeft .scanNetworks + device.scanLatency < host.station.scanAttempts.toNat →
      ScanWaits host n) ∧
    (∀ ssid how, (Credential.request ssid how).Fits →
      (Credential.request ssid how).bytes.length ≤ host.link.settings.maxFrameSize.toNat →
      device.lossesLeft how.command = 0 →
      device.lossesLeft .getConnStatus + device.joinLatency < host.station.joinAttempts.toNat →
      ∃ status, JoinEnds host ssid how status) := by
  intro device
  refine ⟨fun n h kept within => ?_, fun ssid how fits size kept within => ?_⟩
  · exact scanNetworks_waits wide budget kept within h
  · exact joinWith_ends budget fits size kept within

/-- One reply of each poll gets lost. The scan still finds the network; the join does not wait for it,
although the device has joined. -/
theorem one_loss_delays_scan_and_ends_join :
    let device : State := { State.initial.addNetwork (.unprotected "cafe") with joinLatency := 2 }
    let host : Host Line := Host.new (Link.new { Line.new with
      state := (device.loseReplies .scanNetworks 1).loseReplies .getConnStatus 1 } .standard)
      .standard .standard
    let joined := (joinWith "cafe" .none).run host
    (scanNetworks host).1 = 1 ∧ joined.1 = .ok .noModule ∧
      joined.2.link.device.radio.status = .connected := by
  intro device host joined
  have reports : host.link.device.Reports 1 := by
    refine ⟨⟨by decide, by decide, Frame.fits_iff_size.mpr (by decide)⟩, fun m hm => hm.2.1⟩
  have fits : (Credential.request "cafe" .none).Fits := Frame.fits_iff_size.mpr (by decide)
  obtain ⟨hscan, hjoin⟩ := @losses_delay_scan_and_end_join host (by decide) (by decide)
  obtain ⟨status, hends⟩ := hjoin "cafe" .none fits (by decide) (by decide) (by decide)
  have hfirst : FirstNamed host.link.device.networks "cafe" (.unprotected "cafe") :=
    firstNamed_iff.mpr (by decide)
  have hstatus : status = .connected := hends.verdict.unique (.connected hfirst rfl)
  have hrun : (joinWith "cafe" .none).run host = joined := rfl
  have hlost := (hends.lost (by decide)).1
  have hheld := hends.held
  rw [hrun] at hlost hheld
  exact ⟨(hscan 1 reports (by decide) (by decide)).found, hlost, hheld.trans hstatus⟩

/-- The first status of a join gets lost, so it does not give the verdict that the device holds, though
one more query would have brought it. -/
theorem joinWith_ends_at_lost_reply :
    let host : Host Line := Host.new (Link.new { Line.new with
      state := (State.initial.addNetwork (.unprotected "cafe")).loseReplies .getConnStatus 1 }
      .standard) .standard .standard
    let outcome := (joinWith "cafe" .none).run host
    host.link.device.lossesLeft .getConnStatus + host.link.device.joinLatency <
        host.station.joinAttempts.toNat ∧
      outcome.2.link.device.radio.status = .connected ∧
      (connectionStatus outcome.2).1 = .connected ∧ outcome.1 ≠ .ok .connected := by
  decide +kernel

end Host

end SpiWifi
