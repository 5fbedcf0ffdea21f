import SpiWifi.Proofs.Station.Inquiries
import SpiWifi.Proofs.Station.Names

/-!
# Scanning for the networks of the emulated device

A scan is a request to start, and then a poll for names. Every query that is heard replaces the list of
names, with nothing while the scan is pending; one that is not heard leaves the list. The poll ends with
the first names, so what the scan gives is the number of the names that are remembered, and they stand in
the order of the device's table. The details of a network are asked for by its place in that order.
-/

namespace SpiWifi

open Device

theorem take_stored_replicate (s : Slot) {k : Nat} {ps : List Bytes} (h : ps.length ≤ k) :
    (stored (List.replicate k s) ps).take ps.length = ps.map (Slot.holding s.capacity) := by
  induction ps generalizing k with
  | nil => rfl
  | cons p ps ih =>
    obtain ⟨k, rfl⟩ := Nat.exists_eq_add_of_le' (Nat.le_trans (Nat.succ_le_succ (Nat.zero_le _)) h)
    have hrest : ps.length ≤ k := by simpa using h
    rw [List.replicate_succ, stored, List.length_cons, List.take_succ_cons, ih hrest, List.map_cons]

/-- The slots show the names of the networks that were listed. -/
theorem text_nameSlots {ns : List AccessPoint} (h : ns.length ≤ networksMax) :
    ((stored (nameSlots.map Slot.clear) (scanReply ns).params).take
        (min (scanReply ns).params.length nameSlots.length)).map Slot.text =
      ns.map AccessPoint.shownName := by
  have hparams : (scanReply ns).params = ns.map fun n => Text.Utf8.encode n.ssid := rfl
  have hlength : (ns.map fun n => Text.Utf8.encode n.ssid).length = ns.length := List.length_map _
  have hslots : nameSlots.map Slot.clear = List.replicate networksMax (Slot.forValue ssidMax) := by
    decide
  have hmin : min ns.length nameSlots.length = ns.length := Nat.min_eq_left h
  rw [hparams, hslots, hlength, hmin, ← hlength, take_stored_replicate _ (hlength.trans_le h)]
  simp only [List.map_map]
  refine List.map_congr_left fun n _ => ?_
  exact Slot.text_holding ssidMax _

namespace Host

section
variable {host : Host Line} {n : Nat}

theorem scanQuery_fits : (Frame.command .scanNetworks).Fits :=
  Frame.fits_of_short (Nat.zero_le _) fun _ hp => absurd hp List.not_mem_nil

theorem link_fetchScanResults (host : Host Line) :
    (fetchScanResults.run host).2.link =
      ((Link.request (Frame.command .scanNetworks) nameSlots).run host.link).2 := by
  rw [← Link.link_call, run_fetchScanResults]
  rcases (Link.call (Frame.command .scanNetworks) nameSlots).run host.link with
    ⟨e | ⟨count, slots⟩, link⟩ <;> rfl

theorem fetchScanResults_question (host : Host Line)
    (size : 4 ≤ host.link.settings.maxFrameSize.toNat) :
    Link.Questioned .scanNetworks State.scanned 1 host.link (fetchScanResults.run host).2.link := by
  obtain ⟨n, hn, -⟩ := host.link.device.exists_reports
  rw [link_fetchScanResults]
  exact Link.questioned_of_request State.scanned ⟨rfl, rfl⟩ scanQuery_fits size
    (State.run_serve_scan hn _) (State.listed_fits hn) _

/-- A query that is heard gives the number of networks listed, and their names are remembered. -/
theorem fetchScanResults_heard (h : host.link.device.Reports n)
    (carries : host.link.Carries .scanNetworks 4 252) :
    let listed := host.link.device.listed n
    (fetchScanResults.run host).1 = .ok listed.length ∧
      (fetchScanResults.run host).2.memory.networks = listed.map AccessPoint.shownName := by
  intro listed
  have hten : listed.length ≤ networksMax := by
    simp only [listed, State.listed]
    split
    · exact Nat.le_trans (List.length_take_le _ _) h.1.1
    · exact Nat.zero_le _
  have hfits : (scanReply listed).Fits := State.listed_fits h
  have hall : host.link.Carries .scanNetworks (Frame.command .scanNetworks).bytes.length
      (scanReply listed).bytes.length :=
    ⟨carries.asks, Nat.le_trans hfits.length_bytes_le carries.answers, carries.budget, carries.kept⟩
  have hcall := (Link.call_outcome ⟨rfl, rfl⟩ scanQuery_fits (State.run_serve_scan h _) hfits
    nameSlots).run hall
  have hcount : min (scanReply listed).params.length nameSlots.length = listed.length := by
    have hlength : (scanReply listed).params.length = listed.length := List.length_map _
    rw [hlength]
    exact Nat.min_eq_left hten
  rw [run_fetchScanResults, hcall]
  exact ⟨congrArg Except.ok hcount, text_nameSlots hten⟩

/-- A query that is not heard leaves the names. -/
theorem fetchScanResults_unheard (lost : 0 < host.link.device.lossesLeft .scanNetworks) :
    (∃ e, (fetchScanResults.run host).1 = .error e) ∧
      (fetchScanResults.run host).2.memory = host.memory := by
  obtain ⟨n, hn, -⟩ := host.link.device.exists_reports
  have hcall := Link.call_outcome (l := host.link) ⟨rfl, rfl⟩ scanQuery_fits
    (State.run_serve_scan hn _) (State.listed_fits hn) nameSlots
  obtain ⟨e, he⟩ := hcall.failed fun carries => absurd carries.kept (Nat.ne_of_gt lost)
  rw [run_fetchScanResults]
  rcases hrun : (Link.call (Frame.command .scanNetworks) nameSlots).run host.link with ⟨answer, link⟩
  rw [hrun] at he
  obtain rfl : answer = .error e := he
  exact ⟨⟨_, rfl⟩, rfl⟩

end

section
variable {host : Host Line} (wide : 252 ≤ host.link.settings.maxFrameSize.toNat)

include wide in
theorem questioned_fetch (m : Nat) :
    Link.Questioned .scanNetworks State.scanned m host.link
      (afterAsking fetchScanResults.run m host).link :=
  questioned_afterAsking State.scanned_ignoresLosses
    (fun host => fetchScanResults_question host) (Nat.le_trans (Nat.le_of_ble_eq_true rfl) wide) m

theorem count_scanned {m : Nat} {l l' : Link Line}
    (h : Link.Questioned .scanNetworks State.scanned m l l') :
    l'.device.count .scanNetworks = l.device.count .scanNetworks + m := by
  rw [h.same, State.iterate_scanned]
  simp only [State.count, List.count_append, List.count_replicate_self]
  omega

include wide

/-- As long as replies get lost nothing is heard, and the names stay. -/
theorem answerAt_unheard {m : Nat} (lost : m < host.link.device.lossesLeft .scanNetworks) :
    (∃ e, answerAt fetchScanResults.run m host = .error e) ∧
      (afterAsking fetchScanResults.run (m + 1) host).memory = host.memory := by
  induction m with
  | zero => exact fetchScanResults_unheard lost
  | succ m ih =>
    obtain ⟨-, hmemory⟩ := ih (by omega)
    have hasked := questioned_fetch wide (m + 1)
    obtain ⟨herror, hsame⟩ := @fetchScanResults_unheard
      (afterAsking fetchScanResults.run (m + 1) host) (by rw [hasked.losses]; omega)
    refine ⟨herror, ?_⟩
    rw [afterAsking_succ, ← hmemory]
    exact hsame

variable (budget : 1 ≤ host.link.settings.startBudget.toNat) {n : Nat}
  (h : host.link.device.Reports n)
include budget h

/-- After that the host hears of nothing as long as the scan is pending, and then of all that is
reported. -/
theorem answerAt_heard {m : Nat} (kept : host.link.device.lossesLeft .scanNetworks ≤ m) :
    let found := if host.link.device.scanPending ≤ m then n else 0
    answerAt fetchScanResults.run m host = .ok found ∧
      (afterAsking fetchScanResults.run (m + 1) host).memory.networks =
        (host.link.device.networks.take found).map AccessPoint.shownName := by
  intro found
  have hasked := questioned_fetch wide m
  have hcarries : (afterAsking fetchScanResults.run m host).link.Carries .scanNetworks 4 252 :=
    (hasked.carries_iff (by omega) wide budget).mpr kept
  have hreports : (afterAsking fetchScanResults.run m host).link.device.Reports n := by
    refine h.of_networks ?_
    rw [hasked.same, State.iterate_scanned]
  have hlisted : (afterAsking fetchScanResults.run m host).link.device.listed n =
      host.link.device.networks.take found := by
    rw [hasked.same, State.iterate_scanned]
    simp only [State.listed, Nat.sub_eq_zero_iff_le, found]
    split
    · rfl
    · rfl
  have hlength : (host.link.device.networks.take found).length = found := by
    have hn := h.1.2.1
    rw [List.length_take]
    simp only [found]
    split <;> omega
  obtain ⟨hvalue, hmemory⟩ := fetchScanResults_heard hreports hcarries
  rw [hlisted] at hvalue hmemory
  rw [hlength] at hvalue
  rw [afterAsking_succ]
  exact ⟨hvalue, hmemory⟩

/-- So the first answer that is waited for comes with the first query that is heard after the scan. -/
theorem foundAnswer_fetch (j : Nat) :
    foundAnswer (answerAt fetchScanResults.run j host) =
      if max (host.link.device.lossesLeft .scanNetworks) host.link.device.scanPending ≤ j ∧ 0 < n then
        some n
      else none := by
  by_cases hkept : host.link.device.lossesLeft .scanNetworks ≤ j
  · obtain ⟨hvalue, -⟩ := answerAt_heard wide budget h hkept
    rw [hvalue]
    by_cases hpending : host.link.device.scanPending ≤ j
    · rw [if_pos hpending]
      cases n with
      | zero => rw [if_neg (by omega)]; rfl
      | succ n => rw [if_pos (by omega)]; rfl
    · rw [if_neg hpending, if_neg (by omega)]
      rfl
  · obtain ⟨⟨e, he⟩, -⟩ := answerAt_unheard wide (Nat.lt_of_not_le hkept)
    rw [he, if_neg (by omega)]
    rfl

/-- A poll for names, of which some answers may get lost. -/
theorem pollNames (attempts : Nat) :
    let first := max (host.link.device.lossesLeft .scanNetworks) host.link.device.scanPending
    let found := if first < attempts then n else 0
    let queries := if first < attempts ∧ 0 < n then first + 1 else attempts
    let poll := pollFor fetchScanResults.run foundAnswer attempts host
    poll.1.getD 0 = found ∧ poll.2 = afterAsking fetchScanResults.run queries host ∧
      (host.link.device.lossesLeft .scanNetworks < attempts → poll.2.memory.networks =
        (host.link.device.networks.take found).map AccessPoint.shownName) := by
  intro first found queries poll
  have hpoll : poll = (if first < attempts ∧ 0 < n then some n else none,
      afterAsking fetchScanResults.run queries host) := by
    by_cases hfound : first < attempts ∧ 0 < n
    · have hnames := foundAnswer_fetch wide budget h first
      rw [if_pos ⟨Nat.le_refl _, hfound.2⟩] at hnames
      rw [if_pos hfound, show queries = first + 1 from if_pos hfound]
      refine pollFor_of_found hfound.1 hnames fun j hj => ?_
      rw [foundAnswer_fetch wide budget h j, if_neg (by omega)]
    · rw [if_neg hfound, show queries = attempts from if_neg hfound]
      refine pollFor_of_missed fun j hj => ?_
      rw [foundAnswer_fetch wide budget h j, if_neg (by omega)]
  rw [hpoll]
  refine ⟨?_, rfl, fun hkept => ?_⟩
  · simp only [found]
    split
    · next hfound => rw [if_pos hfound.1]; rfl
    · split
      · exact (Nat.eq_zero_of_not_pos (by omega)).symm
      · rfl
  · obtain ⟨m, hm⟩ : ∃ m, queries = m + 1 :=
      Nat.exists_eq_add_of_le' (by simp only [queries]; split <;> omega)
    have hheard : host.link.device.lossesLeft .scanNetworks ≤ m := by
      simp only [queries] at hm
      split at hm <;> omega
    have hlast : (if host.link.device.scanPending ≤ m then n else 0) = found := by
      simp only [queries] at hm
      simp only [found]
      split at hm <;> split <;> split <;> omega
    obtain ⟨-, hmemory⟩ := answerAt_heard wide budget h hheard
    rw [hlast] at hmemory
    rw [hm]
    exact hmemory

end

/-- What a request to scan makes of the device. -/
def scanStarted (s : State) : State :=
  { s with scanPending := s.scanLatency, received := .startScanNetworks :: s.received }

theorem scanStart_fits : (Frame.command .startScanNetworks).Fits :=
  Frame.fits_of_short (Nat.zero_le _) fun _ hp => absurd hp List.not_mem_nil

theorem scanStart_outcome (l : Link Line) :
    Link.Outcome l .startScanNetworks 4 8 (scanStarted l.device) true
      ((Link.ack (Frame.command .startScanNetworks)).run l) :=
  Link.ack_outcome ⟨rfl, rfl⟩ scanStart_fits rfl

theorem scanStart_question {l : Link Line} (size : 4 ≤ l.settings.maxFrameSize.toNat) :
    Link.Questioned .startScanNetworks scanStarted 1 l
      ((Link.ack (Frame.command .startScanNetworks)).run l).2 := by
  rw [Link.ack, Link.run_map fun answer => answer == some ackByte, Link.readU8, Link.link_readValue]
  exact Link.questioned_of_request scanStarted ⟨rfl, rfl⟩ scanStart_fits size rfl
    (Link.fits_short_reply _ (Nat.le_of_ble_eq_true rfl)) _

section
variable {host : Host Line} (wide : 252 ≤ host.link.settings.maxFrameSize.toNat)
  (budget : 1 ≤ host.link.settings.startBudget.toNat)
  (kept : host.link.device.lossesLeft .startScanNetworks = 0)
include wide budget kept

/-- A scan is started if the answer to the request gets through. -/
theorem startScan_started : ∃ started : Host Line, started.station = host.station ∧
    Link.Questioned .startScanNetworks scanStarted 1 host.link started.link ∧
    startScan.run host = (.ok true, started) := by
  have carries : host.link.Carries .startScanNetworks 4 8 := ⟨by omega, by omega, budget, kept⟩
  exact ⟨{ host with link := ((Link.ack (Frame.command .startScanNetworks)).run host.link).2 }, rfl,
    scanStart_question carries.asks, run_ask_of_ok ((scanStart_outcome host.link).run carries)⟩

end

/-- What a scan that was started comes to on a device that reports so many networks, whichever answers
of it get lost. -/
structure ScanOutcome (host : Host Line) (n : Nat) (outcome : Nat × Host Line) : Prop where
  found : outcome.1 =
    if max (host.link.device.lossesLeft .scanNetworks) host.link.device.scanLatency <
      host.station.scanAttempts.toNat then n else 0
  count : outcome.2.link.device.count .scanNetworks = host.link.device.count .scanNetworks +
    if max (host.link.device.lossesLeft .scanNetworks) host.link.device.scanLatency <
        host.station.scanAttempts.toNat ∧ 0 < n then
      max (host.link.device.lossesLeft .scanNetworks) host.link.device.scanLatency + 1
    else host.station.scanAttempts.toNat
  remembered : host.link.device.lossesLeft .scanNetworks < host.station.scanAttempts.toNat →
    outcome.2.memory.networks =
      (host.link.device.networks.take outcome.1).map AccessPoint.shownName
  networks : outcome.2.link.device.networks = host.link.device.networks
  faithful : ∀ size, host.link.Faithful size → outcome.2.link.Faithful size

/-- A scan on a device whose answer to the start gets through. -/
theorem scanNetworks_started {host : Host Line} (wide : 252 ≤ host.link.settings.maxFrameSize.toNat)
    (budget : 1 ≤ host.link.settings.startBudget.toNat)
    (kept : host.link.device.lossesLeft .startScanNetworks = 0) {n : Nat}
    (h : host.link.device.Reports n) : ScanOutcome host n (scanNetworks host) := by
  obtain ⟨started, hstation, hstarted, hrun⟩ := startScan_started wide budget kept
  have hlosses : started.link.device.lossesLeft .scanNetworks = host.link.device.lossesLeft .scanNetworks :=
    hstarted.others _ (by decide)
  have hpending : started.link.device.scanPending = host.link.device.scanLatency := by
    rw [hstarted.same]
    rfl
  have hnetworks : started.link.device.networks = host.link.device.networks := by
    rw [hstarted.same]
    rfl
  have hcount : started.link.device.count .scanNetworks =
      host.link.device.count .scanNetworks := by
    rw [hstarted.same]
    exact List.count_cons_of_ne (by decide)
  have hwide := hstarted.size wide
  obtain ⟨hfound, hafter, hmemory⟩ := pollNames hwide (hstarted.budget budget) (h.of_networks hnetworks)
    host.station.scanAttempts.toNat
  have hscan : scanNetworks host =
      ((pollFor fetchScanResults.run foundAnswer host.station.scanAttempts.toNat started).1.getD 0,
        (pollFor fetchScanResults.run foundAnswer host.station.scanAttempts.toNat started).2) := by
    rw [scanNetworks_eq, hrun, ← hstation]
  have hasked := questioned_fetch hwide
    (if max (started.link.device.lossesLeft .scanNetworks) started.link.device.scanPending <
      host.station.scanAttempts.toNat ∧ 0 < n then
      max (started.link.device.lossesLeft .scanNetworks) started.link.device.scanPending + 1
    else host.station.scanAttempts.toNat)
  rw [← hafter] at hasked
  rw [hscan]
  constructor
  case found =>
    dsimp only
    rw [hfound, ← hlosses, ← hpending]
  case count =>
    dsimp only
    rw [count_scanned hasked, ← hcount, ← hlosses, ← hpending]
  case remembered =>
    intro hkept
    dsimp only
    rw [hmemory (by rw [← hlosses] at hkept; exact hkept), hfound, ← hnetworks]
  case networks =>
    dsimp only
    rw [hasked.same, State.iterate_scanned]
    exact hnetworks
  case faithful =>
    intro size hfaithful
    exact (hfaithful.questioned hstarted).questioned hasked

end Host

end SpiWifi
