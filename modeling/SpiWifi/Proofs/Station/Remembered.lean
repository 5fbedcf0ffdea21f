import SpiWifi.Proofs.Socket.Conversation
import SpiWifi.Proofs.Socket.Fetching
import SpiWifi.Proofs.Station.Scanning

/-!
# The names that a host remembers

A scan gives a number, and the host remembers names. Every query that is heard sets both, so they agree
as soon as one is heard. A scan of which nothing is heard, be it that its start was not acknowledged or
that no list of names arrived within the budget, finds nothing and leaves the names of the scan before
it; then they agree just if there were none.
-/

namespace SpiWifi

open Device

theorem ReplyReader.count_le_of_parse {r : ReplyReader} {slots : List Slot} {bytes : Bytes} {n : Nat}
    (h : (r.parse slots bytes).result = .ok n) : n ≤ (r.parse slots bytes).slots.length := by
  have hlength := congrArg List.length (r.capacities_parse slots bytes)
  rw [List.length_map, List.length_map] at hlength
  rw [hlength]
  unfold parse at h
  dsimp only at h
  split at h
  · cases h
  · split at h
    · cases h
    · split at h
      · cases h
      · cases h
        exact Nat.min_le_right _ _

namespace Link

variable {τ : Type} [Transport τ]

theorem count_le_of_readReply {settings : LinkSettings} {opcode : UInt8} {width : Width}
    {slots filled : List Slot} {rx : Bytes} {reply : Reply}
    (h : readReply settings opcode width slots rx = (.ok reply, filled)) :
    reply.count ≤ filled.length := by
  simp only [readReply] at h
  split at h
  · cases h
  · next n hn =>
    cases h
    exact ReplyReader.count_le_of_parse hn

theorem count_le_of_call {f : Frame} {slots filled : List Slot} {l l' : Link τ} {count : Nat}
    (h : (call f slots).run l = (.ok (count, filled), l')) : count ≤ filled.length := by
  rw [run_call, run_request] at h
  rcases hsend : (send f).run l with ⟨e | _, sent⟩
  · rw [hsend] at h
    cases h
  · rw [hsend] at h
    dsimp only at h
    rw [run_receive] at h
    rcases hfetch : (fetch (sent.settings.replySize sent.settings.maxFrameSize.toNat)).run sent with
      ⟨e | rx, fetched⟩
    · rw [hfetch] at h
      cases h
    · rw [hfetch] at h
      dsimp only at h
      rcases hread : readReply sent.settings f.opcode (replyWidth f) slots rx with ⟨e | reply, read⟩
      · rw [hread] at h
        cases h
      · rw [hread] at h
        cases h
        exact count_le_of_readReply hread

end Link

namespace Host

variable {τ : Type} [Transport τ] {host after : Host τ}

theorem networks_of_fetch {n : Nat} (h : fetchScanResults.run host = (.ok n, after)) :
    after.memory.networks.length = n := by
  rw [run_fetchScanResults] at h
  rcases hcall : (Link.call (Frame.command .scanNetworks) nameSlots).run host.link with
    ⟨e | ⟨count, slots⟩, link⟩
  · rw [hcall] at h
    cases h
  · rw [hcall] at h
    cases h
    have hle := Link.count_le_of_call hcall
    dsimp only
    rw [List.length_map, List.length_take, Nat.min_eq_left hle]

theorem memory_of_fetch_error {e : NetError} (h : fetchScanResults.run host = (.error e, after)) :
    after.memory = host.memory := by
  rw [run_fetchScanResults] at h
  rcases hcall : (Link.call (Frame.command .scanNetworks) nameSlots).run host.link with
    ⟨e | ⟨count, slots⟩, link⟩
  · rw [hcall] at h
    cases h
    rfl
  · rw [hcall] at h
    cases h

theorem foundAnswer_some {answer : Except NetError Nat} {n : Nat} (h : foundAnswer answer = some n) :
    answer = .ok n := by
  unfold foundAnswer at h
  split at h
  · cases h
  · cases h
    rfl
  · cases h

theorem foundAnswer_none {answer : Except NetError Nat} (h : foundAnswer answer = none) :
    answer = .ok 0 ∨ ∃ e, answer = .error e := by
  unfold foundAnswer at h
  split at h
  · exact Or.inl rfl
  · cases h
  · next e => exact Or.inr ⟨e, rfl⟩

/-- Of queries that find nothing, one that is heard clears the names; if none is, the names stay. -/
theorem networks_of_missed {m : Nat}
    (missed : ∀ j, j < m → foundAnswer (answerAt fetchScanResults.run j host) = none) :
    ((∃ j, j < m ∧ answerAt fetchScanResults.run j host = .ok 0) ∧
      (afterAsking fetchScanResults.run m host).memory.networks = []) ∨
    ((∀ j, j < m → ∃ e, answerAt fetchScanResults.run j host = .error e) ∧
      (afterAsking fetchScanResults.run m host).memory = host.memory) := by
  induction m with
  | zero => exact Or.inr ⟨fun j hj => absurd hj (Nat.not_lt_zero j), rfl⟩
  | succ m ih =>
    have hasked : fetchScanResults.run (afterAsking fetchScanResults.run m host) =
        (answerAt fetchScanResults.run m host, afterAsking fetchScanResults.run (m + 1) host) :=
      Prod.ext rfl (afterAsking_succ _ m host).symm
    rcases foundAnswer_none (missed m (Nat.lt_succ_self m)) with hnone | ⟨e, he⟩
    · rw [hnone] at hasked
      exact Or.inl ⟨⟨m, Nat.lt_succ_self m, hnone⟩,
        List.length_eq_zero_iff.mp (networks_of_fetch hasked)⟩
    · rw [he] at hasked
      have hsame := memory_of_fetch_error hasked
      rcases ih fun j hj => missed j (Nat.lt_succ_of_lt hj) with
        ⟨⟨j, hj, hheard⟩, hcleared⟩ | ⟨hnever, hkept⟩
      · exact Or.inl ⟨⟨j, Nat.lt_succ_of_lt hj, hheard⟩, by rw [hsame]; exact hcleared⟩
      · refine Or.inr ⟨fun j hj => ?_, hsame.trans hkept⟩
        rcases Nat.lt_succ_iff_lt_or_eq.mp hj with hlt | rfl
        · exact hnever j hlt
        · exact ⟨e, he⟩

/-- Something is heard of a scan: its start is acknowledged, and a list of names arrives within the
budget. -/
def Heard (host : Host τ) : Prop :=
  ∃ acknowledged started k n, startScan.run host = (.ok acknowledged, started) ∧
    k < host.station.scanAttempts.toNat ∧ answerAt fetchScanResults.run k started = .ok n

/-- The number is that of the names that the host remembers. -/
def Counts (n : Nat) (host : Host τ) : Prop :=
  host.memory.networks.length = n ∧ ∀ i, (host.ssid? i).isSome ↔ i < n

omit [Transport τ] in
theorem counts_iff {n : Nat} : Counts n host ↔ host.memory.networks.length = n := by
  constructor
  · exact And.left
  · rintro rfl
    refine ⟨rfl, fun i => ?_⟩
    simp [ssid?]

/-- The request to start leaves everything but the link as it was. -/
theorem state_startScan {answer : Except NetError Bool} {started : Host τ}
    (h : startScan.run host = (answer, started)) :
    started = { host with
      link := ((Link.ack (Frame.command .startScanNetworks)).run host.link).2 } :=
  (congrArg Prod.snd h).symm.trans (state_ask _ host)

theorem scanNetworks_heard (heard : Heard host) :
    (scanNetworks host).2.memory.networks.length = (scanNetworks host).1 := by
  obtain ⟨acknowledged, started, k, n, hstart, hk, hn⟩ := heard
  have hstation : started.station = host.station := by rw [state_startScan hstart]
  rw [scanNetworks_eq, hstart]
  dsimp only
  rw [hstation]
  rcases pollFor_cases fetchScanResults.run foundAnswer host.station.scanAttempts.toNat started with
    ⟨j, b, -, hfound, -, hpoll⟩ | ⟨hmissed, hpoll⟩
  · rw [hpoll, afterAsking_succ]
    exact networks_of_fetch (Prod.ext (foundAnswer_some hfound) rfl)
  · rw [hpoll]
    rcases networks_of_missed hmissed with ⟨-, hcleared⟩ | ⟨hnever, -⟩
    · rw [hcleared]
      rfl
    · obtain ⟨e, he⟩ := hnever k hk
      cases hn.symm.trans he

theorem scanNetworks_unheard (unheard : ¬ Heard host) :
    (scanNetworks host).1 = 0 ∧ (scanNetworks host).2.memory = host.memory := by
  rcases hstart : startScan.run host with ⟨e | acknowledged, started⟩
  all_goals
    have hmemory : started.memory = host.memory := by rw [state_startScan hstart]
    have hstation : started.station = host.station := by rw [state_startScan hstart]
    rw [scanNetworks_eq, hstart]
    dsimp only
  · exact ⟨rfl, hmemory⟩
  · rw [hstation]
    have hnever (j : Nat) (hj : j < host.station.scanAttempts.toNat) (n : Nat) :
        answerAt fetchScanResults.run j started ≠ .ok n :=
      fun hn => unheard ⟨acknowledged, started, j, n, hstart, hj, hn⟩
    rcases pollFor_cases fetchScanResults.run foundAnswer host.station.scanAttempts.toNat started with
      ⟨j, b, hj, hfound, -, -⟩ | ⟨hmissed, hpoll⟩
    · exact absurd (foundAnswer_some hfound) (hnever j hj b)
    · rw [hpoll]
      rcases networks_of_missed hmissed with ⟨⟨j, hj, hheard⟩, -⟩ | ⟨-, hkept⟩
      · exact absurd hheard (hnever j hj 0)
      · exact ⟨rfl, hkept.trans hmemory⟩

/-- Whatever the transport, the number and the names agree just if something was heard, or there were no
names before. -/
theorem counts_scanNetworks_iff (host : Host τ) :
    Counts (scanNetworks host).1 (scanNetworks host).2 ↔
      host.memory.networks = [] ∨ Heard host := by
  rw [counts_iff]
  by_cases heard : Heard host
  · simp only [scanNetworks_heard heard, heard, or_true]
  · obtain ⟨hzero, hkept⟩ := scanNetworks_unheard heard
    rw [hzero, hkept, List.length_eq_zero_iff]
    simp only [heard, or_false]

end Host

namespace Host

variable {host : Host Line}

/-- A scan is heard of just if the answer to its start gets through, and so does an answer within the
budget. -/
theorem heard_iff (wide : 252 ≤ host.link.settings.maxFrameSize.toNat)
    (budget : 1 ≤ host.link.settings.startBudget.toNat) :
    Heard host ↔ host.link.device.lossesLeft .startScanNetworks = 0 ∧
      host.link.device.lossesLeft .scanNetworks < host.station.scanAttempts.toNat := by
  constructor
  · rintro ⟨acknowledged, started, k, n, hstart, hk, hn⟩
    have hkept : host.link.device.lossesLeft .startScanNetworks = 0 := by
      by_contra hlost
      obtain ⟨e, he⟩ := (scanStart_outcome host.link).failed fun carries => hlost carries.kept
      rw [startScan, run_ask, show (Link.ack (Frame.command .startScanNetworks)).run host.link =
        (.error e, _) from Prod.ext he rfl] at hstart
      cases hstart
    obtain ⟨_, -, hstarted, hrun⟩ := startScan_started wide budget hkept
    cases hrun.symm.trans hstart
    refine ⟨hkept, ?_⟩
    by_contra hmany
    have hlost : k < started.link.device.lossesLeft .scanNetworks := by
      rw [hstarted.others _ (by decide)]
      omega
    obtain ⟨⟨e, he⟩, -⟩ := answerAt_unheard (hstarted.size wide) hlost
    cases hn.symm.trans he
  · rintro ⟨hkept, hfew⟩
    obtain ⟨n, hn, -⟩ := host.link.device.exists_reports
    obtain ⟨started, -, hstarted, hrun⟩ := startScan_started wide budget hkept
    have hreports : started.link.device.Reports n := by
      refine hn.of_networks ?_
      rw [hstarted.same]
      rfl
    have hanswer := answerAt_heard (hstarted.size wide) (hstarted.budget budget) hreports
      (Nat.le_refl _)
    exact ⟨true, started, _, _, hrun, by rw [hstarted.others _ (by decide)]; exact hfew, hanswer.1⟩

/-- After a scan the names that the host remembers are as many as the scan found, unless it remembered
names before and heard nothing of the scan. In that case the scan finds nothing and the names stay. -/
theorem counts_after_scan_iff (wide : 252 ≤ host.link.settings.maxFrameSize.toNat)
    (budget : 1 ≤ host.link.settings.startBudget.toNat) :
    let heard := host.link.device.lossesLeft .startScanNetworks = 0 ∧
      host.link.device.lossesLeft .scanNetworks < host.station.scanAttempts.toNat
    let outcome := scanNetworks host
    (Counts outcome.1 outcome.2 ↔ host.memory.networks = [] ∨ heard) ∧
      (¬ heard → outcome.1 = 0 ∧ outcome.2.memory = host.memory) := by
  intro heard outcome
  have hheard := heard_iff wide budget
  refine ⟨?_, fun hnot => scanNetworks_unheard fun h => hnot (hheard.mp h)⟩
  rw [counts_scanNetworks_iff, hheard]

/-- A first scan finds a network. The answer to the start of a second one gets lost, so that one finds
nothing and the name of the first stays. -/
theorem counts_after_scan_unstarted :
    let host : Host Line := Host.new (Link.new { Line.new with
      state := State.initial.addNetwork (.unprotected "cafe") } .standard) .standard .standard
    let first := scanNetworks host
    let told := first.2.told fun s => s.loseReplies .startScanNetworks 1
    let second := scanNetworks told
    Counts first.1 first.2 ∧ second.1 = 0 ∧ second.2.memory = told.memory := by
  intro host first told second
  have heard : host.link.device.lossesLeft .startScanNetworks = 0 ∧
      host.link.device.lossesLeft .scanNetworks < host.station.scanAttempts.toNat := by
    decide +kernel
  have unheard : ¬ (told.link.device.lossesLeft .startScanNetworks = 0 ∧
      told.link.device.lossesLeft .scanNetworks < told.station.scanAttempts.toNat) := by
    decide +kernel
  have hfirst := (@counts_after_scan_iff host (by decide) (by decide)).1
  have hsecond := (@counts_after_scan_iff told (by decide +kernel) (by decide +kernel)).2
  have hrunFirst : scanNetworks host = first := rfl
  have hrunSecond : scanNetworks told = second := rfl
  rw [hrunFirst] at hfirst
  rw [hrunSecond] at hsecond
  exact ⟨hfirst.mpr (Or.inr heard), hsecond unheard⟩

/-- In that run the number that the second scan gives is not that of the names. -/
theorem scanNetworks_keeps_old_names :
    let host : Host Line := Host.new (Link.new { Line.new with
      state := State.initial.addNetwork (.unprotected "cafe") } .standard) .standard .standard
    let first := scanNetworks host
    let second := scanNetworks (first.2.told fun s => s.loseReplies .startScanNetworks 1)
    first.1 = 1 ∧ second.1 = 0 ∧ second.2.memory.networks = ["cafe"] ∧
      second.2.ssid? 0 = some "cafe" ∧ ¬ Counts second.1 second.2 := by
  intro host first second
  have hruns : first.1 = 1 ∧ second.1 = 0 ∧ second.2.memory.networks = ["cafe"] ∧
      second.2.ssid? 0 = some "cafe" := by decide +kernel
  obtain ⟨hfirst, hsecond, hnames, hname⟩ := hruns
  refine ⟨hfirst, hsecond, hnames, hname, fun hcounts => ?_⟩
  have hlength := hcounts.1
  rw [hnames, hsecond] at hlength
  cases hlength

end Host

end SpiWifi
