import SpiWifi.Proofs.Station.Scanning

/-!
# The details of the networks that a scan found

The host remembers the names alone. It asks for signal strength, protection, address and channel of each
network by the place of its name, with four questions that leave the device as it was. The names are a
prefix of the device's table, so each place means the same network on both sides, and what the host puts
together belongs together.
-/

namespace SpiWifi

open Device

def Device.AccessPoint.entry (n : AccessPoint) : ScanEntry where
  ssid := n.shownName
  rssi := n.rssi
  encryption := .ofRaw n.encryption
  bssid := formatMac n.bssid
  channel := n.channel

namespace Host

/-- The device answers everything, and this is its table of networks. -/
structure Lists (networks : List AccessPoint) (host : Host Line) : Prop where
  faithful : host.link.Faithful 12
  networks : host.link.device.networks = networks

section
variable {networks : List AccessPoint} {host : Host Line} {n : AccessPoint} {b : UInt8}

theorem Learns.run {c : Command} {α : Type} {a : α} {outcome : Except NetError α × Host Line}
    (h : Learns c host a outcome) : outcome = (.ok a, outcome.2) := Prod.ext h.value rfl

/-- What the host learns leaves the table. -/
theorem Lists.learned (h : Lists networks host) {c : Command} {α : Type} {a : α}
    {outcome : Except NetError α × Host Line} (learned : Learns c host a outcome) :
    Lists networks outcome.2 where
  faithful := h.faithful.questioned learned.asked
  networks := by
    rw [learned.asked.same]
    exact h.networks

variable (h : Lists networks host) (hn : networks[b.toNat]? = some n)
include h hn

theorem Lists.details (six : n.bssid.length = macLength) :
    Learns .getIdxRssi host n.rssi ((rssi b).run host) ∧
    Learns .getIdxEnct host (.ofRaw n.encryption) ((encryption b).run host) ∧
    Learns .getIdxBssid host n.bssid ((bssid b).run host) ∧
    Learns .getIdxChannel host n.channel ((channel b).run host) := by
  have hplace : host.link.device.networks[b.toNat]? = some n := by
    rw [h.networks]
    exact hn
  obtain ⟨hstrength, hprotection, haddress, hchannel⟩ := tells_indexed hplace
  exact ⟨readSigned_learns h.faithful hstrength,
    (readByte_learns h.faithful hprotection).map Encryption.ofRaw,
    readAddress_learns h.faithful haddress six, readByte_learns h.faithful hchannel⟩

/-- The four questions about one network. -/
theorem scanEntry_run (six : n.bssid.length = macLength) (name : String) :
    ∃ after, (scanEntry b name).run host = (.ok { n.entry with ssid := name }, after) ∧
      Lists networks after := by
  obtain ⟨hstrength, -, -, -⟩ := h.details hn six
  have h₁ := h.learned hstrength
  obtain ⟨-, hprotection, -, -⟩ := h₁.details hn six
  have h₂ := h₁.learned hprotection
  obtain ⟨-, -, haddress, -⟩ := h₂.details hn six
  have h₃ := h₂.learned haddress
  obtain ⟨-, -, -, hchannel⟩ := h₃.details hn six
  refine ⟨_, ?_, h₃.learned hchannel⟩
  unfold scanEntry
  rw [run_bind, hstrength.run]
  dsimp only
  rw [run_bind, hprotection.run]
  dsimp only
  rw [run_bind, haddress.run]
  dsimp only
  rw [run_bind, hchannel.run]
  rfl

end

/-- Names that stand in the table from some place on are completed to the entries of their networks. -/
theorem entriesFrom_run {networks ns : List AccessPoint} {host : Host Line} {i : Nat}
    (h : Lists networks host) (small : i + ns.length ≤ 256)
    (places : ∀ j, j < ns.length → networks[i + j]? = ns[j]?)
    (six : ∀ n ∈ ns, n.bssid.length = macLength) :
    ((entriesFrom i (ns.map AccessPoint.shownName)).run host).1 =
      .ok (ns.map AccessPoint.entry) := by
  induction ns generalizing i host with
  | nil => rfl
  | cons n ns ih =>
    rw [List.length_cons] at small places
    rw [List.forall_mem_cons] at six
    have hbyte : (UInt8.ofNat i).toNat = i := by
      rw [UInt8.toNat_ofNat']
      omega
    have hplace : networks[(UInt8.ofNat i).toNat]? = some n := by
      rw [hbyte]
      exact places 0 (Nat.succ_pos _)
    obtain ⟨after, hentry, hafter⟩ := scanEntry_run h hplace six.1 n.shownName
    have hrest := ih hafter (i := i + 1) (by omega) (fun j hj => by
      rw [Nat.add_assoc, Nat.add_comm 1 j]
      exact places (j + 1) (Nat.succ_lt_succ hj)) six.2
    rw [List.map_cons, entriesFrom, run_bind, hentry]
    dsimp only
    rw [run_bind]
    rcases hrun : (entriesFrom (i + 1) (ns.map AccessPoint.shownName)).run after with
      ⟨e | entries, last⟩
    · rw [hrun] at hrest
      cases hrest
    · rw [hrun] at hrest
      cases hrest
      rfl

/-- A scan that ends within its budget finds the longest prefix of the first ten networks whose names
fit one reply; its names are remembered in order, and the details of each are those of the network at
its place in the device's table. -/
theorem scanNetworks_complete {host : Host Line} (faithful : host.link.Faithful 252)
    (asks : 1 ≤ host.station.scanAttempts.toNat)
    (addresses : ∀ n ∈ host.link.device.networks, n.bssid.length = macLength) :
    let device := host.link.device
    let attempts := host.station.scanAttempts.toNat
    let outcome := scanNetworks host
    ∃ n, IsGreatest {m | m ≤ networksMax ∧ m ≤ device.networks.length ∧
        (scanReply (device.networks.take m)).Fits} n ∧
      (0 < n ↔ ∃ first, device.networks.head? = some first ∧ (scanReply [first]).Fits) ∧
      outcome.1 = (if device.scanLatency < attempts then n else 0) ∧
      outcome.2.link.device.count .scanNetworks = device.count .scanNetworks +
        (if device.scanLatency < attempts ∧ 0 < n then device.scanLatency + 1 else attempts) ∧
      outcome.2.memory.networks = (device.networks.take outcome.1).map AccessPoint.shownName ∧
      (scanEntries.run outcome.2).1 =
        .ok ((device.networks.take outcome.1).map AccessPoint.entry) := by
  intro device attempts outcome
  obtain ⟨n, hn, -⟩ := device.exists_reports
  have hscan : ScanOutcome host n outcome :=
    scanNetworks_started faithful.size faithful.budget (faithful.kept _) hn
  have hfirst : max (host.link.device.lossesLeft .scanNetworks) host.link.device.scanLatency =
      device.scanLatency := by
    rw [faithful.kept]
    exact Nat.zero_max _
  have hfound := hscan.found
  have hcount := hscan.count
  rw [hfirst] at hfound hcount
  have hmemory := hscan.remembered (by rw [faithful.kept]; exact asks)
  refine ⟨n, hn, hn.pos_iff, hfound, hcount, hmemory, ?_⟩
  have hlists : Lists device.networks outcome.2 :=
    ⟨(hscan.faithful 252 faithful).smaller (Nat.le_of_ble_eq_true rfl), hscan.networks⟩
  have hten : outcome.1 ≤ networksMax := by
    rw [hfound]
    split
    · exact hn.1.1
    · exact Nat.zero_le _
  have small : 0 + (device.networks.take outcome.1).length ≤ 256 := by
    rw [List.length_take]
    simp only [networksMax] at hten
    omega
  have places : ∀ j, j < (device.networks.take outcome.1).length →
      device.networks[0 + j]? = (device.networks.take outcome.1)[j]? := by
    intro j hj
    rw [List.length_take] at hj
    rw [Nat.zero_add, List.getElem?_take_of_lt (by omega)]
  have hentries := entriesFrom_run hlists small places
    fun m hm => addresses m (List.mem_of_mem_take hm)
  rw [← hmemory] at hentries
  exact hentries

/-- A scan that is cut short by the names: the second takes most of the reply, though the host shows only
the beginning of it, and the third does not fit any more. -/
theorem scanNetworks_complete_for_long_name :
    let long : AccessPoint := .unprotected (String.ofList (List.replicate 240 'x'))
    let device : State :=
      { ((State.initial.addNetwork (.secured "cafe" "open sesame")).addNetwork long).addNetwork
          (.unprotected "annex") with scanLatency := 3 }
    let host : Host Line :=
      Host.new (Link.new { Line.new with state := device } .standard) .standard .standard
    let outcome := scanNetworks host
    outcome.1 = 2 ∧ outcome.2.link.device.count .scanNetworks = 4 ∧
      outcome.2.memory.networks = ["cafe", String.ofList (List.replicate 32 'x')] ∧
      (scanEntries.run outcome.2).1 =
        .ok [(AccessPoint.secured "cafe" "open sesame").entry, long.entry] := by
  intro long device host outcome
  have faithful : host.link.Faithful 252 := ⟨by decide, by decide, fun _ => rfl⟩
  have addresses : ∀ n ∈ host.link.device.networks, n.bssid.length = macLength := by
    intro n hn
    have hn : n ∈ [AccessPoint.secured "cafe" "open sesame", long, .unprotected "annex"] := hn
    simp only [List.mem_cons, List.not_mem_nil, or_false] at hn
    rcases hn with rfl | rfl | rfl <;> exact AccessPoint.length_bssidOf _
  obtain ⟨n, ⟨⟨-, hlength, hfits⟩, hgreatest⟩, -, hfound, hcount, hmemory, hentries⟩ :=
    scanNetworks_complete faithful (by decide) addresses
  have hboth : 2 ≤ n := hgreatest ⟨by decide, by decide, Frame.fits_iff_size.mpr (by decide +kernel)⟩
  have hthird : n ≠ 3 := by
    rintro rfl
    exact absurd (Frame.fits_iff_size.mp hfits) (by decide +kernel)
  obtain rfl : n = 2 := by
    have hlength : n ≤ 3 := hlength
    omega
  have hrun : scanNetworks host = outcome := rfl
  have hqueries : host.link.device.count .scanNetworks +
      (if host.link.device.scanLatency < host.station.scanAttempts.toNat ∧ 0 < 2 then
        host.link.device.scanLatency + 1 else host.station.scanAttempts.toNat) = 4 := by decide
  have htwo : (if host.link.device.scanLatency < host.station.scanAttempts.toNat then 2 else 0) = 2 :=
    by decide
  have hnames : [AccessPoint.secured "cafe" "open sesame", long].map AccessPoint.shownName =
      ["cafe", String.ofList (List.replicate 32 'x')] := by decide +kernel
  have htable : host.link.device.networks.take 2 =
      [AccessPoint.secured "cafe" "open sesame", long] := rfl
  rw [htwo] at hfound
  rw [hqueries, hrun] at hcount
  rw [hfound, htable, hrun] at hmemory hentries
  rw [hnames] at hmemory
  exact ⟨hfound, hcount, hmemory, hentries⟩

end Host

end SpiWifi
