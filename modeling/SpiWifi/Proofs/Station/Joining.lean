import SpiWifi.Proofs.Station.Status

/-!
# Joining a network of the emulated device

The device looks for the first network of the name, whatever other networks share it, and compares the
secret. It has the verdict at once, but tells it only after as many queries as its latency says, and
the host asks only as often as its budget says. So a join ends with the verdict if the latency is below
the budget, and idle otherwise. A host that is connected stops asking, as does one that is refused;
one that is told that there is no such network keeps asking, since networks may still appear.
-/

namespace SpiWifi

open Device

namespace Device

/-- The network is the first of that name. -/
def FirstNamed (networks : List AccessPoint) (ssid : String) (n : AccessPoint) : Prop :=
  n.ssid = ssid ∧ ∃ before after, networks = before ++ n :: after ∧ ∀ m ∈ before, m.ssid ≠ ssid

theorem firstNamed_iff {networks : List AccessPoint} {ssid : String} {n : AccessPoint} :
    FirstNamed networks ssid n ↔ networks.find? (fun m => m.ssid == ssid) = some n := by
  rw [List.find?_eq_some_iff_append]
  simp [FirstNamed]

/-- What comes of joining a network by its name with a secret. -/
inductive Verdict (networks : List AccessPoint) (ssid : String) (secret : Option Bytes) :
    StationStatus → Prop where
  | connected {n : AccessPoint} (first : FirstNamed networks ssid n) (same : n.secret = secret) :
    Verdict networks ssid secret .connected
  | refused {n : AccessPoint} (first : FirstNamed networks ssid n) (differs : n.secret ≠ secret) :
    Verdict networks ssid secret .connectFailed
  | unknown (none : ∀ n ∈ networks, n.ssid ≠ ssid) : Verdict networks ssid secret .noSsidAvail

theorem FirstNamed.unique {networks : List AccessPoint} {ssid : String} {n m : AccessPoint}
    (hn : FirstNamed networks ssid n) (hm : FirstNamed networks ssid m) : n = m :=
  Option.some.inj ((firstNamed_iff.mp hn).symm.trans (firstNamed_iff.mp hm))

theorem FirstNamed.mem {networks : List AccessPoint} {ssid : String} {n : AccessPoint}
    (h : FirstNamed networks ssid n) : n ∈ networks := by
  obtain ⟨-, before, after, rfl, -⟩ := h
  simp

theorem Verdict.unique {networks : List AccessPoint} {ssid : String} {secret : Option Bytes}
    {s s' : StationStatus} (h : Verdict networks ssid secret s)
    (h' : Verdict networks ssid secret s') : s = s' := by
  cases h with
  | connected first same =>
    cases h' with
    | connected => rfl
    | refused first' differs => exact absurd same (first.unique first' ▸ differs)
    | unknown none => exact absurd first.1 (none _ first.mem)
  | refused first differs =>
    cases h' with
    | connected first' same => exact absurd same (first'.unique first ▸ differs)
    | refused => rfl
    | unknown none => exact absurd first.1 (none _ first.mem)
  | unknown none =>
    cases h' with
    | connected first same => exact absurd first.1 (none _ first.mem)
    | refused first differs => exact absurd first.1 (none _ first.mem)
    | unknown => rfl

/-- Of the verdicts only a missing network keeps the host asking. -/
theorem Verdict.settled_iff {networks : List AccessPoint} {ssid : String} {secret : Option Bytes}
    {s : StationStatus} (h : Verdict networks ssid secret s) :
    s.isJoining = false ↔ s ≠ .noSsidAvail := by
  cases h <;> decide

namespace State

variable (s : State) (ssid : String) (secret : Option Bytes)

/-- What the device knows after it was told to join. -/
structure Joining (s' : State) : Prop where
  verdict : Verdict s.networks ssid secret s'.radio.status
  pending : s'.radio.pendingPolls = s.joinLatency
  connected : s'.radio.status = .connected →
    ∃ n, FirstNamed s.networks ssid n ∧ s'.radio.network = some n

theorem join_joining : s.Joining ssid secret (s.join ssid secret) := by
  unfold join
  cases hfind : s.networks.find? fun n => n.ssid == ssid with
  | none =>
    have hnone : ∀ n ∈ s.networks, n.ssid ≠ ssid := by simpa using hfind
    exact ⟨.unknown hnone, rfl, nofun⟩
  | some n =>
    have hfirst := firstNamed_iff.mpr hfind
    by_cases hsecret : n.secret = secret
    · simp only [hsecret, if_true]
      exact ⟨.connected hfirst hsecret, rfl, fun _ => ⟨n, hfirst, rfl⟩⟩
    · simp only [hsecret, if_false]
      exact ⟨.refused hfirst hsecret, rfl, nofun⟩

end State

end Device

/-- How a station proves itself to a network. -/
inductive Credential where
  | none
  | passphrase (text : String)
  | key (index : UInt8) (bytes : Bytes)

namespace Credential

/-- What the secret of the network is compared with. -/
def secret : Credential → Option Bytes
  | none => Option.none
  | passphrase text => some (Text.Utf8.encode text)
  | key _ bytes => some bytes

def command : Credential → Command
  | none => .setNet
  | passphrase _ => .setPassphrase
  | key _ _ => .setKey

def add (ssid : String) (f : Frame) : Credential → Frame
  | none => Host.withText f ssid
  | passphrase text => Host.withText (Host.withText f ssid) text
  | key index bytes => ((Host.withText f ssid).withU8 index).withParam bytes

def request (ssid : String) (how : Credential) : Frame := how.add ssid (Frame.command how.command)

variable (ssid : String) (how : Credential)

theorem isRequestFor : IsRequestFor how.command (how.request ssid) := by
  cases how <;> exact ⟨rfl, rfl⟩

theorem polls_apart : Command.getConnStatus ≠ how.command := by
  cases how <;> exact nofun

/-- The name alone makes the frame eight bytes long, and at least as long as a reply that tells it. -/
theorem length_request :
    8 ≤ (how.request ssid).bytes.length ∧
      ((Frame.reply .getCurrSsid).withParam (Text.Utf8.encode ssid)).bytes.length ≤
        (how.request ssid).bytes.length := by
  simp only [Frame.length_bytes, Frame.encodedLength_eq, Frame.headSize]
  cases how <;>
    simp [request, add, command, Host.withText, Command.requestWidth, Command.replyWidth,
      Width.lengthSize] <;>
    omega

theorem fits_name (fits : (how.request ssid).Fits) :
    ((Frame.reply .getCurrSsid).withParam (Text.Utf8.encode ssid)).Fits := by
  rw [Frame.fits_iff_size] at fits ⊢
  cases how <;>
    simp [request, add, command, Host.withText, Command.requestWidth, Command.replyWidth,
      Width.lengthSize] at fits ⊢ <;>
    omega

/-- What the device makes of being told. -/
def told (s : State) : State := (s.recorded how.command).join ssid how.secret

theorem run_serve (s : State) :
    (serve how.command ⟨(how.request ssid).params⟩).run s =
      (some (ack how.command true), s.join ssid how.secret) := by
  have hname (rest : List Bytes) :
      (Params.mk (Text.Utf8.encode ssid :: rest)).text 0 = some ssid :=
    Text.Utf8.decode?_encode ssid
  cases how with
  | none =>
    refine (Serving.run_need_bind (hname []) _ _).trans ?_
    rfl
  | passphrase text =>
    refine (Serving.run_need_bind (hname [Text.Utf8.encode text]) _ _).trans ?_
    rfl
  | key index bytes =>
    refine (Serving.run_need_bind (hname [[index], bytes]) _ _).trans ?_
    rfl

end Credential

namespace Host

def joinWith {τ : Type} [Transport τ] (ssid : String) : Credential → HostM τ StationStatus
  | .none => join ssid
  | .passphrase text => joinWithPassphrase ssid text
  | .key index bytes => joinWithKey ssid index bytes

theorem joinWith_eq {τ : Type} [Transport τ] (ssid : String) (how : Credential) :
    (joinWith ssid how : HostM τ StationStatus) =
      joinBy (expectAck how.command fun f => how.add ssid f) := by
  cases how <;> rfl

variable {ssid : String} {how : Credential} {host : Host Line}

/-- Once the settings are acknowledged, a join is the wait for its outcome. -/
theorem joinWith_told (fits : (how.request ssid).Fits)
    (carries : host.link.Carries how.command (how.request ssid).bytes.length 8) :
    ∃ started : Host Line, started.station = host.station ∧
      Link.Questioned how.command (how.told ssid) 1 host.link started.link ∧
      (joinWith ssid how).run host = (.ok (awaitJoin started).1, (awaitJoin started).2) := by
  have served := how.run_serve ssid (host.link.device.recorded how.command)
  have hack := (Link.ack_outcome (how.isRequestFor ssid) fits served).run carries
  have hasked : Link.Questioned how.command (how.told ssid) 1 host.link
      ((Link.ack (how.request ssid)).run host.link).2 := by
    rw [Link.ack, Link.run_map fun answer => answer == some ackByte, Link.readU8,
      Link.link_readValue]
    exact Link.questioned_of_request (how.told ssid) (how.isRequestFor ssid) fits carries.asks
      served (Link.fits_short_reply _ (Nat.le_of_ble_eq_true rfl)) _
  refine ⟨{ host with link := ((Link.ack (how.request ssid)).run host.link).2 }, rfl, hasked, ?_⟩
  have hexpect : (expectAck how.command fun f => how.add ssid f).run host =
      (.ok (), { host with link := ((Link.ack (how.request ssid)).run host.link).2 }) := by
    rw [run_expectAck, ← Credential.request, run_ask_of_ok hack]
    rfl
  rw [joinWith_eq, run_joinBy, hexpect]

section
variable {l l' : Link Line} (h : Link.Questioned how.command (how.told ssid) 1 l l')
include h

theorem told_joining : l.device.Joining ssid how.secret l'.device := by
  have hjoining := (l.device.recorded how.command).join_joining ssid how.secret
  rw [h.same]
  exact ⟨hjoining.verdict, hjoining.pending, hjoining.connected⟩

theorem count_told : l'.device.count .getConnStatus = l.device.count .getConnStatus := by
  rw [h.same]
  exact List.count_cons_of_ne how.polls_apart.symm

end

/-- The host is told about this network, its name cut to what is reported. -/
structure Reports (host : Host Line) (n : AccessPoint) : Prop where
  ssid : (currentSsid.run host).1 = .ok n.shownName
  rssi : (currentRssi.run host).1 = .ok n.rssi
  encryption : (currentEncryption.run host).1 = .ok (.ofRaw n.encryption)
  bssid : (currentBssid.run host).1 = .ok n.bssid

/-- The device has joined this network, and can tell everything about it. -/
structure Joined (n : AccessPoint) (host : Host Line) : Prop where
  network : host.link.device.radio.network = some n
  faithful : host.link.Faithful 12
  named : ((Frame.reply .getCurrSsid).withParam (Text.Utf8.encode n.ssid)).Fits
  size : ((Frame.reply .getCurrSsid).withParam (Text.Utf8.encode n.ssid)).bytes.length ≤
    host.link.settings.maxFrameSize.toNat
  address : n.bssid.length = macLength

inductive NetworkQuery where
  | ssid
  | rssi
  | encryption
  | bssid

def NetworkQuery.after (host : Host Line) : NetworkQuery → Host Line
  | .ssid => (currentSsid.run host).2
  | .rssi => (currentRssi.run host).2
  | .encryption => (currentEncryption.run host).2
  | .bssid => (currentBssid.run host).2

namespace Joined

variable {n : AccessPoint} (h : Joined n host)
include h

theorem learns :
    Learns .getCurrSsid host n.shownName (currentSsid.run host) ∧
    Learns .getCurrRssi host n.rssi (currentRssi.run host) ∧
    Learns .getCurrEnct host (.ofRaw n.encryption) (currentEncryption.run host) ∧
    Learns .getCurrBssid host n.bssid (currentBssid.run host) := by
  obtain ⟨hname, haddress, hstrength, hprotection⟩ := tells_joined h.network fillerByte
  have carries : host.link.Carries .getCurrSsid 8
      ((Frame.reply .getCurrSsid).withParam (Text.Utf8.encode n.ssid)).bytes.length :=
    ⟨Nat.le_trans (Nat.le_of_ble_eq_true rfl) h.faithful.size, h.size, h.faithful.budget,
      h.faithful.kept _⟩
  exact ⟨currentSsid_learns carries hname h.named, readSigned_learns h.faithful hstrength,
    (readByte_learns h.faithful hprotection).map Encryption.ofRaw,
    readAddress_learns h.faithful haddress h.address⟩

theorem reports : Reports host n := by
  obtain ⟨hname, hstrength, hprotection, haddress⟩ := h.learns
  exact ⟨hname.value, hstrength.value, hprotection.value, haddress.value⟩

theorem asked {c : Command} {host' : Host Line}
    (asked : Link.Questioned c (·.recorded c) 1 host.link host'.link) : Joined n host' where
  network := by
    rw [asked.same]
    exact h.network
  faithful := h.faithful.questioned asked
  named := h.named
  size := asked.size h.size
  address := h.address

/-- However often the host asks, it is told the same. -/
theorem after (queries : List NetworkQuery) :
    Joined n (queries.foldl NetworkQuery.after host) := by
  induction queries generalizing host with
  | nil => exact h
  | cons query rest ih =>
    obtain ⟨hname, hstrength, hprotection, haddress⟩ := h.learns
    rw [List.foldl_cons]
    refine ih ?_
    cases query with
    | ssid => exact h.asked hname.asked
    | rssi => exact h.asked hstrength.asked
    | encryption => exact h.asked hprotection.asked
    | bssid => exact h.asked haddress.asked

end Joined

/-- The latency decides whether the verdict is heard within the budget, and what the verdict is decides
when the host stops asking. A network that was joined is reported from then on. -/
theorem joinWith_verdict (ssid : String) (how : Credential) {host : Host Line}
    (kept : ∀ c, host.link.device.lossesLeft c = 0)
    (budget : 1 ≤ host.link.settings.startBudget.toNat)
    (fits : (how.request ssid).Fits)
    (size : (how.request ssid).bytes.length ≤ host.link.settings.maxFrameSize.toNat)
    (addresses : ∀ n ∈ host.link.device.networks, n.bssid.length = macLength) :
    let device := host.link.device
    let attempts := host.station.joinAttempts.toNat
    let outcome := (joinWith ssid how).run host
    ∃ status, (∀ s, Verdict device.networks ssid how.secret s ↔ s = status) ∧
      outcome.1 = .ok (if device.joinLatency < attempts then status else .idle) ∧
      outcome.2.link.device.count .getConnStatus = device.count .getConnStatus +
        (if device.joinLatency < attempts ∧ status ≠ .noSsidAvail then device.joinLatency + 1
          else attempts) ∧
      (12 ≤ host.link.settings.maxFrameSize.toNat → outcome.1 = .ok .connected →
        ∃ n, FirstNamed device.networks ssid n ∧
          ∀ queries : List NetworkQuery, Reports (queries.foldl NetworkQuery.after outcome.2) n) := by
  intro device attempts outcome
  obtain ⟨hlength, hname⟩ := how.length_request ssid
  obtain ⟨started, hstation, htold, hrun⟩ :=
    joinWith_told fits ⟨size, Nat.le_trans hlength size, budget, kept _⟩
  have hjoining := told_joining htold
  have hsize := htold.size (Nat.le_trans hlength size)
  have hbudget := htold.budget budget
  have hkept : started.link.device.lossesLeft .getConnStatus = 0 := by
    rw [htold.others _ how.polls_apart]
    exact kept _
  have hawait : awaitJoin started = _ := awaitJoin_kept hsize hbudget hkept
  rw [hstation, hjoining.pending] at hawait
  simp only [hjoining.verdict.settled_iff] at hawait
  have houtcome : outcome = _ := hrun
  rw [hawait] at houtcome
  have hasked := questioned_status hsize
    (if device.joinLatency < attempts ∧ started.link.device.radio.status ≠ .noSsidAvail then
      device.joinLatency + 1 else attempts)
  refine ⟨started.link.device.radio.status, fun s => ⟨fun h => h.unique hjoining.verdict, ?_⟩,
    congrArg Prod.fst houtcome, ?_, fun hwide hconnected => ?_⟩
  · rintro rfl
    exact hjoining.verdict
  · rw [houtcome, count_polled hasked, count_told htold]
  · have hstatus : started.link.device.radio.status = .connected := by
      rw [houtcome] at hconnected
      have hvalue := Except.ok.inj hconnected
      split at hvalue
      · exact hvalue
      · cases hvalue
    obtain ⟨n, hfirst, hnetwork⟩ := hjoining.connected hstatus
    refine ⟨n, hfirst, fun queries => (Joined.after ?_ queries).reports⟩
    have hfaithful : started.link.Faithful 12 :=
      Link.Faithful.questioned ⟨hwide, budget, kept⟩ htold
    rw [houtcome]
    refine ⟨?_, hfaithful.questioned hasked, ?_, ?_, addresses n hfirst.mem⟩
    · rw [hasked.same, State.iterate_polled]
      exact hnetwork
    · rw [hfirst.1]
      exact how.fits_name ssid fits
    · rw [hfirst.1]
      exact hasked.size (htold.size (Nat.le_trans hname size))

/-- Of two networks of one name the first decides, and it takes two queries until it does. -/
theorem joinWith_verdict_among_namesakes :
    let cafe : AccessPoint := .secured "cafe" "open sesame"
    let device : State :=
      { (State.initial.addNetwork cafe).addNetwork (.unprotected "cafe") with joinLatency := 2 }
    let host : Host Line :=
      Host.new (Link.new { Line.new with state := device } .standard) .standard .standard
    let outcome := (joinWith "cafe" (.passphrase "open sesame")).run host
    outcome.1 = .ok .connected ∧ outcome.2.link.device.count .getConnStatus = 3 ∧
      Reports outcome.2 cafe := by
  intro cafe device host outcome
  have fits : (Credential.request "cafe" (.passphrase "open sesame")).Fits :=
    Frame.fits_iff_size.mpr (by decide)
  have addresses : ∀ n ∈ host.link.device.networks, n.bssid.length = macLength := by
    intro n hn
    have hn : n ∈ [cafe, .unprotected "cafe"] := hn
    simp only [List.mem_cons, List.not_mem_nil, or_false] at hn
    rcases hn with rfl | rfl <;> exact AccessPoint.length_bssidOf "cafe"
  have kept : ∀ c, host.link.device.lossesLeft c = 0 := fun _ => rfl
  obtain ⟨status, hverdict, hvalue, hcount, hreports⟩ := joinWith_verdict "cafe"
    (.passphrase "open sesame") kept (by decide) fits (by decide) addresses
  have hfirst : FirstNamed host.link.device.networks "cafe" cafe := firstNamed_iff.mpr (by decide)
  obtain rfl : .connected = status := (hverdict .connected).mp (.connected hfirst rfl)
  obtain ⟨n, hn, hreports⟩ := hreports (by decide) hvalue
  obtain rfl := hn.unique hfirst
  have hqueries : host.link.device.count .getConnStatus +
      (if host.link.device.joinLatency < host.station.joinAttempts.toNat ∧
          StationStatus.connected ≠ .noSsidAvail then host.link.device.joinLatency + 1
        else host.station.joinAttempts.toNat) = 3 := by decide
  have hrun : (joinWith "cafe" (.passphrase "open sesame")).run host = outcome := rfl
  rw [hqueries, hrun] at hcount
  exact ⟨hvalue, hcount, hreports []⟩

end Host

end SpiWifi
