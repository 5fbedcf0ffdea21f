import Mathlib.Order.Bounds.Basic
import SpiWifi.Proofs.Device.Replies
import SpiWifi.Proofs.Link.Questions
import SpiWifi.Station.Operations

/-!
# The names that a scan reports

The device lists the first ten networks of its table by their names, and stops at the first name that
does not fit the reply any more; it skips none. So what it lists is the longest prefix of the ten whose
names fit one frame together. While a scan is pending it lists nothing, and each query brings the end of
the scan one nearer.
-/

namespace SpiWifi

namespace Device

def withNames (reply : Frame) (ns : List AccessPoint) : Frame :=
  { reply with params := reply.params ++ ns.map fun n => Text.Utf8.encode n.ssid }

def scanReply (ns : List AccessPoint) : Frame := withNames (Frame.reply .scanNetworks) ns

theorem withNames_nil (reply : Frame) : withNames reply [] = reply := by
  simp [withNames]

theorem withNames_cons (reply : Frame) (n : AccessPoint) (ns : List AccessPoint) :
    withNames reply (n :: ns) = withNames (reply.withParam (Text.Utf8.encode n.ssid)) ns := by
  simp [withNames, Frame.withParam]

/-- Names only make a reply longer. -/
theorem paramsSize_le_withNames (reply : Frame) (ns : List AccessPoint) :
    reply.paramsSize ≤ (withNames reply ns).paramsSize := by
  induction ns generalizing reply with
  | nil => rw [withNames_nil]
  | cons n ns ih =>
    rw [withNames_cons]
    have hnext := ih (reply.withParam (Text.Utf8.encode n.ssid))
    rw [Frame.paramsSize_withParam] at hnext
    omega

theorem fits_of_withNames {reply : Frame} {ns : List AccessPoint} (h : (withNames reply ns).Fits) :
    reply.Fits := by
  rw [Frame.fits_iff_size] at h ⊢
  exact Nat.le_trans (paramsSize_le_withNames reply ns) h

/-- The names that are added are those of the longest prefix that fits. -/
theorem addNames_longest {reply : Frame} (fits : reply.Fits) (ns : List AccessPoint) :
    ∃ n, IsGreatest {m | m ≤ ns.length ∧ (withNames reply (ns.take m)).Fits} n ∧
      State.addNames reply ns = withNames reply (ns.take n) := by
  induction ns generalizing reply with
  | nil =>
    refine ⟨0, ⟨⟨Nat.le_refl 0, ?_⟩, fun m hm => hm.1⟩, ?_⟩
    · simpa [withNames_nil] using fits
    · simp [State.addNames, withNames_nil]
  | cons a rest ih =>
    have hnext : Frame.maxSize < (reply.withParam (Text.Utf8.encode a.ssid)).encodedLength ↔
        ¬ (reply.withParam (Text.Utf8.encode a.ssid)).Fits := by
      rw [Frame.fits_iff_size, Frame.encodedLength_eq]
      simp only [Frame.maxSize, Frame.headSize, Frame.maxParamsSize]
      omega
    rw [State.addNames]
    by_cases hfits : (reply.withParam (Text.Utf8.encode a.ssid)).Fits
    · obtain ⟨n, ⟨⟨hle, hn⟩, hgreatest⟩, hadd⟩ := ih hfits
      refine ⟨n + 1, ⟨⟨?_, ?_⟩, ?_⟩, ?_⟩
      · simpa using hle
      · simpa [withNames_cons] using hn
      · rintro m ⟨hm, hmfits⟩
        cases m with
        | zero => omega
        | succ m =>
          rw [List.take_succ_cons, withNames_cons] at hmfits
          have := hgreatest ⟨by simpa using hm, hmfits⟩
          omega
      · rw [if_neg (fun hlong => hnext.mp hlong hfits), hadd, List.take_succ_cons, withNames_cons]
    · refine ⟨0, ⟨⟨Nat.zero_le _, ?_⟩, ?_⟩, ?_⟩
      · simpa [withNames_nil] using fits
      · rintro m ⟨-, hmfits⟩
        cases m with
        | zero => omega
        | succ m =>
          rw [List.take_succ_cons, withNames_cons] at hmfits
          exact absurd (fits_of_withNames hmfits) hfits
      · rw [if_pos (hnext.mpr hfits), List.take_zero, withNames_nil]

/-- A scan of the device reports so many networks: the most of the first ten that fit one reply. -/
def State.Reports (s : State) (n : Nat) : Prop :=
  IsGreatest {m | m ≤ networksMax ∧ m ≤ s.networks.length ∧ (scanReply (s.networks.take m)).Fits} n

namespace State

variable (s : State)

theorem exists_reports : ∃ n, s.Reports n ∧
    addNames (Frame.reply .scanNetworks) (s.networks.take networksMax) =
      scanReply (s.networks.take n) := by
  obtain ⟨n, ⟨⟨hle, hfits⟩, hgreatest⟩, hadd⟩ :=
    addNames_longest (reply_fits .scanNetworks) (s.networks.take networksMax)
  rw [List.length_take] at hle
  have hfront {m : Nat} (hm : m ≤ networksMax) :
      (s.networks.take networksMax).take m = s.networks.take m := by
    rw [List.take_take, Nat.min_eq_left hm]
  rw [hfront (by omega)] at hfits hadd
  refine ⟨n, ⟨⟨by omega, by omega, hfits⟩, ?_⟩, hadd⟩
  rintro m ⟨hten, hlength, hmfits⟩
  refine hgreatest ⟨?_, ?_⟩
  · rw [List.length_take]
    omega
  · rw [hfront hten]
    exact hmfits

variable {s} {n : Nat}

theorem Reports.unique {m : Nat} (h : s.Reports n) (h' : s.Reports m) : n = m :=
  IsGreatest.unique h h'

theorem Reports.of_networks {s' : State} (h : s.Reports n) (same : s'.networks = s.networks) :
    s'.Reports n := by
  rw [Reports, same]
  exact h

/-- Some network is reported just if there is a first one and its name fits. -/
theorem Reports.pos_iff (h : s.Reports n) :
    0 < n ↔ ∃ first, s.networks.head? = some first ∧ (scanReply [first]).Fits := by
  obtain ⟨⟨-, hlength, hfits⟩, hgreatest⟩ := h
  rcases hnetworks : s.networks with _ | ⟨first, rest⟩
  · rw [hnetworks] at hlength
    simp only [List.length_nil, List.head?_nil] at hlength ⊢
    constructor
    · omega
    · rintro ⟨first, hfirst, -⟩
      cases hfirst
  · rw [hnetworks] at hfits hgreatest
    simp only [List.head?_cons, Option.some.injEq, exists_eq_left']
    constructor
    · intro hpos
      obtain ⟨m, rfl⟩ := Nat.exists_eq_add_of_le' hpos
      rw [List.take_succ_cons, scanReply, withNames_cons] at hfits
      rw [scanReply, withNames_cons, withNames_nil]
      exact fits_of_withNames hfits
    · intro hfirst
      exact @hgreatest 1 ⟨by decide, by simp, by simpa using hfirst⟩

def scanned (s : State) : State :=
  { s with scanPending := s.scanPending - 1, received := .scanNetworks :: s.received }

def listed (s : State) (n : Nat) : List AccessPoint :=
  if s.scanPending = 0 then s.networks.take n else []

theorem run_serve_scan (h : s.Reports n) (p : Params) :
    (serve .scanNetworks p).run (s.recorded .scanNetworks) =
      (some (scanReply (s.listed n)), s.scanned) := by
  obtain ⟨m, hm, hadd⟩ := s.exists_reports
  obtain rfl := hm.unique h
  have hscan : (s.recorded .scanNetworks).scanResults (Frame.reply .scanNetworks) =
      (scanReply (s.listed m), s.scanned) := by
    rcases hpending : s.scanPending with _ | pending
    · simp only [scanResults, recorded, listed, scanned, hpending, if_true]
      rw [← hadd]
      rfl
    · simp only [scanResults, recorded, listed, scanned, hpending, scanReply, withNames_nil,
        Nat.add_one_ne_zero, if_false]
      rfl
  unfold serve
  change (some ((s.recorded .scanNetworks).scanResults (Frame.reply .scanNetworks)).1,
    ((s.recorded .scanNetworks).scanResults (Frame.reply .scanNetworks)).2) = _
  rw [hscan]

theorem listed_fits (h : s.Reports n) : (scanReply (s.listed n)).Fits := by
  unfold listed
  split
  · exact h.1.2.2
  · rw [scanReply, withNames_nil]
    exact reply_fits .scanNetworks

theorem scanned_ignoresLosses : IgnoresLosses scanned := fun _ _ => rfl

theorem iterate_scanned (s : State) (m : Nat) :
    scanned^[m] s =
      { s with
        scanPending := s.scanPending - m
        received := List.replicate m .scanNetworks ++ s.received } := by
  induction m with
  | zero => rfl
  | succ m ih =>
    rw [Function.iterate_succ_apply', ih, scanned, Nat.sub_sub, List.replicate_succ]
    rfl

end State

end Device

end SpiWifi
