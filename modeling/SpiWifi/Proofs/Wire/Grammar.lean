import SpiWifi.Proofs.Wire.Reading

/-!
# The grammar of frames

A frame on the line is filler that holds no marker, the start marker, a header, a count, as many
parameters with their lengths, zeros, and the end marker. The decoder accepts exactly these bytes,
and its fault says which part is missing: the search for the start marker ends at an error marker
or finds none, something else stands where zeros and the end marker belong, or the bytes end.
Nothing is said about the frame that follows; reading stops at the end marker.
-/

namespace SpiWifi

namespace Reader

/-- Bytes among which the search for a frame goes on. -/
def Quiet (filler : Bytes) : Prop := ∀ b ∈ filler, b ≠ Marker.start ∧ b ≠ Marker.error

/-- The first marker among the first `budget` bytes is this one, and `rest` follows it. -/
def FirstMarker (budget : Nat) (marker : UInt8) (s rest : Bytes) : Prop :=
  ∃ filler, filler.length < budget ∧ Quiet filler ∧ s = filler ++ marker :: rest

theorem Quiet.nil : Quiet [] := fun _ hb => absurd hb List.not_mem_nil

theorem Quiet.tail {b : UInt8} {filler : Bytes} (h : Quiet (b :: filler)) : Quiet filler :=
  fun c hc => h c (List.mem_cons_of_mem b hc)

theorem Quiet.cons {b : UInt8} {filler : Bytes} (hs : b ≠ Marker.start) (he : b ≠ Marker.error)
    (h : Quiet filler) : Quiet (b :: filler) := by
  intro c hc
  rcases List.mem_cons.mp hc with rfl | hc
  · exact ⟨hs, he⟩
  · exact h c hc

theorem scanStart_filler {budget : Nat} {filler : Bytes} (hq : Quiet filler) (left : Nat)
    (s : Bytes) :
    scanStart budget (filler.length + left) (filler ++ s) = scanStart budget left s := by
  induction filler with
  | nil => simp
  | cons b filler ih =>
    have hb := hq b (List.mem_cons_self ..)
    have hlen : (b :: filler).length + left = filler.length + left + 1 := by
      simp only [List.length_cons]
      omega
    rw [hlen, List.cons_append, scanStart, if_neg hb.1, if_neg hb.2]
    exact ih hq.tail

theorem scanStart_marked {budget : Nat} {marker : UInt8} {s rest : Bytes}
    (h : FirstMarker budget marker s rest) :
    ∃ left, scanStart budget budget s = scanStart budget (left + 1) (marker :: rest) := by
  obtain ⟨filler, hlen, hq, rfl⟩ := h
  refine ⟨budget - filler.length - 1, ?_⟩
  rw [← scanStart_filler hq (budget - filler.length - 1 + 1) (marker :: rest)]
  congr 1
  omega

theorem start_on_start {budget : Nat} {s rest : Bytes}
    (h : FirstMarker budget Marker.start s rest) : (start budget).on s = (.ok (), rest) := by
  obtain ⟨left, hscan⟩ := scanStart_marked h
  exact hscan

/-- The first start marker has one place. -/
theorem FirstMarker.unique {budget : Nat} {s rest rest' : Bytes}
    (h : FirstMarker budget Marker.start s rest) (h' : FirstMarker budget Marker.start s rest') :
    rest = rest' :=
  congrArg Prod.snd ((start_on_start h).symm.trans (start_on_start h'))

theorem FirstMarker.append {budget : Nat} {marker : UInt8} {s rest : Bytes}
    (h : FirstMarker budget marker s rest) (more : Bytes) :
    FirstMarker budget marker (s ++ more) (rest ++ more) := by
  obtain ⟨filler, hlen, hq, rfl⟩ := h
  exact ⟨filler, hlen, hq, by simp⟩

theorem start_on_error {budget : Nat} {s rest : Bytes}
    (h : FirstMarker budget Marker.error s rest) :
    (start budget).on s = (.error .deviceError, rest) := by
  obtain ⟨left, hscan⟩ := scanStart_marked h
  exact hscan

theorem scanStart_quiet {budget left : Nat} {s : Bytes} (hq : Quiet (s.take left)) :
    scanStart budget left s = (.error (.missingStart budget), s.drop left) := by
  induction left generalizing s with
  | zero => rfl
  | succ left ih =>
    cases s with
    | nil => rfl
    | cons b s =>
      have hb := hq b (List.mem_cons_self ..)
      rw [scanStart, if_neg hb.1, if_neg hb.2, List.drop_succ_cons]
      exact ih hq.tail

theorem start_on_quiet {budget : Nat} {s : Bytes} (hq : Quiet (s.take budget)) :
    (start budget).on s = (.error (.missingStart budget), s.drop budget) :=
  scanStart_quiet hq

/-- Within a budget the first marker is one of the two, or there is none. -/
theorem firstMarker_cases (budget : Nat) (s : Bytes) :
    (∃ rest, FirstMarker budget Marker.start s rest) ∨
      (∃ rest, FirstMarker budget Marker.error s rest) ∨ Quiet (s.take budget) := by
  induction budget generalizing s with
  | zero => exact Or.inr (Or.inr Quiet.nil)
  | succ budget ih =>
    cases s with
    | nil => exact Or.inr (Or.inr Quiet.nil)
    | cons b s =>
      by_cases hs : b = Marker.start
      · exact Or.inl ⟨s, [], Nat.succ_pos _, Quiet.nil, by rw [hs]; rfl⟩
      by_cases he : b = Marker.error
      · exact Or.inr (Or.inl ⟨s, [], Nat.succ_pos _, Quiet.nil, by rw [he]; rfl⟩)
      have later : ∀ marker rest, FirstMarker budget marker s rest →
          FirstMarker (budget + 1) marker (b :: s) rest := by
        rintro marker rest ⟨filler, hlen, hq, rfl⟩
        exact ⟨b :: filler, Nat.succ_lt_succ hlen, hq.cons hs he, rfl⟩
      rcases ih s with ⟨rest, h⟩ | ⟨rest, h⟩ | h
      · exact Or.inl ⟨rest, later _ _ h⟩
      · exact Or.inr (Or.inl ⟨rest, later _ _ h⟩)
      · exact Or.inr (Or.inr (h.cons hs he))

theorem scanStop_zeros (k : Nat) (s : Bytes) : scanStop (Bytes.zeros k ++ s) = scanStop s := by
  induction k with
  | zero => rfl
  | succ k ih => exact ih

theorem stop_on_stop (k : Nat) (rest : Bytes) :
    stop.on (Bytes.zeros k ++ Marker.stop :: rest) = (.ok (), rest) :=
  scanStop_zeros k (Marker.stop :: rest)

theorem stop_on_other (k : Nat) {b : UInt8} (hz : b ≠ 0) (hs : b ≠ Marker.stop) (rest : Bytes) :
    stop.on (Bytes.zeros k ++ b :: rest) = (.error (.missingEnd b), rest) := by
  refine (scanStop_zeros k (b :: rest)).trans ?_
  rw [scanStop, if_neg hz, if_neg hs]

theorem stop_on_zeros (k : Nat) : stop.on (Bytes.zeros k) = (.error .streamExhausted, []) := by
  have h := scanStop_zeros k []
  rw [List.append_nil] at h
  exact h

/-- Bytes are zeros, or zeros before the end marker or before something else. -/
theorem stop_cases (s : Bytes) :
    (∃ k rest, s = Bytes.zeros k ++ Marker.stop :: rest) ∨
      (∃ k b rest, b ≠ 0 ∧ b ≠ Marker.stop ∧ s = Bytes.zeros k ++ b :: rest) ∨
      ∃ k, s = Bytes.zeros k := by
  induction s with
  | nil => exact Or.inr (Or.inr ⟨0, rfl⟩)
  | cons b s ih =>
    by_cases hz : b = 0
    · subst hz
      rcases ih with ⟨k, rest, rfl⟩ | ⟨k, c, rest, hc, hs, rfl⟩ | ⟨k, rfl⟩
      · exact Or.inl ⟨k + 1, rest, rfl⟩
      · exact Or.inr (Or.inl ⟨k + 1, c, rest, hc, hs, rfl⟩)
      · exact Or.inr (Or.inr ⟨k + 1, rfl⟩)
    by_cases hs : b = Marker.stop
    · exact Or.inl ⟨0, s, by rw [hs]; rfl⟩
    · exact Or.inr (Or.inl ⟨0, b, s, hz, hs, rfl⟩)

/-- The bytes hold a frame up to its last parameter: filler within the budget, the start marker,
the header, the count, and the parameters with their lengths. What follows is `rest`. -/
def Announces (budget : Nat) (w : Width) (header : UInt8) (ps : List Bytes) (s rest : Bytes) :
    Prop :=
  ∃ (filler : Bytes) (count : UInt8), filler.length < budget ∧ Quiet filler ∧
    count.toNat = ps.length ∧ (∀ p ∈ ps, p.length ≤ w.maxLength) ∧
    s = filler ++ [Marker.start, header, count] ++ ps.flatMap (Frame.paramBytes w) ++ rest

/-- After the start marker the bytes end before the last parameter is complete. -/
def BreaksOff (budget : Nat) (widthOf : UInt8 → Width) (s : Bytes) : Prop :=
  ∃ rest, FirstMarker budget Marker.start s rest ∧
    (rest = [] ∨ ∃ header, rest = [header] ∨ ∃ count body, rest = header :: count :: body ∧
      (params (widthOf header) count.toNat).on body = (.error .streamExhausted, []))

theorem Announces.split {budget : Nat} {w : Width} {header : UInt8} {ps : List Bytes}
    {s rest : Bytes} (h : Announces budget w header ps s rest) :
    ∃ (count : UInt8) (body : Bytes),
      FirstMarker budget Marker.start s (header :: count :: body) ∧
      (params w count.toNat).on body = (.ok ps, rest) ∧ count.toNat = ps.length := by
  obtain ⟨filler, count, hlen, hq, hcount, hps, rfl⟩ := h
  refine ⟨count, ps.flatMap (Frame.paramBytes w) ++ rest, ⟨filler, hlen, hq, by simp⟩, ?_, hcount⟩
  exact (measured_params w count.toNat).on_append ⟨hcount.symm, hps, rfl⟩ rest

theorem Announces.append {budget : Nat} {w : Width} {header : UInt8} {ps : List Bytes}
    {s rest : Bytes} (h : Announces budget w header ps s rest) (more : Bytes) :
    Announces budget w header ps (s ++ more) (rest ++ more) := by
  obtain ⟨filler, count, hlen, hq, hcount, hps, rfl⟩ := h
  exact ⟨filler, count, hlen, hq, hcount, hps, by simp⟩

theorem announces_of_params {budget : Nat} {w : Width} {header count : UInt8} {ps : List Bytes}
    {s body rest : Bytes} (hs : FirstMarker budget Marker.start s (header :: count :: body))
    (hps : (params w count.toNat).on body = (.ok ps, rest)) :
    Announces budget w header ps s rest := by
  obtain ⟨filler, hlen, hq, rfl⟩ := hs
  obtain ⟨used, rfl, hcount, hfits, rfl⟩ := ((measured_params w count.toNat).ok_iff _ _ _).mp hps
  exact ⟨filler, count, hlen, hq, hcount.symm, hfits, by simp⟩

/-- For a reader of frames every byte string is of one of these kinds. -/
theorem frame_cases (budget : Nat) (widthOf : UInt8 → Width) (s : Bytes) :
    (∃ header ps rest, Announces budget (widthOf header) header ps s rest) ∨
      BreaksOff budget widthOf s ∨
      (∃ rest, FirstMarker budget Marker.error s rest) ∨ Quiet (s.take budget) := by
  rcases firstMarker_cases budget s with ⟨rest, h⟩ | h | h
  · match rest with
    | [] => exact Or.inr (Or.inl ⟨_, h, Or.inl rfl⟩)
    | [header] => exact Or.inr (Or.inl ⟨_, h, Or.inr ⟨header, Or.inl rfl⟩⟩)
    | header :: count :: body =>
      rcases (measured_params (widthOf header) count.toNat).cases body with
        ⟨ps, used, rest, hps, -, -⟩ | hps
      · exact Or.inl ⟨header, ps, rest, announces_of_params h hps⟩
      · exact Or.inr (Or.inl ⟨_, h, Or.inr ⟨header, Or.inr ⟨count, body, rfl, hps⟩⟩⟩)
  · exact Or.inr (Or.inr (Or.inl h))
  · exact Or.inr (Or.inr (Or.inr h))

section
variable {budget : Nat} {widthOf : UInt8 → Width} {s rest : Bytes}

theorem frame_on_of_start_error {e : ProtocolError}
    (h : (start budget).on s = (.error e, rest)) :
    (frame budget widthOf).on s = (.error e, rest) :=
  on_bind_of_error h _

/-- After the start marker the header, the count and the parameters are read. -/
theorem frame_on_of_start {header count : UInt8} {body : Bytes}
    (h : FirstMarker budget Marker.start s (header :: count :: body)) :
    (frame budget widthOf).on s = (do
      let ps ← params (widthOf header) count.toNat
      stop
      return (⟨header, widthOf header, ps⟩ : Frame) : Reader Frame).on body :=
  on_bind_of_ok (start_on_start h) _

theorem frame_on_of_announces {header : UInt8} {ps : List Bytes}
    (h : Announces budget (widthOf header) header ps s rest) :
    (frame budget widthOf).on s = (do
      stop
      return (⟨header, widthOf header, ps⟩ : Frame) : Reader Frame).on rest := by
  obtain ⟨count, body, hs, hps, -⟩ := h.split
  rw [frame_on_of_start hs]
  exact on_bind_of_ok hps _

theorem frame_on_of_breaksOff (h : BreaksOff budget widthOf s) :
    (frame budget widthOf).on s = (.error .streamExhausted, []) := by
  obtain ⟨rest, hs, rfl | ⟨header, rfl | ⟨count, body, rfl, hps⟩⟩⟩ := h
  · exact on_bind_of_ok (start_on_start hs) _
  · exact on_bind_of_ok (start_on_start hs) _
  · rw [frame_on_of_start hs]
    exact on_bind_of_error hps _

theorem frame_on_of_stop {header : UInt8} {ps : List Bytes} {k : Nat}
    (h : Announces budget (widthOf header) header ps s (Bytes.zeros k ++ Marker.stop :: rest)) :
    (frame budget widthOf).on s = (.ok ⟨header, widthOf header, ps⟩, rest) := by
  rw [frame_on_of_announces h]
  exact on_bind_of_ok (stop_on_stop k rest) _

theorem frame_on_of_other {header : UInt8} {ps : List Bytes} {k : Nat} {b : UInt8} (hz : b ≠ 0)
    (hs : b ≠ Marker.stop)
    (h : Announces budget (widthOf header) header ps s (Bytes.zeros k ++ b :: rest)) :
    (frame budget widthOf).on s = (.error (.missingEnd b), rest) := by
  rw [frame_on_of_announces h]
  exact on_bind_of_error (stop_on_other k hz hs rest) _

/-- What reading a frame gives, and what it leaves, by the kind of the bytes. -/
theorem frame_on_cases (budget : Nat) (widthOf : UInt8 → Width) (s : Bytes) :
    (∃ header ps k rest,
      Announces budget (widthOf header) header ps s (Bytes.zeros k ++ Marker.stop :: rest) ∧
      (frame budget widthOf).on s = (.ok ⟨header, widthOf header, ps⟩, rest)) ∨
    (∃ header ps k b rest, b ≠ 0 ∧ b ≠ Marker.stop ∧
      Announces budget (widthOf header) header ps s (Bytes.zeros k ++ b :: rest) ∧
      (frame budget widthOf).on s = (.error (.missingEnd b), rest)) ∨
    (∃ rest, FirstMarker budget Marker.error s rest ∧
      (frame budget widthOf).on s = (.error .deviceError, rest)) ∨
    (Quiet (s.take budget) ∧
      (frame budget widthOf).on s = (.error (.missingStart budget), s.drop budget)) ∨
    (frame budget widthOf).on s = (.error .streamExhausted, []) := by
  rcases frame_cases budget widthOf s with ⟨header, ps, after, h⟩ | h | ⟨rest, h⟩ | h
  · rcases stop_cases after with ⟨k, rest, rfl⟩ | ⟨k, b, rest, hz, hs, rfl⟩ | ⟨k, rfl⟩
    · exact Or.inl ⟨header, ps, k, rest, h, frame_on_of_stop h⟩
    · exact Or.inr (Or.inl ⟨header, ps, k, b, rest, hz, hs, h, frame_on_of_other hz hs h⟩)
    · have hzeros : (frame budget widthOf).on s = (.error .streamExhausted, []) := by
        rw [frame_on_of_announces h]
        exact on_bind_of_error (stop_on_zeros k) _
      exact Or.inr (Or.inr (Or.inr (Or.inr hzeros)))
  · exact Or.inr (Or.inr (Or.inr (Or.inr (frame_on_of_breaksOff h))))
  · exact Or.inr (Or.inr (Or.inl ⟨rest, h, frame_on_of_start_error (start_on_error h)⟩))
  · exact Or.inr (Or.inr (Or.inr (Or.inl ⟨h, frame_on_of_start_error (start_on_quiet h)⟩)))

theorem frame_ok_iff {f : Frame} :
    (frame budget widthOf).on s = (.ok f, rest) ↔ f.width = widthOf f.header ∧
      ∃ k, Announces budget f.width f.header f.params s (Bytes.zeros k ++ Marker.stop :: rest) := by
  constructor
  · intro h
    rcases frame_on_cases budget widthOf s with ⟨header, ps, k, after, ha, hr⟩ |
      ⟨_, _, _, _, _, _, _, _, hr⟩ | ⟨_, _, hr⟩ | ⟨_, hr⟩ | hr
    · cases h.symm.trans hr
      exact ⟨rfl, k, ha⟩
    all_goals cases h.symm.trans hr
  · rintro ⟨hw, k, ha⟩
    obtain ⟨header, width, ps⟩ := f
    simp only at hw ha
    subst hw
    exact frame_on_of_stop ha

end

end Reader

namespace Frame

open Reader

theorem decodeBy_ok_iff {widthOf : UInt8 → Width} {s : Bytes} {f : Frame} :
    decodeBy widthOf s = .ok f ↔ f.width = widthOf f.header ∧ ∃ k rest,
      Announces startBudget f.width f.header f.params s (Bytes.zeros k ++ Marker.stop :: rest) := by
  constructor
  · intro h
    obtain ⟨hw, k, ha⟩ := frame_ok_iff.mp (Prod.ext h rfl)
    exact ⟨hw, k, _, ha⟩
  · rintro ⟨hw, k, rest, ha⟩
    exact congrArg Prod.fst (frame_ok_iff.mpr ⟨hw, k, ha⟩)

/-- The five outcomes of decoding, each with what the bytes then hold. -/
theorem decodeBy_cases (widthOf : UInt8 → Width) (s : Bytes) :
    (∃ header ps k rest,
      Announces startBudget (widthOf header) header ps s (Bytes.zeros k ++ Marker.stop :: rest) ∧
      decodeBy widthOf s = .ok ⟨header, widthOf header, ps⟩) ∨
    (∃ header ps k b rest, b ≠ 0 ∧ b ≠ Marker.stop ∧
      Announces startBudget (widthOf header) header ps s (Bytes.zeros k ++ b :: rest) ∧
      decodeBy widthOf s = .error (.missingEnd b)) ∨
    (∃ rest, FirstMarker startBudget Marker.error s rest ∧
      decodeBy widthOf s = .error .deviceError) ∨
    (Quiet (s.take startBudget) ∧ decodeBy widthOf s = .error (.missingStart startBudget)) ∨
    decodeBy widthOf s = .error .streamExhausted := by
  rcases frame_on_cases startBudget widthOf s with ⟨header, ps, k, rest, ha, hr⟩ |
    ⟨header, ps, k, b, rest, hz, hs, ha, hr⟩ | ⟨rest, hm, hr⟩ | ⟨hq, hr⟩ | hr
  · exact Or.inl ⟨header, ps, k, rest, ha, congrArg Prod.fst hr⟩
  · exact Or.inr (Or.inl ⟨header, ps, k, b, rest, hz, hs, ha, congrArg Prod.fst hr⟩)
  · exact Or.inr (Or.inr (Or.inl ⟨rest, hm, congrArg Prod.fst hr⟩))
  · exact Or.inr (Or.inr (Or.inr (Or.inl ⟨hq, congrArg Prod.fst hr⟩)))
  · exact Or.inr (Or.inr (Or.inr (Or.inr (congrArg Prod.fst hr))))

theorem decodeBy_deviceError_iff {widthOf : UInt8 → Width} {s : Bytes} :
    decodeBy widthOf s = .error .deviceError ↔
      ∃ rest, FirstMarker startBudget Marker.error s rest := by
  constructor
  · intro h
    rcases decodeBy_cases widthOf s with ⟨_, _, _, _, _, hr⟩ | ⟨_, _, _, _, _, _, _, _, hr⟩ |
      ⟨rest, hm, hr⟩ | ⟨_, hr⟩ | hr <;> cases h.symm.trans hr
    exact ⟨rest, hm⟩
  · rintro ⟨rest, hm⟩
    exact congrArg Prod.fst (frame_on_of_start_error (start_on_error hm))

theorem decodeBy_missingStart_iff {widthOf : UInt8 → Width} {s : Bytes} :
    decodeBy widthOf s = .error (.missingStart startBudget) ↔ Quiet (s.take startBudget) := by
  constructor
  · intro h
    rcases decodeBy_cases widthOf s with ⟨_, _, _, _, _, hr⟩ | ⟨_, _, _, _, _, _, _, _, hr⟩ |
      ⟨_, _, hr⟩ | ⟨hq, hr⟩ | hr <;> cases h.symm.trans hr
    exact hq
  · intro hq
    exact congrArg Prod.fst (frame_on_of_start_error (start_on_quiet hq))

theorem decodeBy_missingEnd_iff {widthOf : UInt8 → Width} {s : Bytes} {b : UInt8} :
    decodeBy widthOf s = .error (.missingEnd b) ↔ b ≠ 0 ∧ b ≠ Marker.stop ∧
      ∃ header ps k rest,
        Announces startBudget (widthOf header) header ps s (Bytes.zeros k ++ b :: rest) := by
  constructor
  · intro h
    rcases decodeBy_cases widthOf s with ⟨_, _, _, _, _, hr⟩ |
      ⟨header, ps, k, c, rest, hz, hs, ha, hr⟩ | ⟨_, _, hr⟩ | ⟨_, hr⟩ | hr <;>
      cases h.symm.trans hr
    exact ⟨hz, hs, header, ps, k, rest, ha⟩
  · rintro ⟨hz, hs, header, ps, k, rest, ha⟩
    exact congrArg Prod.fst (frame_on_of_other hz hs ha)

/-- Each outcome of decoding and the bytes that it is met on. The first is the grammar of frames; a
frame carries what stands in it. The last takes every byte string that none of the others takes, so
no other outcome exists. -/
theorem decode_determined_by_grammar (w : Width) (s : Bytes) :
    (∀ f, decode w s = .ok f ↔ f.width = w ∧ ∃ k rest,
      Announces startBudget w f.header f.params s (Bytes.zeros k ++ Marker.stop :: rest)) ∧
    (decode w s = .error .deviceError ↔
      ∃ rest, FirstMarker startBudget Marker.error s rest) ∧
    (decode w s = .error (.missingStart startBudget) ↔ Quiet (s.take startBudget)) ∧
    (∀ b, decode w s = .error (.missingEnd b) ↔ b ≠ 0 ∧ b ≠ Marker.stop ∧
      ∃ header ps k rest, Announces startBudget w header ps s (Bytes.zeros k ++ b :: rest)) ∧
    (decode w s = .error .streamExhausted ↔
      (∀ header ps k rest,
        ¬ Announces startBudget w header ps s (Bytes.zeros k ++ Marker.stop :: rest)) ∧
      (∀ rest, ¬ FirstMarker startBudget Marker.error s rest) ∧
      ¬ Quiet (s.take startBudget) ∧
      ∀ header ps k b rest, b ≠ 0 → b ≠ Marker.stop →
        ¬ Announces startBudget w header ps s (Bytes.zeros k ++ b :: rest)) := by
  refine ⟨fun f => ?_, decodeBy_deviceError_iff, decodeBy_missingStart_iff,
    fun b => decodeBy_missingEnd_iff, ?_⟩
  · rw [decode, decodeBy_ok_iff]
    constructor
    · rintro ⟨rfl, k, rest, ha⟩
      exact ⟨rfl, k, rest, ha⟩
    · rintro ⟨rfl, k, rest, ha⟩
      exact ⟨rfl, k, rest, ha⟩
  constructor
  · intro h
    refine ⟨fun header ps k rest ha => ?_, fun rest hm => ?_, fun hq => ?_,
      fun header ps k b rest hz hs ha => ?_⟩
    · have ok : decode w s = .ok ⟨header, w, ps⟩ := decodeBy_ok_iff.mpr ⟨rfl, k, rest, ha⟩
      cases h.symm.trans ok
    · cases h.symm.trans (decodeBy_deviceError_iff.mpr ⟨rest, hm⟩)
    · cases h.symm.trans (decodeBy_missingStart_iff.mpr hq)
    · cases h.symm.trans (decodeBy_missingEnd_iff.mpr ⟨hz, hs, header, ps, k, rest, ha⟩)
  · rintro ⟨noFrame, noError, notQuiet, noOther⟩
    rcases decodeBy_cases (fun _ => w) s with ⟨header, ps, k, rest, ha, _⟩ |
      ⟨header, ps, k, b, rest, hz, hs, ha, _⟩ | ⟨rest, hm, _⟩ | ⟨hq, _⟩ | hr
    · exact False.elim (noFrame header ps k rest ha)
    · exact False.elim (noOther header ps k b rest hz hs ha)
    · exact False.elim (noError rest hm)
    · exact False.elim (notQuiet hq)
    · exact hr

end Frame

end SpiWifi
