import SpiWifi.Proofs.Wire.Grammar
import SpiWifi.Wire.Slot

/-!
# Replies in slots

Reading a reply into slots follows the grammar of frames as the decoder does, though it keeps only
what fits: a slot holds the beginning of its parameter, parameters beyond the last slot are passed
over, and both readers stay on the same byte. So they agree on every byte string, except that a
reply with another header is refused at its header, whatever comes after it.
-/

namespace SpiWifi

open Reader

namespace Slot

/-- A slot of this capacity that was given a whole parameter. -/
def holding (capacity : Nat) (p : Bytes) : Slot :=
  ⟨p.take (kept capacity p.length), Bytes.zeros (capacity - kept capacity p.length), p.length⟩

/-- The slot shows the parameter as far as its capacity goes: one byte less than the capacity at
most, the announced length, whether bytes were dropped, and zeros after the kept bytes. -/
structure Holds (capacity : Nat) (p : Bytes) (s : Slot) : Prop where
  bytes : s.bytes = p.take (min p.length (capacity - 1))
  reported : s.reported = p.length
  truncated : s.isTruncated = true ↔ s.bytes ≠ p
  spare : ∀ b ∈ s.raw.drop s.length, b = 0
  capacity : s.capacity = capacity

/-- The slot keeps nothing and all its storage is zero. -/
structure Blank (capacity : Nat) (s : Slot) : Prop where
  empty : s.isEmpty = true
  reported : s.reported = 0
  raw : s.raw = Bytes.zeros capacity

theorem kept_le_length (capacity reported : Nat) : kept capacity reported ≤ reported :=
  Nat.min_le_left ..

theorem kept_le_capacity (capacity reported : Nat) : kept capacity reported ≤ capacity :=
  Nat.le_trans (Nat.min_le_right ..) (Nat.sub_le ..)

theorem length_holding (capacity : Nat) (p : Bytes) :
    (holding capacity p).length = kept capacity p.length :=
  List.length_take_of_le (kept_le_length ..)

theorem holding_holds (capacity : Nat) (p : Bytes) : (holding capacity p).Holds capacity p where
  bytes := rfl
  reported := rfl
  truncated := by
    rw [isTruncated, length_holding, decide_eq_true_iff]
    have hle := kept_le_length capacity p.length
    constructor
    · intro hlt heq
      have hlen := congrArg List.length heq
      rw [show (holding capacity p).bytes.length = _ from length_holding capacity p] at hlen
      exact absurd hlen (Nat.ne_of_lt hlt)
    · intro hne
      refine Nat.lt_of_le_of_ne hle fun heq => hne ?_
      exact List.take_of_length_le (Nat.le_of_eq heq.symm)
  spare := by
    intro b hb
    have hdrop : (holding capacity p).raw.drop (holding capacity p).length =
        (holding capacity p).spare := List.drop_left
    rw [hdrop] at hb
    exact (List.mem_replicate.mp hb).2
  capacity := by
    have hle := kept_le_capacity capacity p.length
    have hlen := length_holding capacity p
    simp only [Slot.capacity, raw, List.length_append]
    simp only [length] at hlen
    rw [hlen]
    simp only [holding, Bytes.length_zeros]
    omega

theorem clear_blank (s : Slot) : s.clear.Blank s.capacity := ⟨rfl, rfl, rfl⟩

@[simp] theorem capacity_clear (s : Slot) : s.clear.capacity = s.capacity :=
  Bytes.length_zeros s.capacity

theorem fill_append (capacity : Nat) (p rest : Bytes) :
    fill capacity p.length (p ++ rest) = ((.ok (), holding capacity p), rest) := by
  have hle : p.length ≤ (p ++ rest).length := by simp
  have hkept : (p ++ rest).take (kept capacity p.length) = p.take (kept capacity p.length) :=
    List.take_append_of_le_length (kept_le_length ..)
  simp only [fill]
  rw [if_pos hle, hkept, List.drop_left]
  rfl

theorem fill_short (capacity : Nat) {reported : Nat} {bytes : Bytes}
    (h : bytes.length < reported) :
    ∃ s, fill capacity reported bytes = ((.error .streamExhausted, s), []) := by
  simp only [fill]
  rw [if_neg (Nat.not_le.mpr h)]
  exact ⟨_, rfl⟩

end Slot

/-- The slots after parameters were put into them in order. Parameters beyond the last slot are
dropped, slots beyond the last parameter stay as they are. -/
def stored : List Slot → List Bytes → List Slot
  | [], _ => []
  | slots, [] => slots
  | s :: slots, p :: ps => Slot.holding s.capacity p :: stored slots ps

theorem stored_no_params (slots : List Slot) : stored slots [] = slots := by
  cases slots <;> rfl

theorem length_stored (slots : List Slot) (ps : List Bytes) :
    (stored slots ps).length = slots.length := by
  induction slots generalizing ps with
  | nil => rfl
  | cons s slots ih =>
    cases ps with
    | nil => rfl
    | cons p ps => exact congrArg (· + 1) (ih ps)

theorem stored_getElem? (slots : List Slot) (ps : List Bytes) (i : Nat) :
    (stored slots ps)[i]? = slots[i]?.map fun s =>
      match ps[i]? with
      | some p => Slot.holding s.capacity p
      | none => s := by
  induction slots generalizing ps i with
  | nil => rfl
  | cons s slots ih =>
    cases ps with
    | nil => simp [stored]
    | cons p ps =>
      cases i with
      | zero => rfl
      | succ i => exact ih ps i

/-- The slots `after` show the parameters one by one, and the rest of them nothing. Each has the
capacity that the slot had `before`. -/
def ShowsParams (ps : List Bytes) (before after : List Slot) : Prop :=
  after.length = before.length ∧
  ∀ (i : Nat) (old new : Slot), before[i]? = some old → after[i]? = some new →
    (∀ p, ps[i]? = some p → new.Holds old.capacity p) ∧ (ps[i]? = none → new.Blank old.capacity)

theorem stored_clear_shows (slots : List Slot) (ps : List Bytes) :
    ShowsParams ps slots (stored (slots.map Slot.clear) ps) := by
  refine ⟨by rw [length_stored, List.length_map], fun i old new hold hnew => ?_⟩
  rw [stored_getElem?, List.getElem?_map, hold] at hnew
  cases hp : ps[i]? with
  | none =>
    rw [hp] at hnew
    cases hnew
    exact ⟨fun p h => absurd h (by simp), fun _ => old.clear_blank⟩
  | some p =>
    rw [hp] at hnew
    cases hnew
    refine ⟨fun q h => ?_, fun h => absurd h (by simp)⟩
    cases h
    change Slot.Holds old.capacity p (Slot.holding old.clear.capacity p)
    rw [Slot.capacity_clear]
    exact Slot.holding_holds old.capacity p

/-- Among the slots that were given a parameter, one is truncated just if one dropped bytes. -/
theorem ShowsParams.any_truncated_iff {ps : List Bytes} {before after : List Slot}
    (h : ShowsParams ps before after) :
    (after.take (min ps.length before.length)).any Slot.isTruncated = true ↔
      ∃ (i : Nat) (p : Bytes) (new : Slot), ps[i]? = some p ∧ after[i]? = some new ∧
        new.bytes ≠ p := by
  obtain ⟨hlen, hshow⟩ := h
  rw [List.any_eq_true]
  constructor
  · rintro ⟨new, hmem, htrunc⟩
    obtain ⟨i, hi⟩ := List.mem_iff_getElem?.mp hmem
    rw [List.getElem?_take] at hi
    split at hi
    · next hlt =>
      have hp := List.getElem?_eq_getElem (l := ps) (Nat.lt_of_lt_of_le hlt (Nat.min_le_left ..))
      have hold := List.getElem?_eq_getElem (l := before)
        (Nat.lt_of_lt_of_le hlt (Nat.min_le_right ..))
      exact ⟨i, _, new, hp, hi, ((hshow i _ new hold hi).1 _ hp).truncated.mp htrunc⟩
    · cases hi
  · rintro ⟨i, p, new, hp, hnew, hne⟩
    obtain ⟨hips, -⟩ := List.getElem?_eq_some_iff.mp hp
    obtain ⟨hi, -⟩ := List.getElem?_eq_some_iff.mp hnew
    have hold := List.getElem?_eq_getElem (l := before) (hlen ▸ hi)
    have hholds := (hshow i _ new hold hnew).1 p hp
    refine ⟨new, List.mem_iff_getElem?.mpr ⟨i, ?_⟩, hholds.truncated.mpr hne⟩
    rw [List.getElem?_take, if_pos (Nat.lt_min.mpr ⟨hips, hlen ▸ hi⟩)]
    exact hnew

namespace ReplyReader

theorem length_on_of_param {w : Width} {s p rest : Bytes} (h : (param w).on s = (.ok p, rest)) :
    (Reader.length w).on s = (.ok p.length, p ++ rest) := by
  obtain ⟨_, rfl, hp, rfl⟩ := ((measured_param w).ok_iff _ _ _).mp h
  exact ((measured_length w).ok_iff _ _ _).mpr
    ⟨w.ofLength p.length, List.append_assoc .., hp, rfl⟩

theorem length_on_of_param_error {w : Width} {s rest : Bytes} {e : ProtocolError}
    (h : (param w).on s = (.error e, rest)) :
    e = .streamExhausted ∧ rest = [] ∧ ((Reader.length w).on s = (.error e, rest) ∨
      ∃ n middle, (Reader.length w).on s = (.ok n, middle) ∧ middle.length < n) := by
  obtain ⟨rfl, rfl⟩ := (measured_param w).exhausted _ _ _ h
  refine ⟨rfl, rfl, ?_⟩
  rcases on_bind_error_iff.mp h with h | ⟨n, middle, hn, htake⟩
  · exact Or.inl h
  · refine Or.inr ⟨n, middle, hn, Nat.lt_of_not_le fun hle => ?_⟩
    simp only [on, take, if_pos hle] at htake
    cases htake

/-- Where the parameters can be read, the slots are filled with them and the same bytes are taken. -/
theorem fillSlots_of_params {w : Width} {n : Nat} {s rest : Bytes} {ps : List Bytes}
    (slots : List Slot) (h : (params w n).on s = (.ok ps, rest)) :
    fillSlots w n slots s = ((.ok (), stored slots ps), rest) := by
  induction n generalizing slots s ps with
  | zero =>
    cases h
    rw [fillSlots, stored_no_params]
  | succ n ih =>
    obtain ⟨p, middle, hp, hrest⟩ := on_bind_ok_iff.mp h
    obtain ⟨qs, last, hqs, hpure⟩ := on_bind_ok_iff.mp hrest
    cases hpure
    cases slots with
    | nil =>
      have hrec := ih [] hqs
      rw [fillSlots, hp]
      exact hrec
    | cons slot slots =>
      rw [fillSlots, length_on_of_param hp]
      simp only [Slot.fill_append, ih slots hqs, stored]

/-- Where the parameters break off, filling the slots breaks off as well. -/
theorem fillSlots_of_params_error {w : Width} {n : Nat} {s rest : Bytes} {e : ProtocolError}
    (slots : List Slot) (h : (params w n).on s = (.error e, rest)) :
    ∃ filled, fillSlots w n slots s = ((.error e, filled), rest) := by
  induction n generalizing slots s with
  | zero => cases h
  | succ n ih =>
    rcases on_bind_error_iff.mp h with hp | ⟨p, middle, hp, hrest⟩
    · cases slots with
      | nil => exact ⟨[], by rw [fillSlots, hp]⟩
      | cons slot slots =>
        obtain ⟨rfl, rfl, hlen | ⟨m, middle, hlen, hshort⟩⟩ := length_on_of_param_error hp
        · exact ⟨slot :: slots, by rw [fillSlots, hlen]⟩
        · obtain ⟨partly, hfill⟩ := Slot.fill_short slot.capacity hshort
          exact ⟨partly :: slots, by rw [fillSlots, hlen]; simp only [hfill]⟩
    · rcases on_bind_error_iff.mp hrest with hqs | ⟨qs, last, _, hpure⟩
      · cases slots with
        | nil =>
          rw [fillSlots, hp]
          exact ih [] hqs
        | cons slot slots =>
          obtain ⟨filled, hfilled⟩ := ih slots hqs
          refine ⟨Slot.holding slot.capacity p :: filled, ?_⟩
          rw [fillSlots, length_on_of_param hp]
          simp only [Slot.fill_append, hfilled]
      · cases hpure

section
variable {r : ReplyReader} {s rest : Bytes} {slots : List Slot}

theorem opening_on_of_start_error {e : ProtocolError}
    (h : (start r.budget).on s = (.error e, rest)) : r.opening.on s = (.error e, rest) :=
  on_bind_of_error h _

theorem opening_on_of_nothing (h : FirstMarker r.budget Marker.start s []) :
    r.opening.on s = (.error .streamExhausted, []) :=
  on_bind_of_ok (start_on_start h) _

theorem opening_on_of_other {header : UInt8} (hne : header ≠ r.expectedHeader)
    (h : FirstMarker r.budget Marker.start s (header :: rest)) :
    r.opening.on s = (.error (.unexpectedReply r.expectedHeader header), rest) := by
  refine (on_bind_of_ok (start_on_start h) _).trans ?_
  refine (on_bind_of_ok (measured_byte.on_append rfl rest) _).trans ?_
  rw [if_neg hne]
  exact on_throw _ _

theorem opening_on_of_expected
    (h : FirstMarker r.budget Marker.start s (r.expectedHeader :: rest)) :
    r.opening.on s = (do return (← byte).toNat : Reader Nat).on rest := by
  refine (on_bind_of_ok (start_on_start h) _).trans ?_
  refine (on_bind_of_ok (measured_byte.on_append rfl rest) _).trans ?_
  rw [if_pos rfl]

/-- The opening is read just where the first marker begins a reply with the expected header. -/
theorem opening_ok_iff {n : Nat} : r.opening.on s = (.ok n, rest) ↔ ∃ count : UInt8,
    count.toNat = n ∧ FirstMarker r.budget Marker.start s (r.expectedHeader :: count :: rest) := by
  constructor
  · intro h
    rcases firstMarker_cases r.budget s with ⟨after, hm⟩ | ⟨after, hm⟩ | hq
    · match after with
      | [] => cases h.symm.trans (opening_on_of_nothing hm)
      | header :: body =>
        by_cases hheader : header = r.expectedHeader
        · subst hheader
          rw [opening_on_of_expected hm] at h
          cases body with
          | nil => cases h
          | cons count body =>
            cases h
            exact ⟨count, rfl, hm⟩
        · cases h.symm.trans (opening_on_of_other hheader hm)
    · cases h.symm.trans (opening_on_of_start_error (start_on_error hm))
    · cases h.symm.trans (opening_on_of_start_error (start_on_quiet hq))
  · rintro ⟨count, rfl, hm⟩
    exact opening_on_of_expected hm

theorem parse_of_opening_error {e : ProtocolError} (h : r.opening.on s = (.error e, rest)) :
    r.parse slots s = ⟨.error e, slots.map Slot.clear, rest⟩ := by
  simp only [parse, h]

theorem parse_of_stop (slots : List Slot) {ps : List Bytes} {last : Bytes}
    (h : Announces r.budget r.width r.expectedHeader ps s rest)
    (hstop : stop.on rest = (.ok (), last)) :
    r.parse slots s =
      ⟨.ok (min ps.length slots.length), stored (slots.map Slot.clear) ps, last⟩ := by
  obtain ⟨count, body, hs, hps, hcount⟩ := h.split
  have hopen : r.opening.on s = (.ok count.toNat, body) := opening_on_of_expected hs
  rw [← hcount]
  simp only [parse, hopen, fillSlots_of_params _ hps, hstop]

theorem parse_of_stop_error (slots : List Slot) {ps : List Bytes} {e : ProtocolError}
    {last : Bytes} (h : Announces r.budget r.width r.expectedHeader ps s rest)
    (hstop : stop.on rest = (.error e, last)) :
    r.parse slots s = ⟨.error e, stored (slots.map Slot.clear) ps, last⟩ := by
  obtain ⟨count, body, hs, hps, -⟩ := h.split
  have hopen : r.opening.on s = (.ok count.toNat, body) := opening_on_of_expected hs
  simp only [parse, hopen, fillSlots_of_params _ hps, hstop]

theorem parse_of_breaksOff (h : BreaksOff r.budget (fun _ => r.width) s)
    (same : ∀ header rest, FirstMarker r.budget Marker.start s (header :: rest) →
      header = r.expectedHeader) :
    (r.parse slots s).result = .error .streamExhausted := by
  obtain ⟨rest, hs, rfl | ⟨header, rfl | ⟨count, body, rfl, hps⟩⟩⟩ := h
  · rw [parse_of_opening_error (opening_on_of_nothing hs)]
  · rw [same _ _ hs] at hs
    have hopen : r.opening.on s = (.error .streamExhausted, []) := opening_on_of_expected hs
    rw [parse_of_opening_error hopen]
  · rw [same _ _ hs] at hs
    have hopen : r.opening.on s = (.ok count.toNat, body) := opening_on_of_expected hs
    obtain ⟨filled, hfilled⟩ := fillSlots_of_params_error (slots.map Slot.clear) hps
    simp only [parse, hopen, hfilled]

/-- A reply that is read stands in the bytes, down to its end marker. -/
theorem announces_of_parse_ok {n : Nat} (h : (r.parse slots s).result = .ok n) :
    ∃ ps k rest, Announces r.budget r.width r.expectedHeader ps s
      (Bytes.zeros k ++ Marker.stop :: rest) := by
  rcases hopen : r.opening.on s with ⟨e | m, body⟩
  · rw [parse_of_opening_error hopen] at h
    cases h
  · obtain ⟨count, rfl, hm⟩ := opening_ok_iff.mp hopen
    rcases (measured_params r.width count.toNat).cases body with ⟨ps, used, after, hps, -, -⟩ | hps
    · have ha := announces_of_params hm hps
      rcases stop_cases after with ⟨k, rest, rfl⟩ | ⟨k, b, rest, hz, hb, rfl⟩ | ⟨k, rfl⟩
      · exact ⟨ps, k, rest, ha⟩
      · rw [parse_of_stop_error slots ha (stop_on_other k hz hb rest)] at h
        cases h
      · rw [parse_of_stop_error slots ha (stop_on_zeros k)] at h
        cases h
    · obtain ⟨filled, hfilled⟩ := fillSlots_of_params_error (slots.map Slot.clear) hps
      simp only [parse, hopen, hfilled] at h
      cases h

end

/-- Unless a reply has another header than the expected one, it is refused for the reason for which
no frame can be read. -/
theorem parse_error_of_frame_error {r : ReplyReader} {s : Bytes} (slots : List Slot)
    (same : ∀ header rest, FirstMarker r.budget Marker.start s (header :: rest) →
      header = r.expectedHeader)
    (noFrame : ∀ ps k rest, ¬ Announces r.budget r.width r.expectedHeader ps s
      (Bytes.zeros k ++ Marker.stop :: rest)) :
    ∃ e rest, (frame r.budget fun _ => r.width).on s = (.error e, rest) ∧
      (r.parse slots s).result = .error e := by
  rcases frame_cases r.budget (fun _ => r.width) s with
    ⟨header, ps, after, h⟩ | h | ⟨rest, h⟩ | h
  · obtain ⟨count, body, hs, -, -⟩ := h.split
    rw [same _ _ hs] at h
    rcases stop_cases after with ⟨k, rest, rfl⟩ | ⟨k, b, rest, hz, hb, rfl⟩ | ⟨k, rfl⟩
    · exact False.elim (noFrame ps k rest h)
    · refine ⟨_, _, frame_on_of_other hz hb h, ?_⟩
      rw [parse_of_stop_error slots h (stop_on_other k hz hb rest)]
    · refine ⟨.streamExhausted, [], ?_, ?_⟩
      · rw [frame_on_of_announces h]
        exact on_bind_of_error (stop_on_zeros k) _
      · rw [parse_of_stop_error slots h (stop_on_zeros k)]
  · exact ⟨_, _, frame_on_of_breaksOff h, parse_of_breaksOff h same⟩
  · refine ⟨_, _, frame_on_of_start_error (start_on_error h), ?_⟩
    rw [parse_of_opening_error (opening_on_of_start_error (start_on_error h))]
  · refine ⟨_, _, frame_on_of_start_error (start_on_quiet h), ?_⟩
    rw [parse_of_opening_error (opening_on_of_start_error (start_on_quiet h))]

theorem expectedHeader_ofOpcode (opcode : UInt8) (w : Width) :
    (ofOpcode opcode w).expectedHeader = opcode ||| replyBit := by
  have bits : ∀ b : Fin 256, (UInt8.ofNat b &&& 0x7f) ||| 0x80 = UInt8.ofNat b ||| 0x80 := by
    decide +kernel
  have h := bits ⟨opcode.toNat, opcode.toNat_lt⟩
  rwa [UInt8.ofNat_toNat] at h

/-- The slot reader against the decoder. A frame with the expected header fills the slots; another
header is refused whatever follows it; in every other case both fail for the same reason. -/
theorem parse_agrees_with_decode (opcode : UInt8) (w : Width) (slots : List Slot) (s : Bytes) :
    let reading := (ofOpcode opcode w).parse slots s
    let decoded := Frame.decode w s
    let expected := opcode ||| replyBit
    (∀ f, decoded = .ok f → f.header = expected →
      reading.result = .ok (min f.params.length slots.length) ∧
      ShowsParams f.params slots reading.slots) ∧
    (∀ header rest, FirstMarker Frame.startBudget Marker.start s (header :: rest) →
      header ≠ expected → reading.result = .error (.unexpectedReply expected header)) ∧
    ((∀ f, decoded = .ok f → f.header ≠ expected) →
      (∀ header rest, FirstMarker Frame.startBudget Marker.start s (header :: rest) →
        header = expected) →
      ∃ e, decoded = .error e ∧ reading.result = .error e) := by
  intro reading decoded expected
  have hexpected : (ofOpcode opcode w).expectedHeader = expected :=
    expectedHeader_ofOpcode opcode w
  refine ⟨fun f hf hheader => ?_, fun header rest hs hne => ?_, fun noReply same => ?_⟩
  · obtain ⟨rfl, k, rest, ha⟩ := Frame.decodeBy_ok_iff.mp hf
    rw [hheader, ← hexpected] at ha
    have hparse : reading = _ :=
      parse_of_stop (r := ofOpcode opcode f.width) slots ha (stop_on_stop k rest)
    rw [hparse]
    exact ⟨rfl, stored_clear_shows slots f.params⟩
  · rw [← hexpected] at hne
    have hopen := opening_on_of_other (r := ofOpcode opcode w) hne hs
    have hparse : reading = _ := parse_of_opening_error hopen
    rw [hparse, hexpected]
  · obtain ⟨e, rest, hframe, hresult⟩ :=
      parse_error_of_frame_error (r := ofOpcode opcode w) slots
        (fun header rest hs => (same header rest hs).trans hexpected.symm)
        (fun ps k rest ha => by
          have ok : decoded = .ok ⟨_, w, ps⟩ := Frame.decodeBy_ok_iff.mpr ⟨rfl, k, rest, ha⟩
          exact noReply _ ok hexpected)
    exact ⟨e, congrArg Prod.fst hframe, hresult⟩

end ReplyReader

end SpiWifi
