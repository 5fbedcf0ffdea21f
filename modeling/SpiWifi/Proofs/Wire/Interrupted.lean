import SpiWifi.Proofs.Wire.Slots

/-!
# Replies that break off

A reply can fail at its opening, in the length of a parameter, in the middle of one, among
parameters that have no slot, or at its end. What the slots then show is the same in all these
cases: up to some place whole parameters, as if the reply had been read, and from there on nothing.
Only the storage behind that place tells how far the stream went. Nothing is left of what the slots
held before.
-/

namespace SpiWifi

open Reader

namespace Reader

theorem length_lt_of_length_error {w : Width} {s rest : Bytes} {e : ProtocolError}
    (h : (length w).on s = (.error e, rest)) : s.length < w.lengthSize := by
  cases w with
  | narrow =>
    cases s with
    | nil => simp [Width.lengthSize]
    | cons b s => cases h
  | wide =>
    match s with
    | [] => simp [Width.lengthSize]
    | [b] => simp [Width.lengthSize]
    | hi :: lo :: s => cases h

/-- Fewer parameters read from the same bytes are the first of those. -/
theorem take_of_params {w : Width} {n m : Nat} {s rest rest' : Bytes} {ps qs : List Bytes}
    (h : (params w n).on s = (.ok ps, rest)) (h' : (params w (n + m)).on s = (.ok qs, rest')) :
    qs.take n = ps := by
  induction n generalizing s ps qs with
  | zero =>
    cases h
    exact List.take_zero
  | succ n ih =>
    rw [Nat.add_right_comm] at h'
    obtain ⟨p, middle, hp, hlater⟩ := on_bind_ok_iff.mp h
    obtain ⟨ps, last, hps, hpure⟩ := on_bind_ok_iff.mp hlater
    obtain ⟨q, middle', hq, hlater'⟩ := on_bind_ok_iff.mp h'
    obtain ⟨qs, last', hqs, hpure'⟩ := on_bind_ok_iff.mp hlater'
    cases hpure
    cases hpure'
    cases hp.symm.trans hq
    rw [List.take_succ_cons, ih hps hqs]

end Reader

namespace Slot

/-- An empty slot whose storage shows the bytes of a parameter that the stream did not complete. -/
def torn (capacity : Nat) (bytes : Bytes) : Slot :=
  ⟨[], Bytes.fit capacity (bytes.take (capacity - 1)), 0⟩

theorem capacity_empty (capacity : Nat) : (empty capacity).capacity = capacity :=
  Bytes.length_zeros capacity

theorem torn_nil (capacity : Nat) : torn capacity [] = empty capacity := by
  simp [torn, empty, Bytes.fit]

theorem raw_torn (capacity : Nat) (bytes : Bytes) :
    (torn capacity bytes).raw = bytes.take (capacity - 1) ++
      Bytes.zeros (capacity - (bytes.take (capacity - 1)).length) := by
  have hfits : (bytes.take (capacity - 1)).length ≤ capacity := by
    rw [List.length_take]
    omega
  have htake : (bytes.take (capacity - 1)).take capacity = bytes.take (capacity - 1) :=
    List.take_of_length_le hfits
  simp only [torn, raw, List.nil_append, Bytes.fit, htake]

/-- A parameter that the stream does not complete is copied as far as stream and slot go. -/
theorem fill_torn (capacity : Nat) {reported : Nat} {bytes : Bytes} (h : bytes.length < reported) :
    fill capacity reported bytes = ((.error .streamExhausted, torn capacity bytes), []) := by
  have hcopied : bytes.take (kept capacity reported) = bytes.take (capacity - 1) := by
    rw [kept]
    rcases Nat.le_total reported (capacity - 1) with hle | hle
    · rw [Nat.min_eq_left hle, List.take_of_length_le (by omega), List.take_of_length_le (by omega)]
    · rw [Nat.min_eq_right hle]
  simp only [fill]
  rw [if_neg (Nat.not_le.mpr h), hcopied]
  rfl

/-- The slot shows nothing, though it has its storage still. -/
structure Vacant (capacity : Nat) (s : Slot) : Prop where
  empty : s.isEmpty = true
  length : s.length = 0
  reported : s.reported = 0
  whole : s.isTruncated = false
  capacity : s.capacity = capacity

theorem vacant_empty (capacity : Nat) : (empty capacity).Vacant capacity :=
  ⟨rfl, rfl, rfl, rfl, capacity_empty capacity⟩

theorem vacant_torn (capacity : Nat) (bytes : Bytes) : (torn capacity bytes).Vacant capacity :=
  ⟨rfl, rfl, rfl, rfl, Bytes.length_fit _ _⟩

end Slot

/-- What slots of these capacities show after whole parameters and the beginning of another one. -/
def shown : List Nat → List Bytes → Bytes → List Slot
  | [], _, _ => []
  | c :: cs, [], torn => Slot.torn c torn :: cs.map Slot.empty
  | c :: cs, p :: ps, torn => Slot.holding c p :: shown cs ps torn

theorem shown_nothing (cs : List Nat) : shown cs [] [] = cs.map Slot.empty := by
  cases cs with
  | nil => rfl
  | cons c cs => rw [shown, Slot.torn_nil, List.map_cons]

theorem length_shown (cs : List Nat) (ps : List Bytes) (torn : Bytes) :
    (shown cs ps torn).length = cs.length := by
  induction cs generalizing ps with
  | nil => rfl
  | cons c cs ih =>
    cases ps with
    | nil => simp [shown]
    | cons p ps => simp [shown, ih]

theorem shown_getElem? (cs : List Nat) (ps : List Bytes) (torn : Bytes) (i : Nat) :
    (shown cs ps torn)[i]? = cs[i]?.map fun c =>
      match ps[i]? with
      | some p => Slot.holding c p
      | none => if i = ps.length then Slot.torn c torn else Slot.empty c := by
  induction cs generalizing ps i with
  | nil => rfl
  | cons c cs ih =>
    cases ps with
    | nil =>
      cases i with
      | zero => rfl
      | succ i => simp [shown]
    | cons p ps =>
      cases i with
      | zero => rfl
      | succ i => simp [shown, ih]

theorem stored_empty (cs : List Nat) (ps : List Bytes) :
    stored (cs.map Slot.empty) ps = shown cs (ps.take cs.length) [] := by
  induction cs generalizing ps with
  | nil => rfl
  | cons c cs ih =>
    cases ps with
    | nil => rw [stored_no_params, List.take_nil, shown_nothing]
    | cons p ps =>
      rw [List.map_cons, stored, Slot.capacity_empty, ih]
      rfl

namespace ReplyReader

/-- The stream ends before slots of these capacities have `n` parameters: after whole parameters,
and with these bytes of the next one, if it has a slot. -/
inductive Breaks (w : Width) : Nat → List Nat → Bytes → List Bytes → Bytes → Prop
  /-- Among the parameters that have no slot. -/
  | beyond {n : Nat} {s : Bytes} : Breaks w (n + 1) [] s [] []
  /-- Within the length of a parameter. -/
  | length {n c : Nat} {cs : List Nat} {s : Bytes} (short : s.length < w.lengthSize) :
    Breaks w (n + 1) (c :: cs) s [] []
  /-- Within the bytes of a parameter. -/
  | inside {n c reported : Nat} {cs : List Nat} {torn : Bytes} (fits : reported ≤ w.maxLength)
    (short : torn.length < reported) :
    Breaks w (n + 1) (c :: cs) (w.ofLength reported ++ torn) [] torn
  /-- After one more whole parameter. -/
  | after {n c : Nat} {cs : List Nat} {p s torn : Bytes} {ps : List Bytes}
    (fits : p.length ≤ w.maxLength) (rest : Breaks w n cs s ps torn) :
    Breaks w (n + 1) (c :: cs) (Frame.paramBytes w p ++ s) (p :: ps) torn

theorem fillSlots_no_slots (w : Width) (n : Nat) (s : Bytes) : (fillSlots w n [] s).1.2 = [] := by
  induction n generalizing s with
  | zero => rfl
  | succ n ih =>
    rw [fillSlots]
    split
    · rfl
    · exact ih _

/-- Where the slots cannot be filled, the stream breaks off, and they show how far it went. -/
theorem fillSlots_breaks {w : Width} {n : Nat} {cs : List Nat} {s rest : Bytes} {e : ProtocolError}
    {filled : List Slot}
    (h : fillSlots w n (cs.map Slot.empty) s = ((.error e, filled), rest)) :
    ∃ ps torn, Breaks w n cs s ps torn ∧ filled = shown cs ps torn := by
  induction n generalizing cs s filled with
  | zero =>
    rw [fillSlots] at h
    cases h
  | succ n ih =>
    cases cs with
    | nil =>
      have hnone : filled = [] := by
        have hempty := fillSlots_no_slots w (n + 1) s
        rw [List.map_nil] at h
        rwa [h] at hempty
      exact ⟨[], [], .beyond, hnone⟩
    | cons c cs =>
      rw [List.map_cons, fillSlots, Slot.capacity_empty] at h
      rcases hlength : (Reader.length w).on s with ⟨e' | reported, bytes⟩
      · rw [hlength] at h
        cases h
        refine ⟨[], [], .length (length_lt_of_length_error hlength), ?_⟩
        rw [shown_nothing, List.map_cons]
      · obtain ⟨used, rfl, hfits, rfl⟩ := ((measured_length w).ok_iff _ _ _).mp hlength
        rw [hlength] at h
        by_cases hwhole : reported ≤ bytes.length
        · obtain ⟨p, later, rfl, rfl⟩ : ∃ p later, bytes = p ++ later ∧ p.length = reported :=
            ⟨bytes.take reported, bytes.drop reported, (List.take_append_drop _ _).symm,
              List.length_take_of_le hwhole⟩
          simp only [Slot.fill_append] at h
          rcases hfill : fillSlots w n (cs.map Slot.empty) later with ⟨⟨result, filled'⟩, last⟩
          rw [hfill] at h
          cases h
          obtain ⟨ps, torn, hbreaks, rfl⟩ := ih hfill
          refine ⟨p :: ps, torn, ?_, rfl⟩
          rw [← List.append_assoc]
          exact .after hfits hbreaks
        · simp only [Slot.fill_torn c (Nat.lt_of_not_le hwhole)] at h
          cases h
          exact ⟨[], bytes, .inside hfits (Nat.lt_of_not_le hwhole), rfl⟩

theorem Breaks.length_le {w : Width} {n : Nat} {cs : List Nat} {s torn : Bytes} {ps : List Bytes}
    (h : Breaks w n cs s ps torn) : ps.length ≤ cs.length ∧ ps.length < n := by
  induction h with
  | beyond => simp
  | length short => simp
  | inside fits short => simp
  | after fits rest ih =>
    simp only [List.length_cons]
    omega

/-- The whole parameters stand in the stream one after another; behind them it ends within the next
length or the next parameter. -/
theorem Breaks.stream {w : Width} {n : Nat} {cs : List Nat} {s torn : Bytes} {ps : List Bytes}
    (h : Breaks w n cs s ps torn) : (∀ p ∈ ps, p.length ≤ w.maxLength) ∧
      ∃ tail, s = ps.flatMap (Frame.paramBytes w) ++ tail ∧
        (ps.length < cs.length → torn = [] ∧ tail.length < w.lengthSize ∨
          ∃ reported, reported ≤ w.maxLength ∧ tail = w.ofLength reported ++ torn ∧
            torn.length < reported) := by
  induction h with
  | @beyond n s => exact ⟨by simp, s, rfl, fun hlt => absurd hlt (Nat.lt_irrefl 0)⟩
  | @length n c cs s short => exact ⟨by simp, s, rfl, fun _ => Or.inl ⟨rfl, short⟩⟩
  | @inside n c reported cs torn fits short =>
    exact ⟨by simp, _, rfl, fun _ => Or.inr ⟨reported, fits, rfl, short⟩⟩
  | @after n c cs p s torn ps fits rest ih =>
    obtain ⟨hps, tail, rfl, htail⟩ := ih
    refine ⟨?_, tail, ?_, ?_⟩
    · rw [List.forall_mem_cons]
      exact ⟨fits, hps⟩
    · rw [List.flatMap_cons, List.append_assoc]
    · intro hlt
      exact htail (Nat.lt_of_succ_lt_succ hlt)

/-- A reply begins in the stream: behind the first marker the expected header, a count, and these of
its parameters, with `rest` behind them. -/
def Begins (r : ReplyReader) (s : Bytes) (count : Nat) (ps : List Bytes) (rest : Bytes) : Prop :=
  ∃ announced : UInt8, announced.toNat = count ∧ ps.length ≤ count ∧
    (∀ p ∈ ps, p.length ≤ r.width.maxLength) ∧
    FirstMarker r.budget Marker.start s
      (r.expectedHeader :: announced :: (ps.flatMap (Frame.paramBytes r.width) ++ rest))

/-- The stream ends inside the parameter after these, of which it holds the bytes `torn`. -/
def EndsInside (r : ReplyReader) (s : Bytes) (ps : List Bytes) (torn : Bytes) : Prop :=
  ∃ count reported, r.Begins s count ps (r.width.ofLength reported ++ torn) ∧ ps.length < count ∧
    reported ≤ r.width.maxLength ∧ torn.length < reported

/-- What the stream holds of an unfinished parameter after these: nothing, unless it ends inside. -/
def Torn (r : ReplyReader) (s : Bytes) (ps : List Bytes) (torn : Bytes) : Prop :=
  r.EndsInside s ps torn ∨ torn = [] ∧ ∀ bytes, ¬ r.EndsInside s ps bytes

section
variable {r : ReplyReader} {s rest rest' : Bytes} {ps : List Bytes} {count count' : Nat}

theorem Begins.unique (h : r.Begins s count ps rest) (h' : r.Begins s count' ps rest') :
    count = count' ∧ rest = rest' := by
  obtain ⟨announced, rfl, -, -, hm⟩ := h
  obtain ⟨announced', rfl, -, -, hm'⟩ := h'
  have hsame := hm.unique hm'
  simp only [List.cons.injEq, true_and, List.append_cancel_left_eq] at hsame
  exact ⟨congrArg UInt8.toNat hsame.1, hsame.2⟩

theorem Begins.opening (h : r.Begins s count ps rest) :
    r.opening.on s = (.ok count, ps.flatMap (Frame.paramBytes r.width) ++ rest) := by
  obtain ⟨announced, rfl, -, -, hm⟩ := h
  exact opening_ok_iff.mpr ⟨announced, rfl, hm⟩

theorem begins_of_announces (h : Announces r.budget r.width r.expectedHeader ps s rest) :
    r.Begins s ps.length ps rest := by
  obtain ⟨filler, announced, hlen, hq, hcount, hps, rfl⟩ := h
  exact ⟨announced, hcount, Nat.le_refl _, hps, filler, hlen, hq, by simp⟩

end

/-- The parameters with which a reply begins are the first of those that it has. -/
theorem Begins.take {r : ReplyReader} {s rest rest' : Bytes} {ps qs : List Bytes} {count : Nat}
    (h : r.Begins s count ps rest) (h' : Announces r.budget r.width r.expectedHeader qs s rest') :
    qs.take ps.length = ps := by
  have hopening := (begins_of_announces h').opening.symm.trans h.opening
  simp only [Prod.mk.injEq, Except.ok.injEq] at hopening
  obtain ⟨hcount, hbody⟩ := hopening
  obtain ⟨-, -, hle, hps, -⟩ := h
  obtain ⟨-, -, -, -, -, hqs, -⟩ := h'
  have hfirst := (measured_params r.width ps.length).on_append ⟨rfl, hps, rfl⟩ rest
  have hall := (measured_params r.width qs.length).on_append ⟨rfl, hqs, rfl⟩ rest'
  rw [hbody, show qs.length = ps.length + (qs.length - ps.length) by omega] at hall
  exact take_of_params hfirst hall

theorem map_clear (slots : List Slot) :
    slots.map Slot.clear = (slots.map Slot.capacity).map Slot.empty := by
  rw [List.map_map]
  rfl

/-- What the slots held before has no influence on the reading. -/
theorem parse_congr {before other : List Slot}
    (h : other.map Slot.capacity = before.map Slot.capacity) (r : ReplyReader) (s : Bytes) :
    r.parse other s = r.parse before s := by
  have hlength : other.length = before.length := by
    have := congrArg List.length h
    rwa [List.length_map, List.length_map] at this
  simp only [parse, map_clear, h, hlength]

/-- Whatever comes of reading a reply, the slots show whole parameters and the beginning of one. -/
theorem slots_shown (r : ReplyReader) (slots : List Slot) (s : Bytes) : ∃ ps torn,
      (r.parse slots s).slots = shown (slots.map Slot.capacity) ps torn ∧
      ps.length ≤ slots.length ∧ (ps = [] ∨ ∃ count rest, r.Begins s count ps rest) ∧
      (ps.length < slots.length → r.Torn s ps torn) := by
  rcases hopen : r.opening.on s with ⟨e' | count, body⟩
  · refine ⟨[], [], ?_, Nat.zero_le _, Or.inl rfl, fun _ => Or.inr ⟨rfl, ?_⟩⟩
    · rw [parse_of_opening_error hopen, shown_nothing, map_clear]
    · rintro bytes ⟨count, reported, hbegins, -⟩
      cases hopen.symm.trans hbegins.opening
  · obtain ⟨announced, hcount, hm⟩ := opening_ok_iff.mp hopen
    rcases (measured_params r.width count).cases body with ⟨qs, used, after, hqs, -, -⟩ | hnone
    · -- all parameters are there, so the fault lies behind them
      subst hcount
      have ha := announces_of_params hm hqs
      have hslots : (r.parse slots s).slots = stored (slots.map Slot.clear) qs := by
        rcases hstop : stop.on after with ⟨e' | _, last⟩
        · rw [parse_of_stop_error slots ha hstop]
        · rw [parse_of_stop slots ha hstop]
      have hbegins : r.Begins s qs.length qs after := begins_of_announces ha
      have htake : ∃ count rest, r.Begins s count (qs.take slots.length) rest := by
        obtain ⟨announced, hcount, hle, hfits, hfirst⟩ := hbegins
        refine ⟨qs.length, (qs.drop slots.length).flatMap (Frame.paramBytes r.width) ++ after,
          announced, hcount, ?_, fun p hp => hfits p (List.mem_of_mem_take hp), ?_⟩
        · rw [List.length_take]
          omega
        · rwa [← List.append_assoc, ← List.flatMap_append, List.take_append_drop]
      refine ⟨qs.take slots.length, [], ?_, ?_, Or.inr htake, fun hlt => Or.inr ⟨rfl, ?_⟩⟩
      · rw [hslots, map_clear, stored_empty, List.length_map]
      · rw [List.length_take]
        omega
      · rw [List.length_take] at hlt
        have hall : qs.take slots.length = qs := List.take_of_length_le (by omega)
        rw [hall]
        rintro bytes ⟨count, reported, hother, hmore, -⟩
        have hsame := (hbegins.unique hother).1
        omega
    · rcases hfill : fillSlots r.width count (slots.map Slot.clear) body with
        ⟨⟨result, filled⟩, rest⟩
      obtain ⟨filled', hfilled'⟩ := fillSlots_of_params_error (slots.map Slot.clear) hnone
      cases hfill.symm.trans hfilled'
      have hslots : (r.parse slots s).slots = filled := by
        simp only [parse, hopen, hfill]
      rw [map_clear] at hfill
      obtain ⟨ps, torn, hbreaks, rfl⟩ := fillSlots_breaks hfill
      obtain ⟨hle, hlt⟩ := hbreaks.length_le
      obtain ⟨hfits, tail, rfl, htail⟩ := hbreaks.stream
      rw [List.length_map] at hle htail
      have hbegins : r.Begins s count ps tail := ⟨announced, hcount, Nat.le_of_lt hlt, hfits, hm⟩
      refine ⟨ps, torn, hslots, hle, Or.inr ⟨count, tail, hbegins⟩, fun hslot => ?_⟩
      rcases htail hslot with ⟨hnil, hshort⟩ | ⟨reported, hreported, rfl, hshort⟩
      · refine Or.inr ⟨hnil, ?_⟩
        rintro bytes ⟨count', reported, hother, -⟩
        have hlength := congrArg List.length (hbegins.unique hother).2
        rw [List.length_append, Width.length_ofLength] at hlength
        omega
      · exact Or.inl ⟨count, reported, hbegins, hlt, hreported, hshort⟩

/-- What slots hold after a reply was read as far as it goes: the parameters `ps`, each in its slot
just as a reply that is whole leaves it there, then a slot that shows nothing though its storage has
the bytes that came of the next parameter, then slots that show nothing and hold nothing. -/
structure Leaves (r : ReplyReader) (s : Bytes) (ps : List Bytes) (before after : List Slot) :
    Prop where
  length : after.length = before.length
  fits : ps.length ≤ before.length
  stream : ps = [] ∨ ∃ count rest, r.Begins s count ps rest
  complete : ∀ (i : Nat) (p : Bytes) (old new : Slot), ps[i]? = some p → before[i]? = some old →
    after[i]? = some new → new.Holds old.capacity p
  asWhole : ∀ (whole rest : Bytes) (count n : Nat), r.Begins whole count ps rest →
    (r.parse before whole).result = .ok n →
    ∀ i, i < ps.length → after[i]? = (r.parse before whole).slots[i]?
  vacant : ∀ (i : Nat) (old new : Slot), ps.length ≤ i → before[i]? = some old →
    after[i]? = some new → new.Vacant old.capacity
  torn : ∀ old new : Slot, before[ps.length]? = some old → after[ps.length]? = some new →
    ∃ torn, r.Torn s ps torn ∧ new.raw = torn.take (old.capacity - 1) ++
      Bytes.zeros (old.capacity - (torn.take (old.capacity - 1)).length)
  zero : ∀ (i : Nat) (old new : Slot), ps.length < i → before[i]? = some old →
    after[i]? = some new → new.raw = Bytes.zeros old.capacity

section
variable {slots : List Slot} {ps : List Bytes} {torn : Bytes} {i : Nat} {old : Slot}
  (hold : slots[i]? = some old)
include hold

theorem shown_whole {p : Bytes} (hp : ps[i]? = some p) :
    (shown (slots.map Slot.capacity) ps torn)[i]? = some (Slot.holding old.capacity p) := by
  rw [shown_getElem?, List.getElem?_map, hold, hp]
  rfl

theorem shown_torn (hi : i = ps.length) :
    (shown (slots.map Slot.capacity) ps torn)[i]? = some (Slot.torn old.capacity torn) := by
  have hnone : ps[i]? = none := List.getElem?_eq_none (Nat.le_of_eq hi.symm)
  rw [shown_getElem?, List.getElem?_map, hold, hnone]
  exact congrArg some (if_pos hi)

theorem shown_empty (hi : ps.length < i) :
    (shown (slots.map Slot.capacity) ps torn)[i]? = some (Slot.empty old.capacity) := by
  have hnone : ps[i]? = none := List.getElem?_eq_none (Nat.le_of_lt hi)
  rw [shown_getElem?, List.getElem?_map, hold, hnone]
  exact congrArg some (if_neg (Nat.ne_of_gt hi))

end

/-- Slots that were given whole parameters agree with those that a whole reply fills with them. -/
theorem shown_eq_of_whole {r : ReplyReader} {slots : List Slot} {ps : List Bytes}
    {torn whole rest : Bytes} {count n i : Nat} (fits : ps.length ≤ slots.length)
    (hbegins : r.Begins whole count ps rest) (hok : (r.parse slots whole).result = .ok n)
    (hi : i < ps.length) :
    (shown (slots.map Slot.capacity) ps torn)[i]? = (r.parse slots whole).slots[i]? := by
  obtain ⟨qs, k, after, ha⟩ := announces_of_parse_ok hok
  have hslots : (r.parse slots whole).slots =
      shown (slots.map Slot.capacity) (qs.take slots.length) [] := by
    rw [parse_of_stop slots ha (stop_on_stop k after), map_clear, stored_empty, List.length_map]
  have hps : ps[i]? = (qs.take slots.length)[i]? := by
    rw [← hbegins.take ha, List.getElem?_take_of_lt hi,
      List.getElem?_take_of_lt (Nat.lt_of_lt_of_le hi fits)]
  obtain ⟨p, hp⟩ : ∃ p, ps[i]? = some p := ⟨ps[i], List.getElem?_eq_getElem hi⟩
  obtain ⟨old, hold⟩ : ∃ old, slots[i]? = some old :=
    ⟨_, List.getElem?_eq_getElem (Nat.lt_of_lt_of_le hi fits)⟩
  rw [hslots, shown_whole hold hp, shown_whole hold (hps ▸ hp)]

/-- However far a reply could be read, every slot is complete or shows nothing, and nothing in it
depends on what it held before. -/
theorem parse_leaves (r : ReplyReader) (before : List Slot) (s : Bytes) :
    (∃ ps, r.Leaves s ps before (r.parse before s).slots) ∧
      ∀ other : List Slot, other.map Slot.capacity = before.map Slot.capacity →
        r.parse other s = r.parse before s := by
  refine ⟨?_, fun other hother => parse_congr hother r s⟩
  obtain ⟨ps, torn, hslots, hfits, hstream, htorn⟩ := slots_shown r before s
  refine ⟨ps, ?_⟩
  rw [hslots]
  constructor
  case length => rw [length_shown, List.length_map]
  case fits => exact hfits
  case stream => exact hstream
  case complete =>
    intro i p old new hp hold hnew
    rw [shown_whole hold hp] at hnew
    cases hnew
    exact Slot.holding_holds old.capacity p
  case asWhole =>
    intro whole rest count n hbegins hok i hi
    exact shown_eq_of_whole hfits hbegins hok hi
  case vacant =>
    intro i old new hi hold hnew
    rcases Nat.eq_or_lt_of_le hi with heq | hlt
    · rw [shown_torn hold heq.symm] at hnew
      cases hnew
      exact Slot.vacant_torn old.capacity torn
    · rw [shown_empty hold hlt] at hnew
      cases hnew
      exact Slot.vacant_empty old.capacity
  case torn =>
    intro old new hold hnew
    rw [shown_torn hold rfl] at hnew
    cases hnew
    obtain ⟨hlt, -⟩ := List.getElem?_eq_some_iff.mp hold
    exact ⟨torn, htorn hlt, Slot.raw_torn old.capacity torn⟩
  case zero =>
    intro i old new hi hold hnew
    rw [shown_empty hold hi] at hnew
    cases hnew
    rfl

/-- Three parameters are announced, and the stream ends inside the second. -/
example :
    ((ofOpcode 0x20 .narrow).parse [⟨[9, 9], [9], 2⟩, ⟨[9], [9, 9], 7⟩, ⟨[], [9], 0⟩]
        [0, 0xe0, 0xa0, 3, 2, 7, 8, 5, 1, 2, 3]).slots =
      [⟨[7, 8], [0], 2⟩, ⟨[], [1, 2, 0], 0⟩, ⟨[], [0], 0⟩] := by
  decide +kernel

end ReplyReader

end SpiWifi
