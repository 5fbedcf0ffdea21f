import Mathlib.Data.List.Forall2
import SpiWifi.Proofs.Wire.Slots
import SpiWifi.Proofs.Wire.RoundTrip

/-!
# One reply at a time

A reader that finds a reply stops at its end marker. The bytes before that place decide what it
reads: with anything else after them the reading is the same, and with fewer of them there is none.
So replies that stand one after another in a stream are read one by one.
-/

namespace SpiWifi

open Reader

namespace Reader

theorem Quiet.take {s : Bytes} (h : Quiet s) (k : Nat) : Quiet (s.take k) :=
  fun b hb => h b (List.mem_of_mem_take hb)

theorem Quiet.start_notMem {s : Bytes} (h : Quiet s) : Marker.start ∉ s :=
  fun hmem => (h _ hmem).1 rfl

theorem FirstMarker.start_mem {budget : Nat} {s rest : Bytes}
    (h : FirstMarker budget Marker.start s rest) : Marker.start ∈ s := by
  obtain ⟨filler, -, -, rfl⟩ := h
  exact List.mem_append_right _ (List.mem_cons_self ..)

/-- Bytes that are cut off have the first marker at the same place, or none. -/
theorem FirstMarker.cut {budget : Nat} {marker : UInt8} {s more rest : Bytes}
    (h : FirstMarker budget marker (s ++ more) rest) :
    Quiet s ∨ ∃ before, FirstMarker budget marker s before ∧ rest = before ++ more := by
  obtain ⟨filler, hlen, hq, heq⟩ := h
  rcases List.append_eq_append_iff.mp heq with ⟨tail, rfl, -⟩ | ⟨tail, rfl, htail⟩
  · exact Or.inl fun b hb => hq b (List.mem_append_left _ hb)
  · cases tail with
    | nil => exact Or.inl (by rwa [List.append_nil])
    | cons b before =>
      cases htail
      exact Or.inr ⟨before, ⟨filler, hlen, hq, rfl⟩, rfl⟩

/-- Bytes hold one frame at most, up to its last parameter. -/
theorem Announces.unique {budget : Nat} {w : Width} {header header' : UInt8} {ps ps' : List Bytes}
    {s rest rest' : Bytes} (h : Announces budget w header ps s rest)
    (h' : Announces budget w header' ps' s rest') : header = header' ∧ ps = ps' ∧ rest = rest' := by
  obtain ⟨count, body, hs, hps, -⟩ := h.split
  obtain ⟨count', body', hs', hps', -⟩ := h'.split
  cases hs.unique hs'
  cases hps.symm.trans hps'
  exact ⟨rfl, rfl, rfl⟩

end Reader

namespace ReplyReader

/-- The number of bytes that a reading takes from the stream. -/
def taken (r : ReplyReader) (slots : List Slot) (s : Bytes) : Nat :=
  s.length - (r.parse slots s).unread.length

/-- A reply was read, and the bytes that were taken are the reply: the last of them is the end
marker, whatever follows them stays unread and changes nothing, and without one of them the reply
cannot be read. -/
structure ReadsOne (r : ReplyReader) (slots : List Slot) (s : Bytes) (n : Nat) : Prop where
  length : r.taken slots s ≤ s.length
  unread : (r.parse slots s).unread = s.drop (r.taken slots s)
  last : (s.take (r.taken slots s)).getLast? = some Marker.stop
  whole : ∀ t, r.parse slots (s.take (r.taken slots s) ++ t) =
    ⟨.ok n, (r.parse slots s).slots, t⟩
  short : ∀ j, j < r.taken slots s → (r.parse slots (s.take j)).result =
    .error (if Marker.start ∈ s.take j then .streamExhausted else .missingStart r.budget)

section
variable {r : ReplyReader} {ps : List Bytes}

/-- A reply without its last bytes: the search for its start marker fails if that is missing, and
otherwise the bytes end. -/
theorem parse_of_cut (slots : List Slot) {cut more rest : Bytes} {k : Nat}
    (h : Announces r.budget r.width r.expectedHeader ps (cut ++ more)
      (Bytes.zeros k ++ Marker.stop :: rest)) (hlen : rest.length < more.length) :
    (r.parse slots cut).result =
      .error (if Marker.start ∈ cut then .streamExhausted else .missingStart r.budget) := by
  obtain ⟨count, body, hmark, -, -⟩ := h.split
  rcases hmark.cut with hq | ⟨before, hbefore, heq⟩
  · rw [if_neg hq.start_notMem,
      parse_of_opening_error (opening_on_of_start_error (start_on_quiet (hq.take r.budget)))]
  rw [if_pos hbefore.start_mem]
  have found : ∀ {result after}, (start r.budget).on cut = (.error result, after) → False := by
    intro result after hnone
    cases hnone.symm.trans (start_on_start hbefore)
  rcases frame_cases r.budget (fun _ => r.width) cut with
    ⟨header, qs, after, ha⟩ | hbreaks | ⟨after, herror⟩ | hquiet
  · obtain ⟨rfl, rfl, hafter⟩ := (ha.append more).unique h
    have hstop : stop.on (after ++ more) = (.ok (), rest) := hafter ▸ stop_on_stop k rest
    rcases stop_cases after with ⟨k', last, rfl⟩ | ⟨k', b, last, hz, hb, rfl⟩ | ⟨k', rfl⟩
    · -- the end marker would be among the bytes that are left, so too many would follow it
      rw [List.append_assoc, List.cons_append, stop_on_stop] at hstop
      have hleft : (last ++ more).length = rest.length := congrArg (List.length ∘ Prod.snd) hstop
      rw [List.length_append] at hleft
      omega
    · rw [List.append_assoc, List.cons_append, stop_on_other k' hz hb] at hstop
      cases hstop
    · rw [parse_of_stop_error slots ha (stop_on_zeros k')]
  · refine parse_of_breaksOff hbreaks fun header after hother => ?_
    exact (List.cons.inj ((hother.append more).unique hmark)).1
  · exact (found (start_on_error herror)).elim
  · exact (found (start_on_quiet hquiet)).elim

theorem parse_of_announces (slots : List Slot) {s rest : Bytes} {k : Nat}
    (h : Announces r.budget r.width r.expectedHeader ps s (Bytes.zeros k ++ Marker.stop :: rest)) :
    r.parse slots s =
      ⟨.ok (min ps.length slots.length), stored (slots.map Slot.clear) ps, rest⟩ :=
  parse_of_stop slots h (stop_on_stop k rest)

/-- The bytes of a reply that is announced and ended, apart from what follows them. -/
theorem announces_without_rest {s rest : Bytes} {k : Nat}
    (h : Announces r.budget r.width r.expectedHeader ps s (Bytes.zeros k ++ Marker.stop :: rest)) :
    ∃ whole, s = whole ++ rest ∧ whole.getLast? = some Marker.stop ∧ ∀ t,
      Announces r.budget r.width r.expectedHeader ps (whole ++ t)
        (Bytes.zeros k ++ Marker.stop :: t) := by
  obtain ⟨filler, count, hlen, hq, hcount, hps, rfl⟩ := h
  refine ⟨filler ++ [Marker.start, r.expectedHeader, count] ++
    ps.flatMap (Frame.paramBytes r.width) ++ Bytes.zeros k ++ [Marker.stop], by simp,
    List.getLast?_concat, ?_⟩
  intro t
  exact ⟨filler, count, hlen, hq, hcount, hps, by simp⟩

end

/-- Reading a reply takes the bytes of that reply and none that follow. -/
theorem reads_one_of_ok {r : ReplyReader} {slots : List Slot} {s : Bytes} {n : Nat}
    (h : (r.parse slots s).result = .ok n) : r.ReadsOne slots s n := by
  obtain ⟨ps, k, rest, ha⟩ := announces_of_parse_ok h
  obtain ⟨whole, rfl, hlast, hwhole⟩ := announces_without_rest ha
  have hparse := parse_of_announces slots ha
  have htaken : r.taken slots (whole ++ rest) = whole.length := by
    rw [taken, hparse, List.length_append, Nat.add_sub_cancel]
  have htake : (whole ++ rest).take whole.length = whole := List.take_left
  have hn : n = min ps.length slots.length := by
    rw [hparse] at h
    exact (Except.ok.inj h).symm
  constructor
  case length =>
    rw [htaken, List.length_append]
    exact Nat.le_add_right ..
  case unread => rw [htaken, hparse, List.drop_left]
  case last => rw [htaken, htake, hlast]
  case whole =>
    intro t
    rw [htaken, htake, parse_of_announces slots (hwhole t), hparse, hn]
  case short =>
    intro j hj
    rw [htaken] at hj
    have hcut := ha
    rw [← List.take_append_drop j (whole ++ rest)] at hcut
    refine parse_of_cut slots hcut ?_
    rw [List.length_drop, List.length_append]
    omega

/-- Runs of a reader one after another, each with its own slots and on the bytes that the run
before it left: what they give, and the bytes that are left in the end. -/
def readings (r : ReplyReader) : List (List Slot) → Bytes → List SlotReading × Bytes
  | [], s => ([], s)
  | slots :: later, s =>
    let first := r.parse slots s
    let rest := r.readings later first.unread
    (first :: rest.1, rest.2)

/-- What a run of a reader should give for a reply that is read into these slots. -/
def Yields (reply : Frame × List Slot) (reading : SlotReading) : Prop :=
  reading.result = .ok (min reply.1.params.length reply.2.length) ∧
    ShowsParams reply.1.params reply.2 reading.slots

section
variable {r : ReplyReader} {reply : Frame}

theorem parse_of_fits (slots : List Slot) (fits : reply.Fits) (hbudget : 0 < r.budget)
    (hheader : reply.header = r.expectedHeader) (hwidth : reply.width = r.width) (rest : Bytes) :
    Yields (reply, slots) (r.parse slots (reply.bytes ++ rest)) ∧
      (r.parse slots (reply.bytes ++ rest)).unread = rest := by
  have nothing : ([] : Bytes).length < r.budget := hbudget
  obtain ⟨k, ha⟩ := fits.announces nothing Quiet.nil rest
  rw [hheader, hwidth, List.nil_append] at ha
  rw [parse_of_announces slots ha]
  exact ⟨⟨rfl, stored_clear_shows slots reply.params⟩, rfl⟩

/-- Induction on the replies: every run begins where its own reply begins. -/
theorem readings_of_encoded (hbudget : 0 < r.budget) {replies : List (Frame × List Slot)}
    {encoded : List Bytes}
    (expected : ∀ q ∈ replies, q.1.header = r.expectedHeader ∧ q.1.width = r.width)
    (hencode : List.Forall₂ (fun q bytes => q.1.encode = .ok bytes) replies encoded) :
    List.Forall₂ Yields replies (r.readings (replies.map Prod.snd) encoded.flatten).1 ∧
      (r.readings (replies.map Prod.snd) encoded.flatten).2 = [] := by
  induction hencode with
  | nil => exact ⟨.nil, rfl⟩
  | @cons q bytes replies encoded hfirst hlater ih =>
    obtain ⟨reply, slots⟩ := q
    obtain ⟨fits, rfl⟩ := Frame.encode_ok_iff.mp hfirst
    obtain ⟨hheader, hwidth⟩ := expected _ (List.mem_cons_self ..)
    obtain ⟨later, done⟩ := ih fun q hq => expected q (List.mem_cons_of_mem _ hq)
    obtain ⟨yields, unread⟩ := parse_of_fits slots fits hbudget hheader hwidth encoded.flatten
    simp only [List.map_cons, List.flatten_cons, readings, unread]
    exact ⟨.cons yields later, done⟩

end

/-- Whenever a reader finds a reply it takes the bytes of one reply: down to its end marker, without
a look at what follows, and needing each of them. Hence one reader that searches at least one byte
reads any replies that it expects out of a stream of them, one by one, with nothing left over. -/
theorem reads_replies_one_by_one (r : ReplyReader) :
    (∀ (slots : List Slot) (s : Bytes) (n : Nat), (r.parse slots s).result = .ok n →
      r.ReadsOne slots s n) ∧
    (0 < r.budget → ∀ (replies : List (Frame × List Slot)) (encoded : List Bytes),
      (∀ q ∈ replies, q.1.header = r.expectedHeader ∧ q.1.width = r.width) →
      List.Forall₂ (fun q bytes => q.1.encode = .ok bytes) replies encoded →
      List.Forall₂ Yields replies (r.readings (replies.map Prod.snd) encoded.flatten).1 ∧
        (r.readings (replies.map Prod.snd) encoded.flatten).2 = []) := by
  refine ⟨fun slots s n h => reads_one_of_ok h, ?_⟩
  intro hbudget replies encoded expected hencode
  exact readings_of_encoded hbudget expected hencode

/-- A reply behind line noise, and the same two replies in a stream of their own. -/
theorem reads_two_replies_one_by_one :
    let r := ofOpcode 0x20 .narrow
    let first : Frame × List Slot := (⟨0xa0, .narrow, [[0xe0, 0xee]]⟩, [Slot.forValue 2])
    let second : Frame × List Slot := (⟨0xa0, .narrow, []⟩, [Slot.forValue 1])
    let encoded : List Bytes := [[0xe0, 0xa0, 1, 2, 0xe0, 0xee, 0, 0xee], [0xe0, 0xa0, 0, 0xee]]
    r.ReadsOne first.2 ([0, 7] ++ encoded.flatten) 1 ∧
    List.Forall₂ Yields [first, second] (r.readings [first.2, second.2] encoded.flatten).1 ∧
    (r.readings [first.2, second.2] encoded.flatten).2 = [] := by
  intro r first second encoded
  obtain ⟨one, many⟩ := reads_replies_one_by_one r
  have written : List.Forall₂ (fun q bytes => q.1.encode = .ok bytes) [first, second] encoded :=
    .cons (by decide +kernel) (.cons (by decide +kernel) .nil)
  have expected : ∀ q ∈ [first, second], q.1.header = r.expectedHeader ∧ q.1.width = r.width := by
    decide +kernel
  exact ⟨one _ _ _ (by decide +kernel), many (by decide) _ _ expected written⟩

end ReplyReader

end SpiWifi
