import SpiWifi.Proofs.Wire.RoundTrip

/-!
# Frames written behind other bytes

A frame is written into a buffer that may hold anything already: byte by byte, with zeros until the
length fits, counted from where the buffer ended. The length that was computed beforehand is the
length that comes out. A frame that breaks a limit is refused by the first limit it breaks (the
number of parameters, the length of one, the size of the whole), and nothing is written then.
-/

namespace SpiWifi.Frame

theorem padding_of_aligned {n : Nat} (h : n % 4 = 3) : padding n = [] := by
  rw [padding, h]
  rfl

theorem padding_of_short {n : Nat} (h : n % 4 ≠ 3) : padding n = 0 :: padding (n + 1) := by
  have hcount : (7 - n % 4) % 4 = (7 - (n + 1) % 4) % 4 + 1 := by omega
  rw [padding, hcount]
  rfl

theorem length_padding_le (n : Nat) : (padding n).length ≤ 3 := by
  rw [padding, Bytes.length_zeros]
  omega

theorem fillUp_eq (n : Nat) (buffer : Bytes) : fillUp n buffer = buffer ++ padding n := by
  fun_induction fillUp n buffer with
  | case1 n buffer haligned => rw [padding_of_aligned haligned, List.append_nil]
  | case2 n buffer hshort ih => rw [ih, padding_of_short hshort, List.append_assoc]; rfl

/-- What is written does not depend on what stands before it. -/
theorem writeTo_eq (f : Frame) (buffer : Bytes) : f.writeTo buffer = buffer ++ f.bytes := by
  have hfilled : f.params.foldl (fun out p => out ++ paramBytes f.width p)
      (buffer ++ [Marker.start, f.header, Bytes.low f.params.length]) = buffer ++ f.body := by
    rw [List.foldl_append_eq_append, ← List.flatMap_def, List.append_assoc]
    rfl
  have hlength : (buffer ++ f.body).length - buffer.length = f.body.length := by
    rw [List.length_append, Nat.add_sub_cancel_left]
  simp only [writeTo, hfilled, hlength, fillUp_eq, bytes, List.append_assoc]

theorem encodeInto_of_excess {f : Frame} {e : ProtocolError} (h : f.excess? = some e)
    (buffer : Bytes) : f.encodeInto buffer = (.error e, buffer) := by
  rw [encodeInto, h]

theorem Fits.encodeInto_eq {f : Frame} (fits : f.Fits) (buffer : Bytes) :
    f.encodeInto buffer = (.ok f.encodedLength, buffer ++ f.bytes) := by
  rw [encodeInto, (excess?_eq_none_iff f).mpr fits]
  simp only [writeTo_eq, List.length_append, Nat.add_sub_cancel_left, length_bytes]

/-- A frame on its own is what the writer leaves in an empty buffer. -/
theorem encode_eq_encodeInto (f : Frame) :
    f.encode = (f.encodeInto []).1.map fun _ => (f.encodeInto []).2 := by
  rw [encode, encodeInto]
  cases f.excess? with
  | some e => rfl
  | none =>
    simp only [writeTo_eq, List.nil_append]
    rfl

/-- The parameter at a place is too long for the width of the frame, and none before it is. -/
structure FirstLong (f : Frame) (place : Nat) (p : Bytes) : Prop where
  stands : f.params[place]? = some p
  long : f.width.maxLength < p.length
  before : ∀ q ∈ f.params.take place, q.length ≤ f.width.maxLength

theorem firstTooLong_of_long {w : Width} {ps : List Bytes}
    (h : ∃ p ∈ ps, w.maxLength < p.length) (index : Nat) :
    ∃ i p, ps[i]? = some p ∧ w.maxLength < p.length ∧
      (∀ q ∈ ps.take i, q.length ≤ w.maxLength) ∧
      firstTooLong w index ps = some (index + i, p.length) := by
  induction ps generalizing index with
  | nil =>
    obtain ⟨p, hp, -⟩ := h
    exact absurd hp List.not_mem_nil
  | cons q ps ih =>
    by_cases hq : w.maxLength < q.length
    · exact ⟨0, q, rfl, hq, by simp, by rw [firstTooLong, if_pos hq, Nat.add_zero]⟩
    · obtain ⟨p, hp, hlong⟩ := h
      rcases List.mem_cons.mp hp with rfl | hp
      · exact absurd hlong hq
      · obtain ⟨i, p, hi, hlong, hbefore, hfirst⟩ := ih ⟨p, hp, hlong⟩ (index + 1)
        refine ⟨i + 1, p, hi, hlong, ?_, ?_⟩
        · rw [List.take_succ_cons, List.forall_mem_cons]
          exact ⟨Nat.le_of_not_lt hq, hbefore⟩
        · rw [firstTooLong, if_neg hq, hfirst, Nat.add_right_comm, Nat.add_assoc]

section
variable {f : Frame}

theorem excess?_of_count (h : maxParams < f.params.length) :
    f.excess? = some (.tooManyParams f.params.length) := by
  rw [excess?, if_pos h]

theorem excess?_of_long (count : f.params.length ≤ maxParams)
    (h : ∃ p ∈ f.params, f.width.maxLength < p.length) :
    ∃ place p, f.FirstLong place p ∧ f.excess? = some (.paramTooLong place p.length f.width) := by
  obtain ⟨i, p, hi, hlong, hbefore, hfirst⟩ := firstTooLong_of_long h 0
  refine ⟨i, p, ⟨hi, hlong, hbefore⟩, ?_⟩
  rw [excess?, if_neg (Nat.not_lt.mpr count), hfirst, Nat.zero_add]

theorem excess?_of_size (count : f.params.length ≤ maxParams)
    (lengths : ∀ p ∈ f.params, p.length ≤ f.width.maxLength) (h : maxSize < f.encodedLength) :
    f.excess? = some (.frameTooLarge f.encodedLength maxSize) := by
  rw [excess?, if_neg (Nat.not_lt.mpr count), (firstTooLong_eq_none_iff _ _ _).mpr lengths]
  exact if_pos h

end

/-- The bytes spell the number: in one byte, or in two with the high byte first. -/
def Spells : Width → Nat → Bytes → Prop
  | .narrow, n, e => ∃ b : UInt8, e = [b] ∧ b.toNat = n
  | .wide, n, e => ∃ hi lo : UInt8, e = [hi, lo] ∧ hi.toNat * 256 + lo.toNat = n

/-- The parameters as they stand on the line: one after another, each behind its length. -/
inductive Listed (w : Width) : List Bytes → Bytes → Prop
  | nil : Listed w [] []
  | cons {p length rest : Bytes} {ps : List Bytes} :
    Spells w p.length length → Listed w ps rest → Listed w (p :: ps) (length ++ p ++ rest)

/-- The bytes are the frame: start marker, header, number of parameters, the parameters, at most
three zeros, end marker. -/
def LaidOut (f : Frame) (e : Bytes) : Prop :=
  ∃ (count : UInt8) (listed : Bytes) (zeros : Nat), count.toNat = f.params.length ∧
    Listed f.width f.params listed ∧ zeros ≤ 3 ∧
    e = [Marker.start, f.header, count] ++ listed ++ Bytes.zeros zeros ++ [Marker.stop]

theorem spells_ofLength {w : Width} {n : Nat} (h : n ≤ w.maxLength) :
    Spells w n (w.ofLength n) := by
  cases w with
  | narrow =>
    simp only [Width.maxLength] at h
    refine ⟨Bytes.low n, rfl, ?_⟩
    rw [Bytes.toNat_low]
    omega
  | wide =>
    simp only [Width.maxLength] at h
    refine ⟨Bytes.low (n / 256), Bytes.low n, rfl, ?_⟩
    rw [Bytes.toNat_low, Bytes.toNat_low]
    omega

theorem listed_flatMap {w : Width} {ps : List Bytes} (h : ∀ p ∈ ps, p.length ≤ w.maxLength) :
    Listed w ps (ps.flatMap (paramBytes w)) := by
  induction ps with
  | nil => exact .nil
  | cons p ps ih =>
    rw [List.forall_mem_cons] at h
    rw [List.flatMap_cons]
    exact .cons (spells_ofLength h.1) (ih h.2)

theorem Fits.laidOut {f : Frame} (fits : f.Fits) : f.LaidOut f.bytes := by
  refine ⟨Bytes.low f.params.length, _, (padding f.body.length).length, ?_,
    listed_flatMap fits.lengths, length_padding_le _, ?_⟩
  · rw [Bytes.toNat_low]
    exact Nat.mod_eq_of_lt (Nat.lt_succ_of_le fits.count)
  · simp [bytes, body, padding]

/-- What becomes of a frame and of the buffer that it is written into. The buffer stays as it was
where a limit is broken, the first of them in this order; otherwise the frame stands behind what the
buffer held, in as many bytes as were computed beforehand. -/
theorem encodeInto_exact (f : Frame) (buffer : Bytes) :
    (255 < f.params.length →
      f.encodeInto buffer = (.error (.tooManyParams f.params.length), buffer)) ∧
    (f.params.length ≤ 255 → (∃ p ∈ f.params, f.width.maxLength < p.length) →
      ∃ place p, f.FirstLong place p ∧
        f.encodeInto buffer = (.error (.paramTooLong place p.length f.width), buffer)) ∧
    (f.params.length ≤ 255 → (∀ p ∈ f.params, p.length ≤ f.width.maxLength) →
      255 < f.encodedLength →
      f.encodeInto buffer = (.error (.frameTooLarge f.encodedLength 255), buffer)) ∧
    (f.params.length ≤ 255 → (∀ p ∈ f.params, p.length ≤ f.width.maxLength) →
      f.encodedLength ≤ 255 →
      f.encodedLength % 4 = 0 ∧ 4 ≤ f.encodedLength ∧ f.encodedLength ≤ 252 ∧
      ∃ e : Bytes, f.encodeInto buffer = (.ok f.encodedLength, buffer ++ e) ∧
        e.length = f.encodedLength ∧ f.LaidOut e) := by
  refine ⟨fun hcount => ?_, fun hcount hlong => ?_, fun hcount hlengths hsize => ?_,
    fun hcount hlengths hsize => ?_⟩
  · exact encodeInto_of_excess (excess?_of_count hcount) buffer
  · obtain ⟨place, p, hfirst, hexcess⟩ := excess?_of_long hcount hlong
    exact ⟨place, p, hfirst, encodeInto_of_excess hexcess buffer⟩
  · exact encodeInto_of_excess (excess?_of_size hcount hlengths hsize) buffer
  · have fits : f.Fits := ⟨hcount, hlengths, hsize⟩
    have hmost := fits.length_bytes_le
    rw [length_bytes] at hmost
    refine ⟨Nat.mul_mod_left _ _, ?_, hmost, f.bytes, fits.encodeInto_eq buffer, length_bytes f,
      fits.laidOut⟩
    simp only [encodedLength, headSize]
    omega

end SpiWifi.Frame
