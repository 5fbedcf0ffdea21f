import SpiWifi.Proofs.Wire.Grammar

/-!
# Reading back what was written

A frame that keeps the limits is written as the grammar of frames has it, so it is read back behind
filler and in front of anything, whatever bytes its parameters hold. The zeros before the end
marker are never taken for a parameter, because the count says where the parameters end.
-/

namespace SpiWifi.Frame

open Reader

/-- The frame keeps every limit of the format. -/
structure Fits (f : Frame) : Prop where
  count : f.params.length ≤ maxParams
  lengths : ∀ p ∈ f.params, p.length ≤ f.width.maxLength
  size : f.encodedLength ≤ maxSize

theorem firstTooLong_eq_none_iff (w : Width) (index : Nat) (ps : List Bytes) :
    firstTooLong w index ps = none ↔ ∀ p ∈ ps, p.length ≤ w.maxLength := by
  induction ps generalizing index with
  | nil => simp [firstTooLong]
  | cons p ps ih =>
    rw [firstTooLong, List.forall_mem_cons, ← ih (index + 1)]
    by_cases hp : w.maxLength < p.length
    · rw [if_pos hp]
      constructor
      · intro h
        cases h
      · rintro ⟨hle, _⟩
        omega
    · rw [if_neg hp]
      exact ⟨fun h => ⟨Nat.le_of_not_lt hp, h⟩, fun h => h.2⟩

theorem excess?_eq_none_iff (f : Frame) : f.excess? = none ↔ f.Fits := by
  constructor
  · intro h
    unfold excess? at h
    split at h
    · cases h
    · next hcount =>
      split at h
      · cases h
      · next hlengths =>
        split at h
        · cases h
        · next hsize =>
          exact ⟨Nat.le_of_not_lt hcount, (firstTooLong_eq_none_iff _ _ _).mp hlengths,
            Nat.le_of_not_lt hsize⟩
  · rintro ⟨hcount, hlengths, hsize⟩
    unfold excess?
    rw [if_neg (Nat.not_lt.mpr hcount), (firstTooLong_eq_none_iff _ _ _).mpr hlengths]
    exact if_neg (Nat.not_lt.mpr hsize)

theorem encode_ok_iff {f : Frame} {e : Bytes} : f.encode = .ok e ↔ f.Fits ∧ e = f.bytes := by
  rw [← excess?_eq_none_iff, encode]
  cases f.excess? with
  | none => simp [eq_comm]
  | some err => simp

theorem length_flatMap_paramBytes (w : Width) (ps : List Bytes) :
    (ps.flatMap (paramBytes w)).length = (ps.map (paramSize w)).foldr (· + ·) 0 := by
  have each : ∀ p, (paramBytes w p).length = paramSize w p := fun p => by
    rw [paramBytes, List.length_append, Width.length_ofLength, paramSize]
  rw [List.length_flatMap, List.sum_eq_foldr, funext each]

theorem length_body (f : Frame) :
    f.body.length = headSize + (f.params.map (paramSize f.width)).foldr (· + ·) 0 := by
  rw [body, List.length_cons, List.length_cons, List.length_cons, length_flatMap_paramBytes,
    headSize]
  omega

/-- The zeros bring a frame to the length that was computed beforehand. -/
theorem length_bytes (f : Frame) : f.bytes.length = f.encodedLength := by
  rw [encodedLength, ← length_body]
  simp only [bytes, padding, List.length_append, Bytes.length_zeros, List.length_singleton]
  omega

/-- No multiple of four lies between 252 and the limit. -/
theorem Fits.length_bytes_le {f : Frame} (h : f.Fits) : f.bytes.length ≤ 252 := by
  have hsize := h.size
  rw [length_bytes]
  simp only [encodedLength, maxSize] at hsize ⊢
  omega

/-- A written frame announces its own parameters, with only zeros before its end marker. -/
theorem Fits.announces {f : Frame} (h : f.Fits) {budget : Nat} {filler : Bytes}
    (hlen : filler.length < budget) (hq : Quiet filler) (rest : Bytes) :
    ∃ k, Announces budget f.width f.header f.params (filler ++ f.bytes ++ rest)
      (Bytes.zeros k ++ Marker.stop :: rest) := by
  refine ⟨(7 - f.body.length % 4) % 4, filler, Bytes.low f.params.length, hlen, hq, ?_,
    h.lengths, ?_⟩
  · rw [Bytes.toNat_low]
    exact Nat.mod_eq_of_lt (Nat.lt_succ_of_le h.count)
  · simp [bytes, body, padding]

theorem Fits.decodeBy_bytes {f : Frame} (h : f.Fits) (widthOf : UInt8 → Width)
    (hw : f.width = widthOf f.header) {filler : Bytes} (hlen : filler.length < startBudget)
    (hq : Quiet filler) (rest : Bytes) :
    decodeBy widthOf (filler ++ f.bytes ++ rest) = .ok f := by
  obtain ⟨k, ha⟩ := h.announces hlen hq rest
  exact decodeBy_ok_iff.mpr ⟨hw, k, rest, ha⟩

/-- Line noise before a frame and anything after it do not change what is read, whether the width
is known or follows from the opcode. -/
theorem decode_noise_encode_append {f : Frame} {e : Bytes} (he : f.encode = .ok e)
    {noise : Bytes} (hlen : noise.length ≤ 999)
    (hquiet : ∀ b ∈ noise, b ≠ Marker.start ∧ b ≠ Marker.error) (rest : Bytes) :
    decode f.width (noise ++ e ++ rest) = .ok f ∧
    (f.width = (f.command?.map Command.requestWidth).getD .narrow →
      decodeCommand (noise ++ e ++ rest) = .ok f) ∧
    (f.width = (f.command?.map Command.replyWidth).getD .narrow →
      decodeReply (noise ++ e ++ rest) = .ok f) := by
  obtain ⟨fits, rfl⟩ := encode_ok_iff.mp he
  have hbudget : noise.length < startBudget := Nat.lt_succ_of_le hlen
  refine ⟨?_, fun hw => ?_, fun hw => ?_⟩
  · exact fits.decodeBy_bytes (fun _ => f.width) rfl hbudget hquiet rest
  · exact fits.decodeBy_bytes requestWidthOf hw hbudget hquiet rest
  · exact fits.decodeBy_bytes replyWidthOf hw hbudget hquiet rest

/-- A bulk frame whose parameters hold every marker and a zero, read behind an end marker and in
front of another start marker. -/
theorem decode_markers_in_parameters :
    let f : Frame := ⟨0x45, .wide, [[0xe0, 0xee, 0xef, 0x00], []]⟩
    let e : Bytes := [0xe0, 0x45, 2, 0, 4, 0xe0, 0xee, 0xef, 0x00, 0, 0, 0xee]
    f.encode = .ok e ∧
    decode .wide ([0x00, 0xee] ++ e ++ [0xe0]) = .ok f ∧
    decodeCommand ([0x00, 0xee] ++ e ++ [0xe0]) = .ok f ∧
    decodeReply ([0x00, 0xee] ++ e ++ [0xe0]) = .ok f := by
  intro f e
  have he : f.encode = .ok e :=
    encode_ok_iff.mpr ⟨(excess?_eq_none_iff f).mp (by decide), by decide +kernel⟩
  have quiet : ∀ b ∈ [(0x00 : UInt8), 0xee], b ≠ Marker.start ∧ b ≠ Marker.error := by
    decide +kernel
  obtain ⟨known, command, reply⟩ := decode_noise_encode_append he (by decide) quiet [0xe0]
  exact ⟨he, known, command (by decide), reply (by decide)⟩

end SpiWifi.Frame
