import SpiWifi.Proofs.Wire.Sizes
import SpiWifi.Proofs.Wire.Writing

/-!
# Frames written anew

The decoder is lenient: it accepts noise before a frame, any number of zeros before the end marker,
anything behind it, and frames that are longer than one that may be sent. What it read is written
anew without all this, unless it is too long: every limit but that of the size is kept already,
because the count and the lengths came from the line. The new bytes are read as the same frame, and
none that are shorter by a whole word are.
-/

namespace SpiWifi.Frame

open Reader

/-- What becomes of a frame that is written anew, and read again by the decoder. -/
structure Renewed (decode : Bytes → Except ProtocolError Frame) (f : Frame) : Prop where
  /-- Only the size can be in the way. -/
  refused_iff : ∀ e, f.encode = .error e ↔
    255 < f.encodedLength ∧ e = .frameTooLarge f.encodedLength 255
  restored : ∀ e, f.encode = .ok e → decode e = .ok f
  shortest : ∀ e, f.encode = .ok e → ∀ t : Bytes, t.length % 4 = 0 → t.length < e.length →
    decode t ≠ .ok f

section
variable {f : Frame}

theorem encode_error_iff {e : ProtocolError} : f.encode = .error e ↔ f.excess? = some e := by
  rw [encode]
  cases f.excess? with
  | none => simp
  | some e' => simp

/-- A frame whose count and lengths can be written is refused for its size alone. -/
theorem encode_error_iff_of_bounded (count : f.params.length ≤ maxParams)
    (lengths : ∀ p ∈ f.params, p.length ≤ f.width.maxLength) {e : ProtocolError} :
    f.encode = .error e ↔
      maxSize < f.encodedLength ∧ e = .frameTooLarge f.encodedLength maxSize := by
  rw [encode_error_iff]
  by_cases hsize : maxSize < f.encodedLength
  · rw [excess?_of_size count lengths hsize]
    simp [hsize, eq_comm]
  · have fits : f.Fits := ⟨count, lengths, Nat.le_of_not_lt hsize⟩
    rw [(excess?_eq_none_iff f).mpr fits]
    simp [hsize]

end

theorem Renewed.of_decodeBy {widthOf : UInt8 → Width} {s : Bytes} {f : Frame}
    (h : decodeBy widthOf s = .ok f) : Renewed (decodeBy widthOf) f := by
  obtain ⟨hwidth, k, rest, filler, announced, -, -, hcount, hlengths, -⟩ := decodeBy_ok_iff.mp h
  have count : f.params.length ≤ maxParams := by
    have := announced.toNat_lt
    rw [maxParams]
    omega
  constructor
  · intro e
    exact encode_error_iff_of_bounded count hlengths
  · intro e he
    obtain ⟨fits, rfl⟩ := encode_ok_iff.mp he
    have hbudget : ([] : Bytes).length < startBudget := by decide
    have hread := fits.decodeBy_bytes widthOf hwidth hbudget Quiet.nil []
    rwa [List.nil_append, List.append_nil] at hread
  · intro e he t haligned hshorter hread
    obtain ⟨-, rfl⟩ := encode_ok_iff.mp he
    have hsize := size_le_of_decodeBy hread
    rw [length_bytes, encodedLength_eq] at hshorter
    omega

/-- Whatever bytes a frame was read from, by a decoder that knows the width or takes it from the
opcode, it is written anew in its shortest form, or is too long to be written at all. -/
theorem decoded_renewed (s : Bytes) (f : Frame) :
    (∀ w, decode w s = .ok f → Renewed (decode w) f) ∧
    (decodeCommand s = .ok f → Renewed decodeCommand f) ∧
    (decodeReply s = .ok f → Renewed decodeReply f) := by
  refine ⟨?_, ?_, ?_⟩
  · intro w h
    exact Renewed.of_decodeBy h
  · intro h
    exact Renewed.of_decodeBy h
  · intro h
    exact Renewed.of_decodeBy h

end SpiWifi.Frame
