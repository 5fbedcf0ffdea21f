import SpiWifi.Proofs.Wire.RoundTrip

/-!
# How much fits a frame

Of the three limits of a frame only the size counts: a frame that is short enough has neither too
many parameters nor one that is too long. So a parameter on its own may have 247 bytes, or 246 with
a wide length, and no more than that is ever read from a frame that was written.
-/

namespace SpiWifi.Frame

def paramsSize (f : Frame) : Nat := (f.params.map (paramSize f.width)).foldr (· + ·) 0

/-- The most bytes that the parameters of a frame can take. -/
def maxParamsSize : Nat := 248

section
variable (f : Frame)

theorem encodedLength_eq : f.encodedLength = (headSize + f.paramsSize + 1 + 3) / 4 * 4 := rfl

@[simp] theorem paramsSize_withParam (p : Bytes) :
    (f.withParam p).paramsSize = f.paramsSize + (f.width.lengthSize + p.length) := by
  simp only [paramsSize, withParam, ← List.sum_eq_foldr, List.map_append, List.sum_append]
  simp [paramSize]

@[simp] theorem paramsSize_withU8 (v : UInt8) :
    (f.withU8 v).paramsSize = f.paramsSize + (f.width.lengthSize + 1) := f.paramsSize_withParam [v]

@[simp] theorem paramsSize_withU16 (v : UInt16) :
    (f.withU16 v).paramsSize = f.paramsSize + (f.width.lengthSize + 2) := f.paramsSize_withParam _

@[simp] theorem paramsSize_withU16LE (v : UInt16) :
    (f.withU16LE v).paramsSize = f.paramsSize + (f.width.lengthSize + 2) :=
  f.paramsSize_withParam _

@[simp] theorem paramsSize_withU32LE (v : UInt32) :
    (f.withU32LE v).paramsSize = f.paramsSize + (f.width.lengthSize + 4) :=
  f.paramsSize_withParam _

@[simp] theorem paramsSize_withIpv4 (ip : Ipv4) :
    (f.withIpv4 ip).paramsSize = f.paramsSize + (f.width.lengthSize + 4) :=
  f.paramsSize_withParam _

@[simp] theorem width_withParam (p : Bytes) : (f.withParam p).width = f.width := rfl

@[simp] theorem width_withU8 (v : UInt8) : (f.withU8 v).width = f.width := rfl

@[simp] theorem width_withIpv4 (ip : Ipv4) : (f.withIpv4 ip).width = f.width := rfl

@[simp] theorem paramsSize_command (c : Command) : (command c).paramsSize = 0 := rfl

@[simp] theorem width_command (c : Command) : (command c).width = c.requestWidth := rfl

@[simp] theorem paramsSize_reply (c : Command) : (reply c).paramsSize = 0 := rfl

@[simp] theorem width_reply (c : Command) : (reply c).width = c.replyWidth := rfl

end

theorem paramSize_le_sum {w : Width} {ps : List Bytes} {p : Bytes} (h : p ∈ ps) :
    paramSize w p ≤ (ps.map (paramSize w)).foldr (· + ·) 0 := by
  induction ps with
  | nil => exact absurd h List.not_mem_nil
  | cons q ps ih =>
    rw [List.map_cons, List.foldr_cons]
    rcases List.mem_cons.mp h with rfl | h
    · omega
    · have := ih h
      omega

theorem length_le_sum (w : Width) (ps : List Bytes) :
    ps.length ≤ (ps.map (paramSize w)).foldr (· + ·) 0 := by
  induction ps with
  | nil => exact Nat.zero_le _
  | cons p ps ih =>
    have hsize : 1 ≤ paramSize w p := by
      rw [paramSize]
      cases w <;> simp only [Width.lengthSize] <;> omega
    rw [List.map_cons, List.foldr_cons, List.length_cons]
    omega

/-- A frame of the right size has neither too many parameters nor one that is too long. -/
theorem fits_iff_size {f : Frame} : f.Fits ↔ f.paramsSize ≤ maxParamsSize := by
  constructor
  · intro fits
    have hsize := fits.size
    simp only [encodedLength_eq, headSize, maxSize] at hsize
    simp only [maxParamsSize]
    omega
  · intro hsize
    rw [maxParamsSize] at hsize
    refine ⟨?_, fun p hp => ?_, ?_⟩
    · have hcount : f.params.length ≤ f.paramsSize := length_le_sum f.width f.params
      rw [maxParams]
      omega
    · have hp : paramSize f.width p ≤ f.paramsSize := paramSize_le_sum hp
      rw [paramSize] at hp
      cases hw : f.width <;> rw [hw] at hp <;> simp only [Width.maxLength] <;> omega
    · simp only [encodedLength_eq, headSize, maxSize]
      omega

/-- No parameter of a frame that fits has more than 247 bytes. -/
theorem Fits.length_le {f : Frame} (fits : f.Fits) {p : Bytes} (hp : p ∈ f.params) :
    p.length ≤ 247 := by
  have hsize := fits_iff_size.mp fits
  have hp : paramSize f.width p ≤ f.paramsSize := paramSize_le_sum hp
  rw [maxParamsSize] at hsize
  rw [paramSize] at hp
  cases hw : f.width <;> rw [hw] at hp <;> simp only [Width.lengthSize] at hp <;> omega

/-- Bytes that a decoder takes for a frame are not shorter than its parts. -/
theorem size_le_of_decodeBy {widthOf : UInt8 → Width} {s : Bytes} {f : Frame}
    (h : decodeBy widthOf s = .ok f) : headSize + f.paramsSize + 1 ≤ s.length := by
  obtain ⟨-, k, rest, filler, count, -, -, -, -, rfl⟩ := decodeBy_ok_iff.mp h
  simp only [List.length_append, List.length_cons, List.length_nil, length_flatMap_paramBytes,
    headSize, paramsSize]
  omega

/-- What is read from the bytes of a frame that fits has no longer parameters, even if it is read
with another width than it was written with. -/
theorem Fits.length_le_of_decode {f g : Frame} (fits : f.Fits)
    (h : decodeCommand f.bytes = .ok g) {p : Bytes} (hp : p ∈ g.params) : p.length ≤ 247 := by
  have hlength := fits.length_bytes_le
  have hsize := size_le_of_decodeBy h
  have hp : paramSize g.width p ≤ g.paramsSize := paramSize_le_sum hp
  rw [headSize] at hsize
  rw [paramSize] at hp
  cases hw : g.width <;> rw [hw] at hp <;> simp only [Width.lengthSize] at hp <;> omega

end SpiWifi.Frame
