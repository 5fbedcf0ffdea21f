import Mathlib.Data.List.Induction
import SpiWifi.Proofs.Text.Numeral
import SpiWifi.Proofs.Text.Utf8
import SpiWifi.Text.Hex

/-!
# Hexadecimal text and the bytes it spells

Two digits, the higher first and each in either case, spell a byte. A text is read as bytes just if
its characters are digits that spell them; what is read are the text's own bytes in UTF-8, so a
character beyond ASCII is never taken for digits. The text that is written for bytes spells them.
-/

namespace SpiWifi.Bytes

theorem low_eq_ofNat (n : Nat) : low n = UInt8.ofNat n :=
  UInt8.toNat.inj (by rw [toNat_low, UInt8.toNat_ofNat'])

end SpiWifi.Bytes

namespace SpiWifi.Text.Hex

open Numeral (IsDigit)

/-- The characters are digits, two for each of the bytes. -/
inductive Spells : List Char → Bytes → Prop
  | nil : Spells [] []
  | byte {hi lo : Char} {h l : Nat} {ds : List Char} {bytes : Bytes} (high : IsDigit 16 hi h)
      (low : IsDigit 16 lo l) (rest : Spells ds bytes) :
      Spells (hi :: lo :: ds) (UInt8.ofNat (16 * h + l) :: bytes)

def byteOf (c : Char) : UInt8 := UInt8.ofNat c.toNat

theorem digitValue?_lt {b : UInt8} {v : Nat} (h : digitValue? b = some v) : b.toNat < 128 := by
  unfold digitValue? at h
  split_ifs at h <;> omega

theorem digitValue?_byteOf {c : Char} (hc : c.toNat < 128) {v : Nat} :
    digitValue? (byteOf c) = some v ↔ IsDigit 16 c v := by
  have hcode : (byteOf c).toNat = c.toNat := Utf8.toNat_ofNat_of_lt (by omega)
  constructor
  · intro h
    unfold digitValue? at h
    rw [hcode] at h
    refine Numeral.isDigit_of_toNat (Nat.le_refl 16) ?_ ?_ <;> split_ifs at h <;> cases h <;> omega
  · intro h
    have hvalue := h.toNat_eq (Nat.le_refl 16)
    have hv := h.1
    unfold digitValue?
    rw [hcode]
    split_ifs <;> first | omega | (congr 1; omega)

theorem utf8EncodeChar_ascii {c : Char} (hc : c.toNat < 128) :
    String.utf8EncodeChar c = [byteOf c] := by
  have hbyte : (byteOf c).toNat = c.toNat := Utf8.toNat_ofNat_of_lt (by omega)
  have hchar := Utf8.encodeChar_one hc hbyte
  rwa [Char.ofNat_toNat] at hchar

/-- A character beyond ASCII begins with a byte that is no digit. -/
theorem utf8EncodeChar_beyond {c : Char} (hc : 128 ≤ c.toNat) :
    ∃ b rest, String.utf8EncodeChar c = b :: rest ∧ 128 ≤ b.toNat := by
  have hval : c.val.toNat = c.toNat := rfl
  unfold String.utf8EncodeChar
  simp only [hval]
  rw [if_neg (by omega)]
  split_ifs <;> refine ⟨_, _, rfl, ?_⟩ <;> rw [Utf8.toNat_ofNat_of_lt (by omega)] <;> omega

theorem encode_ascii {cs : List Char} (ascii : ∀ c ∈ cs, c.toNat < 128) :
    Utf8.encode (String.ofList cs) = cs.map byteOf := by
  rw [Utf8.encode_ofList]
  induction cs with
  | nil => rfl
  | cons c cs ih =>
    obtain ⟨hc, hcs⟩ := List.forall_mem_cons.mp ascii
    rw [List.flatMap_cons, utf8EncodeChar_ascii hc, ih hcs]
    rfl

/-- Text whose bytes are all below 128 is ASCII. -/
theorem ascii_of_encode {cs : List Char} (h : ∀ b ∈ Utf8.encode (String.ofList cs), b.toNat < 128) :
    ∀ c ∈ cs, c.toNat < 128 := by
  intro c hc
  by_contra hlarge
  obtain ⟨b, rest, hchar, hb⟩ := utf8EncodeChar_beyond (Nat.le_of_not_lt hlarge)
  have hmem : b ∈ Utf8.encode (String.ofList cs) := by
    rw [Utf8.encode_ofList]
    exact List.mem_flatMap.mpr ⟨c, hc, by rw [hchar]; exact List.mem_cons_self⟩
  have hsmall := h b hmem
  omega

theorem Spells.ascii {cs : List Char} {bytes : Bytes} (h : Spells cs bytes) :
    ∀ c ∈ cs, c.toNat < 128 := by
  induction h with
  | nil => exact List.forall_mem_nil _
  | byte high low _ ih =>
    have hhigh := high.toNat_eq (Nat.le_refl 16)
    have hlow := low.toNat_eq (Nat.le_refl 16)
    have := high.1
    have := low.1
    refine List.forall_mem_cons.mpr ⟨by omega, List.forall_mem_cons.mpr ⟨by omega, ih⟩⟩

theorem Spells.length_eq {cs : List Char} {bytes : Bytes} (h : Spells cs bytes) :
    cs.length = 2 * bytes.length := by
  induction h with
  | nil => rfl
  | byte _ _ _ ih =>
    simp only [List.length_cons]
    omega

theorem lt_of_pairs {position : Nat} {digits bytes : Bytes} (h : pairs position digits = .ok bytes) :
    ∀ b ∈ digits, b.toNat < 128 := by
  fun_induction pairs position digits generalizing bytes with
  | case1 => exact List.forall_mem_nil _
  | case2 => cases h
  | case3 => cases h
  | case4 => cases h
  | case5 => cases h
  | case6 position hi lo rest _ _ hlo hhi bytes hrest ih =>
    exact List.forall_mem_cons.mpr
      ⟨digitValue?_lt hhi, List.forall_mem_cons.mpr ⟨digitValue?_lt hlo, ih hrest⟩⟩

/-- Pairs of ASCII characters are read as bytes just if they spell them. -/
theorem pairs_eq_ok_iff {cs : List Char} (ascii : ∀ c ∈ cs, c.toNat < 128) {bytes : Bytes}
    {position : Nat} : pairs position (cs.map byteOf) = .ok bytes ↔ Spells cs bytes := by
  induction cs using List.twoStepInduction generalizing bytes position with
  | nil =>
    constructor
    · intro h
      cases h
      exact .nil
    · rintro ⟨⟩
      rfl
  | singleton c =>
    constructor
    · intro h
      cases h
    · rintro ⟨⟩
  | cons_cons hi lo rest ih _ =>
    obtain ⟨hhi, hlo, hrest⟩ : hi.toNat < 128 ∧ lo.toNat < 128 ∧ ∀ c ∈ rest, c.toNat < 128 := by
      simpa using ascii
    simp only [List.map_cons, pairs]
    constructor
    · intro h
      split at h
      · cases h
      · cases h
      · next high low hhigh hlow =>
        split at h
        · cases h
        · next bytes hbytes =>
          cases h
          rw [Bytes.low_eq_ofNat, Nat.mul_comm]
          exact .byte ((digitValue?_byteOf hhi).mp hhigh) ((digitValue?_byteOf hlo).mp hlow)
            ((ih hrest).mp hbytes)
    · intro h
      cases h with
      | byte high low spelled =>
        rw [(digitValue?_byteOf hhi).mpr high, (digitValue?_byteOf hlo).mpr low]
        dsimp only
        rw [(ih hrest).mpr spelled, Bytes.low_eq_ofNat, Nat.mul_comm]

/-- A text is read as bytes just if its characters are digits that spell them. -/
theorem decode_eq_ok_iff {cs : List Char} {bytes : Bytes} :
    decode (Utf8.encode (String.ofList cs)) = .ok bytes ↔ Spells cs bytes := by
  constructor
  · intro h
    have hpairs : pairs 0 (Utf8.encode (String.ofList cs)) = .ok bytes := by
      rw [decode] at h
      split at h
      · cases h
      · exact h
    have ascii := ascii_of_encode (lt_of_pairs hpairs)
    rw [encode_ascii ascii] at hpairs
    exact (pairs_eq_ok_iff ascii).mp hpairs
  · intro h
    have heven := h.length_eq
    rw [encode_ascii h.ascii, decode, List.length_map, if_neg (by omega)]
    exact (pairs_eq_ok_iff h.ascii).mpr h

theorem digit_eq : ∀ v < 16, digit v = Nat.digitChar v := by decide

theorem isDigit_digit {v : Nat} (hv : v < 16) : IsDigit 16 (digit v) v :=
  ⟨hv, .inl (digit_eq v hv)⟩

/-- The text that is written for bytes spells them. -/
theorem spells_encode (bytes : Bytes) : Spells (encode bytes).toList bytes := by
  rw [encode, String.toList_ofList]
  induction bytes with
  | nil => exact .nil
  | cons b bytes ih =>
    have hb := b.toNat_lt
    have joined : UInt8.ofNat (16 * (b.toNat / 16) + b.toNat % 16) = b :=
      Utf8.ofNat_eq (by omega)
    have spelled := Spells.byte (isDigit_digit (v := b.toNat / 16) (by omega))
      (isDigit_digit (v := b.toNat % 16) (by omega)) ih
    rwa [joined] at spelled

end SpiWifi.Text.Hex
