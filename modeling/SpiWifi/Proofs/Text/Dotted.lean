import SpiWifi.Ipv4
import SpiWifi.Proofs.Text.Decimal

/-!
# Addresses in dotted form

An address is read from the text that it is written as, and from no other: a part with a leading zero,
with a sign or with more than it can hold is refused, and so are more or fewer than four parts.
-/

namespace SpiWifi.Ipv4

theorem splitDots_eq (cs : List Char) : splitDots cs = cs.splitOn '.' := by
  induction cs with
  | nil => rfl
  | cons c rest ih =>
    rw [splitDots, ih, List.splitOn_cons_eq_if_modifyHead]
    cases hparts : rest.splitOn '.' with
    | nil => exact absurd hparts (List.splitOn_ne_nil _ _)
    | cons part parts => simp only [beq_iff_eq, List.modifyHead_cons]

theorem toList_toText (ip : Ipv4) :
    ip.toText.toList = ['.'].intercalate (ip.octets.map fun o => Nat.toDigits 10 o.toNat) := by
  simp [toText, octets]

theorem dot_not_mem_toDigits (n : Nat) : '.' ∉ Nat.toDigits 10 n := by
  intro hdot
  exact absurd (Nat.isDigit_of_mem_toDigits (by decide) (by decide) hdot) (by decide)

theorem splitDots_toText (ip : Ipv4) :
    splitDots ip.toText.toList = ip.octets.map fun o => Nat.toDigits 10 o.toNat := by
  rw [splitDots_eq, toList_toText]
  refine List.splitOn_intercalate '.' (fun part hpart => ?_) nofun
  obtain ⟨o, -, rfl⟩ := List.mem_map.mp hpart
  exact dot_not_mem_toDigits _

/-- A part is read as the octet that is written as it is. -/
theorem octet?_toDigits (o : UInt8) : octet? (Nat.toDigits 10 o.toNat) = some o := by
  have hsmall : o.toNat < 256 := o.toNat_lt
  have hlength : (Nat.toDigits 10 o.toNat).length ≤ 3 :=
    (Nat.length_toDigits_le_iff (by decide) (by decide)).mpr (by omega)
  have hpos : 0 < (Nat.toDigits 10 o.toNat).length := Nat.length_toDigits_pos
  have hdigits : (Nat.toDigits 10 o.toNat).all Char.isDigit = true :=
    List.all_eq_true.mpr fun _ hc => Nat.isDigit_of_mem_toDigits (by decide) (by decide) hc
  have hzero : ¬ (1 < (Nat.toDigits 10 o.toNat).length ∧
      (Nat.toDigits 10 o.toNat).head? = some '0') := by
    rintro ⟨hmore, hhead⟩
    rcases Nat.eq_zero_or_pos o.toNat with hnone | hsome
    · rw [hnone] at hmore
      exact absurd hmore (by decide)
    · exact Text.Numeral.head?_toDigits hsome hhead
  simp only [octet?]
  rw [if_neg (by omega), if_neg hzero, if_pos hdigits,
    Text.Numeral.read_toDigits (Nat.le_of_lt_succ hsmall)]
  simp [Except.toOption]

/-- No other part is read as the octet. -/
theorem eq_toDigits_of_octet? {part : List Char} {o : UInt8} (h : octet? part = some o) :
    part = Nat.toDigits 10 o.toNat := by
  simp only [octet?] at h
  split at h
  · cases h
  · split at h
    · cases h
    · next hlength hzero =>
      split at h
      · next hdigits =>
        cases part with
        | nil => exact absurd (Or.inl rfl) hlength
        | cons c cs =>
          rw [Text.Numeral.read_of_isDigit (List.all_eq_true.mp hdigits c (by simp))] at h
          cases hvalue : Text.Numeral.digits 10 255 0 (c :: cs) with
          | error fault =>
            rw [hvalue] at h
            cases h
          | ok v =>
            rw [hvalue] at h
            have hle := Text.Numeral.le_limit_of_digits (Nat.zero_le _) hvalue
            have hv : o.toNat = v := by
              rw [← Option.some.inj h, UInt8.toNat_ofNat']
              omega
            rw [hv]
            refine Text.Numeral.eq_toDigits_of_digits (fun hc => ?_) hvalue
            by_contra hmore
            have hpos := List.length_pos_iff.mpr hmore
            refine hzero ⟨?_, congrArg some hc⟩
            rw [List.length_cons]
            omega
      · cases h

/-- A text is an address just if it is what the address is written as. -/
theorem ofText?_eq_some_iff {s : String} {ip : Ipv4} : ofText? s = some ip ↔ s = ip.toText := by
  constructor
  · intro h
    simp only [ofText?] at h
    split at h
    · next w x y z hparts =>
      split at h
      · next a b c d ha hb hc hd =>
        cases h
        have hjoined : ['.'].intercalate (splitDots s.toList) = s.toList := by
          rw [splitDots_eq, List.intercalate_splitOn]
        rw [hparts, eq_toDigits_of_octet? ha, eq_toDigits_of_octet? hb, eq_toDigits_of_octet? hc,
          eq_toDigits_of_octet? hd] at hjoined
        rw [← String.toList_inj, ← hjoined, toList_toText]
        rfl
      · cases h
    · cases h
  · rintro rfl
    simp only [ofText?, splitDots_toText, octets, List.map_cons, List.map_nil, octet?_toDigits]

end SpiWifi.Ipv4
