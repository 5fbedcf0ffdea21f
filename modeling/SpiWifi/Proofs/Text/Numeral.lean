import Mathlib.Data.Nat.Digits.Defs
import SpiWifi.Text.Numeral

/-!
# What a numeral says

A numeral is a text of at least one digit, with or without a plus sign in front, and its number is
the one that the digits have in their base. A text is read as a number just if it is a numeral of
that number and the number is in range.
-/

namespace SpiWifi.Text.Numeral

/-- The character is the digit of the base with this value, a letter in either case. -/
def IsDigit (base : Nat) (c : Char) (v : Nat) : Prop :=
  v < base ∧ (c = Nat.digitChar v ∨ c = (Nat.digitChar v).toUpper)

/-- The digits, the highest first, are worth the number. -/
def AreDigits (base : Nat) (ds : List Char) (n : Nat) : Prop :=
  ∃ values, List.Forall₂ (IsDigit base) ds values ∧ n = Nat.ofDigits base values.reverse

/-- The text is a numeral of the number: digits, with a plus sign in front or without. -/
def IsNumeral (base : Nat) (cs : List Char) (n : Nat) : Prop :=
  ∃ ds, (cs = ds ∨ cs = '+' :: ds) ∧ ds ≠ [] ∧ AreDigits base ds n

theorem toNat_digitChar : ∀ v < 16, (Nat.digitChar v).toNat = if v < 10 then 48 + v else 87 + v := by
  decide

theorem toNat_toUpper_digitChar :
    ∀ v < 16, (Nat.digitChar v).toUpper.toNat = if v < 10 then 48 + v else 55 + v := by
  decide

theorem IsDigit.toNat_eq {base : Nat} (hbase : base ≤ 16) {c : Char} {v : Nat} (h : IsDigit base c v) :
    (v < 10 ∧ c.toNat = 48 + v) ∨ (10 ≤ v ∧ (c.toNat = 87 + v ∨ c.toNat = 55 + v)) := by
  obtain ⟨hv, rfl | rfl⟩ := h
  · rw [toNat_digitChar v (by omega)]
    split <;> omega
  · rw [toNat_toUpper_digitChar v (by omega)]
    split <;> omega

theorem isDigit_of_toNat {base : Nat} (hbase : base ≤ 16) {c : Char} {v : Nat} (hv : v < base)
    (h : (v < 10 ∧ c.toNat = 48 + v) ∨ (10 ≤ v ∧ (c.toNat = 87 + v ∨ c.toNat = 55 + v))) :
    IsDigit base c v := by
  have lower := toNat_digitChar v (by omega)
  have upper := toNat_toUpper_digitChar v (by omega)
  refine ⟨hv, ?_⟩
  rcases h with ⟨small, hc⟩ | ⟨large, hc | hc⟩
  · rw [if_pos small] at lower
    exact .inl (Char.toNat_inj.mp (hc.trans lower.symm))
  · rw [if_neg (by omega)] at lower
    exact .inl (Char.toNat_inj.mp (hc.trans lower.symm))
  · rw [if_neg (by omega)] at upper
    exact .inr (Char.toNat_inj.mp (hc.trans upper.symm))

theorem digitOf?_eq_some_iff {base : Nat} (hbase : base ≤ 16) {c : Char} {v : Nat} :
    digitOf? base c = some v ↔ IsDigit base c v := by
  rw [digitOf?, Option.filter_eq_some_iff, decide_eq_true_iff]
  constructor
  · rintro ⟨hvalue, hv⟩
    refine isDigit_of_toNat hbase hv ?_
    simp only [digitValue?] at hvalue
    split_ifs at hvalue <;> cases hvalue <;> omega
  · intro h
    have hcode := h.toNat_eq hbase
    have hv := h.1
    refine ⟨?_, hv⟩
    simp only [digitValue?]
    split_ifs <;> first | omega | (congr 1; omega)

/-- More digits make no number smaller. -/
theorem le_foldl_digits {base : Nat} (pos : 0 < base) (acc : Nat) (values : List Nat) :
    acc ≤ values.foldl (fun a v => v + base * a) acc := by
  induction values generalizing acc with
  | nil => exact Nat.le_refl acc
  | cons v values ih =>
    calc acc ≤ base * acc := Nat.le_mul_of_pos_left acc pos
      _ ≤ v + base * acc := Nat.le_add_left _ _
      _ ≤ _ := ih _

/-- Digits continue a number just if the number that comes out is in range. -/
theorem digits_eq_ok_iff {base : Nat} (hbase : base ≤ 16) {limit acc n : Nat} {cs : List Char}
    (hacc : acc ≤ limit) :
    digits base limit acc cs = .ok n ↔
      n ≤ limit ∧ ∃ values, List.Forall₂ (IsDigit base) cs values ∧
        n = values.foldl (fun a v => v + base * a) acc := by
  induction cs generalizing acc with
  | nil =>
    simp only [digits, Except.ok.injEq]
    constructor
    · rintro rfl
      exact ⟨hacc, [], .nil, rfl⟩
    · rintro ⟨-, values, hvalues, hn⟩
      cases hvalues
      exact hn.symm
  | cons c cs ih =>
    rw [digits]
    cases hdigit : digitOf? base c with
    | none =>
      constructor
      · intro h
        cases h
      · rintro ⟨-, values, hvalues, -⟩
        cases hvalues with
        | cons hc _ =>
          rw [(digitOf?_eq_some_iff hbase).mpr hc] at hdigit
          cases hdigit
    | some d =>
      have hd := (digitOf?_eq_some_iff hbase).mp hdigit
      have first : ∀ {values}, List.Forall₂ (IsDigit base) (c :: cs) values →
          ∃ rest, values = d :: rest ∧ List.Forall₂ (IsDigit base) cs rest := by
        rintro values (_ | @⟨_, v, _, rest, hc, hrest⟩)
        rw [(digitOf?_eq_some_iff hbase).mpr hc] at hdigit
        exact ⟨rest, by rw [Option.some.inj hdigit], hrest⟩
      dsimp only
      rw [Nat.mul_comm acc base, Nat.add_comm (base * acc) d]
      split
      · next hle =>
        rw [ih hle]
        constructor
        · rintro ⟨hn, rest, hrest, rfl⟩
          exact ⟨hn, d :: rest, .cons hd hrest, rfl⟩
        · rintro ⟨hn, values, hvalues, rfl⟩
          obtain ⟨rest, rfl, hrest⟩ := first hvalues
          exact ⟨hn, rest, hrest, rfl⟩
      · next hle =>
        constructor
        · intro h
          cases h
        · rintro ⟨hn, values, hvalues, rfl⟩
          obtain ⟨rest, rfl, -⟩ := first hvalues
          have hmore : d + base * acc ≤ _ :=
            le_foldl_digits (Nat.zero_lt_of_lt hd.1) (d + base * acc) rest
          exact absurd (Nat.le_trans hmore hn) hle

theorem digits_zero_eq_ok_iff {base : Nat} (hbase : base ≤ 16) {limit n : Nat} {ds : List Char} :
    digits base limit 0 ds = .ok n ↔ AreDigits base ds n ∧ n ≤ limit := by
  have hfold : ∀ values : List Nat,
      values.foldl (fun a v => v + base * a) 0 = Nat.ofDigits base values.reverse := fun values => by
    rw [Nat.ofDigits_eq_foldr, List.foldr_reverse]
    rfl
  rw [digits_eq_ok_iff hbase (Nat.zero_le limit), and_comm]
  simp only [hfold, AreDigits]

theorem not_areDigits_plus {base : Nat} (hbase : base ≤ 16) {ds : List Char} {n : Nat} :
    ¬ AreDigits base ('+' :: ds) n := by
  rintro ⟨values, hvalues, -⟩
  cases hvalues with
  | cons hplus _ =>
    have hcode : '+'.toNat = 43 := rfl
    have := hplus.toNat_eq hbase
    omega

/-- A text is read as a number just if it is a numeral of that number, and in range. -/
theorem read_eq_ok_iff {base : Nat} (hbase : base ≤ 16) {limit n : Nat} {cs : List Char} :
    read base limit cs = .ok n ↔ IsNumeral base cs n ∧ n ≤ limit := by
  unfold read
  split
  · constructor
    · intro h
      cases h
    · rintro ⟨⟨ds, rfl | h, hne, -⟩, -⟩
      · exact absurd rfl hne
      · cases h
  · constructor
    · intro h
      cases h
    · rintro ⟨⟨ds, rfl | h, hne, hds⟩, -⟩
      · exact absurd hds (not_areDigits_plus hbase)
      · cases h
        exact absurd rfl hne
  · next rest hrest =>
    rw [digits_zero_eq_ok_iff hbase]
    constructor
    · rintro ⟨hds, hn⟩
      refine ⟨⟨rest, .inr rfl, ?_, hds⟩, hn⟩
      rintro rfl
      exact hrest rfl
    · rintro ⟨⟨ds, rfl | h, hne, hds⟩, hn⟩
      · exact absurd hds (not_areDigits_plus hbase)
      · cases h
        exact ⟨hds, hn⟩
  · next hnil _ hplus =>
    rw [digits_zero_eq_ok_iff hbase]
    constructor
    · rintro ⟨hds, hn⟩
      exact ⟨⟨cs, .inl rfl, fun h => hnil h, hds⟩, hn⟩
    · rintro ⟨⟨ds, rfl | h, hne, hds⟩, hn⟩
      · exact ⟨hds, hn⟩
      · exact absurd h (hplus ds)

end SpiWifi.Text.Numeral
