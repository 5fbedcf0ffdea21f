import Mathlib.Data.List.Basic
import SpiWifi.Proofs.Text.Numeral

/-!
# Decimal numbers

The digits that a number is written with are read as that number, if it is in range. The other way
round, digits that do not begin with a zero are the ones that their number is written with, so a number
without leading zeros has one spelling.
-/

namespace SpiWifi.Text.Numeral

theorem digitOf?_digitChar {d : Nat} (h : d < 10) : digitOf? 10 (Nat.digitChar d) = some d :=
  (digitOf?_eq_some_iff (by decide)).mpr ⟨h, .inl rfl⟩

theorem digitOf?_eq_some {c : Char} {d : Nat} (h : digitOf? 10 c = some d) :
    d < 10 ∧ c = Nat.digitChar d := by
  have noCase : ∀ d < 10, (Nat.digitChar d).toUpper = Nat.digitChar d := by decide
  obtain ⟨hlt, hlower | hupper⟩ := (digitOf?_eq_some_iff (by decide)).mp h
  · exact ⟨hlt, hlower⟩
  · exact ⟨hlt, hupper.trans (noCase d hlt)⟩

theorem digits_append (base limit value : Nat) (xs ys : List Char) :
    digits base limit value (xs ++ ys) =
      (digits base limit value xs).bind fun v => digits base limit v ys := by
  induction xs generalizing value with
  | nil => rfl
  | cons c rest ih =>
    simp only [List.cons_append, digits]
    cases digitOf? base c with
    | none => rfl
    | some d =>
      dsimp only
      split
      · exact ih _
      · rfl

/-- Without a sign in front a numeral is its digits. -/
theorem read_of_isDigit {base limit : Nat} {c : Char} {cs : List Char} (h : c.isDigit) :
    read base limit (c :: cs) = digits base limit 0 (c :: cs) := by
  have hplus : c ≠ '+' := by
    rintro rfl
    exact absurd h (by decide)
  simp [read, hplus]

/-- A number in range is read back from its digits. -/
theorem digits_toDigits {limit n : Nat} (h : n ≤ limit) :
    digits 10 limit 0 (Nat.toDigits 10 n) = .ok n := by
  induction n using Nat.strongRecOn with
  | ind n ih =>
    by_cases small : n < 10
    · rw [Nat.toDigits_of_lt_base small]
      simp [digits, digitOf?_digitChar small, h]
    · have hlast : n % 10 < 10 := Nat.mod_lt n (by decide)
      have hvalue : n / 10 * 10 + n % 10 = n := by omega
      rw [Nat.toDigits_of_base_le (by decide) (by omega), digits_append,
        ih (n / 10) (by omega) (by omega)]
      simp [Except.bind, digits, digitOf?_digitChar hlast, hvalue, h]

/-- Digits after those of a number are those of the number that all of them spell. -/
theorem toDigits_append_of_digits {limit acc v : Nat} {cs : List Char} (pos : 0 < acc)
    (h : digits 10 limit acc cs = .ok v) : Nat.toDigits 10 acc ++ cs = Nat.toDigits 10 v := by
  induction cs generalizing acc with
  | nil =>
    cases h
    exact List.append_nil _
  | cons c rest ih =>
    simp only [digits] at h
    cases hdigit : digitOf? 10 c with
    | none =>
      rw [hdigit] at h
      cases h
    | some d =>
      rw [hdigit] at h
      dsimp only at h
      split at h
      · obtain ⟨hlt, rfl⟩ := digitOf?_eq_some hdigit
        have hjoined := Nat.toDigits_append_toDigits (b := 10) (by decide) pos hlt
        rw [Nat.toDigits_of_lt_base hlt, Nat.mul_comm] at hjoined
        have hrest := ih (by omega) h
        rw [← hjoined, List.append_assoc] at hrest
        exact hrest
      · cases h

/-- Digits without a leading zero are the ones that their number is written with. -/
theorem eq_toDigits_of_digits {limit v : Nat} {c : Char} {cs : List Char}
    (canonical : c = '0' → cs = []) (h : digits 10 limit 0 (c :: cs) = .ok v) :
    c :: cs = Nat.toDigits 10 v := by
  simp only [digits] at h
  cases hdigit : digitOf? 10 c with
  | none =>
    rw [hdigit] at h
    cases h
  | some d =>
    rw [hdigit] at h
    dsimp only at h
    split at h
    · obtain ⟨hlt, rfl⟩ := digitOf?_eq_some hdigit
      rw [Nat.zero_mul, Nat.zero_add] at h
      rcases Nat.eq_zero_or_pos d with rfl | pos
      · obtain rfl := canonical rfl
        cases h
        rfl
      · have hrest := toDigits_append_of_digits pos h
        rwa [Nat.toDigits_of_lt_base hlt] at hrest
    · cases h

theorem le_limit_of_digits {limit acc v : Nat} {cs : List Char} (small : acc ≤ limit)
    (h : digits 10 limit acc cs = .ok v) : v ≤ limit := by
  induction cs generalizing acc with
  | nil =>
    cases h
    exact small
  | cons c rest ih =>
    simp only [digits] at h
    split at h
    · cases h
    · split at h
      · next hle => exact ih hle h
      · cases h

theorem le_limit_of_read {limit v : Nat} {cs : List Char} (h : read 10 limit cs = .ok v) :
    v ≤ limit := by
  unfold read at h
  split at h
  · cases h
  · cases h
  · exact le_limit_of_digits (Nat.zero_le limit) h
  · exact le_limit_of_digits (Nat.zero_le limit) h

theorem read_toDigits {limit n : Nat} (h : n ≤ limit) :
    read 10 limit (Nat.toDigits 10 n) = .ok n := by
  cases hdigits : Nat.toDigits 10 n with
  | nil => exact absurd hdigits Nat.toDigits_ne_nil
  | cons c cs =>
    have hc : c.isDigit :=
      Nat.isDigit_of_mem_toDigits (b := 10) (n := n) (by decide) (by decide) (by simp [hdigits])
    rw [read_of_isDigit hc, ← hdigits, digits_toDigits h]

/-- Only zero is written with a zero in front. -/
theorem head?_toDigits {n : Nat} (pos : 0 < n) : (Nat.toDigits 10 n).head? ≠ some '0' := by
  induction n using Nat.strongRecOn with
  | ind n ih =>
    by_cases small : n < 10
    · rw [Nat.toDigits_of_lt_base small]
      intro hzero
      have hvalue : (Nat.digitChar n).toNat = 48 + n := Nat.toNat_digitChar_of_lt_ten small
      rw [Option.some.inj hzero] at hvalue
      have : ('0' : Char).toNat = 48 := rfl
      omega
    · rw [Nat.toDigits_of_base_le (by decide) (by omega),
        List.head?_append_of_ne_nil _ Nat.toDigits_ne_nil]
      exact ih (n / 10) (by omega) (by omega)

end SpiWifi.Text.Numeral
