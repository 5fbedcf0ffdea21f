import Mathlib.Tactic.SplitIfs
import SpiWifi.Text.Utf8

/-!
# Text and its bytes

Text is written character by character, in one to four bytes each. The scanner reads the bytes of
one character back to that character, whatever follows them, and reads a character from no other
bytes. So the strict reading takes back every text, and accepts only the bytes of the text that it
gives.
-/

namespace SpiWifi.Text.Utf8

theorem encode_ofList (cs : List Char) :
    encode (String.ofList cs) = cs.flatMap String.utf8EncodeChar := by
  simp [encode, String.toUTF8, List.utf8Encode]

/-- The code of a character, by the number of bytes that it takes. -/
theorem char_cases (c : Char) :
    c.toNat < 0x80 ∨ (0x80 ≤ c.toNat ∧ c.toNat < 0x800) ∨
    (0x800 ≤ c.toNat ∧ c.toNat < 0x10000 ∧ (c.toNat < 0xd800 ∨ 0xdfff < c.toNat)) ∨
    (0x10000 ≤ c.toNat ∧ c.toNat < 0x110000) := by
  have hvalid : c.toNat < 0xd800 ∨ (0xdfff < c.toNat ∧ c.toNat < 0x110000) := c.valid
  omega

theorem toNat_ofNat_of_lt {n : Nat} (h : n < 256) : (UInt8.ofNat n).toNat = n := by
  rw [UInt8.toNat_ofNat']
  omega

theorem ofNat_eq {b : UInt8} {n : Nat} (h : n = b.toNat) : UInt8.ofNat n = b := by
  rw [h, UInt8.ofNat_toNat]

/-- A byte that continues a character, within the range that is expected. -/
theorem scanFrom_tail {p : Pending} {n : Nat} (hn : n < 64) (hleast : p.least.toNat ≤ n + 0x80)
    (hmost : n + 0x80 ≤ p.most.toNat) (rest : Bytes) :
    scanFrom (some p) (UInt8.ofNat (n + 0x80) :: rest) =
      if p.wanted ≤ 1 then some (Char.ofNat (p.bits * 64 + n)) :: scanFrom none rest
      else scanFrom (some ⟨p.wanted - 1, 0x80, 0xbf, p.bits * 64 + n⟩) rest := by
  have hbyte : (UInt8.ofNat (n + 0x80)).toNat = n + 0x80 := toNat_ofNat_of_lt (by omega)
  have hrange : p.least ≤ UInt8.ofNat (n + 0x80) ∧ UInt8.ofNat (n + 0x80) ≤ p.most := by
    rw [UInt8.le_iff_toNat_le, UInt8.le_iff_toNat_le, hbyte]
    exact ⟨hleast, hmost⟩
  rw [scanFrom, if_pos hrange, hbyte, Nat.add_sub_cancel]

theorem scanFrom_begun {b : UInt8} {p : Pending} (h : opening b = .begun p) (rest : Bytes) :
    scanFrom none (b :: rest) = scanFrom (some p) rest := by
  rw [scanFrom, h]

theorem opening_complete {n : Nat} (hn : n < 0x80) :
    opening (UInt8.ofNat n) = .complete (Char.ofNat n) := by
  rw [opening, toNat_ofNat_of_lt (by omega)]
  exact if_pos hn

theorem opening_two {n : Nat} (h : 2 ≤ n) (hn : n < 32) :
    opening (UInt8.ofNat (n + 0xc0)) = .begun ⟨1, 0x80, 0xbf, n⟩ := by
  rw [opening, toNat_ofNat_of_lt (by omega)]
  split_ifs
  all_goals first
    | omega
    | rw [Nat.add_sub_cancel]

/-- The second byte after the first of three, so that no shorter form and no surrogate is spelt. -/
theorem opening_three {n : Nat} (hn : n < 16) :
    opening (UInt8.ofNat (n + 0xe0)) =
      .begun ⟨2, if n = 0 then 0xa0 else 0x80, if n = 13 then 0x9f else 0xbf, n⟩ := by
  rw [opening, toNat_ofNat_of_lt (by omega)]
  split_ifs
  all_goals first
    | omega
    | rw [Nat.add_sub_cancel]
    | simp_all

/-- The second byte after the first of four, so that no shorter form and no code past the last is
spelt. -/
theorem opening_four {n : Nat} (hn : n < 5) :
    opening (UInt8.ofNat (n + 0xf0)) =
      .begun ⟨3, if n = 0 then 0x90 else 0x80, if n = 4 then 0x8f else 0xbf, n⟩ := by
  rw [opening, toNat_ofNat_of_lt (by omega)]
  split_ifs
  all_goals first
    | omega
    | rw [Nat.add_sub_cancel]
    | simp_all

theorem scan_char (c : Char) (rest : Bytes) :
    scan (String.utf8EncodeChar c ++ rest) = some c :: scan rest := by
  have hcode : ∀ v, v = c.toNat → Char.ofNat v = c := by
    rintro v rfl
    exact Char.ofNat_toNat c
  have hval : c.val.toNat = c.toNat := rfl
  unfold String.utf8EncodeChar scan
  simp only [hval]
  rcases char_cases c with h | ⟨h, h'⟩ | ⟨h, h', hs⟩ | ⟨h, h'⟩
  · rw [if_pos (by omega), List.cons_append, List.nil_append, scanFrom, opening_complete h,
      hcode _ rfl]
  · rw [if_neg (by omega), if_pos (by omega), List.cons_append, List.cons_append, List.nil_append,
      scanFrom_begun (opening_two (by omega) (by omega)),
      scanFrom_tail (by omega) (by simp) (by simp; omega), if_pos (by simp)]
    dsimp only
    rw [hcode _ (by omega)]
  · rw [if_neg (by omega), if_neg (by omega), if_pos (by omega)]
    simp only [List.cons_append, List.nil_append]
    rw [scanFrom_begun (opening_three (by omega)),
      scanFrom_tail (by omega) (by dsimp only; split_ifs <;> simp; omega)
        (by dsimp only; split_ifs <;> simp <;> omega), if_neg (by simp),
      scanFrom_tail (by omega) (by simp) (by simp; omega), if_pos (by simp)]
    dsimp only
    rw [hcode _ (by omega)]
  · rw [if_neg (by omega), if_neg (by omega), if_neg (by omega)]
    simp only [List.cons_append, List.nil_append]
    rw [scanFrom_begun (opening_four (by omega)),
      scanFrom_tail (by omega) (by dsimp only; split_ifs <;> simp; omega)
        (by dsimp only; split_ifs <;> simp <;> omega), if_neg (by simp),
      scanFrom_tail (by omega) (by simp) (by simp; omega), if_neg (by simp),
      scanFrom_tail (by omega) (by simp) (by simp; omega), if_pos (by simp)]
    dsimp only
    rw [hcode _ (by omega)]

theorem scan_encode (cs : List Char) : scan (cs.flatMap String.utf8EncodeChar) = cs.map some := by
  induction cs with
  | nil => rfl
  | cons c cs ih => rw [List.flatMap_cons, scan_char, ih, List.map_cons]

theorem mapM_map_some (cs : List Char) : (cs.map some).mapM id = some cs := by
  induction cs with
  | nil => rfl
  | cons c cs ih => simp [ih]

/-- Every text is read back from its bytes. -/
theorem decode?_encode (s : String) : decode? (encode s) = some s := by
  have hs : String.ofList s.toList = s := String.ofList_toList
  rw [← hs, encode_ofList, decode?, scan_encode, mapM_map_some]
  rfl

theorem opening_complete_inv {b : UInt8} {c : Char} (h : opening b = .complete c) :
    b.toNat < 0x80 ∧ c = Char.ofNat b.toNat := by
  rw [opening] at h
  split_ifs at h with hn
  all_goals cases h
  exact ⟨hn, rfl⟩

/-- What a first byte says of the bytes to come, by their number. -/
theorem opening_begun_inv {b : UInt8} {p : Pending} (h : opening b = .begun p) :
    ∃ n, (2 ≤ n ∧ n < 32 ∧ b.toNat = n + 0xc0 ∧ p = ⟨1, 0x80, 0xbf, n⟩) ∨
      (n < 16 ∧ b.toNat = n + 0xe0 ∧
        p = ⟨2, if n = 0 then 0xa0 else 0x80, if n = 13 then 0x9f else 0xbf, n⟩) ∨
      (n < 5 ∧ b.toNat = n + 0xf0 ∧
        p = ⟨3, if n = 0 then 0x90 else 0x80, if n = 4 then 0x8f else 0xbf, n⟩) := by
  have hb := b.toNat_lt
  have same : ∀ n, b.toNat = n → opening b = opening (UInt8.ofNat n) := by
    rintro n rfl
    rw [UInt8.ofNat_toNat]
  by_cases h2 : 0xc2 ≤ b.toNat ∧ b.toNat < 0xe0
  · refine ⟨b.toNat - 0xc0, Or.inl ⟨by omega, by omega, by omega, ?_⟩⟩
    rw [same (b.toNat - 0xc0 + 0xc0) (by omega), opening_two (by omega) (by omega)] at h
    cases h
    rfl
  by_cases h3 : 0xe0 ≤ b.toNat ∧ b.toNat < 0xf0
  · refine ⟨b.toNat - 0xe0, Or.inr (Or.inl ⟨by omega, by omega, ?_⟩)⟩
    rw [same (b.toNat - 0xe0 + 0xe0) (by omega), opening_three (by omega)] at h
    cases h
    rfl
  by_cases h4 : 0xf0 ≤ b.toNat ∧ b.toNat < 0xf5
  · refine ⟨b.toNat - 0xf0, Or.inr (Or.inr ⟨by omega, by omega, ?_⟩)⟩
    rw [same (b.toNat - 0xf0 + 0xf0) (by omega), opening_four (by omega)] at h
    cases h
    rfl
  · rw [opening] at h
    split_ifs at h
    all_goals omega

/-- A character begun is finished by a byte in the range that is expected. -/
theorem scanFrom_some_inv {p : Pending} {bytes : Bytes} {c : Char} {t : List (Option Char)}
    (h : scanFrom (some p) bytes = some c :: t) :
    ∃ b rest, bytes = b :: rest ∧ p.least.toNat ≤ b.toNat ∧ b.toNat ≤ p.most.toNat ∧
      (if p.wanted ≤ 1 then some (Char.ofNat (p.bits * 64 + (b.toNat - 0x80))) :: scanFrom none rest
        else scanFrom (some ⟨p.wanted - 1, 0x80, 0xbf, p.bits * 64 + (b.toNat - 0x80)⟩) rest) =
      some c :: t := by
  cases bytes with
  | nil => cases h
  | cons b rest =>
    rw [scanFrom] at h
    split at h
    · next hrange => exact ⟨b, rest, rfl, hrange.1, hrange.2, h⟩
    · split at h <;> cases h

theorem toNat_char_ofNat {v : Nat} (hv : v < 0xd800 ∨ (0xdfff < v ∧ v < 0x110000)) :
    (Char.ofNat v).val.toNat = v := by
  have hvalid : v.isValidChar := hv
  rw [Char.ofNat, dif_pos hvalid]
  rfl

section
variable {v : Nat} {b b₁ b₂ b₃ : UInt8}

theorem encodeChar_one (hv : v < 0x80) (hb : b.toNat = v) :
    String.utf8EncodeChar (Char.ofNat v) = [b] := by
  rw [String.utf8EncodeChar]
  simp only [toNat_char_ofNat (Or.inl (by omega : v < 0xd800))]
  rw [if_pos (by omega), ofNat_eq hb.symm]

theorem encodeChar_two (hv : 0x80 ≤ v ∧ v < 0x800) (hb : b.toNat = v / 64 + 0xc0)
    (hb₁ : b₁.toNat = v % 64 + 0x80) : String.utf8EncodeChar (Char.ofNat v) = [b, b₁] := by
  rw [String.utf8EncodeChar]
  simp only [toNat_char_ofNat (Or.inl (by omega : v < 0xd800))]
  rw [if_neg (by omega), if_pos (by omega), ofNat_eq (b := b) (by omega),
    ofNat_eq (b := b₁) (by omega)]

theorem encodeChar_three (hv : 0x800 ≤ v ∧ v < 0x10000) (hs : v < 0xd800 ∨ 0xdfff < v)
    (hb : b.toNat = v / 4096 + 0xe0) (hb₁ : b₁.toNat = v / 64 % 64 + 0x80)
    (hb₂ : b₂.toNat = v % 64 + 0x80) : String.utf8EncodeChar (Char.ofNat v) = [b, b₁, b₂] := by
  have hvalid : v < 0xd800 ∨ (0xdfff < v ∧ v < 0x110000) := by omega
  rw [String.utf8EncodeChar]
  simp only [toNat_char_ofNat hvalid]
  rw [if_neg (by omega), if_neg (by omega), if_pos (by omega), ofNat_eq (b := b) (by omega),
    ofNat_eq (b := b₁) (by omega), ofNat_eq (b := b₂) (by omega)]

theorem encodeChar_four (hv : 0x10000 ≤ v ∧ v < 0x110000) (hb : b.toNat = v / 262144 + 0xf0)
    (hb₁ : b₁.toNat = v / 4096 % 64 + 0x80) (hb₂ : b₂.toNat = v / 64 % 64 + 0x80)
    (hb₃ : b₃.toNat = v % 64 + 0x80) :
    String.utf8EncodeChar (Char.ofNat v) = [b, b₁, b₂, b₃] := by
  rw [String.utf8EncodeChar]
  simp only [toNat_char_ofNat (Or.inr (by omega : 0xdfff < v ∧ v < 0x110000))]
  rw [if_neg (by omega), if_neg (by omega), if_neg (by omega), ofNat_eq (b := b) (by omega),
    ofNat_eq (b := b₁) (by omega), ofNat_eq (b := b₂) (by omega), ofNat_eq (b := b₃) (by omega)]

end

/-- A character at the head of what is read stands at the head of the bytes. -/
theorem scan_some_inv {bytes : Bytes} {c : Char} {t : List (Option Char)}
    (h : scan bytes = some c :: t) :
    ∃ rest, bytes = String.utf8EncodeChar c ++ rest ∧ scan rest = t := by
  cases bytes with
  | nil => cases h
  | cons b rest =>
    rw [scan, scanFrom] at h
    cases hopen : opening b with
    | stray =>
      rw [hopen] at h
      cases h
    | complete d =>
      rw [hopen] at h
      obtain ⟨hc, ht⟩ := List.cons.inj h
      obtain ⟨hb, rfl⟩ := opening_complete_inv hopen
      exact ⟨rest, by rw [← Option.some.inj hc, encodeChar_one hb rfl]; rfl, ht⟩
    | begun p =>
      rw [hopen] at h
      dsimp only at h
      obtain ⟨n, ⟨hn, hn', hb, rfl⟩ | ⟨hn, hb, rfl⟩ | ⟨hn, hb, rfl⟩⟩ := opening_begun_inv hopen
      · obtain ⟨b₁, rest, rfl, hleast, hmost, h⟩ := scanFrom_some_inv h
        rw [if_pos (by simp)] at h
        obtain ⟨hc, ht⟩ := List.cons.inj h
        have hc : Char.ofNat (n * 64 + (b₁.toNat - 0x80)) = c := Option.some.inj hc
        have h₁ : 0x80 ≤ b₁.toNat ∧ b₁.toNat ≤ 0xbf := ⟨hleast, hmost⟩
        refine ⟨rest, ?_, ht⟩
        have henc : String.utf8EncodeChar c = [b, b₁] := by
          rw [← hc]
          exact encodeChar_two (by omega) (by omega) (by omega)
        rw [henc]
        rfl
      · obtain ⟨b₁, rest, rfl, hleast, hmost, h⟩ := scanFrom_some_inv h
        rw [if_neg (by simp)] at h
        obtain ⟨b₂, rest, rfl, hleast₂, hmost₂, h⟩ := scanFrom_some_inv h
        rw [if_pos (by simp)] at h
        obtain ⟨hc, ht⟩ := List.cons.inj h
        have hc : Char.ofNat ((n * 64 + (b₁.toNat - 0x80)) * 64 + (b₂.toNat - 0x80)) = c :=
          Option.some.inj hc
        have h₁ : 0x80 ≤ b₁.toNat ∧ b₁.toNat ≤ 0xbf ∧ (n = 0 → 0xa0 ≤ b₁.toNat) ∧
            (n = 13 → b₁.toNat ≤ 0x9f) := by
          dsimp only at hleast hmost
          split_ifs at hleast hmost <;> simp at hleast hmost <;> omega
        have h₂ : 0x80 ≤ b₂.toNat ∧ b₂.toNat ≤ 0xbf := ⟨hleast₂, hmost₂⟩
        refine ⟨rest, ?_, ht⟩
        have henc : String.utf8EncodeChar c = [b, b₁, b₂] := by
          rw [← hc]
          exact encodeChar_three (by omega) (by omega) (by omega) (by omega) (by omega)
        rw [henc]
        rfl
      · obtain ⟨b₁, rest, rfl, hleast, hmost, h⟩ := scanFrom_some_inv h
        rw [if_neg (by simp)] at h
        obtain ⟨b₂, rest, rfl, hleast₂, hmost₂, h⟩ := scanFrom_some_inv h
        rw [if_neg (by simp)] at h
        obtain ⟨b₃, rest, rfl, hleast₃, hmost₃, h⟩ := scanFrom_some_inv h
        rw [if_pos (by simp)] at h
        obtain ⟨hc, ht⟩ := List.cons.inj h
        have hc : Char.ofNat (((n * 64 + (b₁.toNat - 0x80)) * 64 + (b₂.toNat - 0x80)) * 64 +
            (b₃.toNat - 0x80)) = c := Option.some.inj hc
        have h₁ : 0x80 ≤ b₁.toNat ∧ b₁.toNat ≤ 0xbf ∧ (n = 0 → 0x90 ≤ b₁.toNat) ∧
            (n = 4 → b₁.toNat ≤ 0x8f) := by
          dsimp only at hleast hmost
          split_ifs at hleast hmost <;> simp at hleast hmost <;> omega
        have h₂ : 0x80 ≤ b₂.toNat ∧ b₂.toNat ≤ 0xbf := ⟨hleast₂, hmost₂⟩
        have h₃ : 0x80 ≤ b₃.toNat ∧ b₃.toNat ≤ 0xbf := ⟨hleast₃, hmost₃⟩
        refine ⟨rest, ?_, ht⟩
        have henc : String.utf8EncodeChar c = [b, b₁, b₂, b₃] := by
          rw [← hc]
          exact encodeChar_four (by omega) (by omega) (by omega) (by omega) (by omega)
        rw [henc]
        rfl

theorem scanFrom_some_ne_nil (p : Pending) (bytes : Bytes) : scanFrom (some p) bytes ≠ [] := by
  induction bytes generalizing p with
  | nil => simp [scanFrom]
  | cons b rest ih =>
    rw [scanFrom]
    split
    · dsimp only
      split
      · simp
      · exact ih _
    · split <;> simp

theorem scan_eq_nil {bytes : Bytes} (h : scan bytes = []) : bytes = [] := by
  cases bytes with
  | nil => rfl
  | cons b rest =>
    rw [scan, scanFrom] at h
    split at h
    · cases h
    · exact absurd h (scanFrom_some_ne_nil _ _)
    · cases h

theorem eq_of_scan {bytes : Bytes} {cs : List Char} (h : scan bytes = cs.map some) :
    bytes = cs.flatMap String.utf8EncodeChar := by
  induction cs generalizing bytes with
  | nil => exact scan_eq_nil h
  | cons c cs ih =>
    obtain ⟨rest, rfl, hrest⟩ := scan_some_inv h
    rw [List.flatMap_cons, ← ih hrest]

theorem eq_map_some {xs : List (Option Char)} {cs : List Char} (h : xs.mapM id = some cs) :
    xs = cs.map some := by
  induction xs generalizing cs with
  | nil =>
    cases h
    rfl
  | cons x xs ih =>
    rw [List.mapM_cons] at h
    cases x with
    | none => cases h
    | some c =>
      cases hxs : xs.mapM id with
      | none =>
        rw [hxs] at h
        cases h
      | some ds =>
        rw [hxs] at h
        cases h
        rw [ih hxs, List.map_cons]

/-- A text is read from no other bytes than its own. -/
theorem encode_of_decode? {bytes : Bytes} {s : String} (h : decode? bytes = some s) :
    encode s = bytes := by
  obtain ⟨cs, hcs, rfl⟩ := Option.map_eq_some_iff.mp h
  rw [encode_ofList, eq_of_scan (eq_map_some hcs)]

end SpiWifi.Text.Utf8
