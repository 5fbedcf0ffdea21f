import SpiWifi.Document.Yaml.Token

/-!
# Plain words

A word of letters, digits and underscores is a plain scalar wherever it stands: no character of it is
a gap, an indicator or a marker. It ends at a colon before a gap, and it ends with its line if what is
on the next line begins left of the margin, or if there is nothing.
-/

namespace SpiWifi.Document.Yaml

def isPlain (c : Char) : Bool := c.isAlphanum || c == '_'

def atWord : List Char → Bool
  | [] => true
  | c :: _ => isPlain c

structure IsWord (cs : List Char) : Prop where
  nonempty : cs ≠ []
  plain : ∀ c ∈ cs, isPlain c

theorem IsWord.atWord_append {cs : List Char} (h : IsWord cs) (rest : List Char) :
    atWord (cs ++ rest) := by
  cases cs with
  | nil => exact absurd rfl h.nonempty
  | cons c cs => exact h.plain c List.mem_cons_self

section Characters

variable {c : Char}

theorem toNat_lt_of_isPlain (h : isPlain c) : c.toNat < 128 := by
  delta isPlain Char.isAlphanum Char.isAlpha Char.isUpper Char.isLower Char.isDigit at h
  simp only [Bool.or_eq_true, Bool.and_eq_true, decide_eq_true_eq, beq_iff_eq,
    UInt32.le_iff_toNat_le, ge_iff_le] at h
  change (((65 ≤ c.toNat ∧ c.toNat ≤ 90) ∨ (97 ≤ c.toNat ∧ c.toNat ≤ 122)) ∨
    (48 ≤ c.toNat ∧ c.toNat ≤ 57)) ∨ c = '_' at h
  rcases h with h | rfl
  · omega
  · decide

/-- What holds of the plain ones among the characters of ASCII holds of all plain characters. -/
theorem forall_isPlain {P : Char → Prop}
    (hP : ∀ n < 128, isPlain (Char.ofNat n) → P (Char.ofNat n)) (h : isPlain c) : P c := by
  have hc := hP c.toNat (toNat_lt_of_isPlain h)
  rw [Char.ofNat_toNat] at hc
  exact hc h

theorem isGap_of_isPlain : isPlain c → isGap c = false :=
  forall_isPlain (P := fun c => isGap c = false) (by decide)

theorem isBreak_of_isPlain : isPlain c → isBreak c = false :=
  forall_isPlain (P := fun c => isBreak c = false) (by decide)

theorem isOrderMark_of_isPlain : isPlain c → isOrderMark c = false :=
  forall_isPlain (P := fun c => isOrderMark c = false) (by decide)

theorem utf8Size_of_isPlain : isPlain c → c.utf8Size = 1 :=
  forall_isPlain (P := fun c => c.utf8Size = 1) (by decide)

theorem isPrintable_of_isPlain : isPlain c → isPrintable c :=
  forall_isPlain (P := fun c => isPrintable c) (by decide)

theorem ne_of_isPlain (h : isPlain c) {d : Char} (hd : isPlain d = false) : c ≠ d := by
  rintro rfl
  rw [h] at hd
  cases hd

theorem atMarker_of_isPlain (h : isPlain c) (p : Place) (rest : List Char) :
    atMarker p (c :: rest) = false := by
  have hdash := ne_of_isPlain h (d := '-') rfl
  have hdot := ne_of_isPlain h (d := '.') rfl
  simp [atMarker, hdash, hdot]

theorem beginsPlain_of_isPlain (h : isPlain c) (inFlow : Bool) (rest : List Char) :
    beginsPlain inFlow (c :: rest) = true := by
  have hnone : (isGap c || isFlowMark c || "#&*!|>%@'\"\x60".toList.contains c) = false :=
    forall_isPlain (P := fun c =>
      (isGap c || isFlowMark c || "#&*!|>%@'\"\x60".toList.contains c) = false) (by decide) h
  have hdash := ne_of_isPlain h (d := '-') rfl
  have hquestion := ne_of_isPlain h (d := '?') rfl
  have hcolon := ne_of_isPlain h (d := ':') rfl
  simp only [beginsPlain, hdash, hquestion, hcolon, hnone, or_self, if_false, Bool.not_false]

end Characters

/-- The place so many characters further on its line, if they take a byte each. -/
def Place.along (p : Place) (n : Nat) : Place := ⟨p.line, p.column + n, p.offset + n⟩

namespace Place

@[simp] theorem along_zero (p : Place) : p.along 0 = p := rfl

@[simp] theorem along_along (p : Place) (m n : Nat) : (p.along m).along n = p.along (m + n) := by
  simp [along, Nat.add_assoc]

theorem after_of_isPlain {c : Char} (h : isPlain c) (p : Place) : p.after c = p.along 1 := by
  simp [after, along, isBreak_of_isPlain h, utf8Size_of_isPlain h]

theorem after_space (p : Place) : p.after ' ' = p.along 1 := rfl

end Place

/-- A plain scalar begins with all the characters of a word. -/
theorem plainSpan_append {word : List Char} (hword : ∀ c ∈ word, isPlain c) (margin : Nat) (p : Place)
    (rest : List Char) :
    plainSpan false margin .empty p (word ++ rest) =
      (plainSpan false margin .empty (p.along word.length) rest).map (·.prepend word) := by
  induction word generalizing p with
  | nil =>
    rw [List.nil_append, List.length_nil, Place.along_zero]
    exact (Option.map_id' ..).symm
  | cons c word ih =>
    obtain ⟨hc, hword⟩ := List.forall_mem_cons.mp hword
    have hcolon : (c == ':') = false := beq_false_of_ne (ne_of_isPlain hc rfl)
    have hgo : plainSpan false margin .empty p (c :: (word ++ rest)) =
        (plainSpan false margin .empty (p.along 1) (word ++ rest)).map (·.prepend [c]) := by
      simp [plainSpan, isGap_of_isPlain hc, Gap.empty, Gap.isEmpty, endsPlain, hcolon, Gap.text,
        Place.after_of_isPlain hc]
    rw [List.cons_append, hgo, ih hword]
    simp [Span.prepend, Function.comp_def, Nat.add_comm]

/-- A colon before a gap ends a word. -/
theorem plainSpan_colon {word : List Char} (hword : IsWord word) (margin : Nat) (p : Place)
    {rest : List Char} (hrest : atGap rest) :
    plainSpan false margin .empty p (word ++ ':' :: rest) =
      some ⟨word, false, p.along word.length, ':' :: rest⟩ := by
  have hcolon : isGap ':' = false := rfl
  rw [plainSpan_append hword.plain]
  simp [plainSpan, hcolon, endsPlain, hrest, Gap.isBroken, Gap.empty, Span.prepend]

/-- Spaces after a line break are passed over. -/
theorem plainSpan_spaces (margin : Nat) (first : Option Char) (later : List Char) (p : Place) (n : Nat)
    (rest : List Char) :
    plainSpan false margin (.breaks first later) p (List.replicate n ' ' ++ rest) =
      plainSpan false margin (.breaks first later) (p.along n) rest := by
  induction n generalizing p with
  | zero => rfl
  | succ n ih =>
    have hgap : isGap ' ' = true := rfl
    have hbreak : isBreak ' ' = false := rfl
    have hnext := ih (p.along 1)
    rw [Place.along_along, Nat.add_comm] at hnext
    simpa [List.replicate_succ, plainSpan, hgap, hbreak, Gap.push, Place.after_space] using hnext

/-- A line break ends a word if the next line begins left of the margin. -/
theorem plainSpan_break {word : List Char} (hword : IsWord word) {margin n : Nat} (hn : n < margin)
    (p : Place) {rest : List Char} (hrest : atWord rest) :
    plainSpan false margin .empty p (word ++ '\n' :: (List.replicate n ' ' ++ rest)) =
      some ⟨word, true, p.nextLine.along n, rest⟩ := by
  have hline : (p.along word.length).after '\n' = p.nextLine := rfl
  have hgap : isGap '\n' = true := rfl
  have hbreak : isBreak '\n' = true := rfl
  have hend : plainSpan false margin (.breaks (some '\n') []) (p.nextLine.along n) rest =
      some ⟨[], true, p.nextLine.along n, rest⟩ := by
    cases rest with
    | nil => rfl
    | cons c rest =>
      have hleft : (p.nextLine.along n).column < margin := by simpa [Place.nextLine, Place.along]
      have hhash : (c == '#') = false := beq_false_of_ne (ne_of_isPlain hrest rfl)
      simp [plainSpan, isGap_of_isPlain hrest, Gap.isEmpty, gapEndsPlain, hhash, hleft,
        Gap.isBroken]
  rw [plainSpan_append hword.plain]
  simp [plainSpan, hgap, hbreak, Gap.push, Gap.empty, hline, plainSpan_spaces, hend, Span.prepend]

end SpiWifi.Document.Yaml
