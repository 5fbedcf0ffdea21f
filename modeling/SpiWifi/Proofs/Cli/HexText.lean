import SpiWifi.Cli.Parameter
import SpiWifi.Proofs.Text.Hex

/-!
# Hexadecimal arguments

A hexadecimal argument is made of marks `0x` and of digits behind them, with white space anywhere
among the digits. Exactly such texts are read as bytes, and each as the bytes that its digits spell.
-/

namespace SpiWifi.Cli

open Text (isBlank)
open Text.Hex (Spells)
open Text.Numeral (IsDigit)

/-- Some marks `0x`, one behind the other. -/
def marks (k : Nat) : List Char := (List.replicate k ['0', 'x']).flatten

def markCount : List Char → Nat
  | '0' :: 'x' :: rest => markCount rest + 1
  | _ => 0

/-- The characters that are no white space. -/
def inked (cs : List Char) : List Char := cs.filter fun c => !isBlank c

/-- Behind its marks the text has digits that spell the bytes, and white space besides. -/
def HexText (cs : List Char) (bytes : Bytes) : Prop :=
  ∃ k digits, cs = marks k ++ digits ∧ Spells (inked digits) bytes

theorem marks_succ_append (k : Nat) (cs : List Char) :
    marks (k + 1) ++ cs = '0' :: 'x' :: (marks k ++ cs) := rfl

theorem marks_append_dropMarks (cs : List Char) : marks (markCount cs) ++ dropMarks cs = cs := by
  fun_induction markCount cs with
  | case1 rest ih => rw [marks_succ_append, dropMarks, ih]
  | case2 cs unmarked => rw [dropMarks.eq_2 cs unmarked]; rfl

theorem dropMarks_marks_append (k : Nat) (cs : List Char) :
    dropMarks (marks k ++ cs) = dropMarks cs := by
  induction k with
  | zero => rfl
  | succ k ih => rw [marks_succ_append, dropMarks, ih]

theorem not_isDigit_x {v : Nat} : ¬ IsDigit 16 'x' v := by
  intro h
  have hcode : 'x'.toNat = 120 := rfl
  have hv := h.1
  have := h.toNat_eq (Nat.le_refl 16)
  omega

theorem inked_mark (cs : List Char) : inked ('0' :: 'x' :: cs) = '0' :: 'x' :: inked cs := rfl

/-- No mark stands in front of what spells bytes. -/
theorem dropMarks_of_spells {cs : List Char} {bytes : Bytes} (h : Spells (inked cs) bytes) :
    dropMarks cs = cs := by
  unfold dropMarks
  split
  · next rest =>
    rw [inked_mark] at h
    cases h with
    | byte _ low _ => exact absurd low not_isDigit_x
  · rfl

/-- What stands behind the marks is read, without its white space. -/
theorem hexBytes_eq_ok_iff_spells {text : String} {bytes : Bytes} :
    hexBytes text = .ok bytes ↔ Spells (inked (dropMarks text.toList)) bytes := by
  rw [← Text.Hex.decode_eq_ok_iff]
  unfold hexBytes inked
  dsimp only
  split
  · next found hfound => simp [hfound]
  · next fault hfault => simp [hfault]

/-- A text is read as bytes just if its digits spell them. -/
theorem hexBytes_eq_ok_iff {text : String} {bytes : Bytes} :
    hexBytes text = .ok bytes ↔ HexText text.toList bytes := by
  rw [hexBytes_eq_ok_iff_spells]
  constructor
  · intro h
    exact ⟨_, _, (marks_append_dropMarks _).symm, h⟩
  · rintro ⟨k, digits, htext, h⟩
    rwa [htext, dropMarks_marks_append, dropMarks_of_spells h]

theorem isBlank_of_isDigit {c : Char} {v : Nat} (h : IsDigit 16 c v) : isBlank c = false := by
  have hcode := h.toNat_eq (Nat.le_refl 16)
  have hv := h.1
  simp only [isBlank, Bool.or_eq_false_iff, Bool.and_eq_false_iff, decide_eq_false_iff_not,
    beq_eq_false_iff_ne]
  omega

theorem inked_of_spells {cs : List Char} {bytes : Bytes} (h : Spells cs bytes) : inked cs = cs := by
  induction h with
  | nil => rfl
  | byte high low _ ih =>
    rw [inked, List.filter_cons_of_pos (by simp [isBlank_of_isDigit high]),
      List.filter_cons_of_pos (by simp [isBlank_of_isDigit low])]
    exact congrArg (fun ds => _ :: _ :: ds) ih

/-- What is written for bytes is read as them. -/
theorem hexBytes_encode (bytes : Bytes) : hexBytes (Text.Hex.encode bytes) = .ok bytes := by
  have spelled := Text.Hex.spells_encode bytes
  refine hexBytes_eq_ok_iff.mpr ⟨0, (Text.Hex.encode bytes).toList, rfl, ?_⟩
  rwa [inked_of_spells spelled]

end SpiWifi.Cli
