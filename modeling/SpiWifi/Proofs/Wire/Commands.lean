import Mathlib.Data.List.Nodup
import Mathlib.Data.List.TakeWhile
import SpiWifi.Wire.Command

/-!
# Commands by name and by opcode

No two commands share an opcode or a name. So an opcode finds the one command that has it, whatever
the reply bit, and a text finds a command just if it is that command's name, in any case of letters,
with white space around it or not, and with or without the ending that most names carry.
-/

namespace SpiWifi

namespace Text

theorem dropWhile_isBlank_append {blanks word : List Char} (rest : List Char)
    (hblanks : ∀ c ∈ blanks, isBlank c) (hne : word ≠ []) (hword : ∀ c ∈ word, isBlank c = false) :
    (blanks ++ word ++ rest).dropWhile isBlank = word ++ rest := by
  obtain ⟨c, cs, rfl⟩ := List.exists_cons_of_ne_nil hne
  rw [List.append_assoc, List.dropWhile_append_of_pos hblanks, List.cons_append,
    List.dropWhile_cons_of_neg (by simp [hword c List.mem_cons_self])]

/-- White space around a word is trimmed. -/
theorem trim_append {left word right : List Char} (hleft : ∀ c ∈ left, isBlank c)
    (hright : ∀ c ∈ right, isBlank c) (hne : word ≠ []) (hword : ∀ c ∈ word, isBlank c = false) :
    trim (left ++ word ++ right) = word := by
  have hback : (word ++ right).reverse.dropWhile isBlank = word.reverse := by
    have hreverse : (right.reverse ++ word.reverse ++ []).dropWhile isBlank = word.reverse ++ [] :=
      dropWhile_isBlank_append [] (by simpa using hright) (by simpa using hne) (by simpa using hword)
    simpa using hreverse
  rw [trim, dropWhile_isBlank_append right hleft hne hword, hback, List.reverse_reverse]

/-- Only white space is trimmed. -/
theorem exists_trim (cs : List Char) :
    ∃ left right, cs = left ++ trim cs ++ right ∧ ∀ c ∈ left ++ right, isBlank c := by
  refine ⟨cs.takeWhile isBlank, ((cs.dropWhile isBlank).reverse.takeWhile isBlank).reverse, ?_, ?_⟩
  · rw [trim, List.append_assoc, ← List.reverse_append, List.takeWhile_append_dropWhile,
      List.reverse_reverse, List.takeWhile_append_dropWhile]
  · intro c hc
    rcases List.mem_append.mp hc with hc | hc
    · exact List.mem_takeWhile_imp hc
    · exact List.mem_takeWhile_imp (List.mem_reverse.mp hc)

theorem toUpper_of_isBlank {c : Char} (h : isBlank c) : c.toUpper = c := by
  have hcode : c.val.toNat = c.toNat := rfl
  have ha : 'a'.val.toNat = 97 := rfl
  have hz : 'z'.val.toNat = 122 := rfl
  simp only [isBlank, Bool.or_eq_true, Bool.and_eq_true, decide_eq_true_eq, beq_iff_eq] at h
  refine dif_neg ?_
  rw [UInt32.le_iff_toNat_le, UInt32.le_iff_toNat_le, hcode]
  omega

end Text

namespace Command

open Text (isBlank)

theorem mem_all (c : Command) : c ∈ all := by
  cases c <;> decide

theorem find?_all {p : Command → Bool} {c : Command} (h : ∀ d, p d ↔ d = c) :
    all.find? p = some c := by
  cases hfind : all.find? p with
  | none => exact absurd ((h c).mpr rfl) (by simpa using List.find?_eq_none.mp hfind c (mem_all c))
  | some d => rw [(h d).mp (List.find?_some hfind)]

theorem opcode_injective {c d : Command} (h : c.opcode = d.opcode) : c = d := by
  have distinct : (all.map opcode).Nodup := by decide +kernel
  exact List.inj_on_of_nodup_map distinct (mem_all c) (mem_all d) h

theorem ofOpcode?_eq_some_iff {b : UInt8} {c : Command} :
    ofOpcode? b = some c ↔ c.opcode = b &&& 0x7f := by
  constructor
  · intro h
    have hfound := List.find?_some h
    exact eq_of_beq hfound
  · intro h
    apply find?_all
    intro d
    rw [← h, beq_iff_eq]
    exact ⟨opcode_injective, congrArg opcode⟩

theorem stem_injective {c d : Command} (h : c.stem = d.stem) : c = d := by
  have distinct : (all.map stem).Nodup := by decide +kernel
  exact List.inj_on_of_nodup_map distinct (mem_all c) (mem_all d) h

/-- What most names end in. -/
def ending : List Char := ['_', 'C', 'M', 'D']

/-- A stem is a word of capitals, and it does not end as names do. -/
theorem stem_word (c : Command) : c.stem.toList ≠ [] ∧
    (∀ d ∈ c.stem.toList, isBlank d = false ∧ d ≠ '0') ∧ ¬ ending <:+ c.stem.toList := by
  have each : all.all fun c => !c.stem.toList.isEmpty &&
      c.stem.toList.all (fun d => !isBlank d && d != '0') &&
      !decide (ending <:+ c.stem.toList) := by
    decide +kernel
  simpa [and_assoc] using List.all_eq_true.mp each c (mem_all c)

theorem dropEnding_eq_iff {cs stem : List Char} (h : ¬ ending <:+ stem) :
    dropEnding cs = stem ↔ cs ∈ [stem, stem ++ ending] := by
  have hending : "_CMD".toList = ending := rfl
  rw [dropEnding, hending]
  constructor
  · intro hdrop
    split at hdrop
    · next hsuffix =>
      obtain ⟨front, rfl⟩ := List.isSuffixOf_iff_suffix.mp hsuffix
      have hfront : front = stem := by simpa [ending] using hdrop
      simp [hfront]
    · simp [hdrop]
  · intro hcs
    simp only [List.mem_cons, List.not_mem_nil, or_false] at hcs
    rcases hcs with rfl | rfl
    · rw [if_neg (by simpa [List.isSuffixOf_iff_suffix] using h)]
    · rw [if_pos (by simp [List.isSuffixOf_iff_suffix])]
      simp [ending]

/-- The text is the name of the command. -/
def Named (text : List Char) (c : Command) : Prop :=
  ∃ left word right, text = left ++ word ++ right ∧ (∀ b ∈ left ++ right, isBlank b) ∧
    word.map Char.toUpper ∈ [c.stem.toList, c.stem.toList ++ ending]

theorem inked_of_capitals {capitals : List Char} {c : Command}
    (h : capitals ∈ [c.stem.toList, c.stem.toList ++ ending]) :
    capitals ≠ [] ∧ ∀ d ∈ capitals, isBlank d = false ∧ d ≠ '0' := by
  obtain ⟨hne, hinked, -⟩ := stem_word c
  have hending : ∀ d ∈ ending, isBlank d = false ∧ d ≠ '0' := by simp [ending, isBlank]
  simp only [List.mem_cons, List.not_mem_nil, or_false] at h
  rcases h with rfl | rfl
  · exact ⟨hne, hinked⟩
  · exact ⟨by simp [hne], List.forall_mem_append.mpr ⟨hinked, hending⟩⟩

/-- A word that is a name in capitals is not empty, and has neither white space nor a zero in it. -/
theorem word_of_named {word : List Char} {c : Command}
    (h : word.map Char.toUpper ∈ [c.stem.toList, c.stem.toList ++ ending]) :
    word ≠ [] ∧ ∀ d ∈ word, isBlank d = false ∧ d ≠ '0' := by
  obtain ⟨hne, hinked⟩ := inked_of_capitals h
  refine ⟨fun hnil => hne (by rw [hnil]; rfl), fun d hd => ?_⟩
  obtain ⟨hupper, hzero⟩ := hinked _ (List.mem_map_of_mem hd)
  constructor
  · by_contra hblank
    have hblank : isBlank d := by simpa using hblank
    rw [Text.toUpper_of_isBlank hblank, hblank] at hupper
    cases hupper
  · rintro rfl
    exact hzero rfl

/-- What begins with a zero is no name. -/
theorem not_named_zero {rest : List Char} {c : Command} : ¬ Named ('0' :: rest) c := by
  rintro ⟨left, word, right, hparts, hblanks, hword⟩
  obtain ⟨hne, hinked⟩ := word_of_named hword
  cases left with
  | nil =>
    obtain ⟨d, ds, rfl⟩ := List.exists_cons_of_ne_nil hne
    cases hparts
    exact (hinked '0' List.mem_cons_self).2 rfl
  | cons b left =>
    cases hparts
    exact absurd (hblanks '0' List.mem_cons_self) (by decide)

theorem ofName?_eq_some_iff {name : String} {c : Command} :
    ofName? name = some c ↔ Named name.toList c := by
  obtain ⟨-, -, hplain⟩ := stem_word c
  constructor
  · intro h
    have hfound := List.find?_some h
    have hword := (dropEnding_eq_iff hplain).mp (eq_of_beq hfound).symm
    obtain ⟨left, right, hname, hblanks⟩ := Text.exists_trim name.toList
    exact ⟨left, Text.trim name.toList, right, hname, hblanks, hword⟩
  · rintro ⟨left, word, right, hname, hblanks, hword⟩
    obtain ⟨hleft, hright⟩ := List.forall_mem_append.mp hblanks
    obtain ⟨hne, hinked⟩ := word_of_named hword
    have hwanted : dropEnding (Text.upper (Text.trim name.toList)) = c.stem.toList := by
      rw [hname, Text.trim_append hleft hright hne fun d hd => (hinked d hd).1]
      exact (dropEnding_eq_iff hplain).mpr hword
    simp only [ofName?, hwanted]
    refine find?_all fun d => ?_
    rw [beq_iff_eq, String.toList_inj]
    exact ⟨stem_injective, congrArg stem⟩

end Command

end SpiWifi
