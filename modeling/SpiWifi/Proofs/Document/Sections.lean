import SpiWifi.Document.Yaml.Reading
import SpiWifi.Proofs.Document.Lines
import SpiWifi.Proofs.Text.Decimal
import SpiWifi.Settings.Load

/-!
# Reading written sections

Sections that are written are read back as a record of records: the tokens spell it, without an anchor,
a tag or a reference. Names that spell no number and no word for nothing stand for themselves, and so
do the numbers.
-/

namespace SpiWifi.Document.Yaml

open Scan

def plainNode (cs : List Char) : Node := .scalar ⟨none, none⟩ .plain cs

def entryNode (e : String × Option Nat) : Node × Node :=
  (plainNode e.1.toList, plainNode (writeCount e.2))

def sectionNode (part : String × List (String × Option Nat)) : Node × Node :=
  (plainNode part.1.toList, .record ⟨none, none⟩ (part.2.map entryNode))

theorem blockPart_scalar (fuel : Nat) (cs : List Char) (rest : List Token) :
    blockPart true (fuel + 2) (.scalar .plain cs :: rest) = some (plainNode cs, rest) := by
  simp [blockPart, node, properties, endsBlockPart, plainNode]

theorem node_record (bare : Bool) (fuel : Nat) (ts : List Token) :
    node bare (fuel + 1) (.blockRecord :: ts) =
      (blockEntries fuel ts).map fun (es, rest) => (.record ⟨none, none⟩ es, rest) := by
  simp [node, properties]

theorem blockPart_record (fuel : Nat) (ts : List Token) :
    blockPart true (fuel + 2) (.blockRecord :: ts) =
      (blockEntries fuel ts).map fun (es, rest) => (.record ⟨none, none⟩ es, rest) := by
  simp [blockPart, endsBlockPart, node_record]

theorem blockEntries_entries (entries : List (String × Option Nat)) {fuel : Nat}
    (hfuel : entries.length + 4 ≤ fuel) (rest : List Token) :
    blockEntries fuel (entries.flatMap entryTokens ++ .blockEnd :: rest) =
      some (entries.map entryNode, rest) := by
  induction entries generalizing fuel with
  | nil =>
    obtain ⟨fuel, rfl⟩ := Nat.exists_eq_add_of_le' (show 1 ≤ fuel by omega)
    simp [blockEntries]
  | cons e entries ih =>
    rw [List.length_cons] at hfuel
    obtain ⟨fuel, rfl⟩ := Nat.exists_eq_add_of_le' (show 4 ≤ fuel by omega)
    have hrest := @ih (fuel + 3) (by omega)
    simp [entryTokens, blockEntries, blockPart_scalar, blockValue, hrest, entryNode]

theorem length_entries_le (entries : List (String × Option Nat)) :
    entries.length ≤ (entries.flatMap entryTokens).length := by
  induction entries with
  | nil => exact Nat.zero_le _
  | cons e entries ih =>
    simp only [List.flatMap_cons, List.length_append, List.length_cons, entryTokens]
    omega

theorem blockEntries_sections (sections : Sections) {fuel : Nat}
    (hfuel : (sections.flatMap sectionTokens).length + 4 ≤ fuel) :
    blockEntries fuel (sections.flatMap sectionTokens ++ [.blockEnd]) =
      some (sections.map sectionNode, []) := by
  induction sections generalizing fuel with
  | nil =>
    obtain ⟨fuel, rfl⟩ := Nat.exists_eq_add_of_le' (show 1 ≤ fuel by omega)
    simp [blockEntries]
  | cons part sections ih =>
    have hentries := length_entries_le part.2
    simp only [List.flatMap_cons, List.length_append, sectionTokens, List.length_cons] at hfuel
    obtain ⟨fuel, rfl⟩ := Nat.exists_eq_add_of_le' (show 4 ≤ fuel by omega)
    have hinner := @blockEntries_entries part.2 fuel (by omega)
    have hrest := @ih (fuel + 3) (by omega)
    simp [sectionTokens, blockEntries, blockPart_scalar, blockPart_record, blockValue, hinner, hrest,
      sectionNode]

/-- The tokens of sections are those of one node. -/
theorem content?_sections (sections : Sections) :
    content? (.blockRecord :: (sections.flatMap sectionTokens ++ [.blockEnd])) =
      some ⟨[], some (.record ⟨none, none⟩ (sections.map sectionNode))⟩ := by
  have hroot : rootNode (.blockRecord :: (sections.flatMap sectionTokens ++ [.blockEnd])) =
      some (.record ⟨none, none⟩ (sections.map sectionNode), []) := by
    rw [rootNode, node_record, blockEntries_sections]
    · rfl
    · simp only [List.length_cons, List.length_append]
      omega
    · simp
    · simp
  simp [content?, complete?, hroot]

/-- A name spells no number and no word for nothing. -/
def StandsForItself (name : String) : Prop :=
  name.toList ∉ nullWords ∧ count? name.toList = none

instance (name : String) : Decidable (StandsForItself name) :=
  inferInstanceAs (Decidable (_ ∧ _))

theorem ofPlain_name {name : String} (hword : IsWord name.toList) (h : StandsForItself name) :
    ofPlain name.toList = .literal name := by
  simp [ofPlain, hword.nonempty, h.1, h.2]

theorem count?_toDigits {n : Nat} (h : n ≤ Text.Numeral.maxU64) :
    count? (Nat.toDigits 10 n) = some n := by
  rcases Nat.eq_zero_or_pos n with rfl | pos
  · rfl
  · have hread := Text.Numeral.digits_toDigits h
    have hhead := Text.Numeral.head?_toDigits pos
    cases hdigits : Nat.toDigits 10 n with
    | nil => exact absurd hdigits Nat.toDigits_ne_nil
    | cons c cs =>
      have hdigit : c.isDigit := Nat.isDigit_of_mem_toDigits (b := 10) (n := n) (by decide)
        (by decide) (by simp [hdigits])
      rw [hdigits] at hread hhead
      have hplus : c ≠ '+' := by
        rintro rfl
        exact absurd hdigit (by decide)
      have hzero : c ≠ '0' := by simpa using hhead
      simp [count?, hplus, hzero, hread, Except.toOption]

theorem ofPlain_writeCount {count : Option Nat} (h : ∀ n ∈ count, n ≤ Text.Numeral.maxU64) :
    ofPlain (writeCount count) = Settings.countDocument count := by
  cases count with
  | none => rfl
  | some n =>
    have hdigits : writeCount (some n) = Nat.toDigits 10 n := Nat.toList_repr
    have hcount := count?_toDigits (h n rfl)
    have hnull : Nat.toDigits 10 n ∉ nullWords := by
      intro hmem
      have hletters : nullWords.all fun word => !word.all Char.isDigit := by decide
      have hletter := List.all_eq_true.mp hletters _ hmem
      have hdigits : (Nat.toDigits 10 n).all Char.isDigit := List.all_eq_true.mpr fun c hc =>
        Nat.isDigit_of_mem_toDigits (by decide) (by decide) hc
      simp [hdigits] at hletter
    simp [hdigits, ofPlain, hcount, hnull, Nat.toDigits_ne_nil, Settings.countDocument]

theorem resolve_plainNode (known : Targets) (anchors : Anchors) (cs : List Char) :
    resolve [] known anchors (plainNode cs) = some ⟨ofPlain cs, anchors, []⟩ := by
  simp [plainNode, resolve, ofScalar, Anchors.add, Resolved.anchored]

/-- An entry that is read as it was meant. -/
structure Entry (e : String × Option Nat) : Prop where
  name : IsName e.1
  itself : StandsForItself e.1
  bounded : ∀ n ∈ e.2, n ≤ Text.Numeral.maxU64

/-- A section that is read as it was meant. -/
structure Section (part : String × List (String × Option Nat)) : Prop where
  name : IsName part.1
  itself : StandsForItself part.1
  nonempty : part.2 ≠ []
  entries : ∀ e ∈ part.2, Entry e

theorem Section.isSection {part : String × List (String × Option Nat)} (h : Section part) :
    IsSection part :=
  ⟨h.name, h.nonempty, fun e he => (h.entries e he).name⟩

theorem resolveEntries_entries (known : Targets) (anchors : Anchors)
    {entries : List (String × Option Nat)} (h : ∀ e ∈ entries, Entry e) :
    resolveEntries [] known anchors (entries.map entryNode) =
      some ⟨entries.map fun e => (some e.1, Settings.countDocument e.2), anchors, []⟩ := by
  induction entries with
  | nil => simp [resolveEntries]
  | cons e entries ih =>
    obtain ⟨he, h⟩ := List.forall_mem_cons.mp h
    simp [entryNode, resolveEntries, resolve_plainNode, ofPlain_name he.name.toIsWord he.itself,
      ofPlain_writeCount he.bounded, ih h, Resolved.append, nameOf?]

/-- The entry that a section is, of the record that all of them are. -/
def sectionEntry (part : String × List (String × Option Nat)) : Option String × Document :=
  (some part.1, .record (part.2.map fun e => (some e.1, Settings.countDocument e.2)))

theorem resolveEntries_sections (known : Targets) (anchors : Anchors) {sections : Sections}
    (h : ∀ part ∈ sections, Section part) :
    resolveEntries [] known anchors (sections.map sectionNode) =
      some ⟨sections.map sectionEntry, anchors, []⟩ := by
  induction sections with
  | nil => simp [resolveEntries]
  | cons part sections ih =>
    obtain ⟨hpart, h⟩ := List.forall_mem_cons.mp h
    have hentries := resolveEntries_entries known anchors hpart.entries
    have hname := ofPlain_name hpart.name.toIsWord hpart.itself
    simp [sectionNode, resolveEntries, resolve_plainNode, hname, resolve, hentries, ih h,
      Resolved.append, Resolved.map, Resolved.anchored, nameOf?, sectionEntry, Anchors.add]

theorem ofContent_sections {sections : Sections} (h : ∀ part ∈ sections, Section part) :
    ofContent ⟨[], some (.record ⟨none, none⟩ (sections.map sectionNode))⟩ =
      some (.record (sections.map sectionEntry)) := by
  have hresolve (known : Targets) :
      resolve [] known .empty (.record ⟨none, none⟩ (sections.map sectionNode)) =
        some ⟨.record (sections.map sectionEntry), .empty, []⟩ := by
    simp [resolve, resolveEntries_sections known _ h, Anchors.add, Resolved.map, Resolved.anchored]
  simp [ofContent, referenceDepth, follow, hresolve]

def isWritten (c : Char) : Bool := isPlain c || c == ':' || c == ' ' || c == '\n'

theorem isWritten_of_mem_word {word : List Char} (hword : IsWord word) :
    ∀ c ∈ word, isWritten c := by
  intro c hc
  simp [isWritten, hword.plain c hc]

theorem isWritten_of_mem_section {part : String × List (String × Option Nat)} (h : IsSection part) :
    ∀ c ∈ writeSection part.1 part.2, isWritten c := by
  have hentry (e : String × Option Nat) (he : IsName e.1) :
      ∀ c ∈ writeEntry e.1 e.2, isWritten c := by
    have hname := isWritten_of_mem_word he.toIsWord
    have hvalue := isWritten_of_mem_word (isWord_writeCount e.2)
    simp only [writeEntry, List.forall_mem_append, List.forall_mem_cons]
    exact ⟨⟨⟨rfl, rfl, hname⟩, rfl, rfl, hvalue⟩, rfl, List.forall_mem_nil _⟩
  simp only [writeSection, List.forall_mem_append, List.forall_mem_cons, List.forall_mem_flatMap]
  exact ⟨isWritten_of_mem_word h.name.toIsWord, rfl, rfl, fun e he => hentry e (h.names e he)⟩

theorem isPrintable_of_isWritten {c : Char} (h : isWritten c) : isPrintable c := by
  simp only [isWritten, Bool.or_eq_true, beq_iff_eq] at h
  rcases h with ((h | rfl) | rfl) | rfl
  · exact isPrintable_of_isPlain h
  all_goals decide

theorem unifyBreaks_of_isWritten {cs : List Char} (h : ∀ c ∈ cs, isWritten c) :
    unifyBreaks cs = cs := by
  induction cs with
  | nil => simp [unifyBreaks]
  | cons c cs ih =>
    obtain ⟨hc, h⟩ := List.forall_mem_cons.mp h
    have hreturn : c ≠ '\r' := by
      rintro rfl
      exact absurd hc (by decide)
    have hnext : c.toNat ≠ 0x85 := by
      intro heq
      obtain rfl : c = Char.ofNat 0x85 := by rw [← heq, Char.ofNat_toNat]
      exact absurd hc (by decide)
    simp [unifyBreaks, hreturn, hnext, ih h]

/-- Sections that are written are read back, each name and number as it was. -/
theorem read?_write {sections : Sections} (hne : sections ≠ [])
    (h : ∀ part ∈ sections, Section part) :
    read? (write sections) = some (.record (sections.map sectionEntry)) := by
  have hparts : ∀ part ∈ sections, IsSection part := fun part hpart => (h part hpart).isSection
  have htext : (write sections).toList =
      sections.flatMap fun part => writeSection part.1 part.2 := String.toList_ofList
  have hwritten : ∀ c ∈ (write sections).toList, isWritten c := by
    rw [htext, List.forall_mem_flatMap]
    exact fun part hpart => isWritten_of_mem_section (hparts part hpart)
  have hprintable : (write sections).toList.all isPrintable :=
    List.all_eq_true.mpr fun c hc => isPrintable_of_isWritten (hwritten c hc)
  simp only [read?, hprintable, if_true, unifyBreaks_of_isWritten hwritten]
  rw [tokens_write hne hparts htext, Option.bind_some, content?_sections, Option.bind_some,
    ofContent_sections h]

end SpiWifi.Document.Yaml
