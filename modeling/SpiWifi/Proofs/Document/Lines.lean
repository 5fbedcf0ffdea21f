import Mathlib.Data.List.TakeDrop
import SpiWifi.Document.Yaml.Sections
import SpiWifi.Proofs.Document.Words

/-!
# Lines of sections

What tokens a line of a section adds. A line is a name with a colon, alone or before a value. Its column
tells how the block records before it go on: those further right end, and one begins unless one is open
at this column. From the lines follow the tokens of entries, of a section, and of all sections.
-/

namespace SpiWifi.Document.Yaml

namespace Scan

/-- The scan at a place outside of brackets where no name may have begun. -/
def between (p : Place) (ts : List Token) (columns : List Nat) (entryAllowed : Bool) : Scan :=
  ⟨p, ts.toArray, none, [], columns, entryAllowed⟩

def atLine (line : Nat) (ts : List Token) (columns : List Nat) : Scan :=
  between ⟨line, 0, 0⟩ ts columns true

section Skipping

variable {p : Place} {ts : List Token} {columns : List Nat} {entryAllowed : Bool}
  {rest : List Char}

theorem skip_word (s : Scan) (hrest : atWord rest) : s.skip false rest = (s, rest) := by
  cases rest with
  | nil => rfl
  | cons c rest =>
    have hspace := ne_of_isPlain hrest (d := ' ') rfl
    have htab := ne_of_isPlain hrest (d := '\t') rfl
    have hhash := ne_of_isPlain hrest (d := '#') rfl
    simp [skip, isBreak_of_isPlain hrest, isOrderMark_of_isPlain hrest, hspace, htab, hhash]

theorem skip_colon (s : Scan) : s.skip false (':' :: rest) = (s, ':' :: rest) := by
  have hbreak : isBreak ':' = false := rfl
  have hmark : isOrderMark ':' = false := rfl
  simp [skip, hbreak, hmark]

theorem skip_spaces (n : Nat) (hrest : atWord rest) :
    (between p ts columns entryAllowed).skip false (List.replicate n ' ' ++ rest) =
      (between (p.along n) ts columns entryAllowed, rest) := by
  induction n generalizing p with
  | zero => exact skip_word _ hrest
  | succ n ih =>
    have hbreak : isBreak ' ' = false := rfl
    have hnext := ih (p := p.along 1)
    rw [Place.along_along, Nat.add_comm] at hnext
    simpa [List.replicate_succ, skip, hbreak, between, Place.after_space] using hnext

/-- After the end of a line the scan is at the beginning of the next one. -/
theorem skip_break : (between p ts columns entryAllowed).skip false ('\n' :: rest) =
    (atLine (p.line + 1) ts columns).skip false rest := by
  have hbreak : isBreak '\n' = true := rfl
  simp [skip, hbreak, between, atLine, Place.after, Place.nextLine, inFlow]

end Skipping

section Steps

variable {p : Place} {ts : List Token} {columns : List Nat} {entryAllowed : Bool}
  {word rest : List Char}

/-- Block collections further right than the place end there. -/
theorem leave_between {closed left : List Nat}
    (hspan : columns.span (fun column => decide (p.column < column)) = (closed, left)) :
    (between p ts columns entryAllowed).leave =
      between p (ts ++ closed.map fun _ => .blockEnd) left entryAllowed := by
  have hleave : (between p ts columns entryAllowed).leave =
      let parts := columns.span fun column => decide (p.column < column)
      ⟨p, ts.toArray ++ parts.1.map fun _ => Token.blockEnd, none, [], parts.2, entryAllowed⟩ := rfl
  rw [hleave, hspan]
  simp [between]

/-- If the innermost block collection does not begin further right, none ends. -/
theorem leave_of_le (s : Scan) (hleft : ∀ column ∈ s.columns.head?, column ≤ s.place.column) :
    s.leave = s := by
  unfold leave
  split
  · rfl
  · obtain ⟨place, found, mark, outer, columns, entryAllowed⟩ := s
    cases columns with
    | nil => rfl
    | cons column columns =>
      have hle : ¬ place.column < column := Nat.not_lt.mpr (hleft column rfl)
      simp [List.span_eq_takeWhile_dropWhile, hle]

theorem step_word (s : Scan) (hword : IsWord word) :
    s.step (word ++ rest) =
      s.scalarStep .plain (plainSpan s.inFlow s.margin .empty s.place (word ++ rest)) := by
  obtain ⟨c, word, rfl⟩ := List.exists_cons_of_ne_nil hword.nonempty
  have hc := hword.plain c List.mem_cons_self
  have hne {d : Char} (hd : isPlain d = false) : c ≠ d := ne_of_isPlain hc hd
  simp [step, hne (d := '%') rfl, atMarker_of_isPlain hc, hne (d := '{') rfl, hne (d := '[') rfl,
    hne (d := '}') rfl, hne (d := ']') rfl, hne (d := ',') rfl, hne (d := '-') rfl,
    hne (d := '?') rfl, hne (d := ':') rfl, hne (d := '*') rfl, hne (d := '&') rfl,
    hne (d := '!') rfl, hne (d := '|') rfl, hne (d := '>') rfl, hne (d := '"') rfl,
    hne (d := '\'') rfl, beginsPlain_of_isPlain hc]

/-- The scan after a word that stood where an entry may begin. -/
def named (p : Place) (ts : List Token) (columns : List Nat) (word : List Char) : Scan :=
  ⟨p.along word.length, (ts ++ [Token.scalar .plain word]).toArray,
    some ⟨p, ts.length, columns.head? == some p.column⟩, [], columns, false⟩

theorem step_name (hword : IsWord word) (hrest : atGap rest) :
    (between p ts columns true).step (word ++ ':' :: rest) =
      some (named p ts columns word, ':' :: rest) := by
  have hflow : (between p ts columns true).inFlow = false := rfl
  have hplace : (between p ts columns true).place = p := rfl
  rw [step_word _ hword, hflow, hplace, plainSpan_colon hword _ _ hrest]
  simp [scalarStep, nodeStep, remember, settle, between, inFlow, push, named]

/-- Where no entry may begin, a word at the end of its line is a value. -/
theorem step_value (hword : IsWord word) {n : Nat} (hn : n < (between p ts columns false).margin)
    (hrest : atWord rest) :
    (between p ts columns false).step (word ++ '\n' :: (List.replicate n ' ' ++ rest)) =
      some (between (p.nextLine.along n) (ts ++ [.scalar .plain word]) columns true, rest) := by
  have hflow : (between p ts columns false).inFlow = false := rfl
  have hplace : (between p ts columns false).place = p := rfl
  rw [step_word _ hword, hflow, hplace, plainSpan_break hword hn _ hrest]
  simp [scalarStep, nodeStep, remember, between, push]

theorem insert_before (ts later : List Token) (t : Token) :
    (ts ++ later).toArray.insertIdxIfInBounds ts.length t = (ts ++ t :: later).toArray := by
  have hinsert : (ts ++ later).insertIdx ts.length t = ts ++ t :: later := by
    induction ts with
    | nil => rfl
    | cons u ts ih => simpa using ih
  simp [Array.insertIdxIfInBounds, hinsert]

/-- The columns of the block records that are open after a name at a column. -/
def opened (column : Nat) (columns : List Nat) : List Nat :=
  if columns.head? = some column then columns else column :: columns

theorem head?_opened (column : Nat) (columns : List Nat) :
    (opened column columns).head? = some column := by
  unfold opened
  split
  · assumption
  · rfl

def nameTokens (column : Nat) (columns : List Nat) (word : List Char) : List Token :=
  (if columns.head? = some column then [] else [.blockRecord]) ++
    [.key, .scalar .plain word, .colon]

/-- The colon tells that there was a name, and a block record begins before it unless one is open at
its column. -/
theorem step_named (hshort : word.length ≤ nameReach)
    (hleft : ∀ column ∈ columns.head?, column ≤ p.column) (hrest : atGap rest) :
    (named p ts columns word).step (':' :: rest) =
      some (between (p.along (word.length + 1)) (ts ++ nameTokens p.column columns word)
        (opened p.column columns) false, rest) := by
  have hcolon (s : Scan) : s.step (':' :: rest) = s.colonStep.map fun s => (s.past ':', rest) := by
    simp [step, atMarker, hrest]
  have hstart : (named p ts columns word).nameStart? =
      some ⟨p, ts.length, columns.head? == some p.column⟩ := by
    simp [nameStart?, named, Place.along, hshort]
  have hpast : (p.along word.length).after ':' = p.along (word.length + 1) := rfl
  have hkey := insert_before ts [Token.scalar .plain word] .key
  have hrecord := insert_before ts [.key, .scalar .plain word] .blockRecord
  rw [hcolon, colonStep, hstart]
  by_cases hopen : columns.head? = some p.column
  · simp [named, enter, inFlow, hkey, push, past, hpast, between, nameTokens, opened, hopen]
  · have hright : columns.head?.all (fun column => decide (column < p.column)) = true := by
      cases hhead : columns.head? with
      | none => rfl
      | some column =>
        rw [hhead, Option.some.injEq] at hopen
        have hle : column ≤ p.column := hleft column hhead
        have hlt : column < p.column := by omega
        simpa using hlt
    simp [named, enter, inFlow, hright, hkey, hrecord, push, past, hpast, between, nameTokens,
      opened, hopen]

end Steps

theorem tokens_of_skip {s s' : Scan} {cs cs' : List Char}
    (h : s.skip false cs = s'.skip false cs') (fuel : Nat) :
    tokens fuel s cs = tokens fuel s' cs' := by
  cases fuel with
  | zero => rfl
  | succ fuel => rw [tokens, tokens, h]

theorem tokens_of_step {s between next : Scan} {cs found rest : List Char}
    (hskip : s.skip false cs = (between, found)) (hne : found ≠ [])
    (hstep : between.leave.step found = some (next, rest)) (fuel : Nat) :
    tokens (fuel + 1) s cs = tokens fuel next rest := by
  obtain ⟨c, found, rfl⟩ := List.exists_cons_of_ne_nil hne
  simp only [tokens, hskip, hstep]

section Runs

variable {p : Place} {ts : List Token} {columns closed left : List Nat} {word rest lines : List Char}
  {column : Nat}

/-- A name, to its colon. -/
theorem tokens_name
    (hspan : columns.span (fun column => decide (p.column < column)) = (closed, left))
    (hleft : ∀ column ∈ left.head?, column ≤ p.column) (hword : IsWord word)
    (hshort : word.length ≤ nameReach) (hrest : atGap rest) (fuel : Nat) :
    tokens (fuel + 2) (between p ts columns true) (word ++ ':' :: rest) =
      tokens fuel
        (between (p.along (word.length + 1))
          (ts ++ closed.map (fun _ => .blockEnd) ++ nameTokens p.column left word)
          (opened p.column left) false)
        rest := by
  have hfurther : ∀ column ∈ left.head?, column ≤ (p.along word.length).column :=
    fun column hhead => Nat.le_add_right_of_le (hleft column hhead)
  have hname : (between p ts columns true).leave.step (word ++ ':' :: rest) =
      some (named p (ts ++ closed.map fun _ => .blockEnd) left word, ':' :: rest) := by
    rw [leave_between hspan, step_name hword hrest]
  have hcolon : (named p (ts ++ closed.map fun _ => .blockEnd) left word).leave.step (':' :: rest) =
      some (between (p.along (word.length + 1))
        (ts ++ closed.map (fun _ => .blockEnd) ++ nameTokens p.column left word)
        (opened p.column left) false, rest) := by
    rw [leave_of_le _ hfurther, step_named hshort hleft hrest]
  rw [tokens_of_step (skip_word _ (hword.atWord_append _)) (by simp) hname,
    tokens_of_step (skip_colon _) (by simp) hcolon]

/-- What is below a line: so many spaces, fewer than a margin, and then a word or nothing. -/
def Below (margin : Nat) (lines : List Char) : Prop :=
  ∃ n < margin, ∃ rest, atWord rest ∧ lines = List.replicate n ' ' ++ rest

/-- A value, to the end of its line. -/
theorem tokens_value (hhead : columns.head? = some column) (hcolumn : column ≤ p.column)
    (hword : IsWord word) (hlines : Below (column + 1) lines) (fuel : Nat) :
    tokens (fuel + 1) (between p ts columns false) (' ' :: (word ++ '\n' :: lines)) =
      tokens fuel (atLine (p.line + 1) (ts ++ [.scalar .plain word]) columns) lines := by
  obtain ⟨n, hn, rest, hrest, rfl⟩ := hlines
  have hinside : ∀ column ∈ columns.head?, column ≤ (p.along 1).column := by
    rintro _ hmem
    obtain rfl : column = _ := Option.some.inj (hhead.symm.trans hmem)
    exact Nat.le_add_right_of_le hcolumn
  have hmargin : n < (between (p.along 1) ts columns false).margin := by
    simpa [between, margin, hhead] using hn
  have hvalue : (between (p.along 1) ts columns false).leave.step
      (word ++ '\n' :: (List.replicate n ' ' ++ rest)) =
      some (between (p.nextLine.along n) (ts ++ [.scalar .plain word]) columns true, rest) := by
    rw [leave_of_le _ hinside, step_value hword hmargin hrest]
    rfl
  refine (tokens_of_step (skip_spaces 1 (hword.atWord_append _)) (by simp) hvalue fuel).trans ?_
  -- the spaces of the next line are read with the value, and would be passed over otherwise
  apply tokens_of_skip
  rw [skip_word _ hrest, atLine, skip_spaces n hrest]
  rfl

end Runs

/-- A word that is short enough to be a name. -/
structure IsName (name : String) : Prop extends IsWord name.toList where
  short : name.toList.length ≤ nameReach

instance (name : String) : Decidable (IsName name) :=
  decidable_of_iff
    (name.toList ≠ [] ∧ name.toList.all isPlain ∧ name.toList.length ≤ nameReach)
    ⟨fun h => ⟨⟨h.1, List.all_eq_true.mp h.2.1⟩, h.2.2⟩,
      fun h => ⟨h.nonempty, List.all_eq_true.mpr h.plain, h.short⟩⟩

theorem isWord_writeCount (count : Option Nat) : IsWord (writeCount count) := by
  cases count with
  | none => exact ⟨by decide, List.all_eq_true.mp (by decide)⟩
  | some n =>
    have hdigits : writeCount (some n) = Nat.toDigits 10 n := Nat.toList_repr
    rw [hdigits]
    refine ⟨Nat.toDigits_ne_nil, fun c hc => ?_⟩
    have hdigit : c.isDigit := Nat.isDigit_of_mem_toDigits (by decide) (by decide) hc
    simp [isPlain, Char.isAlphanum, hdigit]

def entryTokens (entry : String × Option Nat) : List Token :=
  [.key, .scalar .plain entry.1.toList, .colon, .scalar .plain (writeCount entry.2)]

def sectionTokens (part : String × List (String × Option Nat)) : List Token :=
  [.key, .scalar .plain part.1.toList, .colon, .blockRecord] ++
    part.2.flatMap entryTokens ++ [.blockEnd]

section Runs

variable {ts : List Token} {lines : List Char} {name : String} {value : Option Nat}
  {entries : List (String × Option Nat)} {sections : Document.Sections}

/-- An entry is two columns to the right. -/
theorem tokens_entry {columns : List Nat} (hname : IsName name) (hlines : Below 3 lines)
    (line fuel : Nat) (hleft : ∀ column ∈ columns.head?, column ≤ 2)
    (hspan : columns.span (fun column => decide (2 < column)) = ([], columns)) :
    tokens (fuel + 3) (atLine line ts columns) (writeEntry name value ++ lines) =
      tokens fuel
        (atLine (line + 1) (ts ++ nameTokens 2 columns name.toList ++
          [.scalar .plain (writeCount value)]) (opened 2 columns))
        lines := by
  let p : Place := ⟨line, 2, 2⟩
  have hindent : tokens (fuel + 3) (atLine line ts columns) (writeEntry name value ++ lines) =
      tokens (fuel + 3) (between p ts columns true)
        (name.toList ++ ':' :: (' ' :: (writeCount value ++ '\n' :: lines))) := by
    have htext : writeEntry name value ++ lines = List.replicate 2 ' ' ++
        (name.toList ++ ':' :: (' ' :: (writeCount value ++ '\n' :: lines))) := by
      simp [writeEntry]
    have hword := hname.atWord_append (':' :: (' ' :: (writeCount value ++ '\n' :: lines)))
    apply tokens_of_skip
    rw [htext, atLine, skip_spaces 2 hword, skip_word _ hword]
    rfl
  have hnamed : tokens (fuel + 1 + 2) (between p ts columns true)
      (name.toList ++ ':' :: (' ' :: (writeCount value ++ '\n' :: lines))) =
        tokens (fuel + 1)
          (between (p.along (name.toList.length + 1)) (ts ++ nameTokens 2 columns name.toList)
            (opened 2 columns) false)
          (' ' :: (writeCount value ++ '\n' :: lines)) := by
    rw [tokens_name hspan hleft hname.toIsWord hname.short rfl, List.map_nil, List.append_nil]
  rw [hindent, hnamed, tokens_value (head?_opened 2 columns) (Nat.le_add_right ..)
    (isWord_writeCount value) hlines]
  rfl

theorem below_writeEntry (hname : IsName name) (lines : List Char) :
    Below 3 (writeEntry name value ++ lines) :=
  ⟨2, by decide, name.toList ++ ':' :: (' ' :: (writeCount value ++ '\n' :: lines)),
    hname.atWord_append _, by simp [writeEntry]⟩

theorem below_writeEntries (hnames : ∀ e ∈ entries, IsName e.1) (hlines : Below 3 lines) :
    Below 3 (entries.flatMap (fun e => writeEntry e.1 e.2) ++ lines) := by
  cases entries with
  | nil => exact hlines
  | cons e entries =>
    rw [List.flatMap_cons, List.append_assoc]
    exact below_writeEntry (hnames e List.mem_cons_self) _

/-- Entries that follow one go on with its record. -/
theorem tokens_entries (hnames : ∀ e ∈ entries, IsName e.1) (hlines : Below 3 lines)
    (line fuel : Nat) :
    tokens (fuel + 3 * entries.length) (atLine line ts [2, 0])
        (entries.flatMap (fun e => writeEntry e.1 e.2) ++ lines) =
      tokens fuel (atLine (line + entries.length) (ts ++ entries.flatMap entryTokens) [2, 0])
        lines := by
  induction entries generalizing line ts with
  | nil => simp
  | cons e entries ih =>
    obtain ⟨hname, hnames⟩ := List.forall_mem_cons.mp hnames
    have hfuel : fuel + 3 * (e :: entries).length = fuel + 3 * entries.length + 3 := rfl
    have hopened : opened 2 [2, 0] = [2, 0] := rfl
    rw [List.flatMap_cons, List.append_assoc, hfuel,
      tokens_entry hname (below_writeEntries hnames hlines) _ _ (by simp) rfl, hopened, ih hnames]
    simp [nameTokens, entryTokens, Nat.add_assoc, Nat.add_comm 1]

/-- A section's entries, of which the first begins its record. -/
theorem tokens_first (hne : entries ≠ []) (hnames : ∀ e ∈ entries, IsName e.1)
    (hlines : Below 3 lines) (line fuel : Nat) :
    tokens (fuel + 3 * entries.length) (atLine line ts [0])
        (entries.flatMap (fun e => writeEntry e.1 e.2) ++ lines) =
      tokens fuel
        (atLine (line + entries.length) (ts ++ .blockRecord :: entries.flatMap entryTokens) [2, 0])
        lines := by
  obtain ⟨e, entries, rfl⟩ := List.exists_cons_of_ne_nil hne
  obtain ⟨hname, hnames⟩ := List.forall_mem_cons.mp hnames
  have hfuel : fuel + 3 * (e :: entries).length = fuel + 3 * entries.length + 3 := rfl
  have hopened : opened 2 [0] = [2, 0] := rfl
  rw [List.flatMap_cons, List.append_assoc, hfuel,
    tokens_entry hname (below_writeEntries hnames hlines) _ _ (by simp) rfl, hopened,
    tokens_entries hnames hlines]
  simp [nameTokens, entryTokens, Nat.add_assoc, Nat.add_comm 1]

/-- A section at the beginning of a line, after which its entries' record is open inside its own. -/
theorem tokens_section (columns : List Nat) {closed left : List Nat}
    (hspan : columns.span (fun column => decide (0 < column)) = (closed, left))
    (hleft : ∀ column ∈ left.head?, column ≤ 0) (hopened : opened 0 left = [0])
    (hname : IsName name) (hne : entries ≠ []) (hnames : ∀ e ∈ entries, IsName e.1)
    (hlines : Below 3 lines) (line fuel : Nat) :
    tokens (fuel + 3 * entries.length + 2) (atLine line ts columns)
        (writeSection name entries ++ lines) =
      tokens fuel
        (atLine (line + 1 + entries.length)
          (ts ++ closed.map (fun _ => .blockEnd) ++ nameTokens 0 left name.toList ++
            .blockRecord :: entries.flatMap entryTokens) [2, 0])
        lines := by
  have htext : writeSection name entries ++ lines = name.toList ++ ':' ::
      ('\n' :: (entries.flatMap (fun e => writeEntry e.1 e.2) ++ lines)) := by
    simp [writeSection]
  rw [htext, atLine, tokens_name (p := ⟨line, 0, 0⟩) hspan hleft hname.toIsWord hname.short rfl,
    hopened, tokens_of_skip skip_break, tokens_first hne hnames hlines]
  rfl

structure IsSection (part : String × List (String × Option Nat)) : Prop where
  name : IsName part.1
  nonempty : part.2 ≠ []
  names : ∀ e ∈ part.2, IsName e.1

theorem below_writeSections (hsections : ∀ part ∈ sections, IsSection part) :
    Below 3 (sections.flatMap fun part => writeSection part.1 part.2) := by
  cases sections with
  | nil => exact ⟨0, by decide, [], rfl, rfl⟩
  | cons part sections =>
    refine ⟨0, by decide, _, ?_, (List.nil_append _).symm⟩
    have hname := (hsections part List.mem_cons_self).name
    simpa [writeSection] using hname.atWord_append _

theorem length_writeSection_le (part : String × List (String × Option Nat)) :
    3 * part.2.length + 2 ≤ (writeSection part.1 part.2).length := by
  have hentry (e : String × Option Nat) : 3 ≤ (writeEntry e.1 e.2).length := by
    simp only [writeEntry, List.length_append, List.length_cons]
    omega
  have hentries : 3 * part.2.length ≤
      (part.2.flatMap fun e => writeEntry e.1 e.2).length := by
    induction part.2 with
    | nil => exact Nat.zero_le _
    | cons e entries ih =>
      have := hentry e
      simp only [List.flatMap_cons, List.length_append, List.length_cons]
      omega
  simp only [writeSection, List.length_append, List.length_cons]
  omega

/-- Sections after the first one: each ends the record of the section before it. -/
theorem tokens_sections (hsections : ∀ part ∈ sections, IsSection part) (line : Nat) {fuel : Nat}
    (hfuel : (sections.flatMap fun part => writeSection part.1 part.2).length < fuel) :
    tokens fuel (atLine line ts [2, 0]) (sections.flatMap fun part => writeSection part.1 part.2) =
      some (ts ++ .blockEnd :: (sections.flatMap sectionTokens ++ [.blockEnd])) := by
  induction sections generalizing line ts fuel with
  | nil =>
    cases fuel with
    | zero => exact absurd hfuel (Nat.not_lt_zero _)
    | succ fuel => simp [tokens, skip, atLine, between, inFlow, leaveAll, settle]
  | cons part sections ih =>
    obtain ⟨hpart, hsections⟩ := List.forall_mem_cons.mp hsections
    have hlength := length_writeSection_le part
    rw [List.flatMap_cons] at hfuel ⊢
    rw [List.length_append] at hfuel
    obtain ⟨rest, rfl⟩ := Nat.exists_eq_add_of_le
      (show 3 * part.2.length + 2 ≤ fuel by omega)
    rw [show 3 * part.2.length + 2 + rest = rest + 3 * part.2.length + 2 by omega,
      tokens_section [2, 0] rfl (by simp) rfl hpart.name hpart.nonempty hpart.names
        (below_writeSections hsections),
      ih hsections _ (by omega)]
    simp [nameTokens, sectionTokens]

/-- The tokens of sections are one record of records. -/
theorem tokens_write {cs : List Char} (hne : sections ≠ [])
    (hsections : ∀ part ∈ sections, IsSection part)
    (hcs : cs = sections.flatMap fun part => writeSection part.1 part.2) :
    tokens (cs.length + 1) .start cs =
      some (.blockRecord :: (sections.flatMap sectionTokens ++ [.blockEnd])) := by
  obtain ⟨part, sections, rfl⟩ := List.exists_cons_of_ne_nil hne
  obtain ⟨hpart, hsections⟩ := List.forall_mem_cons.mp hsections
  have hlength := length_writeSection_le part
  rw [List.flatMap_cons] at hcs
  obtain ⟨rest, hrest⟩ := Nat.exists_eq_add_of_le
    (show 3 * part.2.length + 2 ≤ cs.length + 1 by rw [hcs, List.length_append]; omega)
  have hstart : start = atLine 0 [] [] := rfl
  rw [show cs.length + 1 = rest + 3 * part.2.length + 2 by omega, hcs, hstart,
    tokens_section [] rfl (by simp) rfl hpart.name hpart.nonempty hpart.names
      (below_writeSections hsections),
    tokens_sections hsections]
  · simp [nameTokens, sectionTokens]
  · rw [hcs, List.length_append] at hrest
    omega

end Runs

end Scan

end SpiWifi.Document.Yaml
