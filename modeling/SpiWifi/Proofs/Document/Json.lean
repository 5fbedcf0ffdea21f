import Mathlib.Data.List.Forall2
import SpiWifi.Document.Json
import SpiWifi.Proofs.Text.Decimal

/-!
# JSON read back

What is written for a plain document, one without scalars that only other texts have, is read back
as that document. The text is cut into tokens first: a part of it is cut apart from what follows if
that begins with a comma or with white space. From the tokens the tree is built again.
-/

namespace SpiWifi.Document.Json

/-- Made of nulls, flags, numbers, texts, lists, and records whose names are texts. -/
inductive IsPlain : Document → Prop
  | null : IsPlain .null
  | flag (b : Bool) : IsPlain (.flag b)
  | number (n : Nat) : IsPlain (.number n)
  | text (s : String) : IsPlain (.text (some s))
  | list {items : List Document} (plain : ∀ d ∈ items, IsPlain d) : IsPlain (.list items)
  | record {entries : List (Option String × Document)}
      (named : ∀ e ∈ entries, e.1.isSome) (plain : ∀ e ∈ entries, IsPlain e.2) :
      IsPlain (.record entries)

theorem hexValue?_digitChar {d : Nat} (h : d < 16) : hexValue? (Nat.digitChar d) = some d := by
  have all : ∀ d : Fin 16, hexValue? (Nat.digitChar d.val) = some d.val := by decide
  exact all ⟨d, h⟩

/-- A unit that is half of no pair is a character whatever follows it. -/
theorem assemble_unit {n : Nat} (h : n < 0xd800) (pieces : List Piece) :
    assemble (.unit n :: pieces) = (assemble pieces).map (Char.ofNat n :: ·) := by
  have low : ¬ (0xd800 ≤ n ∧ n < 0xdc00) := by omega
  have high : ¬ (0xdc00 ≤ n ∧ n < 0xe000) := by omega
  have alone : ¬ (0xd800 ≤ n ∧ n < 0xe000) := by omega
  match pieces with
  | [] => rw [assemble.eq_4 _ _ (by simp), if_neg alone]
  | .char c :: rest => rw [assemble.eq_4 _ _ (by simp), if_neg alone]
  | .unit m :: rest => rw [assemble.eq_3, if_neg low, if_neg high]

/-- An escape of one letter stands for its character. -/
theorem quoted_letter {letter c : Char} (h : escaped? letter = some c) (cs : List Char) :
    quoted ('\\' :: letter :: cs) =
      (quoted cs).map fun (pieces, rest) => (.char c :: pieces, rest) := by
  rw [quoted.eq_4 _ _ (by rintro _ _ _ _ _ rfl; cases h), h]
  cases quoted cs <;> rfl

/-- An escape of two digits stands for a control character. -/
theorem quoted_control {c : Char} (h : c.toNat < 0x20) (cs : List Char) :
    quoted (['\\', 'u', '0', '0'] ++ Nat.toDigits 16 (c.toNat / 16) ++ Nat.toDigits 16 (c.toNat % 16)
        ++ cs) = (quoted cs).map fun (pieces, rest) => (.unit c.toNat :: pieces, rest) := by
  have hunit : unit? '0' '0' (Nat.digitChar (c.toNat / 16)) (Nat.digitChar (c.toNat % 16))
      = some c.toNat := by
    rw [unit?, hexValue?_digitChar (by omega), hexValue?_digitChar (by omega)]
    change some (((0 * 16 + 0) * 256 + c.toNat / 16 * 16 + c.toNat % 16)) = _
    congr 1
    omega
  rw [Nat.toDigits_of_lt_base (by omega), Nat.toDigits_of_lt_base (by omega)]
  change quoted ('\\' :: 'u' :: '0' :: '0' :: _ :: _ :: cs) = _
  rw [quoted.eq_3, hunit]
  cases quoted cs <;> rfl

theorem quoted_char {c : Char} (hquote : c ≠ '"') (hslash : c ≠ '\\') (h : 0x20 ≤ c.toNat)
    (cs : List Char) :
    quoted (c :: cs) = (quoted cs).map fun (pieces, rest) => (.char c :: pieces, rest) := by
  have ordinary : ¬ (c.toNat < 0x20 ∨ c = '\\') := by
    rintro (low | slash)
    · omega
    · exact hslash slash
  rw [quoted.eq_5 _ _ hquote (fun _ _ _ _ _ slash _ => hslash slash)
    (fun _ _ slash _ => hslash slash), if_neg ordinary]

/-- The quoted form of a character is read as one piece that stands for it. -/
theorem exists_piece (c : Char) :
    ∃ piece : Piece, (∀ pieces, assemble (piece :: pieces) = (assemble pieces).map (c :: ·)) ∧
      ∀ cs, quoted (escape c ++ cs) =
        (quoted cs).map fun (pieces, rest) => (piece :: pieces, rest) := by
  unfold escape
  split
  case h_8 hquote hslash _ _ _ _ _ =>
    split
    · next control =>
      refine ⟨.unit c.toNat, fun pieces => ?_, quoted_control control⟩
      rw [assemble_unit (by omega), Char.ofNat_toNat]
    · next printable =>
      exact ⟨.char c, assemble.eq_2 _, quoted_char hquote hslash (by omega)⟩
  all_goals exact ⟨.char _, assemble.eq_2 _, quoted_letter rfl⟩

theorem quoted_escape (s : List Char) (rest : List Char) :
    ∃ pieces, assemble pieces = some s ∧
      quoted (s.flatMap escape ++ '"' :: rest) = some (pieces, rest) := by
  induction s with
  | nil => exact ⟨[], rfl, rfl⟩
  | cons c s ih =>
    obtain ⟨pieces, hpieces, hquoted⟩ := ih
    obtain ⟨piece, hpiece, hescape⟩ := exists_piece c
    refine ⟨piece :: pieces, ?_, ?_⟩
    · rw [hpiece, hpieces]
      rfl
    · rw [List.flatMap_cons, List.append_assoc, hescape, hquoted]
      rfl

/-- A value ends where this begins. -/
def Delimited (cs : List Char) : Prop := ∀ c ∈ cs.head?, c = ',' ∨ isSpace c

theorem valueOf_toDigits (n : Nat) : valueOf (Nat.toDigits 10 n) = n := by
  have h := Nat.ofDigitChars_ten_toDigits (n := n)
  rw [Nat.ofDigitChars_eq_foldl] at h
  simpa only [valueOf, Nat.mul_comm, Char.reduceToNat] using h

theorem Delimited.stops {c : Char} {cs : List Char} (h : Delimited (c :: cs)) :
    c.isDigit = false ∧ c ≠ '.' ∧ c ≠ 'e' ∧ c ≠ 'E' := by
  rcases h c rfl with rfl | blank
  · decide
  · simp only [isSpace, Bool.or_eq_true, beq_iff_eq] at blank
    rcases blank with ((rfl | rfl) | rfl) | rfl <;> decide

theorem isDigit_toDigits {n : Nat} {c : Char} (h : c ∈ Nat.toDigits 10 n) : c.isDigit :=
  Nat.isDigit_of_mem_toDigits (by decide) (by decide) h

theorem exists_toDigits_eq_cons (n : Nat) : ∃ c cs, Nat.toDigits 10 n = c :: cs ∧ c.isDigit := by
  obtain ⟨c, cs, hdigits⟩ := List.exists_cons_of_ne_nil (Nat.toDigits_ne_nil (n := n) (b := 10))
  exact ⟨c, cs, hdigits, isDigit_toDigits (hdigits ▸ List.mem_cons_self)⟩

theorem digits?_append {ds rest : List Char} (nonempty : ds ≠ []) (digits : ∀ c ∈ ds, c.isDigit)
    (h : Delimited rest) : digits? (ds ++ rest) = some (ds, rest) := by
  have htake : rest.takeWhile Char.isDigit = [] := by
    cases rest with
    | nil => rfl
    | cons c cs => exact List.takeWhile_cons_of_neg (by simp [h.stops.1])
  have hdrop : rest.dropWhile Char.isDigit = rest := by
    cases rest with
    | nil => rfl
    | cons c cs => exact List.dropWhile_cons_of_neg (by simp [h.stops.1])
  rw [digits?, List.takeWhile_append_of_pos digits, List.dropWhile_append_of_pos digits, htake, hdrop,
    List.append_nil]
  cases ds with
  | nil => exact absurd rfl nonempty
  | cons c cs => rfl

theorem whole?_toDigits (n : Nat) {rest : List Char} (h : Delimited rest) :
    whole? (Nat.toDigits 10 n ++ rest) = some (Nat.toDigits 10 n, rest) := by
  rcases Nat.eq_zero_or_pos n with rfl | pos
  · rfl
  · rw [← digits?_append Nat.toDigits_ne_nil (fun _ => isDigit_toDigits) h]
    refine whole?.eq_2 _ fun cs hcs => Text.Numeral.head?_toDigits pos ?_
    rw [← List.head?_append_of_ne_nil _ Nat.toDigits_ne_nil, hcs]
    rfl

theorem fraction?_delimited {rest : List Char} (h : Delimited rest) :
    fraction? rest = some ([], rest) := by
  cases rest with
  | nil => rfl
  | cons c cs => exact fraction?.eq_2 _ fun _ hcs => h.stops.2.1 (List.cons.inj hcs).1

theorem exponent?_delimited {rest : List Char} (h : Delimited rest) :
    exponent? rest = some ([], rest) := by
  cases rest with
  | nil => rfl
  | cons c cs =>
    obtain ⟨-, -, small, capital⟩ := h.stops
    exact if_neg (by rintro (rfl | rfl) <;> contradiction)

theorem unsigned?_toDigits (n : Nat) {rest : List Char} (h : Delimited rest) :
    unsigned? (Nat.toDigits 10 n ++ rest) = some (.number n, rest) := by
  simp [unsigned?, whole?_toDigits n h, fraction?_delimited h, exponent?_delimited h, valueOf_toDigits]

theorem token?_of_isDigit {c : Char} (cs : List Char) (h : c.isDigit) :
    token? (c :: cs) = (unsigned? (c :: cs)).map fun (value, rest) => (.scalar value, rest) := by
  have hnumber : number? (c :: cs) = unsigned? (c :: cs) := by
    refine number?.eq_2 _ fun _ hcs => ?_
    obtain rfl := (List.cons.inj hcs).1
    cases h
  unfold token?
  split
  case h_12 => rw [hnumber]
  case h_1 hnil => cases hnil
  all_goals
    obtain ⟨rfl, -⟩ := List.cons.inj ‹_ = _›
    cases h

theorem token?_toDigits (n : Nat) {rest : List Char} (h : Delimited rest) :
    token? (Nat.toDigits 10 n ++ rest) = some (.scalar (.number n), rest) := by
  obtain ⟨c, cs, hdigits, digit⟩ := exists_toDigits_eq_cons n
  have hread := unsigned?_toDigits n h
  rw [hdigits] at hread ⊢
  rw [List.cons_append, token?_of_isDigit _ digit, ← List.cons_append, hread]
  rfl

/-- The text is cut into the tokens, given as much fuel as it has characters and one more. -/
def Lexes (cs : List Char) (ts : List Token) : Prop :=
  ∀ fuel, cs.length < fuel → tokens fuel cs = some ts

/-- The text is cut into the tokens wherever it can be told from what follows. -/
def Cuts (cs : List Char) (ts : List Token) : Prop :=
  ∀ rest more, Delimited rest → Lexes rest more → Lexes (cs ++ rest) (ts ++ more)

theorem Lexes.nil : Lexes [] [] := by
  intro fuel h
  cases fuel with
  | zero => cases h
  | succ fuel => rfl

theorem Lexes.space {c : Char} {cs : List Char} {ts : List Token} (blank : isSpace c)
    (h : Lexes cs ts) : Lexes (c :: cs) ts := by
  intro fuel hfuel
  have hrest := h fuel (Nat.lt_of_succ_lt hfuel)
  cases fuel with
  | zero => cases hfuel
  | succ fuel =>
    rw [tokens] at hrest ⊢
    rwa [List.dropWhile_cons_of_pos blank]

theorem Lexes.spaces {blanks cs : List Char} {ts : List Token} (blank : ∀ c ∈ blanks, isSpace c)
    (h : Lexes cs ts) : Lexes (blanks ++ cs) ts := by
  induction blanks with
  | nil => exact h
  | cons c blanks ih =>
    rw [List.forall_mem_cons] at blank
    exact (ih blank.2).space blank.1

theorem Lexes.token {c : Char} {cs rest : List Char} {t : Token} {ts : List Token}
    (inked : isSpace c = false) (left : rest <:+ cs)
    (htoken : token? (c :: cs) = some (t, rest)) (h : Lexes rest ts) : Lexes (c :: cs) (t :: ts) := by
  intro fuel hfuel
  cases fuel with
  | zero => cases hfuel
  | succ fuel =>
    have hrest := h fuel (Nat.lt_of_le_of_lt left.length_le (Nat.lt_of_succ_lt_succ hfuel))
    rw [tokens, List.dropWhile_cons_of_neg (by simp [inked])]
    dsimp only
    rw [htoken]
    dsimp only
    rw [hrest]
    rfl

def IsWord (c : Char) (cs : List Char) (t : Token) : Prop :=
  isSpace c = false ∧ ∀ rest, token? (c :: (cs ++ rest)) = some (t, rest)

theorem isWord_comma : IsWord ',' [] .comma := ⟨rfl, fun _ => rfl⟩

theorem isWord_colon : IsWord ':' [] .colon := ⟨rfl, fun _ => rfl⟩

theorem isWord_null : IsWord 'n' ['u', 'l', 'l'] (.scalar .null) := ⟨rfl, fun _ => rfl⟩

theorem isWord_false : IsWord 'f' ['a', 'l', 's', 'e'] (.scalar (.flag false)) :=
  ⟨rfl, fun _ => rfl⟩

theorem isWord_true : IsWord 't' ['r', 'u', 'e'] (.scalar (.flag true)) := ⟨rfl, fun _ => rfl⟩

theorem Lexes.word {c : Char} {cs rest : List Char} {t : Token} {ts : List Token}
    (word : IsWord c cs t) (h : Lexes rest ts) : Lexes (c :: (cs ++ rest)) (t :: ts) :=
  h.token word.1 (List.suffix_append cs rest) (word.2 rest)

theorem Lexes.quote (s : String) {cs : List Char} {ts : List Token} (h : Lexes cs ts) :
    Lexes ((quote s).toList ++ cs) (.scalar (.text (some s)) :: ts) := by
  obtain ⟨pieces, hpieces, hquoted⟩ := quoted_escape s.toList cs
  have htoken : token? ('"' :: (s.toList.flatMap escape ++ '"' :: cs))
      = some (.scalar (.text (some s)), cs) := by
    rw [token?, hquoted, Option.map_some]
    dsimp only
    rw [hpieces, Option.map_some, String.ofList_toList]
  have hsplit : (Json.quote s).toList ++ cs = '"' :: (s.toList.flatMap escape ++ '"' :: cs) := by
    simp [Json.quote]
  rw [hsplit]
  exact h.token rfl ⟨s.toList.flatMap escape ++ ['"'], by simp⟩ htoken

theorem isSpace_of_isDigit {c : Char} (h : c.isDigit) : isSpace c = false := by
  simp only [isSpace, Bool.or_eq_false_iff, beq_eq_false_iff_ne]
  refine ⟨⟨⟨?_, ?_⟩, ?_⟩, ?_⟩ <;> rintro rfl <;> cases h

theorem Lexes.number (n : Nat) {cs : List Char} {ts : List Token} (delimited : Delimited cs)
    (h : Lexes cs ts) : Lexes ((toString n).toList ++ cs) (.scalar (.number n) :: ts) := by
  have htoken := token?_toDigits n delimited
  obtain ⟨c, rest, hdigits, digit⟩ := exists_toDigits_eq_cons n
  rw [Nat.toString_eq_ofList_toDigits, String.toList_ofList, hdigits, List.cons_append]
  rw [hdigits, List.cons_append] at htoken
  exact h.token (isSpace_of_isDigit digit) (List.suffix_append rest cs) htoken

theorem isSpace_newLine (depth : Nat) : ∀ c ∈ (newLine depth).toList, isSpace c := by
  intro c h
  simp only [newLine, String.toList_append, String.toList_ofList, List.mem_append,
    List.mem_replicate] at h
  rcases h with h | ⟨-, rfl⟩
  · obtain rfl := List.mem_singleton.mp h
    rfl
  · rfl

theorem delimited_newLine (depth : Nat) (cs : List Char) :
    Delimited ((newLine depth).toList ++ cs) := by
  intro c hc
  have hhead : ((newLine depth).toList ++ cs).head? = some '\n' := by simp [newLine]
  rw [hhead] at hc
  exact .inr (Option.some.inj hc ▸ rfl)

theorem Cuts.intercalate (depth : Nat) {parts : List String} {tss : List (List Token)}
    (h : List.Forall₂ (fun part ts => Cuts part.toList ts) parts tss) :
    Cuts (("," ++ newLine depth).intercalate parts).toList ([Token.comma].intercalate tss) := by
  induction h with
  | nil => exact fun _ _ _ hrest => hrest
  | @cons part ts parts tss first others ih =>
    cases others with
    | nil => simpa using first
    | @cons part' ts' parts tss _ _ =>
      -- the comma behind the part delimits it
      intro rest more delimited hrest
      have hlater := (ih rest more delimited hrest).spaces (isSpace_newLine depth)
      have hcomma := first _ _ (fun c hc => .inl (Option.mem_some.mp hc).symm)
        (hlater.word isWord_comma)
      simpa [String.toList_intercalate] using hcomma

theorem Cuts.bracketed {left right : Char} {opening closing : Token} (hleft : IsWord left [] opening)
    (hright : IsWord right [] closing) (depth : Nat) {parts : List String} {tss : List (List Token)}
    (h : List.Forall₂ (fun part ts => Cuts part.toList ts) parts tss) :
    Cuts (bracketed (String.ofList [left]) (String.ofList [right]) depth parts).toList
      (opening :: ([Token.comma].intercalate tss ++ [closing])) := by
  intro rest more _ hrest
  have hclosed := hrest.word hright
  cases h with
  | nil => simpa [Json.bracketed] using hclosed.word hleft
  | cons first others =>
    have hlast := hclosed.spaces (isSpace_newLine depth)
    have hparts := Cuts.intercalate (depth + 1) (.cons first others) _ _ (delimited_newLine _ _) hlast
    have hfirst := hparts.spaces (isSpace_newLine (depth + 1))
    simpa [Json.bracketed] using hfirst.word hleft

mutual

def tokensOf : Document → List Token
  | .list items => .openList :: ([.comma].intercalate (itemTokens items) ++ [.closeList])
  | .record entries => .openRecord :: ([.comma].intercalate (entryTokens entries) ++ [.closeRecord])
  | scalar => [.scalar scalar]

def itemTokens : List Document → List (List Token)
  | [] => []
  | item :: rest => tokensOf item :: itemTokens rest

def entryTokens : List (Option String × Document) → List (List Token)
  | [] => []
  | (name, value) :: rest => (.scalar (.text name) :: .colon :: tokensOf value) :: entryTokens rest

end

theorem forall₂_items {depth : Nat} {items : List Document}
    (h : ∀ d ∈ items, ∀ depth, Cuts (writeAt depth d).toList (tokensOf d)) :
    List.Forall₂ (fun part ts => Cuts part.toList ts) (writeItems depth items) (itemTokens items) := by
  induction items with
  | nil => exact .nil
  | cons d items ih =>
    rw [List.forall_mem_cons] at h
    exact .cons (h.1 depth) (ih h.2)

theorem cuts_entry {name : String} {part : String} {ts : List Token} (h : Cuts part.toList ts) :
    Cuts (quote name ++ ": " ++ part).toList (.scalar (.text (some name)) :: .colon :: ts) := by
  intro rest more delimited hrest
  have hvalue := (Lexes.space (c := ' ') rfl (h rest more delimited hrest)).word isWord_colon
  simpa using hvalue.quote name

theorem forall₂_entries {depth : Nat} {entries : List (Option String × Document)}
    (named : ∀ e ∈ entries, e.1.isSome)
    (h : ∀ e ∈ entries, ∀ depth, Cuts (writeAt depth e.2).toList (tokensOf e.2)) :
    List.Forall₂ (fun part ts => Cuts part.toList ts) (writeEntries depth entries)
      (entryTokens entries) := by
  induction entries with
  | nil => exact .nil
  | cons e entries ih =>
    rw [List.forall_mem_cons] at named h
    obtain ⟨name, hname⟩ := Option.isSome_iff_exists.mp named.1
    obtain ⟨_, value⟩ := e
    obtain rfl := hname
    exact .cons (cuts_entry (h.1 depth)) (ih named.2 h.2)

/-- A plain document is written so that it is cut into its tokens, however deep it stands. -/
theorem IsPlain.cuts {d : Document} (h : IsPlain d) (depth : Nat) :
    Cuts (writeAt depth d).toList (tokensOf d) := by
  induction h generalizing depth with
  | null =>
    intro rest more _ hrest
    simpa [writeAt, tokensOf] using hrest.word isWord_null
  | flag b =>
    intro rest more _ hrest
    cases b with
    | false => simpa [writeAt, tokensOf] using hrest.word isWord_false
    | true => simpa [writeAt, tokensOf] using hrest.word isWord_true
  | number n =>
    intro rest more delimited hrest
    exact hrest.number n delimited
  | text s => exact fun rest more _ hrest => hrest.quote s
  | list _ ih => exact Cuts.bracketed ⟨rfl, fun _ => rfl⟩ ⟨rfl, fun _ => rfl⟩ depth (forall₂_items ih)
  | record named _ ih =>
    exact Cuts.bracketed ⟨rfl, fun _ => rfl⟩ ⟨rfl, fun _ => rfl⟩ depth (forall₂_entries named ih)

/-- The tokens of the document are built into it, given as much fuel as there are tokens. -/
def Parses (d : Document) : Prop :=
  ∀ fuel rest, (tokensOf d).length ≤ fuel → value fuel (tokensOf d ++ rest) = some (d, rest)

theorem length_intercalate_cons_cons (t : Token) (ts ts' : List Token) (tss : List (List Token)) :
    ([t].intercalate (ts :: ts' :: tss)).length
      = ts.length + 1 + ([t].intercalate (ts' :: tss)).length := by
  rw [List.intercalate_cons_cons, List.length_append, List.length_append, List.length_singleton]

theorem listItems_tokens {items : List Document} (nonempty : items ≠ []) (h : ∀ d ∈ items, Parses d)
    (fuel : Nat) (rest : List Token)
    (enough : ([Token.comma].intercalate (itemTokens items)).length < fuel) :
    listItems fuel ([Token.comma].intercalate (itemTokens items) ++ .closeList :: rest)
      = some (items, rest) := by
  -- each item takes one unit of fuel and has at least the token of its comma
  induction items generalizing fuel with
  | nil => exact absurd rfl nonempty
  | cons d items ih =>
    rw [List.forall_mem_cons] at h
    cases fuel with
    | zero => cases enough
    | succ fuel =>
      cases items with
      | nil =>
        simp only [itemTokens, List.intercalate_singleton] at enough ⊢
        rw [listItems, h.1 _ _ (Nat.le_of_lt_succ enough)]
      | cons d' items =>
        simp only [itemTokens, length_intercalate_cons_cons] at enough ih ⊢
        have hlater := ih (List.cons_ne_nil _ _) h.2 fuel (by omega)
        have hfirst := h.1 fuel (.comma :: ([Token.comma].intercalate (tokensOf d' :: itemTokens items)
          ++ .closeList :: rest)) (by omega)
        simp only [List.intercalate_cons_cons, List.append_assoc, List.cons_append,
          List.nil_append]
        rw [listItems, hfirst]
        dsimp only
        rw [hlater]
        rfl

theorem recordEntries_tokens {entries : List (Option String × Document)} (nonempty : entries ≠ [])
    (h : ∀ e ∈ entries, Parses e.2) (fuel : Nat) (rest : List Token)
    (enough : ([Token.comma].intercalate (entryTokens entries)).length < fuel) :
    recordEntries fuel ([Token.comma].intercalate (entryTokens entries) ++ .closeRecord :: rest)
      = some (entries, rest) := by
  induction entries generalizing fuel with
  | nil => exact absurd rfl nonempty
  | cons e entries ih =>
    obtain ⟨name, v⟩ := e
    rw [List.forall_mem_cons] at h
    cases fuel with
    | zero => cases enough
    | succ fuel =>
      cases entries with
      | nil =>
        simp only [entryTokens, List.intercalate_singleton, List.length_cons] at enough ⊢
        have hfirst := h.1 fuel (.closeRecord :: rest) (by dsimp only; omega)
        simp only [List.cons_append]
        rw [recordEntries, hfirst]
      | cons e' entries =>
        simp only [entryTokens, length_intercalate_cons_cons, List.length_cons] at enough ih ⊢
        have hlater := ih (List.cons_ne_nil _ _) h.2 fuel (by omega)
        have hfirst := h.1 fuel (.comma :: ([Token.comma].intercalate
          ((.scalar (.text e'.1) :: .colon :: tokensOf e'.2) :: entryTokens entries)
          ++ .closeRecord :: rest)) (by dsimp only; omega)
        simp only [List.intercalate_cons_cons, List.append_assoc, List.cons_append,
          List.nil_append]
        rw [recordEntries, hfirst]
        dsimp only
        rw [hlater]
        rfl

/-- No item begins with the end of its list. -/
theorem listItems_closeList (fuel : Nat) (rest : List Token) :
    listItems fuel (.closeList :: rest) = none := by
  cases fuel with
  | zero => rfl
  | succ fuel => cases fuel <;> rfl

/-- No entry begins with the end of its record. -/
theorem recordEntries_closeRecord (fuel : Nat) (rest : List Token) :
    recordEntries fuel (.closeRecord :: rest) = none := by
  cases fuel <;> rfl

theorem IsPlain.parses {d : Document} (h : IsPlain d) : Parses d := by
  induction h with
  | null | flag | number | text =>
    intro fuel rest enough
    cases fuel with
    | zero => cases enough
    | succ fuel => rfl
  | @list items _ ih =>
    intro fuel rest enough
    simp only [tokensOf, List.length_cons, List.length_append, List.length_nil] at enough
    obtain ⟨fuel, rfl⟩ : ∃ less, fuel = less + 1 := ⟨fuel - 1, by omega⟩
    cases items with
    | nil => rfl
    | cons d items =>
      have hitems := listItems_tokens (List.cons_ne_nil d items) ih fuel rest (by omega)
      simp only [tokensOf, List.cons_append, List.append_assoc, List.nil_append]
      rw [value.eq_4, hitems, Option.map_some]
      intro _ hclose
      rw [hclose, listItems_closeList] at hitems
      cases hitems
  | @record entries _ _ ih =>
    intro fuel rest enough
    simp only [tokensOf, List.length_cons, List.length_append, List.length_nil] at enough
    obtain ⟨fuel, rfl⟩ : ∃ less, fuel = less + 1 := ⟨fuel - 1, by omega⟩
    cases entries with
    | nil => rfl
    | cons e entries =>
      have hentries :=
        recordEntries_tokens (List.cons_ne_nil e entries) ih fuel rest (by omega)
      simp only [tokensOf, List.cons_append, List.append_assoc, List.nil_append]
      rw [value.eq_6, hentries, Option.map_some]
      intro _ hclose
      rw [hclose, recordEntries_closeRecord] at hentries
      cases hentries

/-- What is written for a plain document is read back, with white space behind it or without. -/
theorem read?_write {d : Document} (plain : IsPlain d) (tail : String)
    (blank : ∀ c ∈ tail.toList, isSpace c) : read? (write d ++ tail) = some d := by
  have delimited : Delimited tail.toList := fun c hc => .inr (blank c (List.mem_of_mem_head? hc))
  have htail : Lexes tail.toList [] := by
    simpa using Lexes.nil.spaces blank
  have htokens := plain.cuts 0 _ _ delimited htail
  rw [List.append_nil] at htokens
  have htree := plain.parses (2 * (tokensOf d).length + 1) [] (by omega)
  rw [List.append_nil] at htree
  have hlength : (write d ++ tail).toList = (writeAt 0 d).toList ++ tail.toList :=
    String.toList_append
  have hlex := htokens ((write d ++ tail).length + 1) (by rw [← hlength]; exact Nat.lt_succ_self _)
  rw [read?, hlength, hlex, Option.bind_eq_bind, Option.bind_some, htree]
  rfl

end SpiWifi.Document.Json
