import SpiWifi.Document.Yaml.Scalar

/-!
# Block scalars of YAML

A block scalar takes whole lines that are indented alike, literally or folded. Folding makes a space
of a single line break between two lines, unless one of them begins with a blank. The indentation is
announced, or it is that of the first line that holds something. What becomes of the line breaks at
the end is announced too.
-/

namespace SpiWifi.Document.Yaml

/-- Which line breaks at the end of a block scalar belong to its text. -/
inductive Chomping where
  | strip
  | clip
  | keep
  deriving DecidableEq

def chomping? : Char → Option Chomping
  | '-' => some .strip
  | '+' => some .keep
  | _ => none

def indentation? (c : Char) : Option Nat :=
  if '1' ≤ c ∧ c ≤ '9' then some (c.toNat - 48) else none

/-- The announcements on the first line, in either order: which breaks are kept, and how far the
lines are indented, zero if that is not announced. A zero is not left over for anything else. -/
def announced : List Char → Chomping × Nat × List Char
  | a :: b :: rest =>
    match chomping? a, indentation? a with
    | some k, _ =>
      match indentation? b with
      | some n => (k, n, rest)
      | none => (k, 0, b :: rest)
    | _, some n =>
      match chomping? b with
      | some k => (k, n, rest)
      | none => (.clip, n, b :: rest)
    | _, _ => (.clip, 0, a :: b :: rest)
  | [a] =>
    match chomping? a, indentation? a with
    | some k, _ => (k, 0, [])
    | _, some n => (.clip, n, [])
    | _, _ => (.clip, 0, [a])
  | [] => (.clip, 0, [])

/-- Lines without text, and where the text goes on. -/
structure EmptyLines where
  /-- The furthest column that blanks reach. -/
  widest : Nat
  breaks : List Char
  place : Place
  rest : List Char

/-- Passes over indentation and lines without text; `indent` is zero while it is not known. No tab
may stand in the indentation. -/
def emptyLines (indent : Nat) : (widest : Nat) → Place → List Char → Option EmptyLines
  | widest, p, [] => some ⟨max widest p.column, [], p, []⟩
  | widest, p, c :: rest =>
    let inside := indent == 0 || decide (p.column < indent)
    if inside && c == ' ' then emptyLines indent widest (p.after c) rest
    else if inside && c == '\t' then none
    else
      let widest := max widest p.column
      if isBreak c then
        (emptyLines indent widest (p.after c) rest).map fun e => { e with breaks := c :: e.breaks }
      else some ⟨widest, [], p, c :: rest⟩

structure BlockText where
  text : List Char
  /-- The break after the last line with text, if there is one. -/
  last : List Char
  /-- The breaks after that one. -/
  later : List Char
  place : Place
  rest : List Char

/-- What stands between two lines of a block scalar: their breaks, or a space for a single one. -/
def between (literal : Bool) (last later : List Char) (blankAround : Bool) : List Char :=
  if literal || blankAround || last != ['\n'] then last ++ later
  else if later.isEmpty then [' ']
  else later

/-- Reads the lines that are indented to a column, after the breaks that came before. -/
def blockLines (literal : Bool) (indent : Nat) :
    Nat → (last later : List Char) → (wasBlank : Bool) → Place → List Char → Option BlockText
  | 0, _, _, _, _, _ => none
  | _ + 1, last, later, _, p, [] => some ⟨[], last, later, p, []⟩
  | fuel + 1, last, later, wasBlank, p, c :: rest =>
    if p.column ≠ indent then some ⟨[], last, later, p, c :: rest⟩
    else
      let line := (c :: rest).takeWhile fun d => !isBreak d
      let before := between literal last later (wasBlank || isBlank c)
      let p := p.afterAll line
      match (c :: rest).dropWhile fun d => !isBreak d with
      | [] => some ⟨before ++ line, [], [], p, []⟩
      | b :: rest =>
        match emptyLines indent 0 (p.after b) rest with
        | none => none
        | some e =>
          (blockLines literal indent fuel [b] e.breaks (isBlank c) e.place e.rest).map fun found =>
            { found with text := before ++ line ++ found.text }

/-- Reads a block scalar after its indicator. Its lines are indented at least to the margin. -/
def blockScalar (literal : Bool) (margin : Nat) (p : Place) (cs : List Char) : Option Span :=
  let (chomping, increment, rest) := announced cs
  match lineEnd? rest with
  | none => none
  | some rest =>
    let known := if increment = 0 then 0 else margin - 1 + increment
    match emptyLines known 0 p.nextLine rest with
    | none => none
    | some e =>
      let indent := if increment = 0 then max e.widest (max margin 1) else known
      (blockLines literal indent (e.rest.length + 1) [] e.breaks false e.place e.rest).map
        fun found =>
          let ending :=
            match chomping with
            | .strip => []
            | .clip => found.last
            | .keep => found.last ++ found.later
          ⟨found.text ++ ending, true, found.place, found.rest⟩

end SpiWifi.Document.Yaml
