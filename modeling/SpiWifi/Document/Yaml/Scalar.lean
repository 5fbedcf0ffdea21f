import SpiWifi.Document.Yaml.Character
import SpiWifi.Text.Numeral

/-!
# Scalars of YAML

Plain scalars and scalars in quotes. Either kind may go on over lines: a single line break between two
words counts as a space, further ones are kept. A plain scalar ends at an indicator, at a comment, and
outside brackets at a line that begins left of its margin.
-/

namespace SpiWifi.Document.Yaml

/-- What separates two words of a scalar, latest character first. -/
inductive Gap where
  /-- Blanks on one line. -/
  | blanks (cs : List Char)
  /-- Line breaks, whatever blanks stand around them; the first is absent if it was escaped. -/
  | breaks (first : Option Char) (later : List Char)

namespace Gap

def empty : Gap := blanks []

def isEmpty : Gap → Bool
  | blanks cs => cs.isEmpty
  | breaks _ _ => false

def isBroken : Gap → Bool
  | blanks _ => false
  | breaks _ _ => true

def push (c : Char) : Gap → Gap
  | blanks cs => if isBreak c then breaks (some c) [] else blanks (c :: cs)
  | breaks first later => if isBreak c then breaks first (c :: later) else breaks first later

def text : Gap → List Char
  | blanks cs => cs.reverse
  | breaks (some '\n') [] => [' ']
  | breaks (some '\n') later => later.reverse
  | breaks first later => first.toList ++ later.reverse

end Gap

/-- A scalar that has been read, and where the text goes on. -/
structure Span where
  text : List Char
  /-- Whether a line break came after the last word. -/
  broken : Bool
  place : Place
  rest : List Char

def Span.prepend (before : List Char) (s : Span) : Span := { s with text := before ++ s.text }

def beginsPlain (inFlow : Bool) : List Char → Bool
  | [] => false
  | c :: rest =>
    if c = '-' then !atGap rest
    else if c = '?' ∨ c = ':' then !inFlow && !atGap rest
    else !(isGap c || isFlowMark c || "#&*!|>%@'\"\x60".toList.contains c)

/-- Whether a plain scalar ends before the first of these characters: at a colon before a gap, or
inside brackets at an indicator. -/
def endsPlain (inFlow : Bool) : List Char → Bool
  | [] => true
  | c :: rest => (c == ':' && atGap rest) || (inFlow && isFlowMark c)

/-- Whether a gap ends a plain scalar, from what comes after it: a comment, a marker, or outside
brackets a line that begins left of the margin. -/
def gapEndsPlain (inFlow : Bool) (margin : Nat) (p : Place) (cs : List Char) : Bool :=
  cs.head? == some '#' || atMarker p cs || (!inFlow && decide (p.column < margin))

/-- Reads a plain scalar. Left of the margin no tab may lead a line, and inside brackets no colon
may touch an indicator. -/
def plainSpan (inFlow : Bool) (margin : Nat) : Gap → Place → List Char → Option Span
  | gap, p, [] => some ⟨[], gap.isBroken, p, []⟩
  | gap, p, c :: rest =>
    if isGap c then
      if gap.isBroken && c == '\t' && decide (p.column < margin) then none
      else plainSpan inFlow margin (gap.push c) (p.after c) rest
    else if (!gap.isEmpty && gapEndsPlain inFlow margin p (c :: rest))
        || endsPlain inFlow (c :: rest) then
      some ⟨[], gap.isBroken, p, c :: rest⟩
    else if inFlow && c == ':' && rest.head?.any (fun d => isFlowMark d || d == '?') then none
    else (plainSpan inFlow margin .empty (p.after c) rest).map (·.prepend (gap.text ++ [c]))

/-- Reads a scalar in single quotes, after the opening one; a quote inside is written twice. -/
def singleQuoted : Gap → Place → List Char → Option Span
  | _, _, [] => none
  | gap, p, '\'' :: '\'' :: rest =>
    (singleQuoted .empty ((p.after '\'').after '\'') rest).map (·.prepend (gap.text ++ ['\'']))
  | gap, p, c :: rest =>
    if isGap c then singleQuoted (gap.push c) (p.after c) rest
    else if atMarker p (c :: rest) then none
    else if c = '\'' then some ⟨gap.text, false, p.after c, rest⟩
    else (singleQuoted .empty (p.after c) rest).map (·.prepend (gap.text ++ [c]))

/-- The character that a letter after the backslash stands for. -/
def escaped? : Char → Option Char
  | '0' => some '\x00'
  | 'a' => some '\x07'
  | 'b' => some '\x08'
  | 't' | '\t' => some '\t'
  | 'n' => some '\n'
  | 'v' => some '\x0b'
  | 'f' => some '\x0c'
  | 'r' => some '\r'
  | 'e' => some '\x1b'
  | ' ' => some ' '
  | '"' => some '"'
  | '/' => some '/'
  | '\\' => some '\\'
  | 'N' => some (Char.ofNat 0x85)
  | '_' => some (Char.ofNat 0xa0)
  | 'L' => some (Char.ofNat 0x2028)
  | 'P' => some (Char.ofNat 0x2029)
  | _ => none

/-- How many hexadecimal digits follow a letter after the backslash. -/
def escapeDigits : Char → Nat
  | 'x' => 2
  | 'u' => 4
  | 'U' => 8
  | _ => 0

def charOf? (n : Nat) : Option Char := if n.isValidChar then some (Char.ofNat n) else none

/-- What an escape spells, after the backslash, and how many characters it takes. An escaped line
break spells no character. -/
def escape? : List Char → Option (Option Char × Nat)
  | [] => none
  | c :: rest =>
    if isBreak c then some (none, 1)
    else
      match escapeDigits c with
      | 0 => (escaped? c).map fun e => (some e, 1)
      | n + 1 =>
        let digits := rest.take (n + 1)
        if digits.length ≤ n then none
        else
          match Text.Numeral.digits 16 0x10ffff 0 digits with
          | .ok code => (charOf? code).map fun e => (some e, n + 2)
          | .error _ => none

/-- Reads a scalar in double quotes, after the opening one. -/
def doubleQuoted (gap : Gap) (p : Place) : List Char → Option Span
  | [] => none
  | c :: rest =>
    if isGap c then doubleQuoted (gap.push c) (p.after c) rest
    else if atMarker p (c :: rest) then none
    else if c = '"' then some ⟨gap.text, false, p.after c, rest⟩
    else if c = '\\' then
      match escape? rest with
      | none => none
      | some (e, taken) =>
        let next : Gap := if e.isSome then .empty else .breaks none []
        (doubleQuoted next ((p.after c).afterAll (rest.take taken))
          (rest.drop taken)).map (·.prepend (gap.text ++ e.toList))
    else (doubleQuoted .empty (p.after c) rest).map (·.prepend (gap.text ++ [c]))
termination_by cs => cs.length

end SpiWifi.Document.Yaml
