import SpiWifi.Document.Yaml.BlockScalar
import SpiWifi.Document.Yaml.Property

/-!
# Tokens of YAML

The tokens of a YAML text: indicators of block and flow collections, scalars, properties of nodes,
references to anchors, directives, and the markers around a document. Comments are passed over.
Block collections have no indicators of their own. They begin with a name or a dash further right
than the innermost one that is open, and end before a token further left. That something is a name
shows only at the colon after it, so the place where a name may have begun is remembered until then.
-/

namespace SpiWifi.Document.Yaml

inductive Style where
  | plain
  | quoted
  | literal
  | folded
  deriving DecidableEq

inductive Token where
  | directive (d : Directive)
  | documentStart
  | documentEnd
  | blockRecord
  | blockList
  | blockEnd
  | openRecord
  | closeRecord
  | openList
  | closeList
  | comma
  | dash
  /-- A name comes next. -/
  | key
  /-- A value comes next. -/
  | colon
  | reference (name : List Char)
  | anchor (name : List Char)
  | tag (t : Tag)
  | scalar (style : Style) (text : List Char)
  deriving DecidableEq

/-- A place where a name may have begun. -/
structure Mark where
  place : Place
  /-- How many tokens come before. -/
  index : Nat
  /-- Whether nothing but a name can begin there. -/
  required : Bool

/-- How far the tokens of a text have been told apart. -/
structure Scan where
  place : Place
  found : Array Token
  /-- Where a name may have begun. -/
  mark : Option Mark
  /-- Where names may have begun outside of the open brackets, innermost first. -/
  outer : List (Option Mark)
  /-- The columns of the block collections that are open, innermost first. -/
  columns : List Nat
  /-- Whether an entry or an item may begin here. -/
  entryAllowed : Bool

namespace Scan

def start : Scan := ⟨.start, #[], none, [], [], true⟩

def inFlow (s : Scan) : Bool := !s.outer.isEmpty

def push (s : Scan) (t : Token) : Scan := { s with found := s.found.push t }

/-- The column left of which no line of a scalar may begin. -/
def margin (s : Scan) : Nat := s.columns.head?.elim 0 (· + 1)

/-- Passes over byte order marks, blanks, line breaks and comments. A tab is no blank where it could
be taken for indentation. -/
def skip : (comment : Bool) → Scan → List Char → Scan × List Char
  | _, s, [] => (s, [])
  | comment, s, c :: rest =>
    let next := { s with place := s.place.after c }
    if isBreak c then
      skip false { next with entryAllowed := s.entryAllowed || !s.inFlow } rest
    else if comment then skip true next rest
    else if c = ' ' ∨ (c = '\t' ∧ (s.inFlow ∨ !s.entryAllowed)) then skip false next rest
    else if isOrderMark c && s.place.column == 0 then skip false next rest
    else if c = '#' then skip true next rest
    else (s, c :: rest)

/-- Gives up the place where a name may have begun, unless nothing else could begin there. -/
def settle (s : Scan) : Option Scan :=
  match s.mark with
  | none => some s
  | some m =>
    if m.required then none else some { s with mark := none }

/-- Remembers the place as one where a name may begin, if an entry may. At the column of the
innermost block collection nothing else begins. -/
def remember (s : Scan) : Option Scan :=
  if s.entryAllowed then
    s.settle.map fun s =>
      let required := !s.inFlow && s.columns.head? == some s.place.column
      { s with mark := some ⟨s.place, s.found.size, required⟩ }
  else some s

/-- Ends the block collections that begin further right than the place. -/
def leave (s : Scan) : Scan :=
  if s.inFlow then s
  else
    let (closed, left) := s.columns.span fun column => decide (s.place.column < column)
    { s with found := s.found ++ closed.map fun _ => Token.blockEnd, columns := left }

def leaveAll (s : Scan) : Scan :=
  { s with found := s.found ++ s.columns.map fun _ => Token.blockEnd, columns := [] }

/-- Begins a block collection at a column, after so many tokens, unless one is open there. -/
def enter (s : Scan) (kind : Token) (column index : Nat) : Scan :=
  if !s.inFlow && s.columns.head?.all (fun c => decide (c < column)) then
    { s with
      found := s.found.insertIdxIfInBounds index kind
      columns := column :: s.columns }
  else s

def enterHere (s : Scan) (kind : Token) : Scan := s.enter kind s.place.column s.found.size

/-- How many bytes a name may take, up to its colon. -/
def nameReach : Nat := 1024

/-- The place where the name before a colon began. A name and its colon stand on one line. -/
def nameStart? (s : Scan) : Option Mark :=
  s.mark.filter fun m =>
    m.place.line == s.place.line && decide (s.place.offset ≤ m.place.offset + nameReach)

def past (s : Scan) (c : Char) : Scan := { s with place := s.place.after c }

/-- The colon after a name, or one that stands alone. -/
def colonStep (s : Scan) : Option Scan :=
  match s.nameStart? with
  | some m =>
    let named :=
      { s with
        found := s.found.insertIdxIfInBounds m.index .key
        mark := none
        entryAllowed := false }
    some ((named.enter .blockRecord m.place.column m.index).push .colon)
  | none =>
    s.settle.bind fun s =>
      if s.inFlow then some ({ s with entryAllowed := false }.push .colon)
      else if s.entryAllowed then some ((s.enterHere .blockRecord).push .colon)
      else none

/-- An indicator that begins a name or an item. -/
def entryStep (s : Scan) (kind indicator : Token) : Option Scan :=
  if s.inFlow || s.entryAllowed then
    (s.enterHere kind).settle.map fun s => s.push indicator
  else none

def openStep (s : Scan) (indicator : Token) : Option Scan :=
  s.remember.map fun s =>
    { s with mark := none, outer := s.mark :: s.outer, entryAllowed := true }.push indicator

def closeStep (s : Scan) (indicator : Token) : Option Scan :=
  s.settle.map fun s =>
    { s with mark := s.outer.head?.join, outer := s.outer.tail, entryAllowed := false }.push
      indicator

/-- A marker or a directive, before which all block collections end. -/
def lineStep (s : Scan) (t : Token) (place : Place) : Option Scan :=
  s.leaveAll.settle.map fun s => { s.push t with place := place, entryAllowed := false }

/-- A token that may begin a name, and the place after it. -/
def nodeStep (s : Scan) (t : Token) (place : Place) (entryAllowed : Bool) : Option Scan :=
  s.remember.map fun s => { s.push t with place := place, entryAllowed := entryAllowed }

def scalarStep (s : Scan) (style : Style) (found : Option Span) : Option (Scan × List Char) :=
  match found with
  | some f =>
    (s.nodeStep (.scalar style f.text) f.place f.broken).map fun s => (s, f.rest)
  | none => none

/-- A block scalar, which cannot be a name. -/
def blockScalarStep (s : Scan) (style : Style) (rest : List Char) : Option (Scan × List Char) :=
  match s.settle, blockScalar (style == .literal) s.margin s.place rest with
  | some s, some f =>
    some ({ s.push (.scalar style f.text) with place := f.place, entryAllowed := true }, f.rest)
  | _, _ => none

/-- An anchor, a reference or a tag after its indicator. -/
def propertyStep (s : Scan) (c : Char) (rest : List Char) : Option (Scan × List Char) :=
  if c = '!' then
    match tag? rest with
    | some (t, left) =>
      if atGap left || (s.inFlow && left.head? == some ',') then
        let place := (s.place.after c).afterAll (rest.take (rest.length - left.length))
        (s.nodeStep (.tag t) place false).map fun s => (s, left)
      else none
    | none => none
  else
    match anchorName? rest with
    | some (name, left) =>
      (s.nodeStep (if c = '*' then .reference name else .anchor name)
        ((s.place.after c).afterAll name) false).map fun s => (s, left)
    | none => none

def directiveStep (s : Scan) (rest : List Char) : Option (Scan × List Char) :=
  match directive? rest with
  | some (d, left) => (s.lineStep (.directive d) s.place.nextLine).map fun s => (s, left)
  | none => none

def step (s : Scan) : List Char → Option (Scan × List Char)
  | [] => none
  | c :: rest =>
    let one (next : Option Scan) : Option (Scan × List Char) :=
      next.map fun next => (next.past c, rest)
    if c = '%' ∧ s.place.column = 0 then s.directiveStep rest
    else if atMarker s.place (c :: rest) then
      (s.lineStep (if c = '-' then .documentStart else .documentEnd)
        (s.place.afterAll [c, c, c])).map fun s => (s, rest.drop 2)
    else if c = '{' then one (s.openStep .openRecord)
    else if c = '[' then one (s.openStep .openList)
    else if c = '}' then one (s.closeStep .closeRecord)
    else if c = ']' then one (s.closeStep .closeList)
    else if c = ',' then
      one (s.settle.map fun s => { s.push .comma with entryAllowed := true })
    else if c = '-' ∧ atGap rest then
      one ((s.entryStep .blockList .dash).map fun s => { s with entryAllowed := true })
    else if c = '?' ∧ (s.inFlow ∨ atGap rest) then
      one ((s.entryStep .blockRecord .key).map fun s => { s with entryAllowed := !s.inFlow })
    else if c = ':' ∧ (s.inFlow ∨ atGap rest) then one s.colonStep
    else if c = '*' ∨ c = '&' ∨ c = '!' then s.propertyStep c rest
    else if c = '|' ∧ !s.inFlow then s.blockScalarStep .literal rest
    else if c = '>' ∧ !s.inFlow then s.blockScalarStep .folded rest
    else if c = '"' then s.scalarStep .quoted (doubleQuoted .empty (s.place.after c) rest)
    else if c = '\'' then s.scalarStep .quoted (singleQuoted .empty (s.place.after c) rest)
    else if beginsPlain s.inFlow (c :: rest) then
      s.scalarStep .plain (plainSpan s.inFlow s.margin .empty s.place (c :: rest))
    else none

end Scan

def tokens : Nat → Scan → List Char → Option (List Token)
  | 0, _, _ => none
  | fuel + 1, s, cs =>
    match s.skip false cs with
    | (s, []) =>
      if s.inFlow then none else s.leaveAll.settle.map fun s => s.found.toList
    | (s, rest) =>
      match s.leave.step rest with
      | none => none
      | some (s, rest) => tokens fuel s rest

end SpiWifi.Document.Yaml
