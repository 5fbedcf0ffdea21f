/-!
# Characters of YAML

The classes of characters that the tokens of YAML are told apart by, and the place of a character in
its text. Lines end in several ways, of which the usual ones mean the same; the column in its line
tells what a token belongs to.
-/

namespace SpiWifi.Document.Yaml

def isPrintable (c : Char) : Bool :=
  let n := c.toNat
  n == 0x9 || n == 0xa || n == 0xd || (0x20 ≤ n && n ≤ 0x7e) || n == 0x85
    || (0xa0 ≤ n && n ≤ 0xd7ff) || (0xe000 ≤ n && n ≤ 0xfffd) || 0x10000 ≤ n

/-- Writes carriage returns, alone or before a line feed, and next-line controls as line feeds. The
separators of lines and of paragraphs stay as they are. -/
def unifyBreaks : List Char → List Char
  | [] => []
  | '\r' :: '\n' :: rest => '\n' :: unifyBreaks rest
  | c :: rest => (if c = '\r' ∨ c.toNat = 0x85 then '\n' else c) :: unifyBreaks rest

def isBreak (c : Char) : Bool := c == '\n' || c.toNat == 0x2028 || c.toNat == 0x2029

def isBlank (c : Char) : Bool := c == ' ' || c == '\t'

def isGap (c : Char) : Bool := isBlank c || isBreak c

def atGap : List Char → Bool
  | [] => true
  | c :: _ => isGap c

/-- Whether a character is a byte order mark, which may begin a line. -/
def isOrderMark (c : Char) : Bool := c.toNat == 0xfeff

def isFlowMark (c : Char) : Bool := c == ',' || c == '[' || c == ']' || c == '{' || c == '}'

/-- Whether a character may stand in the name of an anchor, a tag handle or a directive. -/
def isWord (c : Char) : Bool := c.isAlphanum || c == '-' || c == '_'

structure Place where
  line : Nat
  /-- How many characters of the line come before. -/
  column : Nat
  /-- How many bytes of the line come before. -/
  offset : Nat
  deriving DecidableEq

namespace Place

def start : Place := ⟨0, 0, 0⟩

def nextLine (p : Place) : Place := ⟨p.line + 1, 0, 0⟩

def after (p : Place) (c : Char) : Place :=
  if isBreak c then p.nextLine else ⟨p.line, p.column + 1, p.offset + c.utf8Size⟩

def afterAll (p : Place) (cs : List Char) : Place := cs.foldl after p

end Place

/-- Whether a line at a place begins with the marker of a document's start or end. -/
def atMarker (p : Place) : List Char → Bool
  | '-' :: '-' :: '-' :: rest => p.column == 0 && atGap rest
  | '.' :: '.' :: '.' :: rest => p.column == 0 && atGap rest
  | _ => false

/-- The text after the end of a line on which only blanks and a comment are left. -/
def lineEnd? (cs : List Char) : Option (List Char) :=
  let cs := cs.dropWhile isBlank
  let cs := if cs.head? = some '#' then cs.dropWhile fun c => !isBreak c else cs
  match cs with
  | [] => some []
  | c :: rest => if isBreak c then some rest else none

end SpiWifi.Document.Yaml
