import SpiWifi.Document.Basic

/-!
# JSON

Documents as JSON text. Reading cuts the text into tokens and builds the tree from them; it takes
exactly one value and nothing after it. Writing spreads records and lists over lines that are
indented by two spaces.
-/

namespace SpiWifi.Document.Json

inductive Token where
  | openRecord
  | closeRecord
  | openList
  | closeList
  | colon
  | comma
  | scalar (value : Document)

/-- A part of a quoted text: a character, or a UTF-16 unit from an escape. -/
inductive Piece where
  | char (c : Char)
  | unit (n : Nat)

/-- The characters that the pieces spell. Units must form whole characters. -/
def assemble : List Piece → Option (List Char)
  | [] => some []
  | .char c :: rest => (assemble rest).map (c :: ·)
  | .unit high :: .unit low :: rest =>
    if 0xd800 ≤ high ∧ high < 0xdc00 then
      if 0xdc00 ≤ low ∧ low < 0xe000 then
        (assemble rest).map
          (Char.ofNat (0x10000 + (high - 0xd800) * 0x400 + (low - 0xdc00)) :: ·)
      else none
    else if 0xdc00 ≤ high ∧ high < 0xe000 then none
    else (assemble (.unit low :: rest)).map (Char.ofNat high :: ·)
  | .unit n :: rest =>
    if 0xd800 ≤ n ∧ n < 0xe000 then none else (assemble rest).map (Char.ofNat n :: ·)

def hexValue? (c : Char) : Option Nat :=
  let n := c.toNat
  if 48 ≤ n ∧ n ≤ 57 then some (n - 48)
  else if 97 ≤ n ∧ n ≤ 102 then some (n - 87)
  else if 65 ≤ n ∧ n ≤ 70 then some (n - 55)
  else none

def unit? (a b c d : Char) : Option Nat := do
  return ((← hexValue? a) * 16 + (← hexValue? b)) * 256 + (← hexValue? c) * 16 + (← hexValue? d)

/-- The character that a letter after the backslash stands for. -/
def escaped? : Char → Option Char
  | '"' => some '"'
  | '\\' => some '\\'
  | '/' => some '/'
  | 'b' => some '\x08'
  | 'f' => some '\x0c'
  | 'n' => some '\n'
  | 'r' => some '\r'
  | 't' => some '\t'
  | _ => none

/-- The pieces of a quoted text after its opening quote, and what follows the closing one. -/
def quoted : List Char → Option (List Piece × List Char)
  | [] => none
  | '"' :: rest => some ([], rest)
  | '\\' :: 'u' :: a :: b :: c :: d :: rest =>
    match unit? a b c d, quoted rest with
    | some n, some (pieces, rest) => some (.unit n :: pieces, rest)
    | _, _ => none
  | '\\' :: letter :: rest =>
    match escaped? letter, quoted rest with
    | some c, some (pieces, rest) => some (.char c :: pieces, rest)
    | _, _ => none
  | c :: rest =>
    if c.toNat < 0x20 ∨ c = '\\' then none
    else (quoted rest).map fun (pieces, rest) => (.char c :: pieces, rest)

def digits? (cs : List Char) : Option (List Char × List Char) :=
  match cs.takeWhile Char.isDigit with
  | [] => none
  | ds => some (ds, cs.dropWhile Char.isDigit)

/-- The digits before the point: a lone zero, or no zero in front. -/
def whole? : List Char → Option (List Char × List Char)
  | '0' :: rest => some (['0'], rest)
  | cs => digits? cs

/-- The point and the digits after it, if there is a point. -/
def fraction? : List Char → Option (List Char × List Char)
  | '.' :: rest => (digits? rest).map fun (ds, rest) => ('.' :: ds, rest)
  | cs => some ([], cs)

def exponent? : List Char → Option (List Char × List Char)
  | e :: rest =>
    if e = 'e' ∨ e = 'E' then
      match rest with
      | sign :: more =>
        if sign = '+' ∨ sign = '-' then
          (digits? more).map fun (ds, rest) => (e :: sign :: ds, rest)
        else (digits? rest).map fun (ds, rest) => (e :: ds, rest)
      | [] => none
    else some ([], e :: rest)
  | [] => some ([], [])

def valueOf (ds : List Char) : Nat := ds.foldl (fun n c => n * 10 + (c.toNat - 48)) 0

/-- A number without sign. -/
def unsigned? (cs : List Char) : Option (Document × List Char) := do
  let (ds, rest) ← whole? cs
  let (point, rest) ← fraction? rest
  let (power, rest) ← exponent? rest
  if point.isEmpty && power.isEmpty then return (.number (valueOf ds), rest)
  else return (.literal (String.ofList (ds ++ point ++ power)), rest)

/-- What a number without sign is with a minus before it. -/
def negated : Document → Document
  | .number n => .literal ("-" ++ toString n)
  | .literal raw => .literal ("-" ++ raw)
  | other => other

def number? : List Char → Option (Document × List Char)
  | '-' :: rest => (unsigned? rest).map fun (value, rest) => (negated value, rest)
  | cs => unsigned? cs

/-- The first token of a text that does not begin with white space. -/
def token? : List Char → Option (Token × List Char)
  | [] => none
  | '{' :: rest => some (.openRecord, rest)
  | '}' :: rest => some (.closeRecord, rest)
  | '[' :: rest => some (.openList, rest)
  | ']' :: rest => some (.closeList, rest)
  | ':' :: rest => some (.colon, rest)
  | ',' :: rest => some (.comma, rest)
  | 'n' :: 'u' :: 'l' :: 'l' :: rest => some (.scalar .null, rest)
  | 't' :: 'r' :: 'u' :: 'e' :: rest => some (.scalar (.flag true), rest)
  | 'f' :: 'a' :: 'l' :: 's' :: 'e' :: rest => some (.scalar (.flag false), rest)
  | '"' :: rest =>
    (quoted rest).map fun (pieces, rest) =>
      (.scalar (.text ((assemble pieces).map String.ofList)), rest)
  | cs => (number? cs).map fun (value, rest) => (.scalar value, rest)

def isSpace (c : Char) : Bool := c == ' ' || c == '\n' || c == '\t' || c == '\r'

def tokens : Nat → List Char → Option (List Token)
  | 0, _ => none
  | fuel + 1, cs =>
    match cs.dropWhile isSpace with
    | [] => some []
    | cs =>
      match token? cs with
      | none => none
      | some (t, rest) => (tokens fuel rest).map (t :: ·)

mutual

def value : Nat → List Token → Option (Document × List Token)
  | 0, _ => none
  | _ + 1, .scalar v :: rest => some (v, rest)
  | _ + 1, .openList :: .closeList :: rest => some (.list [], rest)
  | fuel + 1, .openList :: rest =>
    (listItems fuel rest).map fun (vs, rest) => (.list vs, rest)
  | _ + 1, .openRecord :: .closeRecord :: rest => some (.record [], rest)
  | fuel + 1, .openRecord :: rest =>
    (recordEntries fuel rest).map fun (es, rest) => (.record es, rest)
  | _ + 1, _ => none

def listItems : Nat → List Token → Option (List Document × List Token)
  | 0, _ => none
  | fuel + 1, ts =>
    match value fuel ts with
    | some (v, .closeList :: rest) => some ([v], rest)
    | some (v, .comma :: rest) =>
      (listItems fuel rest).map fun (vs, rest) => (v :: vs, rest)
    | _ => none

/-- The entries of a record up to its closing brace. -/
def recordEntries : Nat → List Token → Option (List (Option String × Document) × List Token)
  | 0, _ => none
  | fuel + 1, .scalar (.text name) :: .colon :: ts =>
    match value fuel ts with
    | some (v, .closeRecord :: rest) => some ([(name, v)], rest)
    | some (v, .comma :: rest) =>
      (recordEntries fuel rest).map fun (es, rest) => ((name, v) :: es, rest)
    | _ => none
  | _ + 1, _ => none

end

def read? (s : String) : Option Document := do
  let ts ← tokens (s.length + 1) s.toList
  match ← value (2 * ts.length + 1) ts with
  | (v, []) => return v
  | _ => none

def escape (c : Char) : List Char :=
  match c with
  | '"' => ['\\', '"']
  | '\\' => ['\\', '\\']
  | '\n' => ['\\', 'n']
  | '\r' => ['\\', 'r']
  | '\t' => ['\\', 't']
  | '\x08' => ['\\', 'b']
  | '\x0c' => ['\\', 'f']
  | c =>
    if c.toNat < 0x20 then
      ['\\', 'u', '0', '0'] ++ Nat.toDigits 16 (c.toNat / 16) ++ Nat.toDigits 16 (c.toNat % 16)
    else [c]

def quote (s : String) : String := "\"" ++ String.ofList (s.toList.flatMap escape) ++ "\""

def newLine (depth : Nat) : String := "\n" ++ String.ofList (List.replicate (2 * depth) ' ')

/-- The parts between brackets, each on its own line; nothing between them if there is no part. -/
def bracketed (left right : String) (depth : Nat) (parts : List String) : String :=
  if parts.isEmpty then left ++ right
  else
    left ++ newLine (depth + 1) ++ ("," ++ newLine (depth + 1)).intercalate parts
      ++ newLine depth ++ right

mutual

/-- A document whose nested lines are indented from a depth on. -/
def writeAt (depth : Nat) : Document → String
  | .blank | .null => "null"
  | .flag b => if b then "true" else "false"
  | .number n => toString n
  | .literal raw => raw
  | .text s => quote (s.getD "")
  | .tagged _ scalar => writeAt depth scalar
  | .list items => bracketed "[" "]" depth (writeItems (depth + 1) items)
  | .record entries => bracketed "\x7b" "\x7d" depth (writeEntries (depth + 1) entries)

def writeItems (depth : Nat) : List Document → List String
  | [] => []
  | item :: rest => writeAt depth item :: writeItems depth rest

def writeEntries (depth : Nat) : List (Option String × Document) → List String
  | [] => []
  | (name, value) :: rest =>
    (quote (name.getD "") ++ ": " ++ writeAt depth value) :: writeEntries depth rest

end

def write (d : Document) : String := writeAt 0 d

end SpiWifi.Document.Json
