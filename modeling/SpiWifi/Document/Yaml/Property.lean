import SpiWifi.Document.Yaml.Character
import SpiWifi.Text.Numeral
import SpiWifi.Text.Utf8

/-!
# Properties of YAML nodes

A node may carry an anchor, by which it is referred to, and a tag. A tag is written as a handle and
a suffix; what the handle stands for is said by directives.
-/

namespace SpiWifi.Document.Yaml

/-- The name of an anchor after its indicator, and what follows it. -/
def anchorName? (cs : List Char) : Option (List Char × List Char) :=
  let name := cs.takeWhile isWord
  let rest := cs.dropWhile isWord
  if name.isEmpty then none
  else if atGap rest || rest.head?.any ("?:,]\x7d%@\x60".toList.contains ·) then some (name, rest)
  else none

/-- A tag as it is written. The handle is empty for a tag that is written in full. -/
structure Tag where
  handle : List Char
  suffix : List Char
  deriving DecidableEq

/-- Whether a character may stand in a tag as it is. -/
def isTagCharacter (inFull : Bool) (c : Char) : Bool :=
  isWord c || ";/?:@&=+$.!~*'()".toList.contains c || (inFull && ",[]".toList.contains c)

/-- How many bytes follow a byte that begins a character. -/
def continuations? (b : Nat) : Option Nat :=
  if b < 0x80 then some 0
  else if b < 0xc0 then none
  else if b < 0xe0 then some 1
  else if b < 0xf0 then some 2
  else if b < 0xf8 then some 3
  else none

/-- Reads the bytes of a tag's text, some of which may be escaped by a percent sign; so many more
have to come for the character that is begun. -/
def tagBytes (inFull : Bool) : Nat → List Char → Option (Bytes × List Char)
  | wanted, '%' :: a :: b :: rest =>
    match Text.Numeral.digits 16 255 0 [a, b] with
    | .error _ => none
    | .ok byte =>
      let next :=
        if wanted = 0 then continuations? byte
        else if 0x80 ≤ byte ∧ byte < 0xc0 then some (wanted - 1)
        else none
      match next with
      | none => none
      | some wanted =>
        (tagBytes inFull wanted rest).map fun (bs, rest) => (UInt8.ofNat byte :: bs, rest)
  | wanted, c :: rest =>
    if c = '%' ∨ (wanted ≠ 0) then none
    else if isTagCharacter inFull c then
      (tagBytes inFull 0 rest).map fun (bs, rest) => (UInt8.ofNat c.toNat :: bs, rest)
    else some ([], c :: rest)
  | wanted, [] => if wanted = 0 then some ([], []) else none

def tagText (inFull : Bool) (cs : List Char) : Option (List Char × List Char) :=
  (tagBytes inFull 0 cs).map fun (bs, rest) => ((Text.Utf8.decodeLossy bs).toList, rest)

/-- Reads a word, and the mark that makes it a handle if there is one, after a first mark. -/
def handleWord (cs : List Char) : List Char × Bool × List Char :=
  let word := cs.takeWhile isWord
  match cs.dropWhile isWord with
  | '!' :: rest => (word, true, rest)
  | rest => (word, false, rest)

/-- Reads a tag after its first mark, without regard to what follows it. -/
def tag? : List Char → Option (Tag × List Char)
  | '<' :: rest =>
    match tagText true rest with
    | some (suffix, '>' :: rest) => if suffix.isEmpty then none else some (⟨[], suffix⟩, rest)
    | _ => none
  | cs =>
    match handleWord cs with
    | (word, true, rest) =>
      match tagText false rest with
      | some (suffix, rest) =>
        if suffix.isEmpty then none else some (⟨'!' :: word ++ ['!'], suffix⟩, rest)
      | none => none
    | (word, false, rest) =>
      (tagText false rest).map fun (more, rest) =>
        let suffix := word ++ more
        (if suffix.isEmpty then ⟨[], ['!']⟩ else ⟨['!'], suffix⟩, rest)

inductive Directive where
  /-- A version of the language that is read here. -/
  | version
  /-- What a handle stands for. -/
  | handle (name meaning : List Char)
  deriving DecidableEq

def versionPart? (cs : List Char) : Option (Nat × List Char) :=
  let ds := cs.takeWhile Char.isDigit
  if ds.isEmpty || 9 < ds.length then none
  else
    match Text.Numeral.digits 10 999999999 0 ds with
    | .ok n => some (n, cs.dropWhile Char.isDigit)
    | .error _ => none

/-- Reads a version, which has to be 1.1 or 1.2. -/
def version? (cs : List Char) : Option (List Char) := do
  match ← versionPart? cs with
  | (1, '.' :: rest) =>
    let (minor, rest) ← versionPart? rest
    if minor = 1 ∨ minor = 2 then some rest else none
  | _ => none

def handle? : List Char → Option (Directive × List Char)
  | '!' :: cs =>
    let (word, marked, rest) := handleWord cs
    if !marked && !word.isEmpty then none
    else if !rest.head?.any isBlank then none
    else
      match tagText true (rest.dropWhile isBlank) with
      | some (meaning, rest) =>
        if meaning.isEmpty || !atGap rest then none
        else some (.handle ('!' :: word ++ (if marked then ['!'] else [])) meaning, rest)
      | none => none
  | _ => none

/-- Reads a directive after the percent sign, to the end of its line. -/
def directive? (cs : List Char) : Option (Directive × List Char) :=
  let rest := cs.dropWhile isWord
  if !atGap rest then none
  else
    let value := rest.dropWhile isBlank
    let found :=
      if cs.takeWhile isWord = "YAML".toList then (version? value).map fun rest => (.version, rest)
      else if cs.takeWhile isWord = "TAG".toList then handle? value
      else none
    match found with
    | some (directive, rest) => (lineEnd? rest).map fun rest => (directive, rest)
    | none => none

end SpiWifi.Document.Yaml
