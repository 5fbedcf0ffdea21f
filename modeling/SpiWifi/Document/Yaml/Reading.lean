import SpiWifi.Document.Basic
import SpiWifi.Document.Yaml.Node

/-!
# Reading YAML

The document that a YAML text spells. Plain scalars stand for numbers, for nothing, or for the text
that they are. A reference stands for a node with an anchor of its name. Anchors are told apart by
numbers, and not every anchor has a number of its own, so the node may come after the reference, and
it may contain it. References are followed only as deep as documents are looked into.
-/

namespace SpiWifi.Document.Yaml

/-- The number that a plain scalar spells: digits of base ten without a zero in front, or of base
sixteen, eight or two after a mark. -/
def count? (cs : List Char) : Option Nat :=
  let body := if cs.head? = some '+' then cs.tail else cs
  let read (base : Nat) (ds : List Char) : Option Nat :=
    if ds.isEmpty then none else (Text.Numeral.digits base Text.Numeral.maxU64 0 ds).toOption
  match body with
  | '0' :: 'x' :: ds => read 16 ds
  | '0' :: 'o' :: ds => read 8 ds
  | '0' :: 'b' :: ds => read 2 ds
  | ['0'] => some 0
  | '0' :: _ => none
  | ds => read 10 ds

def nullWords : List (List Char) := ["null".toList, "Null".toList, "NULL".toList, ['~']]

def ofPlain (cs : List Char) : Document :=
  if cs.isEmpty then .blank
  else if nullWords.contains cs then .null
  else
    match count? cs with
    | some n => .number n
    | none => .literal (String.ofList cs)

/-- What the handles of tags stand for if no directive says otherwise. -/
def standardHandles : List (List Char × List Char) :=
  [(['!'], ['!']), (['!', '!'], "tag:yaml.org,2002:".toList)]

/-- The whole text of a tag, if its handle stands for something. -/
def fullTag? (handles : List (List Char × List Char)) (t : Tag) : Option (List Char) :=
  if t.handle.isEmpty then some t.suffix
  else ((handles ++ standardHandles).lookup t.handle).map fun meaning => meaning ++ t.suffix

def integerTag : List Char := "tag:yaml.org,2002:int".toList

/-- What a scalar stands for. The tag of a single mark says nothing about a scalar that is there; a
literal scalar is a number only under the tag of integers. -/
def ofScalar (tag : Option (List Char)) (style : Style) (cs : List Char) : Document :=
  let text : Document := .text (some (String.ofList cs))
  match style, tag.filter fun t => t != ['!'] || (style == .plain && cs.isEmpty) with
  | .plain, none => ofPlain cs
  | .plain, some t => .tagged (String.ofList t) (ofPlain cs)
  | .literal, some t =>
    if t = integerTag then
      match count? cs with
      | some n => .number n
      | none => text
    else text
  | _, _ => text

def nameOf? : Document → Option String
  | .text name => name
  | .literal raw => some raw
  | .number n => some (toString n)
  | .null => some "null"
  | .blank => some ""
  | .flag value => some (toString value)
  | .tagged _ scalar => nameOf? scalar
  | .list _ | .record _ => none

/-- The anchors up to a place in a document. -/
structure Anchors where
  /-- The number of the latest anchor of each name, latest first. -/
  numbers : List (List Char × Nat)
  /-- How many names there are. -/
  names : Nat

namespace Anchors

def empty : Anchors := ⟨[], 0⟩

/-- Gives the next number to an anchor, if there is one. The numbers count names, so an anchor whose
name is not new leaves its number to the next one as well. -/
def add (a : Anchors) : Option (List Char) → Anchors
  | some name =>
    let isNew := (a.numbers.lookup name).isNone
    ⟨(name, a.names) :: a.numbers, if isNew then a.names + 1 else a.names⟩
  | none => a

end Anchors

/-- The documents of nodes with anchors, by number. -/
abbrev Targets := List (Nat × Document)

/-- What a part of a document stands for. -/
structure Resolved (α : Type) where
  value : α
  /-- The anchors up to the end of the part. -/
  anchors : Anchors
  /-- The documents of the anchors in the part, in order. -/
  targets : Targets

namespace Resolved

/-- A node that begins after some anchors, and may have one itself. -/
def anchored (r : Resolved Document) (before : Anchors) (name : Option (List Char)) :
    Resolved Document :=
  if name.isSome then { r with targets := (before.names, r.value) :: r.targets } else r

def append {α β γ : Type} (r : Resolved α) (later : Resolved β) (f : α → β → γ) : Resolved γ :=
  ⟨f r.value later.value, later.anchors, r.targets ++ later.targets⟩

def map {α β : Type} (r : Resolved α) (f : α → β) : Resolved β := ⟨f r.value, r.anchors, r.targets⟩

end Resolved

mutual

/-- What a node stands for if references stand for documents that are known; of those with one
number the first is meant. A reference without a document stands for no value that could be used. -/
def resolve (handles : List (List Char × List Char)) (known : Targets) (anchors : Anchors) :
    Node → Option (Resolved Document)
  | .reference name =>
    (anchors.numbers.lookup name).map fun n =>
      ⟨(known.lookup n).getD (.text none), anchors, []⟩
  | .scalar p style cs =>
    match p.tag.map (fullTag? handles) with
    | some none => none
    | tag =>
      let d := ofScalar tag.join style cs
      some ((Resolved.mk d (anchors.add p.anchor) []).anchored anchors p.anchor)
  | .list p items =>
    match p.tag.map (fullTag? handles) with
    | some none => none
    | _ =>
      (resolveItems handles known (anchors.add p.anchor) items).map fun r =>
        (r.map .list).anchored anchors p.anchor
  | .record p entries =>
    match p.tag.map (fullTag? handles) with
    | some none => none
    | _ =>
      (resolveEntries handles known (anchors.add p.anchor) entries).map fun r =>
        (r.map .record).anchored anchors p.anchor

def resolveItems (handles : List (List Char × List Char)) (known : Targets) (anchors : Anchors) :
    List Node → Option (Resolved (List Document))
  | [] => some ⟨[], anchors, []⟩
  | item :: rest =>
    match resolve handles known anchors item with
    | none => none
    | some r => (resolveItems handles known r.anchors rest).map (r.append · List.cons)

def resolveEntries (handles : List (List Char × List Char)) (known : Targets) (anchors : Anchors) :
    List (Node × Node) → Option (Resolved (List (Option String × Document)))
  | [] => some ⟨[], anchors, []⟩
  | (name, value) :: rest =>
    match resolve handles known anchors name with
    | none => none
    | some n =>
      match resolve handles known n.anchors value with
      | none => none
      | some v =>
        (resolveEntries handles known v.anchors rest).map
          ((n.append v fun name d => (nameOf? name, d)).append · List.cons)

end

/-- What a node stands for if references are followed to some depth, with the documents that its
anchors have then. -/
def follow (handles : List (List Char × List Char)) (root : Node) :
    (depth : Nat) → Option (Resolved Document)
  | 0 => resolve handles [] .empty root
  | depth + 1 =>
    match follow handles root depth with
    | none => none
    | some r => resolve handles r.targets.reverse .empty root

/-- How many references may lie on the way into a document: to a section, and to a value in it. -/
def referenceDepth : Nat := 2

def ofContent (c : Content) : Option Document :=
  match c.root with
  | none => some .blank
  | some root => (follow c.handles root referenceDepth).map Resolved.value

def read? (s : String) : Option Document :=
  let cs := unifyBreaks s.toList
  if s.toList.all isPrintable then
    ((tokens (cs.length + 1) .start cs).bind content?).bind ofContent
  else none

end SpiWifi.Document.Yaml
