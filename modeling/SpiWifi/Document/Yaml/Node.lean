import SpiWifi.Document.Yaml.Token

/-!
# Nodes of YAML

The tree of nodes that YAML tokens spell: scalars, lists, records whose names may be any nodes, and
references. Names, values and items may be absent. A list that is a name or a value of a block entry
need not be further right than the entry, so it has no tokens around it.
-/

namespace SpiWifi.Document.Yaml

/-- What a node carries beside its content. -/
structure Properties where
  anchor : Option (List Char)
  tag : Option Tag

inductive Node where
  /-- The node with an anchor of this name. -/
  | reference (name : List Char)
  | scalar (properties : Properties) (style : Style) (text : List Char)
  | list (properties : Properties) (items : List Node)
  | record (properties : Properties) (entries : List (Node × Node))

def Node.absent : Node := .scalar ⟨none, none⟩ .plain []

/-- The properties in front of a node, in either order. -/
def properties : List Token → Properties × List Token
  | .anchor name :: .tag t :: rest => (⟨some name, some t⟩, rest)
  | .tag t :: .anchor name :: rest => (⟨some name, some t⟩, rest)
  | .anchor name :: rest => (⟨some name, none⟩, rest)
  | .tag t :: rest => (⟨none, some t⟩, rest)
  | ts => (⟨none, none⟩, ts)

/-- Whether no name, value or item stands before a token inside brackets. -/
def endsFlowPart : Token → Bool
  | .colon | .comma | .closeRecord | .closeList => true
  | _ => false

/-- Whether no name or value stands before a token in a block record. -/
def endsBlockPart : Token → Bool
  | .key | .colon | .blockEnd => true
  | _ => false

mutual

/-- A node, and the tokens after it. It may be a list without tokens around it if it is part of a
block entry. Properties alone make an empty scalar. -/
def node (bare : Bool) : Nat → List Token → Option (Node × List Token)
  | 0, _ => none
  | _ + 1, .reference name :: rest => some (.reference name, rest)
  | fuel + 1, ts =>
    let (p, ts) := properties ts
    let alone : Option (Node × List Token) :=
      if p.anchor.isSome || p.tag.isSome then some (.scalar p .plain [], ts) else none
    match ts with
    | .scalar style cs :: rest => some (.scalar p style cs, rest)
    | .openList :: rest => (flowItems true fuel rest).map fun (vs, rest) => (.list p vs, rest)
    | .openRecord :: rest =>
      (flowEntries true fuel rest).map fun (es, rest) => (.record p es, rest)
    | .blockRecord :: rest => (blockEntries fuel rest).map fun (es, rest) => (.record p es, rest)
    | .blockList :: rest =>
      match blockItems fuel rest with
      | some (vs, .blockEnd :: rest) => some (.list p vs, rest)
      | _ => none
    | .dash :: _ =>
      if bare then (blockItems fuel ts).map fun (vs, rest) => (.list p vs, rest) else alone
    | _ => alone

/-- A name, a value or an item inside brackets, which may be absent. -/
def flowPart : Nat → List Token → Option (Node × List Token)
  | 0, _ => none
  | fuel + 1, ts =>
    if ts.head?.any endsFlowPart then some (.absent, ts) else node false fuel ts

/-- A value after its colon inside brackets; colon and value may be absent. -/
def flowValue : Nat → List Token → Option (Node × List Token)
  | fuel + 1, .colon :: rest => flowPart fuel rest
  | _ + 1, ts => some (.absent, ts)
  | 0, _ => none

/-- An item of a bracketed list. One with a name is a record of one entry. An absent name takes the
token after it along. -/
def flowItem : Nat → List Token → Option (Node × List Token)
  | fuel + 1, .key :: t :: rest =>
    let name :=
      match t with
      | .colon | .comma | .closeList => some (.absent, rest)
      | _ => node false fuel (t :: rest)
    match name with
    | some (name, rest) =>
      (flowValue fuel rest).map fun (v, rest) => (.record ⟨none, none⟩ [(name, v)], rest)
    | none => none
  | fuel + 1, ts => node false fuel ts
  | 0, _ => none

/-- The items of a bracketed list up to its end, with a comma before each but the first. -/
def flowItems (first : Bool) : Nat → List Token → Option (List Node × List Token)
  | _ + 1, .closeList :: rest => some ([], rest)
  | fuel + 1, t :: rest =>
    match if first then some (t :: rest) else if t = .comma then some rest else none with
    | some (.closeList :: rest) => some ([], rest)
    | some ts =>
      match flowItem fuel ts with
      | some (v, rest) => (flowItems false fuel rest).map fun (vs, rest) => (v :: vs, rest)
      | none => none
    | none => none
  | _, _ => none

/-- An entry of a bracketed record. A node alone is the name of an absent value. -/
def flowEntry : Nat → List Token → Option ((Node × Node) × List Token)
  | fuel + 1, .key :: rest =>
    match flowPart fuel rest with
    | some (name, rest) => (flowValue fuel rest).map fun (v, rest) => ((name, v), rest)
    | none => none
  | fuel + 1, ts => (node false fuel ts).map fun (name, rest) => ((name, .absent), rest)
  | 0, _ => none

/-- The entries of a bracketed record up to its end, with a comma before each but the first. -/
def flowEntries (first : Bool) : Nat → List Token → Option (List (Node × Node) × List Token)
  | _ + 1, .closeRecord :: rest => some ([], rest)
  | fuel + 1, t :: rest =>
    match if first then some (t :: rest) else if t = .comma then some rest else none with
    | some (.closeRecord :: rest) => some ([], rest)
    | some ts =>
      match flowEntry fuel ts with
      | some (e, rest) => (flowEntries false fuel rest).map fun (es, rest) => (e :: es, rest)
      | none => none
    | none => none
  | _, _ => none

/-- A name, a value or an item of a block collection, which may be absent. -/
def blockPart (bare : Bool) : Nat → List Token → Option (Node × List Token)
  | 0, _ => none
  | fuel + 1, ts =>
    if ts.head?.any endsBlockPart || (!bare && ts.head? == some .dash) then some (.absent, ts)
    else node bare fuel ts

/-- The items of a block list, as far as dashes go. -/
def blockItems : Nat → List Token → Option (List Node × List Token)
  | 0, _ => none
  | fuel + 1, .dash :: rest =>
    match blockPart false fuel rest with
    | some (v, rest) => (blockItems fuel rest).map fun (vs, rest) => (v :: vs, rest)
    | none => none
  | _ + 1, ts => some ([], ts)

/-- A value after its colon in a block record; colon and value may be absent. -/
def blockValue : Nat → List Token → Option (Node × List Token)
  | fuel + 1, .colon :: rest => blockPart true fuel rest
  | _ + 1, ts => some (.absent, ts)
  | 0, _ => none

def blockEntries : Nat → List Token → Option (List (Node × Node) × List Token)
  | _ + 1, .blockEnd :: rest => some ([], rest)
  | fuel + 1, .key :: rest =>
    match blockPart true fuel rest with
    | some (name, rest) =>
      match blockValue fuel rest with
      | some (v, rest) =>
        (blockEntries fuel rest).map fun (es, rest) => ((name, v) :: es, rest)
      | none => none
    | none => none
  | _, _ => none

end

/-- The directives in front of a document: those of handles, each handle once. -/
def directives : List Token → Option (List (List Char × List Char) × List Token)
  | .directive d :: rest =>
    match d, directives rest with
    | .handle name meaning, some (handles, rest) =>
      if handles.any fun h => h.1 == name then none else some ((name, meaning) :: handles, rest)
    | .version, some (handles, rest) => some (handles, rest)
    | _, none => none
  | ts => some ([], ts)

/-- A document: what its handles stand for, and its node if it has one. -/
structure Content where
  handles : List (List Char × List Char)
  root : Option Node

/-- The node between the markers of a document; it may be absent after a start that is marked. -/
def rootNode : List Token → Option (Node × List Token)
  | [] => some (.absent, [])
  | .documentEnd :: rest => some (.absent, .documentEnd :: rest)
  | ts => node false (4 * ts.length + 4) ts

/-- The content of a document if nothing but marked ends come after it. -/
def complete? (handles : List (List Char × List Char)) :
    Option (Node × List Token) → Option Content
  | some (root, rest) =>
    if rest.all (· == Token.documentEnd) then some ⟨handles, some root⟩ else none
  | none => none

/-- The only document that tokens spell. Directives need a marked start, and say the version at most
once. Without tokens the document has no node. -/
def content? (ts : List Token) : Option Content :=
  match ts with
  | [] => some ⟨[], none⟩
  | .documentEnd :: _ => none
  | .directive _ :: _ | .documentStart :: _ =>
    match directives ts with
    | some (handles, .documentStart :: rest) =>
      if ts.count (.directive .version) ≤ 1 then complete? handles (rootNode rest) else none
    | _ => none
  | ts => complete? [] (rootNode ts)

end SpiWifi.Document.Yaml
