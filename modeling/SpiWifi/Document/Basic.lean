/-!
# Documents

The tree that a structured text spells: scalars, lists, and records whose entries keep the order in
which they were written. A record is read into a value by setters, one for each name that matters;
other names are passed over, a name that matters may come once, and what is not set keeps its value.
-/

namespace SpiWifi

inductive Document where
  /-- Nothing, where a value could have been written. -/
  | blank
  | null
  | flag (value : Bool)
  /-- A number without sign, fraction or exponent. -/
  | number (value : Nat)
  /-- Any other scalar that is not quoted, as it was written. -/
  | literal (raw : String)
  /-- A quoted text; `none` if its escapes spell no text. -/
  | text (value : Option String)
  /-- A scalar that is not quoted, under a tag. -/
  | tagged (tag : String) (scalar : Document)
  | list (items : List Document)
  /-- Named entries. What is no text as a name, or whose escapes spell none, is `none`. -/
  | record (entries : List (Option String × Document))

namespace Document

instance : Inhabited Document := ⟨blank⟩

def nullTag : String := "tag:yaml.org,2002:null"

/-- How the entry of one name changes a value. -/
structure Setter (σ : Type) where
  name : String
  apply : Document → σ → Option σ

namespace Setter

variable {σ : Type}

/-- Applies the entries of a record in order, those of the `seen` names having come already. -/
def entries (setters : List (Setter σ)) :
    List String → List (Option String × Document) → σ → Option σ
  | _, [], s => some s
  | _, (none, _) :: _, _ => none
  | seen, (some name, value) :: rest, s =>
    match setters.find? fun f => f.name == name with
    | none => entries setters seen rest s
    | some f =>
      if name ∈ seen then none
      else
        match f.apply value s with
        | none => none
        | some s => entries setters (name :: seen) rest s

/-- Applies values to the setters in order. There may be fewer values than setters. -/
def items : List (Setter σ) → List Document → σ → Option σ
  | _, [], s => some s
  | [], _ :: _, _ => none
  | f :: setters, value :: rest, s =>
    match f.apply value s with
    | none => none
    | some s => items setters rest s

/-- Reads a record. Nothing written, with or without a tag, stands for a record without entries; a
list of values stands for one only if its kind of document is `positional`. -/
def read (positional : Bool) (setters : List (Setter σ)) (start : σ) : Document → Option σ
  | .blank | .tagged _ .blank => some start
  | .record es => entries setters [] es start
  | .list vs => if positional then items setters vs start else none
  | _ => none

end Setter

/-- The constant that a document names: its name as a text, or as the only entry of a record with
no value beside it. -/
def constant? : Document → Option String
  | .text name => name
  | .record [(name, .null)] => name
  | _ => none

end Document

end SpiWifi
