import SpiWifi.Document.Basic
import SpiWifi.Document.Yaml.Sections
import SpiWifi.Text.Numeral

/-!
# Fields

Every setting is a number with a name and a limit; one may also be absent. A field says how the
setting is read from a document, written into one, and overridden by the environment. All that is
known about the settings by name is in the tables of fields.
-/

namespace SpiWifi

abbrev Environment := String → Option String

structure Field (σ : Type) where
  name : String
  /-- The largest number that the setting takes. -/
  limit : Nat
  /-- Whether the setting may be absent. -/
  optional : Bool
  /-- The environment variable that overrides the setting, if there is one. -/
  envName : Option String
  get : σ → Option Nat
  set : Option Nat → σ → σ

namespace Field

variable {σ : Type}

/-- A setting of 64 bits. -/
def word (name : String) (envName : Option String) (get : σ → UInt64) (set : UInt64 → σ → σ) :
    Field σ where
  name := name
  limit := Text.Numeral.maxU64
  optional := false
  envName := envName
  get s := some (get s).toNat
  set n s := set (UInt64.ofNat (n.getD 0)) s

def optionalWord (name : String) (envName : Option String) (get : σ → Option UInt64)
    (set : Option UInt64 → σ → σ) : Field σ where
  name := name
  limit := Text.Numeral.maxU64
  optional := true
  envName := envName
  get s := (get s).map UInt64.toNat
  set n s := set (n.map UInt64.ofNat) s

/-- A setting of 32 bits. -/
def half (name : String) (envName : Option String) (get : σ → UInt32) (set : UInt32 → σ → σ) :
    Field σ where
  name := name
  limit := Text.Numeral.maxU32
  optional := false
  envName := envName
  get s := some (get s).toNat
  set n s := set (UInt32.ofNat (n.getD 0)) s

def setCount (f : Field σ) (n : Nat) (s : σ) : Option σ :=
  if n ≤ f.limit then some (f.set (some n) s) else none

/-- Sets the setting to what a document holds. Under the tag of absent values an optional setting
takes no number, under any other tag nothing but one. -/
def read (f : Field σ) (d : Document) (s : σ) : Option σ :=
  match d with
  | .number n => f.setCount n s
  | .null | .blank => if f.optional then some (f.set none s) else none
  | .tagged tag (.number n) =>
    if f.optional && tag == Document.nullTag then none else f.setCount n s
  | .tagged tag .null =>
    if f.optional && tag == Document.nullTag then some (f.set none s) else none
  | _ => none

def setter (f : Field σ) : Document.Setter σ := ⟨f.name, f.read⟩

/-- Sets the setting to what a variable's text says. Text that is no number in range changes
nothing, but an optional setting becomes absent by it, and by zero. -/
def readText (f : Field σ) (text : String) (s : σ) : σ :=
  let count := Text.Numeral.decimal? f.limit text
  if f.optional then f.set (count.filter (0 < ·)) s
  else if count.isSome then f.set count s
  else s

/-- Sets the setting to what the environment says, if it says anything. -/
def override (f : Field σ) (env : Environment) (s : σ) : σ :=
  match f.envName.bind env with
  | some text => f.readText text s
  | none => s

def entry (f : Field σ) (s : σ) : String × Option Nat := (f.name, f.get s)

def overrideAll (fields : List (Field σ)) (env : Environment) (s : σ) : σ :=
  fields.foldl (fun s f => f.override env s) s

end Field

end SpiWifi
