/-!
# Sections of numbers

Settings are written as sections: named groups of numbers, some of which may be absent. A section is
its name with a colon, and below it, two columns further right, a line for each number.
-/

namespace SpiWifi.Document

abbrev Sections := List (String × List (String × Option Nat))

namespace Yaml

def writeCount : Option Nat → List Char
  | some n => (toString n).toList
  | none => "null".toList

def writeEntry (name : String) (value : Option Nat) : List Char :=
  ' ' :: ' ' :: name.toList ++ ':' :: ' ' :: writeCount value ++ ['\n']

/-- A section: its name, then its entries further right. -/
def writeSection (name : String) (entries : List (String × Option Nat)) : List Char :=
  name.toList ++ ':' :: '\n' :: entries.flatMap fun (name, value) => writeEntry name value

def write (sections : Sections) : String :=
  String.ofList (sections.flatMap fun (name, entries) => writeSection name entries)

end Yaml

end SpiWifi.Document
