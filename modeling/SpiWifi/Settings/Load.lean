import SpiWifi.Document.Json
import SpiWifi.Document.Yaml.Reading
import SpiWifi.Settings.Basic
import SpiWifi.Text.Quoted

/-!
# Loading settings

Settings come from three places, later ones first: the environment, a file that the environment names,
and the standard values. Only what results from all of them is checked.
-/

namespace SpiWifi

inductive FileFault where
  | missing
  | directory
  /-- What should be a directory on the way to the file is none. -/
  | notDirectory
  | nameTooLong
  /-- The bytes are no UTF-8. -/
  | notText
  | other (reason : String)
  deriving DecidableEq

namespace FileFault

def message : FileFault → String
  | missing => "No such file or directory (os error 2)"
  | directory => "Is a directory (os error 21)"
  | notDirectory => "Not a directory (os error 20)"
  | nameTooLong => "File name too long (os error 36)"
  | notText => "stream did not contain valid UTF-8"
  | other reason => reason

end FileFault

inductive SettingsError where
  | unreadable (path : String) (fault : FileFault)
  | malformed (path : String)
  | invalid (fault : String)
  deriving DecidableEq

namespace SettingsError

def message : SettingsError → String
  | unreadable path fault => "cannot read " ++ Text.Quoted.text path ++ ": " ++ fault.message
  | malformed path => "bad YAML in " ++ Text.Quoted.text path
  | invalid fault => "invalid configuration: " ++ fault

end SettingsError

abbrev FileReader := String → Except FileFault String

namespace Settings

def fileVariable : String := "NINALINK_CONFIG"

def ofYaml? (text : String) : Option Settings := (Document.Yaml.read? text).bind (read false)

def toYaml (s : Settings) : String := Document.Yaml.write s.sections

def countDocument : Option Nat → Document
  | some n => .number n
  | none => .null

def toDocument (s : Settings) : Document :=
  .record (s.sections.map fun (name, entries) =>
    (some name, .record (entries.map fun (name, count) => (some name, countDocument count))))

def toJson (s : Settings) : String := Document.Json.write s.toDocument

def ofFile (files : FileReader) (path : String) : Except SettingsError Settings :=
  match files path with
  | .error fault => .error (.unreadable path fault)
  | .ok text =>
    match ofYaml? text with
    | none => .error (.malformed path)
    | some s => .ok s

def validate (s : Settings) : Except SettingsError Settings :=
  match s.fault? with
  | some fault => .error (.invalid fault)
  | none => .ok s

def load (env : Environment) (files : FileReader) : Except SettingsError Settings := do
  let s ←
    match env fileVariable with
    | some path => ofFile files path
    | none => pure standard
  validate (s.override env)

end Settings

end SpiWifi
