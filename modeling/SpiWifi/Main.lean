import SpiWifi.Cli.Run

/-!
# The command line

Reads the arguments, the environment and the settings file, runs the program, and writes what it
leaves.
-/

namespace SpiWifi.Main

def fileFault : IO.Error → FileFault
  | .noFileOrDirectory _ _ _ => .missing
  | .inappropriateType _ 20 _ => .notDirectory
  | .inappropriateType _ 21 _ => .directory
  | .invalidArgument _ 36 _ => .nameTooLong
  | e => .other (toString e)

def readFile (path : String) : IO (Except FileFault String) := do
  try
    match String.fromUTF8? (← IO.FS.readBinFile path) with
    | some text => return .ok text
    | none => return .error .notText
  catch e => return .error (fileFault e)

/-- The variables that the settings look at, as they are set. -/
def environment : List String → IO (List (String × String))
  | [] => return []
  | name :: rest => do
    let others ← environment rest
    match ← IO.getEnv name with
    | some value => return (name, value) :: others
    | none => return others

def variableNames : List String :=
  Settings.fileVariable :: LinkSettings.fields.filterMap Field.envName
    ++ SocketSettings.fields.filterMap Field.envName
    ++ StationSettings.fields.filterMap Field.envName

end SpiWifi.Main

open SpiWifi SpiWifi.Main in
def main (arguments : List String) : IO UInt32 := do
  let values ← environment variableNames
  let env : Environment := fun name => values.lookup name
  let content ←
    match env Settings.fileVariable with
    | some path => readFile path
    | none => pure (.error .missing)
  let outcome := Cli.run env (fun _ => content) arguments
  IO.print outcome.stdout
  IO.eprint outcome.stderr
  return outcome.exit.toUInt32
