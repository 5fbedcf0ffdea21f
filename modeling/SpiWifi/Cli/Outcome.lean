/-!
# Outcomes

What a run of the program leaves: its exit code and what it wrote.
-/

namespace SpiWifi.Cli

structure Outcome where
  exit : Nat
  stdout : String
  stderr : String
  deriving DecidableEq

namespace Outcome

def done (stdout stderr : String) : Outcome := ⟨0, stdout, stderr⟩

/-- A run that failed after writing some of its output. -/
def failed (stdout reason : String) : Outcome := ⟨1, stdout, "Error: " ++ reason ++ "\n"⟩

/-- A run whose arguments made no sense. -/
def misused (usage : String) : Outcome := ⟨2, "", usage⟩

end Outcome

def unlines (lines : List String) : String := String.join (lines.map fun line => line ++ "\n")

end SpiWifi.Cli
