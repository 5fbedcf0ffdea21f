/-!
# Station settings

How often scans and joins ask the device before they give up, and how long they pause.
-/

namespace SpiWifi

/-- Polling budgets of scans and joins. Pauses are in milliseconds. -/
structure StationSettings where
  scanAttempts : UInt32
  scanInterval : UInt64
  joinAttempts : UInt32
  joinInterval : UInt64
  deriving DecidableEq

namespace StationSettings

def standard : StationSettings where
  scanAttempts := 10
  scanInterval := 2000
  joinAttempts := 10
  joinInterval := 5000

instance : Inhabited StationSettings := ⟨standard⟩

def withInterval (s : StationSettings) (ms : UInt64) : StationSettings :=
  { s with scanInterval := ms, joinInterval := ms }

def fault? (s : StationSettings) : Option String :=
  if s.scanAttempts = 0 ∨ s.joinAttempts = 0 then
    some "scan and join budgets must allow at least one attempt"
  else none

end StationSettings

end SpiWifi
