/-!
# Socket settings

How often the socket operations ask the device before they give up, how long they pause between two
questions, and the size of the receive cache. Nothing here touches a device.
-/

namespace SpiWifi

/-- Polling budgets and cache size of the sockets. Pauses are in milliseconds. -/
structure SocketSettings where
  /-- Capacity of each socket's receive cache. -/
  bufferSize : UInt64
  connectAttempts : UInt32
  connectInterval : UInt64
  confirmAttempts : UInt32
  confirmInterval : UInt64
  stopAttempts : UInt32
  stopInterval : UInt64
  deriving DecidableEq

namespace SocketSettings

def standard : SocketSettings where
  bufferSize := 255
  connectAttempts := 50
  connectInterval := 100
  confirmAttempts := 25
  confirmInterval := 100
  stopAttempts := 50
  stopInterval := 100

instance : Inhabited SocketSettings := ⟨standard⟩

def withInterval (s : SocketSettings) (ms : UInt64) : SocketSettings :=
  { s with connectInterval := ms, confirmInterval := ms, stopInterval := ms }

def fault? (s : SocketSettings) : Option String :=
  if s.bufferSize < 2 ∨ s.bufferSize > 255 then
    some "buffer_size must be between 2 and 255"
  else if s.connectAttempts = 0 ∨ s.stopAttempts = 0 then
    some "polling budgets must allow at least one attempt"
  else none

end SocketSettings

end SpiWifi
