import SpiWifi.Text.Duration
import SpiWifi.Wire.Error

/-!
# Faults of the link

Why a transaction failed: the frame format, a device that stayed busy, or settings that no link can
work with. A wait without a limit on a busy line that never falls has no end; `neverReady` stands
for it.
-/

namespace SpiWifi

inductive LinkError where
  | protocol (e : ProtocolError)
  | deviceNotReady (millis : UInt64)
  | invalidSettings (reason : String)
  | neverReady
  deriving DecidableEq

namespace LinkError

def message : LinkError → String
  | protocol e => "protocol error: " ++ e.message
  | deviceNotReady millis => "device not ready after " ++ Text.Duration.ofMillis millis.toNat
  | invalidSettings reason => "invalid link configuration: " ++ reason
  | neverReady => "device never became ready"

/-- Whether the same request may succeed when it is made again. -/
def isRetryable : LinkError → Bool
  | protocol e => e.isRetryable
  | deviceNotReady _ => true
  | invalidSettings _ => false
  | neverReady => true

end LinkError

end SpiWifi
