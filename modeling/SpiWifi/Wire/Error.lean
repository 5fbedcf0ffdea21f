import SpiWifi.Wire.Command

/-!
# Faults of the frame format

Why a frame cannot be written, or why the bytes that came in are no frame. A fault of the inbound
stream may be gone on the next transaction; a frame that does not fit never will.
-/

namespace SpiWifi

inductive ProtocolError where
  | frameTooLarge (size max : Nat)
  | paramTooLong (index length : Nat) (width : Width)
  | tooManyParams (count : Nat)
  | missingStart (budget : Nat)
  | deviceError
  | unexpectedReply (expected actual : UInt8)
  | missingEnd (actual : UInt8)
  | streamExhausted
  deriving DecidableEq

namespace ProtocolError

def message : ProtocolError → String
  | frameTooLarge size max => s!"frame too large: {size} bytes (max {max})"
  | paramTooLong index length width =>
    s!"parameter {index} too long for {width.name} encoding: {length} bytes"
  | tooManyParams count => s!"too many parameters: {count} (max 255)"
  | missingStart budget => s!"no start marker within {budget} bytes"
  | deviceError => "device answered with an error marker"
  | unexpectedReply expected actual =>
    "unexpected reply opcode: expected " ++ Text.Hex.literal expected ++ ", got "
      ++ Text.Hex.literal actual
  | missingEnd actual => "missing end marker: got " ++ Text.Hex.literal actual
  | streamExhausted => "inbound stream ended mid-frame"

/-- Whether the fault lies in the inbound stream, so that a fresh transaction may clear it. -/
def isRetryable : ProtocolError → Bool
  | missingStart _ | unexpectedReply _ _ | missingEnd _ | streamExhausted => true
  | _ => false

end ProtocolError

end SpiWifi
