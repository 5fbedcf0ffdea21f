import SpiWifi.Link.Error
import SpiWifi.Socket.Handle

/-!
# Faults of the host operations

Why a socket or station operation failed: the link, the device's answer, or a polling budget that
ran out.
-/

namespace SpiWifi

inductive NetError where
  | link (e : LinkError)
  | noSocketAvailable
  | invalidSocket
  | emptyPayload
  | rejected (c : Command)
  | noReply (c : Command)
  | connectTimeout (socket : SocketHandle) (attempts : UInt32)
  | sendRejected (socket : SocketHandle)
  | sendUnconfirmed (socket : SocketHandle) (attempts : UInt32)
  | closeTimeout (socket : SocketHandle) (attempts : UInt32)
  | hostNotFound (host : String)
  deriving DecidableEq

namespace NetError

def polls (attempts : UInt32) : String := " after " ++ toString attempts.toNat ++ " polls"

def message : NetError → String
  | link e => "link error: " ++ e.message
  | noSocketAvailable => "no socket available"
  | invalidSocket => "invalid socket handle"
  | emptyPayload => "empty payload"
  | rejected c => "device rejected " ++ c.toText
  | noReply c => "no reply to " ++ c.toText
  | connectTimeout socket attempts => socket.toText ++ " not connected" ++ polls attempts
  | sendRejected socket => socket.toText ++ ": device accepted no bytes"
  | sendUnconfirmed socket attempts => socket.toText ++ ": delivery not confirmed" ++ polls attempts
  | closeTimeout socket attempts => socket.toText ++ " not closed" ++ polls attempts
  | hostNotFound host => "host not found: " ++ host

/-- Whether the same operation may succeed when it is made again. -/
def isRetryable : NetError → Bool
  | link e => e.isRetryable
  | noSocketAvailable | noReply _ | connectTimeout _ _ | sendUnconfirmed _ _
  | closeTimeout _ _ => true
  | _ => false

end NetError

end SpiWifi
