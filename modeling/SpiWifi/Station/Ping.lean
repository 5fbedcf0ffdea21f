/-!
# Ping outcomes

A ping answers with the round trip in milliseconds, or with a negative code.
-/

namespace SpiWifi

inductive PingError where
  | destinationUnreachable
  | timeout
  | unknownHost
  | failed
  deriving DecidableEq

namespace PingError

def message : PingError → String
  | destinationUnreachable => "destination unreachable"
  | timeout => "timed out"
  | unknownHost => "unknown host"
  | failed => "ping failed"

def code : PingError → Int
  | destinationUnreachable => -1
  | timeout => -2
  | unknownHost => -3
  | failed => -4

def ofCode (code : Int) : PingError :=
  if code = -1 then destinationUnreachable
  else if code = -2 then timeout
  else if code = -3 then unknownHost
  else failed

end PingError

end SpiWifi
