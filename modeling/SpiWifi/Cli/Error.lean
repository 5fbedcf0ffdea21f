import SpiWifi.Socket.Stream
import SpiWifi.Text.Hex
import SpiWifi.Text.Numeral

/-!
# Faults of the command line

Why the program could not do what it was asked to do.
-/

namespace SpiWifi

inductive CliError where
  | badOpcode (name : String) (fault : Text.Numeral.Fault)
  | unknownOpcode (name : String)
  | unknownCommand (name : String)
  | badNumber (parameter : String) (fault : Text.Numeral.Fault)
  | badAddress (parameter : String)
  | unknownKind (kind : String)
  | badHex (text : String) (fault : Text.Hex.Fault)
  | protocol (e : ProtocolError)
  | net (e : NetError)
  | stream (e : StreamError)
  deriving DecidableEq

namespace CliError

def named (s : String) : String := "'" ++ s ++ "'"

def message : CliError → String
  | badOpcode name fault => "bad opcode " ++ named name ++ ": " ++ fault.message
  | unknownOpcode name => "unknown opcode " ++ name
  | unknownCommand name => "unknown command " ++ named name
  | badNumber parameter fault => "bad parameter " ++ named parameter ++ ": " ++ fault.message
  | badAddress parameter =>
    "bad parameter " ++ named parameter ++ ": invalid IPv4 address syntax"
  | unknownKind kind => "unknown parameter type " ++ named kind
  | badHex text fault => "bad hex " ++ named text ++ ": " ++ fault.message
  | protocol e => e.message
  | net e => e.message
  | stream e => e.message

end CliError

end SpiWifi
