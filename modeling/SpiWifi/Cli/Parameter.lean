import SpiWifi.Cli.Error
import SpiWifi.Text.Utf8
import SpiWifi.Wire.Frame

/-!
# Commands and parameters as arguments

A command is given by its name or its opcode. A parameter is given as hexadecimal bytes, or by its
kind and a value, with a colon between them.
-/

namespace SpiWifi.Cli

/-- The characters without every mark `0x` in front. -/
def dropMarks : List Char → List Char
  | '0' :: 'x' :: rest => dropMarks rest
  | cs => cs

/-- The bytes that a text spells in hexadecimal. White space may stand anywhere after the marks in
front of the digits. -/
def hexBytes (text : String) : Except CliError Bytes :=
  let digits := (dropMarks text.toList).filter fun c => !Text.isBlank c
  match Text.Hex.decode (Text.Utf8.encode (String.ofList digits)) with
  | .ok bytes => .ok bytes
  | .error fault => .error (.badHex text fault)

/-- The command with an opcode written after the mark `0x`. -/
def commandOfOpcode (name : String) (digits : List Char) : Except CliError Command :=
  match Text.Numeral.read 16 Text.Numeral.maxU8 digits with
  | .error fault => .error (.badOpcode name fault)
  | .ok n =>
    match Command.ofOpcode? (UInt8.ofNat n) with
    | some c => .ok c
    | none => .error (.unknownOpcode name)

def commandOf (name : String) : Except CliError Command :=
  match name.toList with
  | '0' :: 'x' :: digits => commandOfOpcode name digits
  | '0' :: 'X' :: digits => commandOfOpcode name digits
  | _ =>
    match Command.ofName? name with
    | some c => .ok c
    | none => .error (.unknownCommand name)

def splitColon (cs : List Char) : Option (List Char × List Char) :=
  match cs.dropWhile (· != ':') with
  | [] => none
  | _ :: value => some (cs.takeWhile (· != ':'), value)

/-- A decimal number as the bytes that `write` makes of it. -/
def numberBytes (argument : String) (limit : Nat) (write : Nat → Bytes) (value : List Char) :
    Except CliError Bytes :=
  match Text.Numeral.read 10 limit value with
  | .ok n => .ok (write n)
  | .error fault => .error (.badNumber argument fault)

def addressBytes (argument : String) (value : List Char) : Except CliError Bytes :=
  match Ipv4.ofText? (String.ofList value) with
  | some ip => .ok ip.octets
  | none => .error (.badAddress argument)

def kindBytes (argument kind : String) (value : List Char) : Except CliError Bytes :=
  if kind = "u8" then
    numberBytes argument Text.Numeral.maxU8 (fun n => [UInt8.ofNat n]) value
  else if kind = "u16" then
    numberBytes argument Text.Numeral.maxU16 (fun n => Bytes.ofU16BE (UInt16.ofNat n)) value
  else if kind = "u32" then
    numberBytes argument Text.Numeral.maxU32 (fun n => Bytes.ofU32BE (UInt32.ofNat n)) value
  else if kind = "ip" then addressBytes argument value
  else if kind = "str" then .ok (Text.Utf8.encode (String.ofList value))
  else .error (.unknownKind kind)

/-- The bytes that an argument gives for a parameter. -/
def parameterBytes (argument : String) : Except CliError Bytes :=
  match splitColon argument.toList with
  | none => hexBytes argument
  | some (kind, value) => kindBytes argument (String.ofList kind) value

end SpiWifi.Cli
