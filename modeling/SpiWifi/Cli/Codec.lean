import SpiWifi.Cli.Outcome
import SpiWifi.Cli.Parameter
import SpiWifi.Document.Json
import SpiWifi.Wire.Reader

/-!
# Encoding and decoding by hand

The subcommands that write a frame from arguments and take one apart. The frame goes to the standard
output, so that what one writes the other can read; remarks go to the standard error.
-/

namespace SpiWifi.Cli

def emptyFrame (reply : Bool) (c : Command) : Frame :=
  if reply then Frame.reply c else Frame.command c

def frameOf (name : String) (params : List String) (reply : Bool) : Except CliError Frame := do
  let c ← commandOf name
  params.foldlM (fun f p => (parameterBytes p).map f.withParam) (emptyFrame reply c)

/-- The frame that arguments describe, with its bytes. -/
def encodeFrame (name : String) (params : List String) (reply : Bool) :
    Except CliError (Frame × Bytes) := do
  let f ← frameOf name params reply
  match f.encode with
  | .ok bytes => return (f, bytes)
  | .error e => throw (.protocol e)

def decodeFrame (text : String) (reply : Bool) : Except CliError Frame := do
  let bytes ← hexBytes text
  match if reply then Frame.decodeReply bytes else Frame.decodeCommand bytes with
  | .ok f => return f
  | .error e => throw (.protocol e)

def encodeRemark (f : Frame) (size : Nat) (reply : Bool) : String :=
  (if reply then "Reply " else "Command ") ++ ((f.command?.map Command.toText).getD "")
    ++ " (" ++ toString f.params.length ++ " params, " ++ toString size ++ " bytes)"

/-- Writes a frame as a line of hexadecimal text. -/
def encode (name : String) (params : List String) (reply : Bool) : Outcome :=
  match encodeFrame name params reply with
  | .error e => .failed "" e.message
  | .ok (f, bytes) =>
    .done (unlines [Text.Hex.encode bytes]) (unlines [encodeRemark f bytes.length reply])

def frameName (f : Frame) : String := (f.command?.map Command.name).getD "UNKNOWN"

def paramLine (index : Nat) (p : Bytes) : String :=
  "  #" ++ toString index ++ " [" ++ toString p.length ++ "] " ++ Text.Hex.encode p

def frameLines (f : Frame) : List String :=
  ((if f.isReply then "reply " else "command ") ++ frameName f ++ " " ++ Text.Hex.literal f.opcode
      ++ " (" ++ f.width.name ++ ", " ++ toString f.params.length ++ " params)")
    :: f.params.mapIdx paramLine
    ++ (if f.command?.isNone then ["unknown opcode, lengths read as narrow"] else [])

/-- A frame as a document, its entries sorted by name. -/
def frameDocument (f : Frame) : Document :=
  .record
    [ (some "command", .text (some (frameName f))),
      (some "opcode", .number f.opcode.toNat),
      (some "params", .list (f.params.map fun p => .text (some (Text.Hex.encode p)))),
      (some "reply", .flag f.isReply),
      (some "width", .text (some f.width.name)) ]

def decode (text : String) (reply json : Bool) : Outcome :=
  match decodeFrame text reply with
  | .error e => .failed "" e.message
  | .ok f =>
    if json then .done (unlines [Document.Json.write (frameDocument f)]) ""
    else .done (unlines (frameLines f)) ""

end SpiWifi.Cli
