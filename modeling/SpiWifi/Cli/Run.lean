import SpiWifi.Cli.Arguments
import SpiWifi.Cli.Codec
import SpiWifi.Cli.Demo
import SpiWifi.Settings.Load

/-!
# The program

A run is a function of the arguments, the environment and the files that can be read.
-/

namespace SpiWifi.Cli

def versionText : String := "ninalink 0.1.0\n"

def usage : String :=
  unlines
    [ "Frame tooling for the WiFi co-processor SPI protocol",
      "",
      "Usage: ninalink <COMMAND>",
      "",
      "Commands:",
      "  encode [-r|--reply] <COMMAND> [PARAMS]...",
      "  decode [-r|--reply] [--json] <FRAME>",
      "  demo [--ssid <SSID>] [--passphrase <PASSPHRASE>] [-m|--message <MESSAGE>]",
      "  config [-f|--format <yaml|json>]",
      "  help" ]

/-- The settings in force, or the standard ones if there is anything wrong with them. -/
def settingsInForce (env : Environment) (files : FileReader) : Settings :=
  match Settings.load env files with
  | .ok s => s
  | .error _ => .standard

def showSettings (json : Bool) (s : Settings) : Outcome :=
  .done (if json then unlines [s.toJson] else s.toYaml) ""

def serve (env : Environment) (files : FileReader) : Request → Outcome
  | .encode name params reply => encode name params reply
  | .decode frame reply json => decode frame reply json
  | .demo ssid passphrase message => demo (settingsInForce env files) ssid passphrase message
  | .config json => showSettings json (settingsInForce env files)
  | .version => .done versionText ""
  | .help => .done usage ""
  | .misuse => .misused usage

def run (env : Environment) (files : FileReader) (arguments : List String) : Outcome :=
  serve env files (.ofArguments arguments)

end SpiWifi.Cli
