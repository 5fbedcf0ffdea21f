import SpiWifi.Cli.Error
import SpiWifi.Cli.Outcome
import SpiWifi.Device.Line
import SpiWifi.Device.Surroundings
import SpiWifi.Settings.Basic
import SpiWifi.Socket.Stream
import SpiWifi.Station.Operations
import SpiWifi.Text.Blank

/-!
# The demonstration

A scripted session against the emulated device: scan, join, connect to an echoing host, send a
message and read it back. The first fault ends it; what was said before stays said.
-/

namespace SpiWifi.Cli

structure Session where
  host : Host Device.Line
  stream : Stream
  /-- Lines said, the latest first. -/
  said : List String

abbrev SessionM (α : Type) := ExceptT CliError (StateM Session) α

namespace Session

def say (line : String) : SessionM Unit := fun s => (.ok (), { s with said := line :: s.said })

def plain {α : Type} (x : StateM (Host Device.Line) α) : SessionM α := fun s =>
  let (a, host) := x s.host
  (.ok a, { s with host := host })

def net {α : Type} (x : HostM Device.Line α) : SessionM α := fun s =>
  match x s.host with
  | (.ok a, host) => (.ok a, { s with host := host })
  | (.error e, host) => (.error (.net e), { s with host := host })

/-- An operation on the connection, whose faults are made into ones of the program. -/
def onStream {α ε : Type} (wrap : ε → CliError) (x : StreamM Device.Line ε α) : SessionM α :=
  fun s =>
    match x (s.stream, s.host) with
    | (.ok a, stream, host) => (.ok a, { s with stream := stream, host := host })
    | (.error e, stream, host) => (.error (wrap e), { s with stream := stream, host := host })

def peer : SessionM (Option Endpoint) := fun s =>
  let (e, stream, host) := Stream.remote (s.stream, s.host)
  (.ok e, { s with stream := stream, host := host })

def networkLine (e : ScanEntry) : String :=
  "  " ++ Text.padRight 16 e.ssid ++ " " ++ Text.padLeft 4 (toString e.rssi.toInt) ++ " dBm  ch "
    ++ Text.padRight 2 (toString e.channel.toNat) ++ " " ++ e.encryption.label

def sayNetworks : List ScanEntry → SessionM Unit
  | [] => return ()
  | e :: rest => do
    say (networkLine e)
    sayNetworks rest

def addressText : Option Ipv4 → String
  | some ip => "Some(" ++ ip.toText ++ ")"
  | none => "None"

def join (ssid : String) : Option String → SessionM StationStatus
  | some passphrase => net (Host.joinWithPassphrase ssid passphrase)
  | none => net (Host.join ssid)

def online (ssid : String) (passphrase : Option String) : SessionM Unit := do
  let version ← net Host.firmwareVersion
  say ("Firmware " ++ version)
  let found ← plain Host.scanNetworks
  say ("Scan " ++ toString found ++ " networks")
  let entries ← net Host.scanEntries
  sayNetworks entries
  let status ← join ssid passphrase
  say ("Join " ++ ssid ++ " -> " ++ status.label)
  let ip ← net Host.localIp
  let mac ← net Host.macAddress
  say ("  ip " ++ ip.toText ++ "  mac " ++ formatMac mac)

/-- Sends a message to the echoing host and reads it back. -/
def echo (message : String) : SessionM Unit := do
  onStream .net (Stream.connectHost "echo.local" 7)
  let remote ← peer
  say ("Connected socket " ++ toString (← get).stream.socket.raw.toNat ++ " to "
    ++ addressText (remote.map Endpoint.ip))
  let bytes := Text.Utf8.encode message
  onStream .stream (Stream.sendAll bytes)
  let echoed ← onStream .stream (Stream.receiveExact bytes.length)
  say ("Echo " ++ Text.Utf8.decodeLossy echoed)
  onStream .net Stream.stop

def sayTotals : SessionM Unit := do
  let device := (← get).host.link.transport.state
  say ("Done " ++ toString device.received.length ++ " commands, " ++ toString device.resets
    ++ " resets")

/-- The device of the demonstration: the network to join, another one, and an echoing host. -/
def device (ssid : String) (passphrase : Option String) : Device.State :=
  let network :=
    match passphrase with
    | some secret => Device.AccessPoint.secured ssid secret
    | none => Device.AccessPoint.unprotected ssid
  let neighbour := Device.AccessPoint.unprotected "neighbour"
  { (((Device.State.initial.addNetwork { network with rssi := -48 }).addNetwork
      { neighbour with rssi := -80, channel := 11 }).addHost "echo.local" ⟨192, 168, 1, 10⟩)
    with echo := true }

def start (settings : Settings) (ssid : String) (passphrase : Option String) : Session where
  host :=
    .new (.new { Device.Line.new with state := device ssid passphrase } .instant)
      (settings.sockets.withInterval 10) (settings.station.withInterval 10)
  stream := .idle
  said := []

end Session

def demo (settings : Settings) (ssid : String) (passphrase : Option String) (message : String) :
    Outcome :=
  let session : SessionM Unit := do
    Session.online ssid passphrase
    Session.echo message
    Session.sayTotals
  match session (Session.start settings ssid passphrase) with
  | (.ok _, s) => .done (unlines s.said.reverse) ""
  | (.error e, s) => .failed (unlines s.said.reverse) e.message

end SpiWifi.Cli
