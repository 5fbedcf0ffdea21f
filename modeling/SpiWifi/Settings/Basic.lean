import SpiWifi.Link.Settings
import SpiWifi.Settings.Field
import SpiWifi.Socket.Settings
import SpiWifi.Station.Settings

/-!
# Settings

All settings together: the link, the sockets and the station. Each part has a table of fields, in the
order in which they are written. A document may leave out parts and fields, which then keep their
standard values.
-/

namespace SpiWifi

def ownVariable (name : String) : Option String := some ("NINALINK_" ++ name)

namespace LinkSettings

def fields : List (Field LinkSettings) :=
  [ .optionalWord "ready_timeout_ms" (ownVariable "READY_TIMEOUT_MS")
      readyTimeout fun v s => { s with readyTimeout := v },
    .word "select_wait_ms" (ownVariable "SELECT_WAIT_MS")
      selectWait fun v s => { s with selectWait := v },
    .word "reset_pulse_ms" (ownVariable "RESET_PULSE_MS")
      resetPulse fun v s => { s with resetPulse := v },
    .word "boot_delay_ms" (ownVariable "BOOT_DELAY_MS")
      bootDelay fun v s => { s with bootDelay := v },
    .word "start_marker_budget" none startBudget fun v s => { s with startBudget := v },
    .word "max_frame_size" none maxFrameSize fun v s => { s with maxFrameSize := v } ]

end LinkSettings

namespace SocketSettings

def fields : List (Field SocketSettings) :=
  [ .word "buffer_size" (ownVariable "BUFFER_SIZE")
      bufferSize fun v s => { s with bufferSize := v },
    .half "connect_attempts" (ownVariable "CONNECT_ATTEMPTS")
      connectAttempts fun v s => { s with connectAttempts := v },
    .word "connect_interval_ms" (ownVariable "CONNECT_INTERVAL_MS")
      connectInterval fun v s => { s with connectInterval := v },
    .half "send_confirm_attempts" none
      confirmAttempts fun v s => { s with confirmAttempts := v },
    .word "send_confirm_interval_ms" none
      confirmInterval fun v s => { s with confirmInterval := v },
    .half "stop_attempts" (ownVariable "STOP_ATTEMPTS")
      stopAttempts fun v s => { s with stopAttempts := v },
    .word "stop_interval_ms" none stopInterval fun v s => { s with stopInterval := v } ]

end SocketSettings

namespace StationSettings

def fields : List (Field StationSettings) :=
  [ .half "scan_attempts" (ownVariable "SCAN_ATTEMPTS")
      scanAttempts fun v s => { s with scanAttempts := v },
    .word "scan_interval_ms" (ownVariable "SCAN_INTERVAL_MS")
      scanInterval fun v s => { s with scanInterval := v },
    .half "join_attempts" (ownVariable "JOIN_ATTEMPTS")
      joinAttempts fun v s => { s with joinAttempts := v },
    .word "join_interval_ms" (ownVariable "JOIN_INTERVAL_MS")
      joinInterval fun v s => { s with joinInterval := v } ]

end StationSettings

structure Settings where
  link : LinkSettings
  sockets : SocketSettings
  station : StationSettings
  deriving DecidableEq

namespace Settings

def standard : Settings := ⟨.standard, .standard, .standard⟩

instance : Inhabited Settings := ⟨standard⟩

/-- Reads one part from a document, starting at its standard values. -/
def readPart {σ : Type} (positional : Bool) (fields : List (Field σ)) (start : σ)
    (d : Document) : Option σ :=
  Document.Setter.read positional (fields.map Field.setter) start d

def readLink (positional : Bool) : Document → Option LinkSettings :=
  readPart positional LinkSettings.fields .standard

def readSockets (positional : Bool) : Document → Option SocketSettings :=
  readPart positional SocketSettings.fields .standard

def readStation (positional : Bool) : Document → Option StationSettings :=
  readPart positional StationSettings.fields .standard

def setters (positional : Bool) : List (Document.Setter Settings) :=
  [ ⟨"link", fun d s => (readLink positional d).map fun v => { s with link := v }⟩,
    ⟨"sockets", fun d s => (readSockets positional d).map fun v => { s with sockets := v }⟩,
    ⟨"wifi", fun d s => (readStation positional d).map fun v => { s with station := v }⟩ ]

def read (positional : Bool) (d : Document) : Option Settings :=
  Document.Setter.read positional (setters positional) standard d

def sections (s : Settings) : Document.Sections :=
  [ ("link", LinkSettings.fields.map fun f => f.entry s.link),
    ("sockets", SocketSettings.fields.map fun f => f.entry s.sockets),
    ("wifi", StationSettings.fields.map fun f => f.entry s.station) ]

def override (env : Environment) (s : Settings) : Settings where
  link := Field.overrideAll LinkSettings.fields env s.link
  sockets := Field.overrideAll SocketSettings.fields env s.sockets
  station := Field.overrideAll StationSettings.fields env s.station

/-- What is wrong with the settings, if anything is: the link's fault before the sockets', and
theirs before the station's. -/
def fault? (s : Settings) : Option String :=
  match s.link.validate with
  | .error e => some e.message
  | .ok _ => s.sockets.fault? <|> s.station.fault?

end Settings

end SpiWifi
