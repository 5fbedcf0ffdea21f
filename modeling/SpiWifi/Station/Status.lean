/-!
# Station status

What the device reports about its radio link, as a station or as an access point, and how the
networks around it are protected.
-/

namespace SpiWifi

inductive StationStatus where
  | idle
  | noSsidAvail
  | scanCompleted
  | connected
  | connectFailed
  | connectionLost
  | disconnected
  | apListening
  | apConnected
  | apFailed
  | noModule
  deriving DecidableEq, Inhabited

namespace StationStatus

def all : List StationStatus :=
  [idle, noSsidAvail, scanCompleted, connected, connectFailed, connectionLost, disconnected,
    apListening, apConnected, apFailed, noModule]

def raw : StationStatus → UInt8
  | idle => 0
  | noSsidAvail => 1
  | scanCompleted => 2
  | connected => 3
  | connectFailed => 4
  | connectionLost => 5
  | disconnected => 6
  | apListening => 7
  | apConnected => 8
  | apFailed => 9
  | noModule => 255

/-- The status that a byte stands for; a byte without meaning is taken for a missing module. -/
def ofRaw (raw : UInt8) : StationStatus := (all.find? fun s => s.raw == raw).getD noModule

def key : StationStatus → String
  | idle => "IDLE"
  | noSsidAvail => "NO_SSID_AVAIL"
  | scanCompleted => "SCAN_COMPLETED"
  | connected => "CONNECTED"
  | connectFailed => "CONNECT_FAILED"
  | connectionLost => "CONNECTION_LOST"
  | disconnected => "DISCONNECTED"
  | apListening => "AP_LISTENING"
  | apConnected => "AP_CONNECTED"
  | apFailed => "AP_FAILED"
  | noModule => "NO_MODULE"

def label : StationStatus → String
  | idle => "Idle"
  | noSsidAvail => "NoSsidAvail"
  | scanCompleted => "ScanCompleted"
  | connected => "Connected"
  | connectFailed => "ConnectFailed"
  | connectionLost => "ConnectionLost"
  | disconnected => "Disconnected"
  | apListening => "ApListening"
  | apConnected => "ApConnected"
  | apFailed => "ApFailed"
  | noModule => "NoModule"

def isJoining : StationStatus → Bool
  | idle | noSsidAvail | scanCompleted => true
  | _ => false

end StationStatus

inductive Encryption where
  | wep
  | tkip
  | ccmp
  | plain
  | auto
  | unknown
  deriving DecidableEq, Inhabited

namespace Encryption

def all : List Encryption := [wep, tkip, ccmp, plain, auto, unknown]

def raw : Encryption → UInt8
  | wep => 5
  | tkip => 2
  | ccmp => 4
  | plain => 7
  | auto => 8
  | unknown => 255

def ofRaw (raw : UInt8) : Encryption := (all.find? fun e => e.raw == raw).getD unknown

def key : Encryption → String
  | wep => "wep"
  | tkip => "tkip"
  | ccmp => "ccmp"
  | plain => "none"
  | auto => "auto"
  | unknown => "unknown"

def label : Encryption → String
  | wep => "Wep"
  | tkip => "Tkip"
  | ccmp => "Ccmp"
  | plain => "None"
  | auto => "Auto"
  | unknown => "Unknown"

end Encryption

end SpiWifi
