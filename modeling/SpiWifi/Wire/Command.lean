import SpiWifi.Text.Blank
import SpiWifi.Text.Hex

/-!
# Commands

The commands that the co-processor's firmware understands: seven-bit opcodes, firmware names, and
the length encoding that each uses on the way out and on the way back. Names are looked up without
regard to ASCII case, surrounding white space or a final `_CMD`; opcodes without regard to the
reply bit.
-/

namespace SpiWifi

/-- How the length of a parameter is written. -/
inductive Width where
  /-- One byte: control fields of at most 255 bytes. -/
  | narrow
  /-- Two bytes, high byte first: bulk payloads. -/
  | wide
  deriving DecidableEq, Inhabited

namespace Width

def lengthSize : Width → Nat
  | narrow => 1
  | wide => 2

def maxLength : Width → Nat
  | narrow => 255
  | wide => 65535

def name : Width → String
  | narrow => "narrow"
  | wide => "wide"

def ofLength (w : Width) (n : Nat) : Bytes :=
  match w with
  | narrow => [Bytes.low n]
  | wide => [Bytes.low (n / 256), Bytes.low n]

end Width

def replyBit : UInt8 := 0x80

/-- A command of the firmware. -/
inductive Command where
  | setNet
  | setPassphrase
  | setKey
  | setIpConfig
  | setDnsConfig
  | setHostname
  | setPowerMode
  | setApNet
  | setApPassphrase
  | setDebug
  | getTemperature
  | getConnStatus
  | getIpAddr
  | getMacAddr
  | getCurrSsid
  | getCurrBssid
  | getCurrRssi
  | getCurrEnct
  | scanNetworks
  | startServerTcp
  | getStateTcp
  | dataSentTcp
  | availDataTcp
  | getDataTcp
  | startClientTcp
  | stopClientTcp
  | getClientStateTcp
  | disconnect
  | getIdxRssi
  | getIdxEnct
  | reqHostByName
  | getHostByName
  | startScanNetworks
  | getFwVersion
  | sendDataUdp
  | getRemoteData
  | getTime
  | getIdxBssid
  | getIdxChannel
  | ping
  | getSocket
  | sendDataTcp
  | getDatabufTcp
  | insertDatabuf
  | setPinMode
  | setDigitalWrite
  | setAnalogWrite
  deriving DecidableEq, Inhabited

namespace Command

def all : List Command :=
  [.setNet, .setPassphrase, .setKey, .setIpConfig, .setDnsConfig, .setHostname, .setPowerMode,
   .setApNet, .setApPassphrase, .setDebug, .getTemperature, .getConnStatus, .getIpAddr,
   .getMacAddr, .getCurrSsid, .getCurrBssid, .getCurrRssi, .getCurrEnct, .scanNetworks,
   .startServerTcp, .getStateTcp, .dataSentTcp, .availDataTcp, .getDataTcp, .startClientTcp,
   .stopClientTcp, .getClientStateTcp, .disconnect, .getIdxRssi, .getIdxEnct, .reqHostByName,
   .getHostByName, .startScanNetworks, .getFwVersion, .sendDataUdp, .getRemoteData, .getTime,
   .getIdxBssid, .getIdxChannel, .ping, .getSocket, .sendDataTcp, .getDatabufTcp,
   .insertDatabuf, .setPinMode, .setDigitalWrite, .setAnalogWrite]

def opcode : Command → UInt8
  | setNet => 0x10
  | setPassphrase => 0x11
  | setKey => 0x12
  | setIpConfig => 0x14
  | setDnsConfig => 0x15
  | setHostname => 0x16
  | setPowerMode => 0x17
  | setApNet => 0x18
  | setApPassphrase => 0x19
  | setDebug => 0x1a
  | getTemperature => 0x1b
  | getConnStatus => 0x20
  | getIpAddr => 0x21
  | getMacAddr => 0x22
  | getCurrSsid => 0x23
  | getCurrBssid => 0x24
  | getCurrRssi => 0x25
  | getCurrEnct => 0x26
  | scanNetworks => 0x27
  | startServerTcp => 0x28
  | getStateTcp => 0x29
  | dataSentTcp => 0x2a
  | availDataTcp => 0x2b
  | getDataTcp => 0x2c
  | startClientTcp => 0x2d
  | stopClientTcp => 0x2e
  | getClientStateTcp => 0x2f
  | disconnect => 0x30
  | getIdxRssi => 0x32
  | getIdxEnct => 0x33
  | reqHostByName => 0x34
  | getHostByName => 0x35
  | startScanNetworks => 0x36
  | getFwVersion => 0x37
  | sendDataUdp => 0x39
  | getRemoteData => 0x3a
  | getTime => 0x3b
  | getIdxBssid => 0x3c
  | getIdxChannel => 0x3d
  | ping => 0x3e
  | getSocket => 0x3f
  | sendDataTcp => 0x44
  | getDatabufTcp => 0x45
  | insertDatabuf => 0x46
  | setPinMode => 0x50
  | setDigitalWrite => 0x51
  | setAnalogWrite => 0x52

/-- The firmware's name, without the ending that most names carry. -/
def stem : Command → String
  | setNet => "SET_NET"
  | setPassphrase => "SET_PASSPHRASE"
  | setKey => "SET_KEY"
  | setIpConfig => "SET_IP_CONFIG"
  | setDnsConfig => "SET_DNS_CONFIG"
  | setHostname => "SET_HOSTNAME"
  | setPowerMode => "SET_POWER_MODE"
  | setApNet => "SET_AP_NET"
  | setApPassphrase => "SET_AP_PASSPHRASE"
  | setDebug => "SET_DEBUG"
  | getTemperature => "GET_TEMPERATURE"
  | getConnStatus => "GET_CONN_STATUS"
  | getIpAddr => "GET_IPADDR"
  | getMacAddr => "GET_MACADDR"
  | getCurrSsid => "GET_CURR_SSID"
  | getCurrBssid => "GET_CURR_BSSID"
  | getCurrRssi => "GET_CURR_RSSI"
  | getCurrEnct => "GET_CURR_ENCT"
  | scanNetworks => "SCAN_NETWORKS"
  | startServerTcp => "START_SERVER_TCP"
  | getStateTcp => "GET_STATE_TCP"
  | dataSentTcp => "DATA_SENT_TCP"
  | availDataTcp => "AVAIL_DATA_TCP"
  | getDataTcp => "GET_DATA_TCP"
  | startClientTcp => "START_CLIENT_TCP"
  | stopClientTcp => "STOP_CLIENT_TCP"
  | getClientStateTcp => "GET_CLIENT_STATE_TCP"
  | disconnect => "DISCONNECT"
  | getIdxRssi => "GET_IDX_RSSI"
  | getIdxEnct => "GET_IDX_ENCT"
  | reqHostByName => "REQ_HOST_BY_NAME"
  | getHostByName => "GET_HOST_BY_NAME"
  | startScanNetworks => "START_SCAN_NETWORKS"
  | getFwVersion => "GET_FW_VERSION"
  | sendDataUdp => "SEND_DATA_UDP"
  | getRemoteData => "GET_REMOTE_DATA"
  | getTime => "GET_TIME"
  | getIdxBssid => "GET_IDX_BSSID"
  | getIdxChannel => "GET_IDX_CHANNEL"
  | ping => "PING"
  | getSocket => "GET_SOCKET"
  | sendDataTcp => "SEND_DATA_TCP"
  | getDatabufTcp => "GET_DATABUF_TCP"
  | insertDatabuf => "INSERT_DATABUF"
  | setPinMode => "SET_PIN_MODE"
  | setDigitalWrite => "SET_DIGITAL_WRITE"
  | setAnalogWrite => "SET_ANALOG_WRITE"

def hasEnding : Command → Bool
  | scanNetworks | startScanNetworks | getIdxBssid | setPinMode | setDigitalWrite
  | setAnalogWrite => false
  | _ => true

def name (c : Command) : String :=
  if c.hasEnding then c.stem ++ "_CMD" else c.stem

/-- The name that stands for the command in structured documents. -/
def key : Command → String
  | getIpAddr => "GET_IP_ADDR"
  | getMacAddr => "GET_MAC_ADDR"
  | c => c.stem

/-- The name with the opcode, as messages show it. -/
def toText (c : Command) : String := c.name ++ "(" ++ Text.Hex.literal c.opcode ++ ")"

def requestWidth : Command → Width
  | sendDataTcp | getDatabufTcp | insertDatabuf => .wide
  | _ => .narrow

/-- How parameters are written in the reply. Bulk data is sent wide and acknowledged narrow. -/
def replyWidth : Command → Width
  | getDatabufTcp | insertDatabuf => .wide
  | _ => .narrow

/-- The command with this opcode, whatever the reply bit. -/
def ofOpcode? (opcode : UInt8) : Option Command :=
  all.find? fun c => c.opcode == opcode &&& 0x7f

def dropEnding (cs : List Char) : List Char :=
  if "_CMD".toList.isSuffixOf cs then cs.take (cs.length - 4) else cs

/-- The command with this name, whatever its case, surrounding white space and ending. -/
def ofName? (name : String) : Option Command :=
  let wanted := dropEnding (Text.upper (Text.trim name.toList))
  all.find? fun c => c.stem.toList == wanted

def ofKey? (key : String) : Option Command := all.find? fun c => c.key == key

end Command

end SpiWifi
