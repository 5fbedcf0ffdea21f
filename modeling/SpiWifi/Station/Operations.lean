import SpiWifi.Host
import SpiWifi.Polling
import SpiWifi.Station.Ping
import SpiWifi.Station.Status

/-!
# Station operations

Joining networks, opening access points, scanning, addressing, name resolution and the odds and ends
of the device. Joins and scans are polls with a budget; the names that a scan found and the version
of the firmware are remembered.
-/

namespace SpiWifi

def ssidMax : Nat := 32

def networksMax : Nat := 10

def macLength : Nat := 6

def firmwareMax : Nat := 16

/-- The byte sent where a request needs a parameter without meaning. -/
def fillerByte : UInt8 := 0xff

/-- A hardware address as pairs of digits between colons. -/
def formatMac (mac : Bytes) : String := ":".intercalate (mac.map fun b => Text.Hex.encode [b])

structure ScanEntry where
  ssid : String
  rssi : Int32
  encryption : Encryption
  bssid : String
  channel : UInt8
  deriving DecidableEq

structure Addressing where
  ip : Ipv4
  subnet : Ipv4
  gateway : Ipv4
  deriving DecidableEq

namespace Host

variable {τ : Type} [Transport τ]

def expectAck (c : Command) (add : Frame → Frame) : HostM τ Unit := do
  if !(← ask (Link.ack (add (Frame.command c)))) then throw (.rejected c)

def filler (c : Command) : Frame := (Frame.command c).withU8 fillerByte

def indexed (c : Command) (index : UInt8) : Frame := (Frame.command c).withU8 index

def expectReply {α : Type} (c : Command) (x : LinkM τ (Option α)) : HostM τ α := do
  match ← ask x with
  | some a => return a
  | none => throw (.noReply c)

def withText (f : Frame) (s : String) : Frame := f.withParam (Text.Utf8.encode s)

def setNetwork (ssid : String) : HostM τ Unit := expectAck .setNet fun f => withText f ssid

def setPassphrase (ssid passphrase : String) : HostM τ Unit :=
  expectAck .setPassphrase fun f => withText (withText f ssid) passphrase

/-- Names a network to join by a WEP key. -/
def setKey (ssid : String) (keyIndex : UInt8) (key : Bytes) : HostM τ Unit :=
  expectAck .setKey fun f => ((withText f ssid).withU8 keyIndex).withParam key

def setApNetwork (ssid : String) (channel : UInt8) : HostM τ Unit :=
  expectAck .setApNet fun f => (withText f ssid).withU8 channel

def setApPassphrase (ssid passphrase : String) (channel : UInt8) : HostM τ Unit :=
  expectAck .setApPassphrase fun f => (withText (withText f ssid) passphrase).withU8 channel

/-- The status of the radio link; without an answer there is no module. -/
def connectionStatus : StateM (Host τ) StationStatus := do
  match ← attempt (Link.readU8 (Frame.command .getConnStatus)) with
  | .ok (some raw) => return .ofRaw raw
  | _ => return .noModule

def awaitJoin : StateM (Host τ) StationStatus := do
  pollLast connectionStatus (fun status => !status.isJoining)
    (← get).station.joinAttempts.toNat .idle

/-- Joins as the settings sent before say, and waits for the outcome. -/
def joinBy (settings : HostM τ Unit) : HostM τ StationStatus := do
  settings
  always awaitJoin

def join (ssid : String) : HostM τ StationStatus := joinBy (setNetwork ssid)

def joinWithPassphrase (ssid passphrase : String) : HostM τ StationStatus :=
  joinBy (setPassphrase ssid passphrase)

def joinWithKey (ssid : String) (keyIndex : UInt8) (key : Bytes) : HostM τ StationStatus :=
  joinBy (setKey ssid keyIndex key)

def openAp (ssid : String) (channel : UInt8) : HostM τ StationStatus :=
  joinBy (setApNetwork ssid channel)

def openApWithPassphrase (ssid passphrase : String) (channel : UInt8) : HostM τ StationStatus :=
  joinBy (setApPassphrase ssid passphrase channel)

/-- Sets a fixed address. The device applies the first `valid` of the three. -/
def setIpConfig (valid : UInt8) (ip gateway subnet : Ipv4) : HostM τ Unit :=
  expectAck .setIpConfig fun f =>
    (((f.withU8 valid).withIpv4 ip).withIpv4 gateway).withIpv4 subnet

/-- Sets the name servers. The device applies the first `valid` of the two. -/
def setDns (valid : UInt8) (dns1 dns2 : Ipv4) : HostM τ Unit :=
  expectAck .setDnsConfig fun f => ((f.withU8 valid).withIpv4 dns1).withIpv4 dns2

def setHostname (hostname : String) : HostM τ Unit :=
  expectAck .setHostname fun f => withText f hostname

def disconnect : HostM τ Unit := expectAck .disconnect fun f => f.withU8 fillerByte

/-- Reads a hardware address; any other number of bytes is no reply. -/
def readMac (c : Command) (f : Frame) : HostM τ Bytes := do
  match ← ask (Link.call f [Slot.forValue macLength]) with
  | (_, [slot]) => if slot.length = macLength then return slot.bytes else throw (.noReply c)
  | _ => throw (.noReply c)

def macAddress : HostM τ Bytes := readMac .getMacAddr (filler .getMacAddr)

def networkData : HostM τ Addressing := do
  match ← ask (Link.call (filler .getIpAddr) (List.replicate 3 (Slot.forValue 4))) with
  | (3, [ip, subnet, gateway]) =>
    match ip.ipv4?, subnet.ipv4?, gateway.ipv4? with
    | some ip, some subnet, some gateway => return ⟨ip, subnet, gateway⟩
    | _, _, _ => throw (.noReply .getIpAddr)
  | _ => throw (.noReply .getIpAddr)

def localIp : HostM τ Ipv4 := do
  return (← networkData).ip

def subnetMask : HostM τ Ipv4 := do
  return (← networkData).subnet

def gatewayIp : HostM τ Ipv4 := do
  return (← networkData).gateway

/-- The name of the network joined or opened, cut to what is reported. -/
def currentSsid : HostM τ String := do
  match ← ask (Link.call (filler .getCurrSsid) [Slot.forValue ssidMax]) with
  | (_, [slot]) => return slot.text
  | _ => return ""

def currentBssid : HostM τ Bytes := readMac .getCurrBssid (filler .getCurrBssid)

def currentRssi : HostM τ Int32 := do
  return (← expectReply .getCurrRssi (Link.readU32LE (filler .getCurrRssi))).toInt32

def currentEncryption : HostM τ Encryption := do
  return .ofRaw (← expectReply .getCurrEnct (Link.readU8 (filler .getCurrEnct)))

def startScan : HostM τ Bool := ask (Link.ack (Frame.command .startScanNetworks))

/-- Reads the names that the device found, and remembers them. -/
def fetchScanResults : HostM τ Nat := do
  let slots := List.replicate networksMax (Slot.forValue ssidMax)
  let (count, slots) ← ask (Link.call (Frame.command .scanNetworks) slots)
  let names := (slots.take count).map Slot.text
  modify fun h => { h with memory := { h.memory with networks := names } }
  return count

/-- The answer that a scan waits for: some network. -/
def foundAnswer (answer : Except NetError Nat) : Option Nat :=
  match answer with
  | .ok 0 => none
  | .ok found => some found
  | .error _ => none

/-- Scans and waits for results: how many networks were found, none if nothing came within the
budget. Only a request that fails to start the scan ends it at once. -/
def scanNetworks : StateM (Host τ) Nat := do
  match ← startScan.run with
  | .error _ => return 0
  | .ok _ =>
    let found ← pollFor fetchScanResults.run foundAnswer (← get).station.scanAttempts.toNat
    return found.getD 0

/-- The name at an index of the last scan. -/
def ssid? (h : Host τ) (index : Nat) : Option String := h.memory.networks[index]?

def rssi (index : UInt8) : HostM τ Int32 := do
  return (← expectReply .getIdxRssi (Link.readU32LE (indexed .getIdxRssi index))).toInt32

def encryption (index : UInt8) : HostM τ Encryption := do
  return .ofRaw (← expectReply .getIdxEnct (Link.readU8 (indexed .getIdxEnct index)))

def bssid (index : UInt8) : HostM τ Bytes := readMac .getIdxBssid (indexed .getIdxBssid index)

def channel (index : UInt8) : HostM τ UInt8 :=
  expectReply .getIdxChannel (Link.readU8 (indexed .getIdxChannel index))

def scanEntry (index : UInt8) (ssid : String) : HostM τ ScanEntry := do
  let rssi ← rssi index
  let encryption ← encryption index
  let bssid ← bssid index
  let channel ← channel index
  return ⟨ssid, rssi, encryption, formatMac bssid, channel⟩

/-- Details of networks whose indices count up from `index`. -/
def entriesFrom (index : Nat) : List String → HostM τ (List ScanEntry)
  | [] => return []
  | ssid :: rest => do
    let entry ← scanEntry (UInt8.ofNat index) ssid
    let entries ← entriesFrom (index + 1) rest
    return entry :: entries

def scanEntries : HostM τ (List ScanEntry) := do
  entriesFrom 0 (← get).memory.networks

def hostByName (host : String) : HostM τ Ipv4 := do
  if !(← ask (Link.ack (withText (Frame.command .reqHostByName) host))) then
    throw (.hostNotFound host)
  match ← ask (Link.call (Frame.command .getHostByName) [Slot.forValue 4]) with
  | (_, [slot]) =>
    match slot.ipv4? with
    | some ip =>
      if ip = .broadcast ∨ ip = .unspecified then throw (.hostNotFound host) else return ip
    | none => throw (.hostNotFound host)
  | _ => throw (.hostNotFound host)

/-- The firmware's version, read from the device the first time. -/
def firmwareVersion : HostM τ String := do
  match (← get).memory.firmware with
  | some version => return version
  | none =>
    match ← ask (Link.call (Frame.command .getFwVersion) [Slot.forValue firmwareMax]) with
    | (_ + 1, [slot]) =>
      modify fun h => { h with memory := { h.memory with firmware := some slot.text } }
      return slot.text
    | _ => throw (.noReply .getFwVersion)

/-- Seconds since the epoch, as the device keeps them. -/
def time : HostM τ UInt32 := expectReply .getTime (Link.readU32LE (filler .getTime))

def withSwitch (f : Frame) (on : Bool) : Frame := f.withU8 (if on then 1 else 0)

def setPowerMode (low : Bool) : HostM τ Unit := expectAck .setPowerMode fun f => withSwitch f low

def setDebug (on : Bool) : HostM τ Unit := expectAck .setDebug fun f => withSwitch f on

def pingOutcome (answer : Except LinkError (Option UInt16)) : Except PingError UInt16 :=
  match answer with
  | .ok (some raw) =>
    if raw.toNat < 32768 then .ok raw else .error (.ofCode (raw.toNat - 65536 : Int))
  | _ => .error .failed

/-- Pings an address: the round trip in milliseconds. -/
def ping (ip : Ipv4) (ttl : UInt8) : StateM (Host τ) (Except PingError UInt16) := do
  return pingOutcome
    (← attempt (Link.readU16LE (((Frame.command .ping).withIpv4 ip).withU8 ttl)))

def pingHost (host : String) (ttl : UInt8) : StateM (Host τ) (Except PingError UInt16) := do
  match ← (hostByName host).run with
  | .ok ip => ping ip ttl
  | .error _ => return .error .unknownHost

/-- Temperature in degrees Celsius, as the bits of a single-precision number. -/
def temperature : HostM τ UInt32 :=
  expectReply .getTemperature (Link.readU32LE (filler .getTemperature))

def pinMode (pin mode : UInt8) : HostM τ Unit :=
  expectAck .setPinMode fun f => (f.withU8 pin).withU8 mode

def digitalWrite (pin : UInt8) (on : Bool) : HostM τ Unit :=
  expectAck .setDigitalWrite fun f => withSwitch (f.withU8 pin) on

def analogWrite (pin value : UInt8) : HostM τ Unit :=
  expectAck .setAnalogWrite fun f => (f.withU8 pin).withU8 value

end Host

end SpiWifi
