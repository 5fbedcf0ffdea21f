import SpiWifi.Ipv4
import SpiWifi.Socket.Handle
import SpiWifi.Station.Status
import SpiWifi.Text.Utf8
import SpiWifi.Wire.Command

/-!
# What the emulated device knows

The state of a co-processor that lives in memory: ten socket slots, the networks around it, the
link it has joined or opened, a host table, its settings, and how it was told to behave. Every
command it receives is recorded.
-/

namespace SpiWifi.Device

/-- What becomes of a client socket when a connection is requested. -/
inductive ConnectBehavior where
  /-- It is established at once. -/
  | establish
  /-- It stays in the handshake for ever. -/
  | stuck
  /-- The request is not acknowledged. -/
  | refuse
  deriving DecidableEq

/-- What becomes of a socket that is stopped. -/
inductive CloseBehavior where
  /-- It is closed, and its slot released. -/
  | immediate
  /-- It stays in the teardown and keeps its slot. -/
  | linger
  deriving DecidableEq

/-- A network that scans and joins can see. -/
structure AccessPoint where
  ssid : String
  /-- What a station must present to join. -/
  secret : Option Bytes
  /-- How it is protected, as the byte that is reported. -/
  encryption : UInt8
  rssi : Int32
  bssid : Bytes
  channel : UInt8
  deriving DecidableEq

namespace AccessPoint

/-- Exclusive or of the bytes at the places `j`, `j + 5`, `j + 10` and so on. -/
def everyFifth (j : Nat) (bytes : Bytes) : UInt8 :=
  (bytes.zipIdx.filter fun place => place.2 % 5 == j).foldl (fun acc place => acc ^^^ place.1) 0

/-- The hardware address of a network, made from its name: a locally administered first byte, then
five bytes that each gather every fifth byte of the name. -/
def bssidOf (ssid : String) : Bytes :=
  0x02 :: (List.range 5).map fun j => everyFifth j (Text.Utf8.encode ssid)

def unprotected (ssid : String) : AccessPoint where
  ssid := ssid
  secret := none
  encryption := Encryption.plain.raw
  rssi := -60
  bssid := bssidOf ssid
  channel := 1

def secured (ssid passphrase : String) : AccessPoint :=
  { unprotected ssid with
    secret := some (Text.Utf8.encode passphrase)
    encryption := Encryption.ccmp.raw }

def wep (ssid : String) (key : Bytes) : AccessPoint :=
  { unprotected ssid with secret := some key, encryption := Encryption.wep.raw }

end AccessPoint

inductive SocketKind where
  | unused
  | client
  | server
  | datagram
  deriving DecidableEq

structure SentPacket where
  dest : Option Endpoint
  data : Bytes
  deriving DecidableEq

structure Datagram where
  sender : Endpoint
  data : Bytes
  deriving DecidableEq

/-- One socket slot. -/
structure Socket where
  reserved : Bool
  kind : SocketKind
  state : TcpState
  mode : UInt8
  localPort : UInt16
  remote : Option Endpoint
  /-- Where the next datagram goes. -/
  dest : Option Endpoint
  /-- Bytes received and not yet handed to the host. -/
  rx : Bytes
  /-- Bytes that the host sent over a connection. -/
  tx : Bytes
  /-- The datagram being assembled. -/
  staged : Bytes
  packets : List SentPacket
  /-- Datagrams behind the one in the receive queue. -/
  datagrams : List Datagram
  /-- Connections that wait to be accepted. -/
  waiting : List UInt8
  deriving DecidableEq

namespace Socket

def free : Socket where
  reserved := false
  kind := .unused
  state := .closed
  mode := 0
  localPort := 0
  remote := none
  dest := none
  rx := []
  tx := []
  staged := []
  packets := []
  datagrams := []
  waiting := []

instance : Inhabited Socket := ⟨free⟩

/-- Moves the next datagram into the receive queue once the one before it is drained. -/
def loadDatagram (s : Socket) : Socket :=
  if s.kind = .datagram ∧ s.rx = [] then
    match s.datagrams with
    | [] => s
    | d :: rest => { s with remote := some d.sender, rx := d.data, datagrams := rest }
  else s

end Socket

/-- The radio link: its status, how many queries still find it idle, and its network. -/
structure RadioLink where
  status : StationStatus
  pendingPolls : Nat
  network : Option AccessPoint
  deriving DecidableEq

structure Pin where
  mode : UInt8
  value : UInt8
  deriving DecidableEq

/-- Everything the emulated device knows. -/
structure State where
  sockets : Vector Socket socketCount
  connect : ConnectBehavior
  close : CloseBehavior
  /-- Whether the device reports sent data as delivered. -/
  confirmSends : Bool
  /-- The most bytes that one send accepts. -/
  acceptLimit : Option Nat
  /-- Whether sent data comes back as received. -/
  echo : Bool
  networks : List AccessPoint
  /-- Result queries that come back empty after a scan starts. -/
  scanLatency : Nat
  scanPending : Nat
  /-- Status queries that find the link idle after a join starts. -/
  joinLatency : Nat
  radio : RadioLink
  hosts : Table String Ipv4
  lastLookup : Option Ipv4
  firmware : String
  mac : Bytes
  ip : Ipv4
  subnet : Ipv4
  gateway : Ipv4
  dns1 : Ipv4
  dns2 : Ipv4
  hostname : String
  time : UInt32
  /-- The temperature in degrees Celsius, as the bits of a single-precision number. -/
  temperature : UInt32
  lowPower : Bool
  debug : Bool
  pins : Table UInt8 Pin
  /-- The commands received, the latest first. -/
  received : List Command
  /-- Times the reset line was driven low. -/
  resets : Nat
  /-- Replies still to be swallowed, by command. -/
  lost : Table Command Nat

namespace State

def initial : State where
  sockets := Vector.replicate socketCount Socket.free
  connect := .establish
  close := .immediate
  confirmSends := true
  acceptLimit := none
  echo := false
  networks := []
  scanLatency := 0
  scanPending := 0
  joinLatency := 0
  radio := ⟨.idle, 0, none⟩
  hosts := []
  lastLookup := none
  firmware := "1.2.1"
  mac := [0x24, 0x0a, 0xc4, 0x12, 0x34, 0x56]
  ip := ⟨192, 168, 1, 100⟩
  subnet := ⟨255, 255, 255, 0⟩
  gateway := ⟨192, 168, 1, 1⟩
  dns1 := ⟨192, 168, 1, 1⟩
  dns2 := Ipv4.unspecified
  hostname := "nina"
  time := 1700000000
  temperature := 0x422a0000
  lowPower := false
  debug := false
  pins := []
  received := []
  resets := 0
  lost := []

instance : Inhabited State := ⟨initial⟩

def socket? (s : State) (raw : UInt8) : Option Socket :=
  (SocketHandle.slotOf? raw).map s.sockets.get

def modifySocket (s : State) (i : Fin socketCount) (f : Socket → Socket) : State :=
  { s with sockets := s.sockets.set i (f (s.sockets.get i)) i.isLt }

/-- Changes the slot that a byte names, if it names one. -/
def onSocket (s : State) (raw : UInt8) (f : Socket → Socket) : State :=
  match SocketHandle.slotOf? raw with
  | some i => s.modifySocket i f
  | none => s

def findSlot? (s : State) (p : Socket → Bool) : Option (Fin socketCount) :=
  s.sockets.findFinIdx? p

/-- Reserves the first free slot. Without one the answer names no slot. -/
def reserve (s : State) : UInt8 × State :=
  match s.findSlot? fun socket => !socket.reserved with
  | some i => (UInt8.ofNat i, s.modifySocket i fun socket => { socket with reserved := true })
  | none => (SocketHandle.none.raw, s)

/-- The address of a host: an address spelt out, or an entry of the host table. -/
def resolve (s : State) (host : String) : Option Ipv4 :=
  match Ipv4.ofText? host with
  | some ip => some ip
  | none => s.hosts.get? host

/-- Starts a join to the first network of that name, presenting a secret. -/
def join (s : State) (ssid : String) (secret : Option Bytes) : State :=
  let radio : RadioLink :=
    match s.networks.find? fun n => n.ssid == ssid with
    | some n =>
      if n.secret = secret then ⟨.connected, s.joinLatency, some n⟩
      else ⟨.connectFailed, s.joinLatency, none⟩
    | none => ⟨.noSsidAvail, s.joinLatency, none⟩
  { s with radio := radio }

def startAccessPoint (s : State) (ssid : String) (channel : UInt8) (secret : Option Bytes) :
    State :=
  let network : AccessPoint :=
    { AccessPoint.unprotected ssid with
      secret := secret
      encryption := if secret.isSome then Encryption.ccmp.raw else Encryption.plain.raw
      channel := channel }
  { s with radio := ⟨.apListening, 0, some network⟩ }

def pollStatus (s : State) : StationStatus × State :=
  match s.radio.pendingPolls with
  | 0 => (s.radio.status, s)
  | n + 1 => (.idle, { s with radio := { s.radio with pendingPolls := n } })

def disconnect (s : State) : State := { s with radio := ⟨.disconnected, 0, none⟩ }

def count (s : State) (c : Command) : Nat := s.received.count c

end State

end SpiWifi.Device
