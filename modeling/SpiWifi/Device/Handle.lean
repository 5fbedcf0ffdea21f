import SpiWifi.Device.State
import SpiWifi.Wire.Frame

/-!
# Serving commands

What the emulated device does with a command frame: it reads the parameters it needs, changes its
state and builds the reply. A command that it cannot serve (a parameter missing or of the wrong
length, a slot that does not exist) has no reply; what was done before the fault stays done.
-/

namespace SpiWifi.Device

/-- A computation on the device that may find the command unservable. -/
abbrev Serving (α : Type) := OptionT (StateM State) α

/-- The largest payload of bulk data whose reply still fits a frame. -/
def bulkReplyMax : Nat := 246

/-- The parameters of a command. Each reader wants exactly the bytes of its type. -/
structure Params where
  list : List Bytes

namespace Params

variable (p : Params)

def bytes (i : Nat) : Option Bytes := p.list[i]?

def u8 (i : Nat) : Option UInt8 :=
  match p.bytes i with
  | some [b] => some b
  | _ => none

def u16 (i : Nat) : Option UInt16 :=
  match p.bytes i with
  | some [hi, lo] => some (Bytes.joinU16 hi lo)
  | _ => none

def ipv4 (i : Nat) : Option Ipv4 := (p.bytes i).bind Ipv4.ofOctets?

def text (i : Nat) : Option String := (p.bytes i).bind Text.Utf8.decode?

end Params

namespace Serving

/-- A value that must be there for the command to be served. -/
def need {α : Type} (x : Option α) : Serving α := OptionT.mk (pure x)

def slot (raw : UInt8) : Serving (Fin socketCount) := need (SocketHandle.slotOf? raw)

end Serving

open Serving

def ack (c : Command) (ok : Bool) : Frame := (Frame.reply c).withU8 (if ok then 1 else 0)

/-- The reply with a parameter if there is a value for it. -/
def replyWith {α : Type} (reply : Frame) (add : Frame → α → Frame) : Option α → Frame
  | some v => add reply v
  | none => reply

namespace State

/-- Listens on a slot, for connections or for datagrams. -/
def listen (s : State) (i : Fin socketCount) (port : UInt16) (mode : UInt8) : State :=
  s.modifySocket i fun socket =>
    let isDatagram := SocketMode.isDatagram mode
    { socket with
      reserved := true
      mode := mode
      localPort := port
      kind := if isDatagram then .datagram else .server
      state := if isDatagram then .closed else .listen }

/-- Connects a slot to a peer, or sets where its datagrams go. Whether it was acknowledged. -/
def connectSlot (s : State) (i : Fin socketCount) (peer : Endpoint) (mode : UInt8) :
    Bool × State :=
  let client (state : TcpState) : State :=
    s.modifySocket i fun _ =>
      { Socket.free with
        reserved := true
        kind := .client
        state := state
        mode := mode
        remote := some peer }
  if SocketMode.isDatagram mode then
    (true, s.modifySocket i fun socket =>
      { socket with reserved := true, kind := .datagram, mode := mode, dest := some peer })
  else
    match s.connect with
    | .establish => (true, client .established)
    | .stuck => (true, client .synSent)
    | .refuse => (false, s)

/-- Stops a slot as the device was told to close. -/
def stopSlot (s : State) (i : Fin socketCount) : State :=
  match s.close with
  | .immediate => s.modifySocket i fun _ => Socket.free
  | .linger => s.modifySocket i fun socket => { socket with state := .finWait1 }

/-- The next connection waiting on a listener, or the number of bytes waiting on any other slot. -/
def available (s : State) (i : Fin socketCount) : UInt16 × State :=
  let socket := s.sockets.get i
  if socket.kind = .server then
    (UInt16.ofNat (socket.waiting.headD SocketHandle.none.raw).toNat,
      s.modifySocket i fun socket => { socket with waiting := socket.waiting.tail })
  else
    (UInt16.ofNat (min socket.loadDatagram.rx.length 65535),
      s.modifySocket i Socket.loadDatagram)

/-- Takes as much of the data as is accepted onto an established connection. -/
def sendStream (s : State) (i : Fin socketCount) (data : Bytes) : UInt16 × State :=
  let socket := s.sockets.get i
  if socket.kind = .client ∧ socket.state = .established then
    let accepted := match s.acceptLimit with
      | some limit => data.take limit
      | none => data
    (UInt16.ofNat accepted.length, s.modifySocket i fun socket =>
      { socket with
        tx := socket.tx ++ accepted
        rx := if s.echo then socket.rx ++ accepted else socket.rx })
  else (0, s)

/-- The datagram that comes back when an echoing device sends one. -/
def echoOf (s : State) (socket : Socket) : List Datagram :=
  if s.echo then
    match socket.dest with
    | some dest => [⟨dest, socket.staged⟩]
    | none => []
  else []

def sendDatagram (s : State) (i : Fin socketCount) : State :=
  s.modifySocket i fun socket =>
    { socket with
      staged := []
      packets := socket.packets ++ [⟨socket.dest, socket.staged⟩]
      datagrams := socket.datagrams ++ s.echoOf socket }

/-- Adds the names of networks to a reply as long as it fits a frame. -/
def addNames (reply : Frame) : List AccessPoint → Frame
  | [] => reply
  | n :: rest =>
    let next := reply.withParam (Text.Utf8.encode n.ssid)
    if Frame.maxSize < next.encodedLength then reply else addNames next rest

/-- The names of the networks found, or nothing while the scan goes on. -/
def scanResults (s : State) (reply : Frame) : Frame × State :=
  match s.scanPending with
  | n + 1 => (reply, { s with scanPending := n })
  | 0 => (addNames reply (s.networks.take 10), s)

def setPin (s : State) (pin : UInt8) (f : Pin → Pin) : State :=
  { s with pins := s.pins.set pin (f ((s.pins.get? pin).getD ⟨0, 0⟩)) }

end State

/-- Parameters `[port, socket, mode]`, with or without an address before them. -/
def startServer (p : Params) : Serving Bool := do
  let offset ← need (match p.list.length with
    | 3 => some 0
    | 4 => some 1
    | _ => none)
  let port ← need (p.u16 offset)
  let mode ← need (p.u8 (offset + 2))
  let raw ← need (p.u8 (offset + 1))
  match SocketHandle.slotOf? raw with
  | none => return false
  | some i =>
    modify fun s => s.listen i port mode
    return true

/-- Parameters `[address, port, socket, mode]`, with or without a host name before them. The name
counts if it is there. -/
def startClient (p : Params) : Serving Bool := do
  let (host, offset) ← need (match p.list.length with
    | 4 => some (none, 0)
    | 5 => (p.text 0).map fun host => (some host, 1)
    | _ => none)
  let ip ← need (p.ipv4 offset)
  let port ← need (p.u16 (offset + 1))
  let raw ← need (p.u8 (offset + 2))
  let mode ← need (p.u8 (offset + 3))
  let s ← get
  let target := match host with
    | none => some ip
    | some host => s.resolve host
  match target, SocketHandle.slotOf? raw with
  | some ip, some i => modifyGet fun s => s.connectSlot i ⟨ip, port⟩ mode
  | _, _ => return false

def networkReply (p : Params) (reply : Frame) (add : AccessPoint → Frame) : Serving Frame := do
  let index ← need (p.u8 0)
  match (← get).networks[index.toNat]? with
  | some n => return add n
  | none => return reply

/-- The code of a ping: out of reach, timed out, or the round trip in milliseconds. -/
def pingCode (ip : Ipv4) (ttl : Option UInt8) : Option Int16 :=
  if ip = Ipv4.unspecified then some (-1)
  else ttl.map fun ttl => if ttl = 0 then -2 else 12

def serve (c : Command) (p : Params) : Serving Frame := do
  let reply := Frame.reply c
  match c with
  | .getSocket => return reply.withU8 (← modifyGet State.reserve)
  | .startServerTcp => return ack c (← startServer p)
  | .startClientTcp => return ack c (← startClient p)
  | .stopClientTcp =>
    match SocketHandle.slotOf? (← need (p.u8 0)) with
    | some i =>
      modify fun s => s.stopSlot i
      return ack c true
    | none => return ack c false
  | .getStateTcp | .getClientStateTcp =>
    let raw ← need (p.u8 0)
    return reply.withU8 ((((← get).socket? raw).map Socket.state).getD .closed).raw
  | .dataSentTcp => return reply.withU8 (if (← get).confirmSends then 1 else 0)
  | .availDataTcp =>
    match SocketHandle.slotOf? (← need (p.u8 0)) with
    | some i => return reply.withU16LE (← modifyGet fun s => s.available i)
    | none => return reply.withU16LE 0
  | .getDataTcp =>
    let i ← slot (← need (p.u8 0))
    modify fun s => s.modifySocket i Socket.loadDatagram
    let peek ← need (p.u8 1)
    let rx := ((← get).sockets.get i).rx
    if peek = 0 then
      modify fun s => s.modifySocket i fun socket => { socket with rx := rx.tail }
    return replyWith reply Frame.withU8 rx.head?
  | .getDatabufTcp =>
    let want ← need (p.u16 1)
    let i ← slot (← need (p.u8 0))
    modify fun s => s.modifySocket i Socket.loadDatagram
    let rx := ((← get).sockets.get i).rx
    let n := min (min want.toNat rx.length) bulkReplyMax
    if n = 0 then return reply
    modify fun s => s.modifySocket i fun socket => { socket with rx := rx.drop n }
    return reply.withParam (rx.take n)
  | .sendDataTcp =>
    let raw ← need (p.u8 0)
    let data ← need (p.bytes 1)
    match SocketHandle.slotOf? raw with
    | some i => return reply.withU16LE (← modifyGet fun s => s.sendStream i data)
    | none => return reply.withU16LE 0
  | .insertDatabuf =>
    let i ← slot (← need (p.u8 0))
    let data ← need (p.bytes 1)
    modify fun s => s.modifySocket i fun socket => { socket with staged := socket.staged ++ data }
    return ack c true
  | .sendDataUdp =>
    match SocketHandle.slotOf? (← need (p.u8 0)) with
    | some i =>
      modify fun s => s.sendDatagram i
      return ack c true
    | none => return ack c false
  | .getRemoteData =>
    let i ← slot (← need (p.u8 0))
    let remote := ((← get).sockets.get i).remote
    return replyWith reply (fun f e => (f.withIpv4 e.ip).withU16 e.port) remote
  | .setNet =>
    let ssid ← need (p.text 0)
    modify fun s => s.join ssid none
    return ack c true
  | .setPassphrase =>
    let ssid ← need (p.text 0)
    let secret ← need (p.bytes 1)
    modify fun s => s.join ssid (some secret)
    return ack c true
  | .setKey =>
    let ssid ← need (p.text 0)
    let secret ← need (p.bytes 2)
    modify fun s => s.join ssid (some secret)
    return ack c true
  | .setApNet =>
    let ssid ← need (p.text 0)
    let channel ← need (p.u8 1)
    modify fun s => s.startAccessPoint ssid channel none
    return ack c true
  | .setApPassphrase =>
    let ssid ← need (p.text 0)
    let channel ← need (p.u8 2)
    let secret ← need (p.bytes 1)
    modify fun s => s.startAccessPoint ssid channel (some secret)
    return ack c true
  | .setIpConfig =>
    let valid ← need (p.u8 0)
    if 1 ≤ valid then
      let ip ← need (p.ipv4 1)
      modify fun s => { s with ip := ip }
    if 2 ≤ valid then
      let gateway ← need (p.ipv4 2)
      modify fun s => { s with gateway := gateway }
    if 3 ≤ valid then
      let subnet ← need (p.ipv4 3)
      modify fun s => { s with subnet := subnet }
    return ack c true
  | .setDnsConfig =>
    let valid ← need (p.u8 0)
    if 1 ≤ valid then
      let dns1 ← need (p.ipv4 1)
      modify fun s => { s with dns1 := dns1 }
    if 2 ≤ valid then
      let dns2 ← need (p.ipv4 2)
      modify fun s => { s with dns2 := dns2 }
    return ack c true
  | .setHostname =>
    let hostname ← need (p.text 0)
    modify fun s => { s with hostname := hostname }
    return ack c true
  | .setPowerMode =>
    let on ← need (p.u8 0)
    modify fun s => { s with lowPower := on != 0 }
    return ack c true
  | .setDebug =>
    let on ← need (p.u8 0)
    modify fun s => { s with debug := on != 0 }
    return ack c true
  | .disconnect =>
    modify State.disconnect
    return ack c true
  | .getConnStatus => return reply.withU8 (← modifyGet State.pollStatus).raw
  | .getIpAddr =>
    let s ← get
    return ((reply.withIpv4 s.ip).withIpv4 s.subnet).withIpv4 s.gateway
  | .getMacAddr => return reply.withParam (← get).mac
  | .getCurrSsid =>
    return reply.withParam
      (Text.Utf8.encode (((← get).radio.network.map AccessPoint.ssid).getD ""))
  | .getCurrBssid =>
    return reply.withParam (((← get).radio.network.map AccessPoint.bssid).getD (Bytes.zeros 6))
  | .getCurrRssi =>
    return reply.withU32LE (((← get).radio.network.map AccessPoint.rssi).getD 0).toUInt32
  | .getCurrEnct =>
    return reply.withU8 (((← get).radio.network.map AccessPoint.encryption).getD 0)
  | .startScanNetworks =>
    modify fun s => { s with scanPending := s.scanLatency }
    return ack c true
  | .scanNetworks => modifyGet fun s => s.scanResults reply
  | .getIdxRssi => networkReply p reply fun n => reply.withU32LE n.rssi.toUInt32
  | .getIdxEnct => networkReply p reply fun n => reply.withU8 n.encryption
  | .getIdxBssid => networkReply p reply fun n => reply.withParam n.bssid
  | .getIdxChannel => networkReply p reply fun n => reply.withU8 n.channel
  | .reqHostByName =>
    let host ← need (p.text 0)
    let found := (← get).resolve host
    modify fun s => { s with lastLookup := found }
    return ack c found.isSome
  | .getHostByName => return reply.withIpv4 ((← get).lastLookup.getD Ipv4.broadcast)
  | .getFwVersion => return reply.withParam (Text.Utf8.encode (← get).firmware)
  | .getTime => return reply.withU32LE (← get).time
  | .getTemperature => return reply.withU32LE (← get).temperature
  | .ping =>
    let ip ← need (p.ipv4 0)
    let code ← need (pingCode ip (p.u8 1))
    return reply.withU16LE code.toUInt16
  | .setPinMode =>
    let mode ← need (p.u8 1)
    let pin ← need (p.u8 0)
    modify fun s => s.setPin pin fun old => { old with mode := mode }
    return ack c true
  | .setDigitalWrite | .setAnalogWrite =>
    let value ← need (p.u8 1)
    let pin ← need (p.u8 0)
    modify fun s => s.setPin pin fun old => { old with value := value }
    return ack c true

/-- Runs a command frame: the reply, if it can be served, and the new state. A frame without a
known command is not even recorded. -/
def handle (f : Frame) (s : State) : Option Frame × State :=
  match f.command? with
  | none => (none, s)
  | some c => (serve c ⟨f.params⟩).run { s with received := c :: s.received }

end SpiWifi.Device
