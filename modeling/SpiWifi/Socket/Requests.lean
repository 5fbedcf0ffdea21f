import SpiWifi.Link.Transaction
import SpiWifi.Socket.Cache

/-!
# Socket requests

The socket commands, one request and reply each. Polling and what a refusal means belong to the
operations built on these.
-/

namespace SpiWifi

def ackByte : UInt8 := 1

namespace Link

variable {τ : Type} [Transport τ]

/-- Runs a request: the number of reply parameters stored, and the slots. -/
def call (f : Frame) (slots : List Slot) : LinkM τ (Nat × List Slot) := fun l =>
  match request f slots l with
  | ((.error e, _), l) => (.error e, l)
  | ((.ok reply, slots), l) => (.ok (reply.count, slots), l)

/-- Runs a request and reads a value of at most `size` bytes from its first reply parameter. -/
def readValue {α : Type} (size : Nat) (read : Slot → Option α) (f : Frame) :
    LinkM τ (Option α) := do
  match ← call f [Slot.forValue size] with
  | (_ + 1, [slot]) => return read slot
  | _ => return none

def readU8 (f : Frame) : LinkM τ (Option UInt8) := readValue 1 Slot.u8? f

/-- Reads a 16-bit scalar in the device's own byte order. -/
def readU16LE (f : Frame) : LinkM τ (Option UInt16) := readValue 2 Slot.u16LE? f

def readU32LE (f : Frame) : LinkM τ (Option UInt32) := readValue 4 Slot.u32LE? f

def ack (f : Frame) : LinkM τ Bool := do
  return (← readU8 f) == some ackByte

def about (c : Command) (h : SocketHandle) : Frame := (Frame.command c).withU8 h.raw

def getSocket : LinkM τ SocketHandle := do
  return ((← readU8 (Frame.command .getSocket)).map SocketHandle.mk).getD .none

def openParams (f : Frame) (port : UInt16) (h : SocketHandle) (mode : SocketMode) : Frame :=
  ((f.withU16 port).withU8 h.raw).withU8 mode.raw

def startServer (port : UInt16) (h : SocketHandle) (mode : SocketMode) : LinkM τ Bool :=
  ack (openParams (Frame.command .startServerTcp) port h mode)

/-- Listens on a port at an address, such as a multicast group. -/
def startServerAt (ip : Ipv4) (port : UInt16) (h : SocketHandle) (mode : SocketMode) :
    LinkM τ Bool :=
  ack (openParams ((Frame.command .startServerTcp).withIpv4 ip) port h mode)

def startClient (ip : Ipv4) (port : UInt16) (h : SocketHandle) (mode : SocketMode) :
    LinkM τ Bool :=
  ack (openParams ((Frame.command .startClientTcp).withIpv4 ip) port h mode)

/-- Opens a connection to a host that the device resolves. -/
def startClientHost (host : String) (ip : Ipv4) (port : UInt16) (h : SocketHandle)
    (mode : SocketMode) : LinkM τ Bool :=
  ack (openParams
    (((Frame.command .startClientTcp).withParam (Text.Utf8.encode host)).withIpv4 ip) port h mode)

def stopClient (h : SocketHandle) : LinkM τ Bool := ack (about .stopClientTcp h)

/-- Asks for a state; an unknown one, or none, counts as closed. -/
def socketState (c : Command) (h : SocketHandle) : LinkM τ TcpState := do
  return ((← readU8 (about c h)).bind TcpState.ofRaw?).getD .closed

def serverState (h : SocketHandle) : LinkM τ TcpState := socketState .getStateTcp h

def clientState (h : SocketHandle) : LinkM τ TcpState := socketState .getClientStateTcp h

def availData (h : SocketHandle) : LinkM τ UInt16 := do
  return (← readU16LE (about .availDataTcp h)).getD 0

/-- The handle that a 16-bit answer names, if it fits a byte. -/
def handleOf (answer : Option UInt16) : SocketHandle :=
  match answer with
  | some v => if v.toNat ≤ 255 then ⟨v.toUInt8⟩ else .none
  | none => .none

def availServer (h : SocketHandle) : LinkM τ SocketHandle := do
  return handleOf (← readU16LE (about .availDataTcp h))

def getData (h : SocketHandle) (peek : Bool) : LinkM τ (Option UInt8) :=
  readU8 ((about .getDataTcp h).withU8 (if peek then 1 else 0))

/-- Moves waiting bytes into the slot, as many as it can keep: how many it got, or why none, and
the slot. -/
def getDataBuf (h : SocketHandle) (slot : Slot) :
    StateM (Link τ) (Except LinkError Nat × Slot) := do
  let want := UInt16.ofNat (min (slot.capacity - 1) 65535)
  match ← request ((about .getDatabufTcp h).withU16 want) [slot] with
  | (.error e, slots) => return (.error e, slots.headD slot)
  | (.ok reply, slots) =>
    let slot := slots.headD slot
    return (.ok (if reply.count = 0 then 0 else slot.length), slot)

def insertDataBuf (h : SocketHandle) (data : Bytes) : LinkM τ Bool :=
  ack ((about .insertDatabuf h).withParam data)

def sendUdpData (h : SocketHandle) : LinkM τ Bool := ack (about .sendDataUdp h)

/-- Hands data to the device: how many bytes it accepted. -/
def sendData (h : SocketHandle) (data : Bytes) : LinkM τ UInt16 := do
  return (← readU16LE ((about .sendDataTcp h).withParam data)).getD 0

def checkDataSent (h : SocketHandle) : LinkM τ Bool := do
  return ((← readU8 (about .dataSentTcp h)).map fun sent => sent != 0).getD false

def remoteData (h : SocketHandle) : LinkM τ (Option Endpoint) := do
  match ← call (about .getRemoteData h) [Slot.forValue 4, Slot.forValue 2] with
  | (_ + 2, [ip, port]) =>
    match ip.ipv4?, port.u16? with
    | some ip, some port => return some ⟨ip, port⟩
    | _, _ => return none
  | _ => return none

/-- The device as the source of the receive cache. A fetch that fails brings nothing. -/
def fetchInto : Fetch (Link τ) := fun h slot l =>
  match getDataBuf h slot l with
  | ((.ok n, slot), l) => ((n, slot), l)
  | ((.error _, slot), l) => ((0, slot), l)

end Link

end SpiWifi
