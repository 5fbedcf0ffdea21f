import SpiWifi.Socket.Lifecycle

/-!
# Datagram sockets

Outgoing datagrams are assembled on the device: one request sets the destination, others append
data, a last one sends. Received datagrams are read through the receive cache.
-/

namespace SpiWifi

structure DatagramSocket where
  socket : SocketHandle
  port : UInt16
  deriving DecidableEq

namespace DatagramSocket

variable {τ : Type} [Transport τ]

def bind (port : UInt16) : HostM τ DatagramSocket := do
  return ⟨← Host.startServer port .udp, port⟩

/-- Binds a socket to a port and joins a multicast group. -/
def bindMulticast (group : Ipv4) (port : UInt16) : HostM τ DatagramSocket := do
  return ⟨← Host.startServerAt group port .udpMulticast, port⟩

def require (c : Command) (x : LinkM τ Bool) : HostM τ Unit := do
  if !(← Host.ask x) then throw (.rejected c)

def beginPacket (d : DatagramSocket) (ip : Ipv4) (port : UInt16) : HostM τ Unit :=
  require .startClientTcp (Link.startClient ip port d.socket .udp)

def beginPacketHost (d : DatagramSocket) (host : String) (port : UInt16) : HostM τ Unit :=
  require .startClientTcp (Link.startClientHost host .unspecified port d.socket .udp)

/-- The bytes in pieces of at most `size` bytes, the last one perhaps shorter. -/
def pieces (size : Nat) : Bytes → List Bytes
  | [] => []
  | b :: rest => (b :: rest.take (size - 1)) :: pieces size (rest.drop (size - 1))
termination_by bytes => bytes.length
decreasing_by simp only [List.length_drop, List.length_cons]; omega

/-- Appends pieces to the datagram, up to the first that is refused. -/
def append (d : DatagramSocket) : List Bytes → HostM τ Unit
  | [] => return ()
  | piece :: rest => do
    require .insertDatabuf (Link.insertDataBuf d.socket piece)
    append d rest

def write (d : DatagramSocket) (data : Bytes) : HostM τ Nat := do
  d.append (pieces chunkMax data)
  return data.length

def endPacket (d : DatagramSocket) : HostM τ Unit :=
  require .sendDataUdp (Link.sendUdpData d.socket)

/-- Number of readable bytes of the next received datagram. -/
def available (d : DatagramSocket) : StateM (Host τ) Nat := Host.available d.socket

def read (d : DatagramSocket) (n : Nat) : StateM (Host τ) Bytes := Host.read d.socket n

def peek (d : DatagramSocket) : StateM (Host τ) (Option UInt8) := Host.peek d.socket

/-- Sender of the last received datagram. -/
def remote (d : DatagramSocket) : StateM (Host τ) (Option Endpoint) := Host.remote d.socket

def close (d : DatagramSocket) : HostM τ Unit := Host.tryStop d.socket

end DatagramSocket

end SpiWifi
