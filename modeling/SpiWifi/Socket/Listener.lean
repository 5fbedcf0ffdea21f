import SpiWifi.Socket.Stream

/-!
# Listeners

A socket that waits for connections on a port, and hands out those that have come.
-/

namespace SpiWifi

structure Listener where
  socket : SocketHandle
  port : UInt16
  deriving DecidableEq

namespace Listener

variable {τ : Type} [Transport τ]

def bind (port : UInt16) : HostM τ Listener := do
  return ⟨← Host.startServer port .tcp, port⟩

def status (l : Listener) : StateM (Host τ) TcpState := Host.serverStatus l.socket

def isListening (l : Listener) : StateM (Host τ) Bool := do
  return (← l.status) == .listen

def accept (l : Listener) : StateM (Host τ) (Option Stream) := do
  let client ← Host.accept l.socket
  return if client.isValid then some (Stream.ofHandle client) else none

def close (l : Listener) : HostM τ Unit := Host.tryStop l.socket

end Listener

end SpiWifi
