import SpiWifi.Host
import SpiWifi.Polling

/-!
# Socket lifecycle

Opening, using and closing sockets. The device does not report when a socket has connected, when
data has been delivered or when a socket has closed, so each of these is a poll with a budget, in
which an answer that cannot be read counts as one that is still pending.
-/

namespace SpiWifi

/-- The most bytes that one send or one piece of a datagram carries: the frame around them must not
exceed its limit. -/
def chunkMax : Nat := 243

namespace Host

variable {τ : Type} [Transport τ]

/-- Asks the device for a free socket; no socket if there is none or the request failed. -/
def getSocket : StateM (Host τ) SocketHandle := do
  match ← attempt Link.getSocket with
  | .ok socket => return socket
  | .error _ => return .none

def acquire : HostM τ SocketHandle := do
  let socket ← ask Link.getSocket
  if socket.isValid then return socket else throw .noSocketAvailable

/-- The answer that a poll for a connection waits for. -/
def connectedAnswer (answer : Except LinkError TcpState) : Option Unit :=
  match answer with
  | .ok state => if state.isConnected then some () else none
  | .error _ => none

def awaitConnected (socket : SocketHandle) : HostM τ SocketHandle := do
  let attempts := (← get).sockets.connectAttempts
  match ← always (pollFor (attempt (Link.clientState socket)) connectedAnswer attempts.toNat) with
  | some _ => return socket
  | none =>
    modify (closeCache socket)
    throw (.connectTimeout socket attempts)

def connectBy (start : SocketHandle → LinkM τ Bool) : HostM τ SocketHandle := do
  let socket ← acquire
  if ← ask (start socket) then awaitConnected socket else throw (.rejected .startClientTcp)

def tryConnect (ip : Ipv4) (port : UInt16) (mode : SocketMode) : HostM τ SocketHandle :=
  connectBy fun socket => Link.startClient ip port socket mode

def tryConnectHost (host : String) (port : UInt16) (mode : SocketMode) : HostM τ SocketHandle :=
  connectBy fun socket => Link.startClientHost host .unspecified port socket mode

def orNone (x : HostM τ SocketHandle) : StateM (Host τ) SocketHandle := do
  match ← x.run with
  | .ok socket => return socket
  | .error _ => return .none

def connect (ip : Ipv4) (port : UInt16) (mode : SocketMode) : StateM (Host τ) SocketHandle :=
  orNone (tryConnect ip port mode)

def connectHost (host : String) (port : UInt16) (mode : SocketMode) :
    StateM (Host τ) SocketHandle :=
  orNone (tryConnectHost host port mode)

def connectTls (host : String) (port : UInt16) : StateM (Host τ) SocketHandle :=
  connectHost host port .tls

def listenBy (start : SocketHandle → LinkM τ Bool) : HostM τ SocketHandle := do
  let socket ← acquire
  if ← ask (start socket) then return socket else throw (.rejected .startServerTcp)

def startServer (port : UInt16) (mode : SocketMode) : HostM τ SocketHandle :=
  listenBy fun socket => Link.startServer port socket mode

def startServerAt (ip : Ipv4) (port : UInt16) (mode : SocketMode) : HostM τ SocketHandle :=
  listenBy fun socket => Link.startServerAt ip port socket mode

def accept (socket : SocketHandle) : StateM (Host τ) SocketHandle := do
  if socket.isValid then
    match ← attempt (Link.availServer socket) with
    | .ok client => return client
    | .error _ => return .none
  else return .none

def deliveredAnswer (answer : Except LinkError Bool) : Option Unit :=
  match answer with
  | .ok true => some ()
  | _ => none

/-- Sends the first bytes of the data, as many as one frame carries, and waits for delivery. The
value is the number of bytes that the device accepted. -/
def write (socket : SocketHandle) (data : Bytes) : HostM τ Nat := do
  if !socket.isValid then throw .invalidSocket
  if data.isEmpty then throw .emptyPayload
  let accepted ← ask (Link.sendData socket (data.take chunkMax))
  if accepted = 0 then throw (.sendRejected socket)
  let attempts := (← get).sockets.confirmAttempts
  let ask := attempt (Link.checkDataSent socket)
  match ← always (pollFor ask deliveredAnswer attempts.toNat) with
  | some _ => return accepted.toNat
  | none => throw (.sendUnconfirmed socket attempts)

def available (socket : SocketHandle) : StateM (Host τ) Nat :=
  onCache (ReceiveCache.available Link.fetchInto socket)

def read (socket : SocketHandle) (n : Nat) : StateM (Host τ) Bytes :=
  onCache (ReceiveCache.read Link.fetchInto socket n)

def peek (socket : SocketHandle) : StateM (Host τ) (Option UInt8) :=
  onCache (ReceiveCache.peek Link.fetchInto socket)

/-- Asks for the state of a socket; closed if it cannot be read. -/
def stateBy (state : SocketHandle → LinkM τ TcpState) (socket : SocketHandle) :
    StateM (Host τ) TcpState := do
  if socket.isValid then
    match ← attempt (state socket) with
    | .ok state => return state
    | .error _ => return .closed
  else return .closed

def status (socket : SocketHandle) : StateM (Host τ) TcpState := stateBy Link.clientState socket

def serverStatus (socket : SocketHandle) : StateM (Host τ) TcpState :=
  stateBy Link.serverState socket

/-- Whether a socket has unread bytes or a live connection. If it has neither its cache is
freed. -/
def connected (socket : SocketHandle) : StateM (Host τ) Bool := do
  if !socket.isValid then return false
  if 0 < (← available socket) then return true
  if (← status socket).isConnected then return true
  modify (closeCache socket)
  return false

def remote (socket : SocketHandle) : StateM (Host τ) (Option Endpoint) := do
  if socket.isValid then
    match ← attempt (Link.remoteData socket) with
    | .ok peer => return peer
    | .error _ => return none
  else return none

def closedAnswer (answer : Except LinkError TcpState) : Option Unit :=
  match answer with
  | .ok .closed => some ()
  | _ => none

/-- Asks the device to close a socket, and waits until it has. -/
def stopAndWait (socket : SocketHandle) : HostM τ Unit := do
  let _ ← always (attempt (Link.stopClient socket))
  let attempts := (← get).sockets.stopAttempts
  match ← always (pollFor (attempt (Link.clientState socket)) closedAnswer attempts.toNat) with
  | some _ => return ()
  | none => throw (.closeTimeout socket attempts)

/-- Closes a socket. Its cache is freed whatever the outcome. -/
def tryStop (socket : SocketHandle) : HostM τ Unit :=
  if socket.isValid then thenClose socket (stopAndWait socket) else throw .invalidSocket

/-- Closes a socket, reporting only whether the device confirmed it. -/
def stop (socket : SocketHandle) : StateM (Host τ) Bool := do
  return (← (tryStop socket).run).toBool

def closeAll (h : Host τ) : Host τ := { h with cache := h.cache.closeAll }

def isBuffered (socket : SocketHandle) (h : Host τ) : Bool := h.cache.isAllocated socket

end Host

end SpiWifi
