import SpiWifi.Socket.Lifecycle

/-!
# Connections

A client connection, as its owner holds it: the handle of its socket, and whether a write has failed
since that was last forgiven. The operations give the connection back as they leave it. Reading and
writing come in two forms: as the host offers them, and in the manner of a byte stream, where an empty
read means the end and waiting is an error.
-/

namespace SpiWifi

structure Stream where
  socket : SocketHandle
  /-- Whether a write has failed. -/
  writeFailed : Bool
  deriving DecidableEq

inductive StreamError where
  | wouldBlock
  | notConnected (cause : NetError)
  | other (cause : NetError)
  /-- A write that took nothing. -/
  | writeZero
  /-- The end came before the last byte wanted. -/
  | unexpectedEnd
  deriving DecidableEq

namespace StreamError

def cause? : StreamError → Option NetError
  | notConnected e | other e => some e
  | _ => none

def message : StreamError → String
  | wouldBlock => "operation would block"
  | notConnected e | other e => e.message
  | writeZero => "failed to write whole buffer"
  | unexpectedEnd => "failed to fill whole buffer"

def ofNet (e : NetError) : StreamError :=
  match e with
  | .invalidSocket => notConnected .invalidSocket
  | e => other e

end StreamError

abbrev StreamM (τ ε α : Type) := ExceptT ε (StateM (Stream × Host τ)) α

namespace Stream

variable {τ : Type} [Transport τ]

def ofHandle (socket : SocketHandle) : Stream := ⟨socket, false⟩

def idle : Stream := ofHandle .none

def clearWriteError (s : Stream) : Stream := { s with writeFailed := false }

/-- Closes the connection. The handle is dropped even if the device never confirms. -/
def stop : StreamM τ NetError Unit := fun (s, h) =>
  if s.socket.isValid then
    match Host.tryStop s.socket h with
    | (result, h) => (result, { s with socket := .none }, h)
  else (.ok (), s, h)

/-- Opens the connection anew, after closing what was open. -/
def connectBy (connect : HostM τ SocketHandle) : StreamM τ NetError Unit := fun (s, h) =>
  match stop (s, h) with
  | (_, s, h) =>
    match connect h with
    | (.ok socket, h) => (.ok (), { s with socket := socket }, h)
    | (.error e, h) => (.error e, s, h)

def connect (ip : Ipv4) (port : UInt16) (mode : SocketMode) : StreamM τ NetError Unit :=
  connectBy (Host.tryConnect ip port mode)

def connectHost (host : String) (port : UInt16) : StreamM τ NetError Unit :=
  connectBy (Host.tryConnectHost host port .tcp)

/-- Opens a secured session; the handshake is the device's. -/
def connectTls (host : String) (port : UInt16) : StreamM τ NetError Unit :=
  connectBy (Host.tryConnectHost host port .tls)

/-- Sends the first bytes of the data. A failure is remembered. -/
def write (data : Bytes) : StreamM τ NetError Nat := fun (s, h) =>
  match Host.write s.socket data h with
  | (.ok n, h) => (.ok n, s, h)
  | (.error e, h) => (.error e, { s with writeFailed := true }, h)

def onSocket {α : Type} (x : SocketHandle → StateM (Host τ) α) : StateM (Stream × Host τ) α :=
  fun (s, h) =>
    let (a, h) := x s.socket h
    (a, s, h)

def available : StateM (Stream × Host τ) Nat := onSocket Host.available

def readBytes (n : Nat) : StateM (Stream × Host τ) Bytes :=
  onSocket fun socket => Host.read socket n

def peek : StateM (Stream × Host τ) (Option UInt8) := onSocket Host.peek

def status : StateM (Stream × Host τ) TcpState := onSocket Host.status

def remote : StateM (Stream × Host τ) (Option Endpoint) := onSocket Host.remote

/-- Whether the connection is alive or has unread bytes. The handle is dropped once it has
neither. -/
def connected : StateM (Stream × Host τ) Bool := fun (s, h) =>
  match Host.connected s.socket h with
  | (true, h) => (true, s, h)
  | (false, h) => (false, { s with socket := .none }, h)

/-- Reads at most `n` bytes. Nothing from a wish for some bytes means the end of the stream; a
connection that is alive without bytes would block. -/
def receive (n : Nat) : StreamM τ StreamError Bytes := fun st =>
  if n = 0 then (.ok [], st)
  else
    match readBytes n st with
    | ([], st) =>
      match connected st with
      | (true, st) => (.error .wouldBlock, st)
      | (false, st) => (.ok [], st)
    | (bytes, st) => (.ok bytes, st)

/-- Sends the first bytes of the data; of no data, nothing. -/
def send (data : Bytes) : StreamM τ StreamError Nat := fun st =>
  if data.isEmpty then (.ok 0, st)
  else
    match write data st with
    | (.ok n, st) => (.ok n, st)
    | (.error e, st) => (.error (.ofNet e), st)

/-- Sends all of the data, piece by piece, up to the first failure. -/
def sendAll (data : Bytes) : StreamM τ StreamError Unit := fun st =>
  if data.isEmpty then (.ok (), st)
  else
    match send data st with
    | (.error e, st) => (.error e, st)
    | (.ok 0, st) => (.error .writeZero, st)
    | (.ok (n + 1), st) => sendAll (data.drop (n + 1)) st
termination_by data.length
decreasing_by
  rename_i h
  simp only [List.isEmpty_iff] at h
  have : 0 < data.length := List.length_pos_iff.2 h
  simp only [List.length_drop]
  omega

/-- Reads exactly `n` bytes, up to the first failure or the end of the stream. -/
def receiveExact : Nat → StreamM τ StreamError Bytes := fun n st =>
  if n = 0 then (.ok [], st)
  else
    match receive n st with
    | (.error e, st) => (.error e, st)
    | (.ok [], st) => (.error .unexpectedEnd, st)
    | (.ok (b :: bytes), st) =>
      match receiveExact (n - (bytes.length + 1)) st with
      | (.error e, st) => (.error e, st)
      | (.ok rest, st) => (.ok (b :: bytes ++ rest), st)
termination_by n => n
decreasing_by omega

end Stream

end SpiWifi
