import SpiWifi.Table

/-!
# Sockets as the device names them

A socket is a slot on the device, named by one byte; a byte that names no slot means that there is
no socket. Beside the handle stand the TCP states that the device reports and the modes in which a
socket is opened.
-/

namespace SpiWifi

def socketCount : Nat := 10

/-- A socket slot, or no socket. -/
structure SocketHandle where
  raw : UInt8
  deriving DecidableEq

namespace SocketHandle

def none : SocketHandle := ⟨255⟩

instance : Inhabited SocketHandle := ⟨none⟩

def slotOf? (raw : UInt8) : Option (Fin socketCount) :=
  if h : raw.toNat < socketCount then some ⟨raw.toNat, h⟩ else Option.none

def index? (h : SocketHandle) : Option (Fin socketCount) := slotOf? h.raw

def isValid (h : SocketHandle) : Bool := h.index?.isSome

def toText (h : SocketHandle) : String :=
  if h.isValid then "socket " ++ toString h.raw.toNat else "no socket"

end SocketHandle

inductive TcpState where
  | closed
  | listen
  | synSent
  | synRcvd
  | established
  | finWait1
  | finWait2
  | closeWait
  | closing
  | lastAck
  | timeWait
  deriving DecidableEq, Inhabited

namespace TcpState

def all : List TcpState :=
  [closed, listen, synSent, synRcvd, established, finWait1, finWait2, closeWait, closing, lastAck,
    timeWait]

def raw : TcpState → UInt8
  | closed => 0
  | listen => 1
  | synSent => 2
  | synRcvd => 3
  | established => 4
  | finWait1 => 5
  | finWait2 => 6
  | closeWait => 7
  | closing => 8
  | lastAck => 9
  | timeWait => 10

def ofRaw? (raw : UInt8) : Option TcpState := all.find? fun s => s.raw == raw

def key : TcpState → String
  | closed => "CLOSED"
  | listen => "LISTEN"
  | synSent => "SYN_SENT"
  | synRcvd => "SYN_RCVD"
  | established => "ESTABLISHED"
  | finWait1 => "FIN_WAIT1"
  | finWait2 => "FIN_WAIT2"
  | closeWait => "CLOSE_WAIT"
  | closing => "CLOSING"
  | lastAck => "LAST_ACK"
  | timeWait => "TIME_WAIT"

/-- Whether a socket in this state counts as connected: every state outside the handshake,
listening and the teardown that the peer or this side began. -/
def isConnected : TcpState → Bool
  | established | closing | lastAck => true
  | _ => false

end TcpState

inductive SocketMode where
  | tcp
  | udp
  | tls
  | udpMulticast
  deriving DecidableEq, Inhabited

namespace SocketMode

def all : List SocketMode := [tcp, udp, tls, udpMulticast]

def raw : SocketMode → UInt8
  | tcp => 0
  | udp => 1
  | tls => 2
  | udpMulticast => 3

def key : SocketMode → String
  | tcp => "tcp"
  | udp => "udp"
  | tls => "tls"
  | udpMulticast => "udp_multicast"

def isDatagram (raw : UInt8) : Bool := raw == udp.raw || raw == udpMulticast.raw

end SocketMode

end SpiWifi
