import SpiWifi.Device.State

/-!
# The world around the device

What happens to the emulated device from outside: peers connect, send and close, networks and hosts
appear, and the device is told how to behave. Beside these stand the views by which a test sees what
the host has done.
-/

namespace SpiWifi.Device.State

/-- The next so many replies to a command are swallowed, though the command is served. -/
def loseReplies (s : State) (c : Command) (n : Nat) : State := { s with lost := s.lost.set c n }

def addNetwork (s : State) (n : AccessPoint) : State := { s with networks := s.networks ++ [n] }

def addHost (s : State) (host : String) (ip : Ipv4) : State :=
  { s with hosts := s.hosts.set host ip }

def pushIncoming (s : State) (raw : UInt8) (data : Bytes) : State :=
  s.onSocket raw fun socket => { socket with rx := socket.rx ++ data }

def pushDatagram (s : State) (raw : UInt8) (sender : Endpoint) (data : Bytes) : State :=
  s.onSocket raw fun socket => { socket with datagrams := socket.datagrams ++ [⟨sender, data⟩] }

def closeRemote (s : State) (raw : UInt8) : State :=
  s.onSocket raw fun socket =>
    if socket.state = .established then { socket with state := .closeWait } else socket

def listenerOn? (s : State) (port : UInt16) : Option (Fin socketCount) :=
  s.findSlot? fun socket =>
    socket.kind == .server && socket.state == .listen && socket.localPort == port

/-- A peer connects to the listener on a port and sends data. The answer names the new slot, or no
slot if nobody listens or none is free. -/
def injectConnection (s : State) (port : UInt16) (peer : Endpoint) (data : Bytes) :
    UInt8 × State :=
  match s.listenerOn? port with
  | none => (SocketHandle.none.raw, s)
  | some listener =>
    match s.reserve with
    | (raw, s) =>
      match SocketHandle.slotOf? raw with
      | none => (raw, s)
      | some i =>
        let s := s.modifySocket i fun socket =>
          { socket with
            kind := .client
            state := .established
            remote := some peer
            localPort := port
            rx := socket.rx ++ data }
        (raw, s.modifySocket listener fun socket =>
          { socket with waiting := socket.waiting ++ [raw] })

def sentData (s : State) (raw : UInt8) : Bytes := ((s.socket? raw).map Socket.tx).getD []

def sentPackets (s : State) (raw : UInt8) : List SentPacket :=
  ((s.socket? raw).map Socket.packets).getD []

/-- The state of a slot; closed where there is none. -/
def socketState (s : State) (raw : UInt8) : TcpState :=
  ((s.socket? raw).map Socket.state).getD .closed

def isReserved (s : State) (raw : UInt8) : Bool :=
  ((s.socket? raw).map Socket.reserved).getD false

end SpiWifi.Device.State
