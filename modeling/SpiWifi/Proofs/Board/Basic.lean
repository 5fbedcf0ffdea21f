import SpiWifi.Proofs.Socket.Conversation
import SpiWifi.Proofs.Socket.Openings
import SpiWifi.Socket.DatagramSocket
import SpiWifi.Socket.Listener

/-!
# Boards

A board is a host with one emulated device and all the socket objects that live on it: connections,
listeners and datagram sockets, each with the handle that it holds. A run is any sequence of their
operations and of what happens to the device from outside. Objects go by their place in the order in
which they were made; a listener or datagram socket that was closed is gone for good, and leaves its
place empty.
-/

namespace SpiWifi

open Device

namespace Device

/-- What happens to the device from outside, be it a peer or its surroundings. -/
inductive Happening where
  | connection (port : UInt16) (peer : Endpoint) (data : Bytes)
  | push (raw : UInt8) (data : Bytes)
  | pushDatagram (raw : UInt8) (sender : Endpoint) (data : Bytes)
  | closeRemote (raw : UInt8)
  | addHost (name : String) (ip : Ipv4)
  | loseReplies (c : Command) (n : Nat)
  | setConnect (behavior : ConnectBehavior)
  | setClose (behavior : CloseBehavior)
  | setConfirmSends (on : Bool)
  | setAcceptLimit (limit : Option Nat)
  | setEcho (on : Bool)
  deriving DecidableEq

def Happening.apply (h : Happening) (s : State) : State :=
  match h with
  | connection port peer data => (s.injectConnection port peer data).2
  | push raw data => s.pushIncoming raw data
  | pushDatagram raw sender data => s.pushDatagram raw sender data
  | closeRemote raw => s.closeRemote raw
  | addHost name ip => s.addHost name ip
  | loseReplies c n => s.loseReplies c n
  | setConnect behavior => { s with connect := behavior }
  | setClose behavior => { s with close := behavior }
  | setConfirmSends on => { s with confirmSends := on }
  | setAcceptLimit limit => { s with acceptLimit := limit }
  | setEcho on => { s with echo := on }

end Device

inductive Owner where
  | stream (s : Stream)
  | listener (l : Listener)
  | datagrams (d : DatagramSocket)
  | closed
  deriving DecidableEq

def Owner.socket : Owner → SocketHandle
  | stream s => s.socket
  | listener l => l.socket
  | datagrams d => d.socket
  | closed => .none

inductive StreamOp where
  | connect (ip : Ipv4) (port : UInt16) (mode : SocketMode)
  | connectHost (name : String) (port : UInt16)
  | connectTls (name : String) (port : UInt16)
  | stop
  | write (data : Bytes)
  | send (data : Bytes)
  | clearWriteError
  | available
  | readBytes (n : Nat)
  | receive (n : Nat)
  | peek
  | connected
  | status
  | remote
  deriving DecidableEq

namespace StreamOp

/-- The operation opens the connection anew. -/
def opens : StreamOp → Bool
  | connect .. | connectHost .. | connectTls .. => true
  | _ => false

/-- The operation hands data over. -/
def writes : StreamOp → Bool
  | write _ | send _ => true
  | _ => false

/-- The connection and the host after the operation. -/
def run (op : StreamOp) (st : Stream × Host Line) : Stream × Host Line :=
  match op with
  | connect ip port mode => ((Stream.connect ip port mode).run.run st).2
  | connectHost name port => ((Stream.connectHost name port).run.run st).2
  | connectTls name port => ((Stream.connectTls name port).run.run st).2
  | stop => (Stream.stop.run.run st).2
  | write data => ((Stream.write data).run.run st).2
  | send data => ((Stream.send data).run.run st).2
  | clearWriteError => (st.1.clearWriteError, st.2)
  | available => (Stream.available.run st).2
  | readBytes n => ((Stream.readBytes n).run st).2
  | receive n => ((Stream.receive n).run.run st).2
  | peek => (Stream.peek.run st).2
  | connected => (Stream.connected.run st).2
  | status => (Stream.status.run st).2
  | remote => (Stream.remote.run st).2

end StreamOp

/-- What can be done with a datagram socket that stays open. -/
inductive DatagramOp where
  | beginPacket (ip : Ipv4) (port : UInt16)
  | beginPacketHost (name : String) (port : UInt16)
  | write (data : Bytes)
  | endPacket
  | available
  | read (n : Nat)
  | peek
  | remote
  deriving DecidableEq

def DatagramOp.run (op : DatagramOp) (d : DatagramSocket) (host : Host Line) : Host Line :=
  match op with
  | beginPacket ip port => ((d.beginPacket ip port).run.run host).2
  | beginPacketHost name port => ((d.beginPacketHost name port).run.run host).2
  | write data => ((d.write data).run.run host).2
  | endPacket => (d.endPacket.run.run host).2
  | available => (d.available.run host).2
  | read n => ((d.read n).run host).2
  | peek => (d.peek.run host).2
  | remote => (d.remote.run host).2

inductive BoardEvent where
  | happens (h : Happening)
  | newStream
  | bind (port : UInt16)
  | bindDatagrams (port : UInt16)
  | bindMulticast (group : Ipv4) (port : UInt16)
  | stream (k : Nat) (op : StreamOp)
  | accept (k : Nat)
  | isListening (k : Nat)
  | closeListener (k : Nat)
  | datagrams (k : Nat) (op : DatagramOp)
  | closeDatagrams (k : Nat)
  deriving DecidableEq

def BoardEvent.writes : BoardEvent → Bool
  | stream _ op => op.writes
  | _ => false

/-- A host with its device, and the objects on it. -/
structure Board where
  host : Host Line
  owners : List Owner

namespace Board

def start (link : Link Line) (sockets : SocketSettings) (station : StationSettings) : Board :=
  ⟨Host.new link sockets station, []⟩

def told (b : Board) (h : Happening) : Board := ⟨b.host.told h.apply, b.owners⟩

/-- A new object is made, if the device allows it. -/
def make {α : Type} (b : Board) (x : HostM Line α) (owner : α → Owner) : Board :=
  match x.run.run b.host with
  | (.ok a, host) => ⟨host, b.owners ++ [owner a]⟩
  | (.error _, host) => ⟨host, b.owners⟩

def step (b : Board) (e : BoardEvent) : Board :=
  match e with
  | .happens h => b.told h
  | .newStream => ⟨b.host, b.owners ++ [.stream .idle]⟩
  | .bind port => b.make (Listener.bind port) .listener
  | .bindDatagrams port => b.make (DatagramSocket.bind port) .datagrams
  | .bindMulticast group port => b.make (DatagramSocket.bindMulticast group port) .datagrams
  | .stream k op =>
    match b.owners[k]? with
    | some (.stream s) =>
      let (s, host) := op.run (s, b.host)
      ⟨host, b.owners.set k (.stream s)⟩
    | _ => b
  | .accept k =>
    match b.owners[k]? with
    | some (.listener l) =>
      let (client, host) := l.accept.run b.host
      ⟨host, b.owners ++ client.toList.map .stream⟩
    | _ => b
  | .isListening k =>
    match b.owners[k]? with
    | some (.listener l) => ⟨(l.isListening.run b.host).2, b.owners⟩
    | _ => b
  | .closeListener k =>
    match b.owners[k]? with
    | some (.listener l) => ⟨(l.close.run.run b.host).2, b.owners.set k .closed⟩
    | _ => b
  | .datagrams k op =>
    match b.owners[k]? with
    | some (.datagrams d) => ⟨op.run d b.host, b.owners⟩
    | _ => b
  | .closeDatagrams k =>
    match b.owners[k]? with
    | some (.datagrams d) => ⟨(d.close.run.run b.host).2, b.owners.set k .closed⟩
    | _ => b

def run (b : Board) : List BoardEvent → Board
  | [] => b
  | e :: rest => (b.step e).run rest

/-- The slots that the objects hold, in their order. -/
def held (b : Board) : List (Fin socketCount) := b.owners.filterMap fun o => o.socket.index?

end Board

end SpiWifi
