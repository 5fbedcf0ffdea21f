import Mathlib.Data.Prod.Basic
import SpiWifi.Proofs.Socket.Backlog

/-!
# Slots that are used again

The device hands its slots out again and again, and the host keeps a receive cache for each. A new
connection returns nothing but what its cache held when it was opened and what came in since, whatever
happens to sockets in between and whatever replies get lost. Where the host gives up a handle it frees
the cache. To reset the device gives up every handle but frees no cache, and then a new connection
returns bytes of the one that had its slot before.
-/

namespace SpiWifi

open Device

inductive Peer where
  | address (ip : Ipv4)
  | host (name : String)
  deriving DecidableEq

def Host.connectTo (peer : Peer) (port : UInt16) (mode : SocketMode) : HostM Line SocketHandle :=
  match peer with
  | .address ip => tryConnect ip port mode
  | .host name => tryConnectHost name port mode

/-- What may happen to the sockets of a host. The link can be stopped, which holds the device in
reset, and started. -/
inductive SocketEvent where
  | connect (peer : Peer) (port : UInt16) (mode : SocketMode)
  | stop (socket : SocketHandle)
  | available (socket : SocketHandle)
  | read (socket : SocketHandle) (n : Nat)
  | peek (socket : SocketHandle)
  | connected (socket : SocketHandle)
  | closeAll
  | push (raw : UInt8) (data : Bytes)
  | closeRemote (raw : UInt8)
  | setConnect (behavior : ConnectBehavior)
  | setClose (behavior : CloseBehavior)
  | loseReplies (c : Command) (n : Nat)
  | startLink
  | stopLink
  deriving DecidableEq

namespace SocketEvent

/-- The host after the event. -/
def apply (e : SocketEvent) (host : Host Line) : Host Line :=
  match e with
  | connect peer port mode => ((Host.connectTo peer port mode).run host).2
  | stop socket => ((Host.tryStop socket).run host).2
  | available socket => (Host.available socket host).2
  | read socket n => (Host.read socket n host).2
  | peek socket => (Host.peek socket host).2
  | connected socket => (Host.connected socket host).2
  | closeAll => host.closeAll
  | push raw data => host.told fun s => s.pushIncoming raw data
  | closeRemote raw => host.told fun s => s.closeRemote raw
  | setConnect behavior => host.told fun s => { s with connect := behavior }
  | setClose behavior => host.told fun s => { s with close := behavior }
  | loseReplies c n => host.told fun s => s.loseReplies c n
  | startLink => { host with link := host.link.start }
  | stopLink => { host with link := host.link.stop }

/-- The bytes that the event returns from a socket. -/
def returned (e : SocketEvent) (socket : SocketHandle) (host : Host Line) : Bytes :=
  match e with
  | read h n => if h = socket then (Host.read h n host).1 else []
  | _ => []

/-- The bytes that come in at a socket by the event. -/
def received (e : SocketEvent) (socket : SocketHandle) : Bytes :=
  match e with
  | push raw data => if raw = socket.raw then data else []
  | _ => []

end SocketEvent

namespace Host

def after (host : Host Line) : List SocketEvent → Host Line
  | [] => host
  | e :: rest => (e.apply host).after rest

def returnedBy (socket : SocketHandle) (host : Host Line) : List SocketEvent → Bytes
  | [] => []
  | e :: rest => e.returned socket host ++ returnedBy socket (e.apply host) rest

def receivedBy (socket : SocketHandle) (events : List SocketEvent) : Bytes :=
  events.flatMap fun e => e.received socket

end Host

/-- Whatever happens next, what the socket returns and then shows is taken from these bytes and those
that have come in at it since, in this order and each at most once. -/
def SocketHandle.Returns (socket : SocketHandle) (held : Bytes) (host : Host Line) : Prop :=
  ∀ events, (Host.returnedBy socket host events ++
    (Host.peek socket (host.after events)).1.toList).Sublist
      (held ++ Host.receivedBy socket events)

namespace Host

variable {host : Host Line} {socket : SocketHandle} {i : Fin socketCount}

theorem connectTo_opening (peer : Peer) (port : UInt16) (mode : SocketMode) :
    Opening (Socket.connectingKind mode.raw) host ((connectTo peer port mode).run host) := by
  cases peer with
  | address ip => exact tryConnect_opening ip port mode
  | host name => exact tryConnectHost_opening name port mode

/-- A poll ends with an answer that was wanted. -/
theorem pollFor_some {α β : Type} {ask : StateM (Host Line) α} {wanted : α → Option β} {b : β}
    {budget : Nat} {after : Host Line} (h : pollFor ask wanted budget host = (some b, after)) :
    ∃ before, wanted (ask before).1 = some b ∧ (ask before).2 = after := by
  induction budget generalizing host with
  | zero => cases h
  | succ budget ih =>
    rcases hasked : ask host with ⟨answer, next⟩
    rw [pollFor_succ hasked] at h
    cases hwanted : wanted answer with
    | some found =>
      rw [hwanted] at h
      cases h
      exact ⟨host, by rw [hasked]; exact hwanted, by rw [hasked]⟩
    | none =>
      rw [hwanted] at h
      exact ih h

theorem awaitConnected_connected {handle : SocketHandle} {after : Host Line}
    (h : (awaitConnected socket).run host = (.ok handle, after)) :
    handle = socket ∧ ∀ i, socket.index? = some i →
      (after.link.found i).state.isConnected = true := by
  rw [run_awaitConnected] at h
  rcases hpolled : pollFor (attempt (Link.clientState socket)) connectedAnswer
    host.sockets.connectAttempts.toNat host with ⟨_ | _, last⟩
  · rw [hpolled] at h
    cases h
  · rw [hpolled] at h
    cases h
    refine ⟨rfl, fun i hi => ?_⟩
    obtain ⟨before, hwanted, rfl⟩ := pollFor_some hpolled
    have huses : Link.Uses id socket before.link ((Link.clientState socket).run before.link).2 :=
      Link.clientState_uses before.link
    have hsame : (attempt (Link.clientState socket) before).2.link.found i =
        before.link.found i := huses.own i
    rw [hsame]
    rw [run_attempt] at hwanted
    cases hanswer : ((Link.clientState socket).run before.link).1 with
    | error e =>
      rw [hanswer] at hwanted
      cases hwanted
    | ok state =>
      obtain ⟨rfl, -⟩ := (Link.clientState_outcome before.link hi).of_ok hanswer
      rw [hanswer] at hwanted
      simp only [connectedAnswer] at hwanted
      split at hwanted
      · assumption
      · cases hwanted

/-- What connecting gives is found connected. -/
theorem connectBy_connected {start : SocketHandle → LinkM Line Bool} (hi : socket.index? = some i)
    {after : Host Line} (h : (connectBy start).run host = (.ok socket, after)) :
    (after.link.found i).state.isConnected = true := by
  unfold connectBy at h
  rw [run_bind] at h
  rcases hacquire : acquire.run host with ⟨e | acquired, first⟩
  · rw [hacquire] at h
    cases h
  · rw [hacquire] at h
    dsimp only at h
    rw [run_bind, run_ask] at h
    rcases hstart : (start acquired).run first.link with ⟨e | _ | _, link⟩
    · rw [hstart] at h
      cases h
    · rw [hstart] at h
      cases h
    · rw [hstart] at h
      dsimp only at h
      rw [if_pos rfl] at h
      obtain ⟨rfl, hlive⟩ := awaitConnected_connected h
      exact hlive i hi

theorem connectTo_connected {peer : Peer} {port : UInt16} {mode : SocketMode}
    (hi : socket.index? = some i) {after : Host Line}
    (h : (connectTo peer port mode).run host = (.ok socket, after)) :
    (after.link.found i).state.isConnected = true := by
  cases peer with
  | address ip => exact connectBy_connected hi h
  | host name => exact connectBy_connected hi h

theorem step_yields (hi : socket.index? = some i) (bare : (host.link.found i).Bare)
    (e : SocketEvent) :
    Yields socket i (e.returned socket host) (e.received socket) host (e.apply host) := by
  cases e with
  | connect peer port mode => exact (connectTo_opening peer port mode).fades.yields bare socket
  | stop h => exact (tryStop_fades h host).yields bare socket
  | available h => exact available_yields hi bare h
  | read h n => exact read_yields hi bare h n
  | peek h =>
    change Yields socket i [] [] host (peek h host).2
    rw [peek_host]
    exact available_yields hi bare h
  | connected h => exact connected_yields hi bare h
  | closeAll => exact (Fades.closeAll host).yields bare socket
  | push raw data => exact push_yields hi bare raw data
  | closeRemote raw => exact (closeRemote_fades host raw).yields bare socket
  | setConnect behavior =>
    exact (Fades.told_of_same host ({ · with connect := behavior }) fun _ => rfl).yields bare socket
  | setClose behavior =>
    exact (Fades.told_of_same host ({ · with close := behavior }) fun _ => rfl).yields bare socket
  | loseReplies c n =>
    exact (Fades.told_of_same host (·.loseReplies c n) fun _ => rfl).yields bare socket
  | startLink => exact (Fades.reset host.link.start_found).yields bare socket
  | stopLink => exact (Fades.reset host.link.stop_found).yields bare socket

theorem run_yields (hi : socket.index? = some i) (bare : (host.link.found i).Bare)
    (events : List SocketEvent) :
    Yields socket i (returnedBy socket host events) (receivedBy socket events) host
      (host.after events) := by
  induction events generalizing host with
  | nil => exact (Fades.refl host).yields bare socket
  | cons e rest ih =>
    have hstep := step_yields hi bare e
    exact hstep.trans (ih hstep.bare)

/-- Nothing is connected that nobody has reserved. -/
def Idle (host : Host Line) : Prop :=
  ∀ i, (host.link.found i).reserved = false → (host.link.found i).state.isConnected = false

theorem after_idle {link : Link Line} (fresh : ∀ i, link.found i = Socket.free)
    (sockets : SocketSettings) (station : StationSettings) (events : List SocketEvent) :
    ((new link sockets station).after events).Idle := by
  intro i
  have hbare : ((new link sockets station).link.found i).Bare := by
    change (link.found i).Bare
    rw [fresh]
    exact Socket.free_bare
  exact (run_yields (SocketHandle.index?_ofNat i) hbare events).bare.2

section
variable {peer : Peer} {port : UInt16} {mode : SocketMode} {opened : Host Line}

/-- Nothing but what is cached can be read from a connection that was just opened. -/
theorem backlog_of_connected (idle : host.Idle)
    (connected : (connectTo peer port mode).run host = (.ok socket, opened)) :
    ∃ i, socket.index? = some i ∧ (opened.link.found i).Bare ∧
      opened.backlog socket i = host.cache.bytes socket := by
  have hopening : Opening _ host ((connectTo peer port mode).run host) :=
    connectTo_opening peer port mode
  rw [connected] at hopening
  cases hopening with
  | opened _ _ i index vacant uses taken cache =>
    have hlive := connectTo_connected index connected
    -- a datagram socket is never found connected, whatever mode was asked for
    have hclient : (opened.link.found i).kind = .client := by
      rcases taken.live hlive with hclient | hsame
      · exact hclient
      · rw [hsame, idle i vacant] at hlive
        cases hlive
    obtain ⟨hrx, hdatagrams⟩ := taken.silent hclient
    refine ⟨i, index, ⟨hdatagrams, fun hfree => ?_⟩, ?_⟩
    · rw [taken.reserved] at hfree
      cases hfree
    · rw [backlog, cache, hrx, List.append_nil]

theorem returns_of_connected (idle : host.Idle)
    (connected : (connectTo peer port mode).run host = (.ok socket, opened)) :
    socket.Returns (host.cache.bytes socket) opened := by
  intro events
  obtain ⟨i, hi, hbare, hbacklog⟩ := backlog_of_connected idle connected
  have hrun := run_yields hi hbare events
  rw [← hbacklog]
  exact ((peek_sublist hi hrun.bare).append_left _).trans hrun.bytes

/-- A client that connects gives up what it held, and then has the host connect. -/
theorem connectTo_of_connectBy {s s' : Stream}
    (connected : (Stream.connectBy (connectTo peer port mode)).run.run (s, host) =
      (.ok (), s', opened)) :
    (connectTo peer port mode).run (Stream.stop (s, host)).2.2 = (.ok s'.socket, opened) := by
  have hrun := s.run_connectBy host (connectTo peer port mode)
  rw [show Stream.connectBy (connectTo peer port mode) (s, host) = _ from connected] at hrun
  rcases hconnect : (connectTo peer port mode).run (Stream.stop (s, host)).2.2 with ⟨e | socket, after⟩
  all_goals
    simp only [hconnect] at hrun
    cases hrun
  rfl

theorem stream_stop_host (s : Stream) (host : Host Line) :
    (Stream.stop (s, host)).2.2 = host.after [.stop s.socket] := by
  change _ = ((tryStop s.socket).run host).2
  cases hvalid : s.socket.isValid with
  | false =>
    rw [tryStop_of_invalid hvalid, s.stop_of_invalid host hvalid]
  | true => rw [s.stop_of_valid host hvalid]

theorem after_append (host : Host Line) (events events' : List SocketEvent) :
    host.after (events ++ events') = (host.after events).after events' := by
  induction events generalizing host with
  | nil => rfl
  | cons e rest ih => exact ih (e.apply host)

/-- After any run, a connection that is opened returns nothing but what its cache held then and what
comes in afterwards; and so does one that a client opens anew, after it gave up what it held. -/
theorem connections_return {link : Link Line} (fresh : ∀ i, link.found i = Socket.free)
    (sockets : SocketSettings) (station : StationSettings) (events : List SocketEvent) :
    let host := (new link sockets station).after events
    (∀ peer port mode socket opened,
      (connectTo peer port mode).run host = (.ok socket, opened) →
        socket.Returns (host.cache.bytes socket) opened) ∧
    ∀ s peer port mode s' opened,
      (Stream.connectBy (connectTo peer port mode)).run.run (s, host) = (.ok (), s', opened) →
        s'.socket.Returns ((host.after [.stop s.socket]).cache.bytes s'.socket) opened := by
  intro host
  constructor
  · intro peer port mode socket opened
    exact returns_of_connected (after_idle fresh sockets station events)
  · intro s peer port mode s' opened connected
    have hidle := after_idle fresh sockets station (events ++ [.stop s.socket])
    have hconnect := connectTo_of_connectBy connected
    rw [after_append] at hidle
    rw [stream_stop_host] at hconnect
    exact returns_of_connected hidle hconnect

end

/-- A connection is cut by a reset and made again. Its reads return what the cache held, then what came
in since. -/
theorem connections_return_after_reset :
    let link : Link Line := .new .new .instant
    let before : List SocketEvent :=
      [.connect (.address ⟨10, 0, 0, 1⟩) 80 .tcp, .push 0 [111, 108, 100], .available ⟨0⟩, .stopLink]
    let host := (new link .standard .standard).after before
    let opened := ((connectTo (.address ⟨10, 0, 0, 2⟩) 80 .tcp).run host).2
    let events : List SocketEvent := [.push 0 [110, 101, 119], .read ⟨0⟩ 8, .push 1 [49], .read ⟨0⟩ 2]
    (∀ i, link.found i = Socket.free) ∧
      (connectTo (.address ⟨10, 0, 0, 2⟩) 80 .tcp).run host = (.ok ⟨0⟩, opened) ∧
      host.cache.bytes ⟨0⟩ = [111, 108, 100] ∧
      returnedBy ⟨0⟩ opened events = [111, 108, 100, 110, 101] ∧
      (peek ⟨0⟩ (opened.after events)).1 = some 119 ∧
      (returnedBy ⟨0⟩ opened events ++ (peek ⟨0⟩ (opened.after events)).1.toList).Sublist
        (host.cache.bytes ⟨0⟩ ++ receivedBy ⟨0⟩ events) := by
  intro link before host opened events
  have fresh : ∀ i, link.found i = Socket.free := by decide
  have hanswer : ((connectTo (.address ⟨10, 0, 0, 2⟩) 80 .tcp).run host).1 = .ok ⟨0⟩ := by
    decide +kernel
  have connected : (connectTo (.address ⟨10, 0, 0, 2⟩) 80 .tcp).run host = (.ok ⟨0⟩, opened) :=
    Prod.fst_eq_iff.mp hanswer
  refine ⟨fresh, connected, ?_, ?_, ?_,
    (connections_return fresh .standard .standard before).1 _ _ _ _ _ connected events⟩
  · decide +kernel
  · decide +kernel
  · decide +kernel

/-- Bytes of an old connection are returned by a new one, at which nothing has come in. -/
theorem old_bytes_returned :
    ∃ (before events : List SocketEvent) (opened : Host Line),
      (connectTo (.address ⟨10, 0, 0, 1⟩) 80 .tcp).run
          ((new (.new .new .instant) .standard .standard).after before) = (.ok ⟨0⟩, opened) ∧
        returnedBy ⟨0⟩ opened events = [111, 108, 100] ∧ receivedBy ⟨0⟩ events = [] := by
  let before : List SocketEvent :=
    [.connect (.address ⟨10, 0, 0, 1⟩) 80 .tcp, .push 0 [111, 108, 100], .available ⟨0⟩, .stopLink,
      .startLink]
  let host := (new (.new .new .instant) .standard .standard).after before
  have hanswer : ((connectTo (.address ⟨10, 0, 0, 1⟩) 80 .tcp).run host).1 = .ok ⟨0⟩ := by
    decide +kernel
  refine ⟨before, [.read ⟨0⟩ 8], _, Prod.fst_eq_iff.mp hanswer, ?_, rfl⟩
  decide +kernel

end Host

end SpiWifi
