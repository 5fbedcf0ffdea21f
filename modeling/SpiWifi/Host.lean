import SpiWifi.Socket.Error
import SpiWifi.Socket.Requests
import SpiWifi.Socket.Settings
import SpiWifi.Station.Settings

/-!
# The host

Everything that the host keeps: its end of the link, the receive caches, the budgets, and what it
remembers of the station. The host operations pass this state along; what an operation did before it
failed stays done.
-/

namespace SpiWifi

structure StationMemory where
  /-- Names of the networks that the last scan found. -/
  networks : List String
  /-- The firmware's version, once it was read. -/
  firmware : Option String
  deriving DecidableEq

/-- The state of the host. -/
structure Host (τ : Type) where
  link : Link τ
  cache : ReceiveCache
  sockets : SocketSettings
  station : StationSettings
  memory : StationMemory

abbrev HostM (τ : Type) (α : Type) := ExceptT NetError (StateM (Host τ)) α

namespace Host

variable {τ : Type}

/-- A host over a link, with nothing cached. -/
def new (link : Link τ) (sockets : SocketSettings) (station : StationSettings) : Host τ where
  link := link
  cache := .new sockets.bufferSize.toNat
  sockets := sockets
  station := station
  memory := ⟨[], none⟩

def onLink {α : Type} (x : StateM (Link τ) α) : StateM (Host τ) α := fun h =>
  let (a, link) := x h.link
  (a, { h with link := link })

/-- An operation that cannot fail, among those that can. -/
def always {α : Type} (x : StateM (Host τ) α) : HostM τ α := fun h =>
  let (a, h) := x h
  (.ok a, h)

/-- Runs a request; its fault is one of the operation. -/
def ask {α : Type} (x : LinkM τ α) : HostM τ α := fun h =>
  match onLink x h with
  | (.ok a, h) => (.ok a, h)
  | (.error e, h) => (.error (.link e), h)

/-- Runs a request and gives its value or its fault. -/
def attempt {α : Type} (x : LinkM τ α) : StateM (Host τ) (Except LinkError α) := onLink x.run

/-- Runs a cache operation with the device as the source. -/
def onCache {α : Type} (x : ReceiveCache → Link τ → α × ReceiveCache × Link τ) :
    StateM (Host τ) α := fun h =>
  let (a, cache, link) := x h.cache h.link
  (a, { h with cache := cache, link := link })

def closeCache (socket : SocketHandle) (h : Host τ) : Host τ :=
  { h with cache := h.cache.close socket }

/-- Frees the receive cache of a socket after an operation, whatever its outcome. -/
def thenClose {α : Type} (socket : SocketHandle) (x : HostM τ α) : HostM τ α := fun h =>
  let (result, h) := x h
  (result, h.closeCache socket)

end Host

end SpiWifi
