/-!
# Signals

A signal is a binary semaphore: raising it twice is raising it once, and taking it lowers it. The
interrupt side raises, the host takes.
-/

namespace SpiWifi

/-- A notification that is either raised or not. -/
structure Signal where
  raised : Bool
  deriving DecidableEq, Inhabited

namespace Signal

def lowered : Signal := ⟨false⟩

def give (_ : Signal) : Signal := ⟨true⟩

/-- Lowers the signal without waiting. -/
def reset (_ : Signal) : Signal := lowered

/-- Takes the signal if it is raised; `none` where a taker would wait for somebody to raise it. -/
def take? (s : Signal) : Option Signal := if s.raised then some lowered else none

/-- Takes the signal when nobody else will raise it in time: whether it was raised. -/
def takeNow (s : Signal) : Bool × Signal := (s.raised, lowered)

/-- The signal after a take that returned, whoever raised it meanwhile. -/
def taken (_ : Signal) : Signal := lowered

end Signal

structure Signals where
  /-- Raised when the busy line falls. -/
  deviceReady : Signal
  /-- Raised when a transfer completes. -/
  transferDone : Signal
  deriving DecidableEq, Inhabited

namespace Signals

def quiet : Signals := ⟨.lowered, .lowered⟩

def giveReady (s : Signals) : Signals := { s with deviceReady := s.deviceReady.give }

def giveDone (s : Signals) : Signals := { s with transferDone := s.transferDone.give }

def takeReady (s : Signals) : Signals := { s with deviceReady := s.deviceReady.taken }

def takeDone (s : Signals) : Signals := { s with transferDone := s.transferDone.taken }

end Signals

end SpiWifi
