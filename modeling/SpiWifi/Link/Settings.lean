import SpiWifi.Link.Error
import SpiWifi.Wire.Reader

/-!
# Link settings

Timing and sizes of the select and transfer handshake.
-/

namespace SpiWifi

/-- Timing and sizes of the handshake. Times are in milliseconds. -/
structure LinkSettings where
  /-- Bound on the wait before a transaction; without it the wait has no limit. -/
  readyTimeout : Option UInt64
  /-- Short wait for readiness after selecting the device. -/
  selectWait : UInt64
  /-- Width of each phase of the reset pulse. -/
  resetPulse : UInt64
  /-- Time that the firmware needs to boot. -/
  bootDelay : UInt64
  /-- Inbound bytes searched for a start marker. -/
  startBudget : UInt64
  /-- The largest transfer in either direction. -/
  maxFrameSize : UInt64
  deriving DecidableEq

namespace LinkSettings

def standard : LinkSettings where
  readyTimeout := none
  selectWait := 5
  resetPulse := 10
  bootDelay := 750
  startBudget := 1000
  maxFrameSize := 255

instance : Inhabited LinkSettings := ⟨standard⟩

/-- Settings without any delay, for emulated devices. -/
def instant : LinkSettings := { standard with selectWait := 0, resetPulse := 0, bootDelay := 0 }

/-- Checks the sizes against what the frame format allows. -/
def validate (s : LinkSettings) : Except LinkError Unit :=
  if s.maxFrameSize < 4 ∨ s.maxFrameSize > 255 then
    .error (.invalidSettings
      ("max_frame_size must be between 4 and 255, got " ++ toString s.maxFrameSize.toNat))
  else if s.startBudget = 0 then
    .error (.invalidSettings "start_marker_budget must be positive")
  else .ok ()

/-- The bytes of a frame that these settings let through. -/
def outgoing (s : LinkSettings) (f : Frame) : Except ProtocolError Bytes :=
  match f.encode with
  | .error e => .error e
  | .ok tx =>
    if s.maxFrameSize.toNat < tx.length then
      .error (.frameTooLarge tx.length s.maxFrameSize.toNat)
    else .ok tx

/-- Bytes to clock for a reply of at most `size` bytes. -/
def replySize (s : LinkSettings) (size : Nat) : Nat :=
  min (min size s.maxFrameSize.toNat) Frame.maxSize

end LinkSettings

end SpiWifi
