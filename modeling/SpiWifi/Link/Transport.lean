import SpiWifi.Bytes
import SpiWifi.Link.Signal

/-!
# Transports

What the link needs from the hardware: the select, reset and busy lines, and full-duplex transfers
in which every byte clocked out clocks one byte in. A transport is any state with these operations.
Two of them can raise a notification, so they are given the signals and return them.
-/

namespace SpiWifi

/-- What a look at the busy line tells, and what it leaves. -/
structure BusyAnswer (τ : Type) where
  busy : Bool
  transport : τ
  signals : Signals

/-- A state that serves as the physical link to the device. -/
class Transport (τ : Type) where
  /-- Drives the select line; `true` selects the device. -/
  setSelect : Bool → τ → τ
  /-- Drives the reset line; `true` releases it. -/
  setReset : Bool → τ → τ
  /-- Whether the device holds the busy line. -/
  isBusy : τ → Signals → BusyAnswer τ
  /-- Discards the bytes clocked in so far. -/
  clear : τ → τ
  /-- Clocks bytes out, capturing as many that come in. -/
  startTransfer : Bytes → τ → Signals → τ × Signals
  /-- Takes the next byte that the last transfer captured. -/
  readByte : τ → Option UInt8 × τ

namespace Transport

/-- Takes captured bytes, at most `n` of them. -/
def readBytes {τ : Type} [Transport τ] : Nat → τ → Bytes × τ
  | 0, t => ([], t)
  | n + 1, t =>
    match readByte t with
    | (none, t) => ([], t)
    | (some b, t) =>
      let (bytes, t) := readBytes n t
      (b :: bytes, t)

end Transport

end SpiWifi
