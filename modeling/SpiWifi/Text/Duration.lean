/-!
# Durations

A duration of whole milliseconds, in the largest unit that it reaches: nothing is `0ns`, less than
a second is in `ms`, the rest in `s` with the fraction cut after its last non-zero digit.
-/

namespace SpiWifi.Text.Duration

/-- Three digits after the point, without the zeros at their end; nothing for zero. -/
def fraction (n : Nat) : String :=
  if n = 0 then ""
  else if n % 100 = 0 then "." ++ toString (n / 100)
  else if n % 10 = 0 then "." ++ toString (n / 100) ++ toString (n / 10 % 10)
  else "." ++ toString (n / 100) ++ toString (n / 10 % 10) ++ toString (n % 10)

def ofMillis (ms : Nat) : String :=
  if ms = 0 then "0ns"
  else if ms < 1000 then toString ms ++ "ms"
  else toString (ms / 1000) ++ fraction (ms % 1000) ++ "s"

end SpiWifi.Text.Duration
