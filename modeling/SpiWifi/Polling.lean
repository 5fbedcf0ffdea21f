/-!
# Polling

The device reports no change by itself, so the host asks again and again. A poll asks at most a
given number of times and stops at the first answer it was waiting for. Pauses between the questions
are the caller's matter.
-/

namespace SpiWifi

variable {σ α β : Type}

/-- Asks at most `budget` times for an answer that `wanted` recognises. -/
def pollFor (ask : StateM σ α) (wanted : α → Option β) : Nat → StateM σ (Option β)
  | 0 => return none
  | budget + 1 => do
    match wanted (← ask) with
    | some found => return some found
    | none => pollFor ask wanted budget

/-- Asks at most `budget` times until an answer is `settled`, and gives the last answer; without
any question, the one that was there before. -/
def pollLast (ask : StateM σ α) (settled : α → Bool) : Nat → α → StateM σ α
  | 0, last => return last
  | budget + 1, _ => do
    let answer ← ask
    if settled answer then return answer else pollLast ask settled budget answer

end SpiWifi
