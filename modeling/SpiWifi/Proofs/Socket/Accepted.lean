import SpiWifi.Link.Script
import SpiWifi.Proofs.Socket.Awaiting
import SpiWifi.Proofs.Socket.Obliging

/-!
# How much a write has written

A write gives the number that the device names in its reply, and looks at it only to see whether it is
zero. So over an arbitrary transport the number is whatever was answered, and may well exceed what was
handed over. The emulated device never names more than that.
-/

namespace SpiWifi

open Device

variable {τ : Type} [Transport τ]

namespace Link

/-- The reply to a request that hands over some bytes names this number, in the first two bytes of its
first parameter; any further parameters do not count. -/
def Reports (socket : SocketHandle) (chunk : Bytes) (l : Link τ) (n : UInt16) (l' : Link τ) : Prop :=
  ∃ (more : Nat) (slot : Slot),
    (call ((about .sendDataTcp socket).withParam chunk) [Slot.forValue 2]).run l =
      (.ok (more + 1, [slot]), l') ∧ slot.u16LE? = some n

theorem sendData_ok_iff {socket : SocketHandle} {chunk : Bytes} {l l' : Link τ} {n : UInt16}
    (nonzero : n ≠ 0) :
    (sendData socket chunk).run l = (.ok n, l') ↔ Reports socket chunk l n l' := by
  rw [sendData, run_map fun answer => Option.getD answer 0, readU16LE, readValue, run_bind, Reports]
  rcases (call ((about .sendDataTcp socket).withParam chunk) [Slot.forValue 2]).run l with
    ⟨e | ⟨count, slots⟩, after⟩
  · constructor
    · intro h
      cases h
    · rintro ⟨more, slot, h, -⟩
      cases h
  constructor
  · intro h
    dsimp only at h
    split at h
    · next more slot heq =>
      cases heq
      obtain ⟨hvalue, rfl⟩ := Prod.mk.inj h
      refine ⟨more, slot, rfl, ?_⟩
      have hn : slot.u16LE?.getD 0 = n := Except.ok.inj hvalue
      cases hread : slot.u16LE? with
      | some m => rw [← hn, hread, Option.getD_some]
      | none => exact absurd (hn.symm.trans (by rw [hread, Option.getD_none])) nonzero
    · -- a reply without a parameter counts as zero
      exact absurd (Except.ok.inj (Prod.mk.inj h).1).symm nonzero
  · rintro ⟨more, slot, h, hread⟩
    obtain ⟨hvalue, rfl⟩ := Prod.mk.inj h
    cases Except.ok.inj hvalue
    change (Except.ok (slot.u16LE?.getD 0), after) = _
    rw [hread, Option.getD_some]

end Link

namespace Host

/-- A write that succeeds has handed something over, and some of it was accepted. -/
theorem handed_of_write_ok {socket : SocketHandle} {data : Bytes} {host : Host τ} {n : Nat}
    (valid : socket.isValid = true) (given : data ≠ [])
    (hok : ((write socket data).run host).1 = .ok n) :
    ∃ (accepted : UInt16) (sent : Link τ), accepted ≠ 0 ∧
      (Link.sendData socket (data.take chunkMax)).run host.link = (.ok accepted, sent) := by
  rw [run_write valid given] at hok
  rcases handed : (Link.sendData socket (data.take chunkMax)).run host.link with
    ⟨e | accepted, sent⟩
  · rw [run_ask, handed] at hok
    cases hok
  rw [run_ask_of_ok handed] at hok
  refine ⟨accepted, sent, fun nothing => ?_, rfl⟩
  dsimp only at hok
  rw [if_pos nothing] at hok
  cases hok

/-- A write of some data on a valid socket succeeds with a number just if the device names it, it is
not zero, and one of the answers about delivery says yes. -/
theorem write_ok_iff (socket : SocketHandle) (data : Bytes) (host : Host τ) (n : Nat) :
    ((write socket data).run host).1 = .ok n ↔
      socket.isValid = true ∧ data ≠ [] ∧ ∃ (accepted : UInt16) (sent : Link τ),
        accepted ≠ 0 ∧ accepted.toNat = n ∧
        host.link.Reports socket (data.take chunkMax) accepted sent ∧
        ∃ k, k < host.sockets.confirmAttempts.toNat ∧
          answerAt (attempt (Link.checkDataSent socket)) k { host with link := sent } = .ok true := by
  cases valid : socket.isValid with
  | false =>
    rw [run_write_invalid valid]
    exact ⟨fun h => (nomatch h), fun h => (nomatch h.1)⟩
  | true =>
    by_cases given : data = []
    · rw [given, run_write_empty valid]
      exact ⟨fun h => (nomatch h), fun h => absurd rfl h.2.1⟩
    constructor
    · intro hok
      obtain ⟨accepted, sent, nonzero, handed⟩ := handed_of_write_ok valid given hok
      have hpolls := write_polls valid given nonzero (run_ask_of_ok handed)
      obtain ⟨hn, confirmed⟩ := hpolls.of_ok hok
      exact ⟨rfl, given, accepted, sent, nonzero, hn, (Link.sendData_ok_iff nonzero).mp handed,
        confirmed⟩
    · rintro ⟨-, -, accepted, sent, nonzero, rfl, reports, confirmed⟩
      have handed := (Link.sendData_ok_iff nonzero).mpr reports
      exact (write_polls valid given nonzero (run_ask_of_ok handed)).ok_iff.mpr confirmed

/-- The emulated device names no more bytes than it was handed. -/
theorem write_le (socket : SocketHandle) (data : Bytes) {host : Host Line} {n : Nat}
    (hok : ((write socket data).run host).1 = .ok n) : n ≤ min data.length chunkMax := by
  obtain ⟨valid, -, accepted, sent, nonzero, rfl, reports, -⟩ := (write_ok_iff _ _ _ _).mp hok
  obtain ⟨i, hi⟩ := Option.isSome_iff_exists.mp valid
  have hanswer := (Link.sendData_ok_iff nonzero).mpr reports
  obtain ⟨rfl, -⟩ := (Link.sendData_outcome host.link hi data).of_ok (congrArg Prod.fst hanswer)
  obtain ⟨hlength, hchunk⟩ := host.link.device.length_taken_le i data
  rw [UInt16.toNat_ofNat']
  exact Nat.le_trans (Nat.mod_le _ _) (Nat.le_min.mpr ⟨hlength, hchunk⟩)

end Host

theorem Stream.send_ok_iff {data : Bytes} (given : data ≠ []) (s : Stream) (host : Host τ) (n : Nat) :
    ((Stream.send data).run.run (s, host)).1 = .ok n ↔
      ((Host.write s.socket data).run host).1 = .ok n := by
  have hfull : data.isEmpty = false := by
    rw [Bool.eq_false_iff]
    exact fun hempty => given (List.isEmpty_iff.mp hempty)
  rcases hwritten : Host.write s.socket data host with ⟨e | m, after⟩
  all_goals
    simp only [Stream.send, Stream.write, ExceptT.run, StateT.run, hfull, Bool.false_eq_true,
      if_false, hwritten]
    simp

/-- What a write gives, over whatever transport: the number that the device names, which is not zero,
and no other. A byte stream gives the same. Neither compares it with the data; the emulated device
keeps to it. -/
theorem Host.write_gives_reported_number (socket : SocketHandle) (data : Bytes) (n : Nat) :
    (∀ (τ : Type) [Transport τ] (host : Host τ),
      ((Host.write socket data).run host).1 = .ok n ↔
        socket.isValid = true ∧ data ≠ [] ∧ ∃ (accepted : UInt16) (sent : Link τ),
          accepted ≠ 0 ∧ accepted.toNat = n ∧
          host.link.Reports socket (data.take chunkMax) accepted sent ∧
          ∃ k, k < host.sockets.confirmAttempts.toNat ∧
            answerAt (attempt (Link.checkDataSent socket)) k { host with link := sent } =
              .ok true) ∧
    (data ≠ [] → ∀ (τ : Type) [Transport τ] (s : Stream) (host : Host τ),
      ((Stream.send data).run.run (s, host)).1 = .ok n ↔
        ((Host.write s.socket data).run host).1 = .ok n) ∧
    (∀ host : Host Line, ((Host.write socket data).run host).1 = .ok n →
      1 ≤ n ∧ n ≤ min data.length chunkMax) := by
  refine ⟨fun τ _ host => write_ok_iff socket data host n,
    fun given τ _ s host => Stream.send_ok_iff given s host n, fun host hok => ⟨?_, ?_⟩⟩
  · obtain ⟨-, -, accepted, -, nonzero, rfl, -⟩ := (write_ok_iff _ _ _ _).mp hok
    exact Nat.pos_of_ne_zero fun hzero => nonzero (UInt16.toNat.inj hzero)
  · exact write_le socket data hok

/-- A scripted device names 300 bytes and confirms them, and that is what it is said to have taken of
two. The emulated device takes two bytes at a time, and names them. -/
theorem Host.write_gives_three_hundred :
    let script := (ScriptedLine.new.queue [0xe0, 0xc4, 1, 2, 0x2c, 0x01, 0, 0xee]).queue
      [0xe0, 0xaa, 1, 1, 1, 0, 0, 0xee]
    let scripted : Host ScriptedLine := Host.new (Link.new script .instant) .standard .standard
    let device : State := (State.initial.connectSlot ⟨0, by decide⟩ ⟨⟨10, 0, 0, 1⟩, 80⟩ 0).2
    let line : Line := { Line.new with state := { device with acceptLimit := some 2 } }
    let emulated : Host Line :=
      Host.new { Link.new line .instant with initialized := true } .standard .standard
    ((Host.write ⟨0⟩ [104, 105]).run scripted).1 = .ok 300 ∧
      ((Stream.send [104, 105]).run.run (.ofHandle ⟨0⟩, scripted)).1 = .ok 300 ∧
      ((Host.write ⟨0⟩ [104, 105, 33]).run emulated).1 = .ok 2 ∧
      1 ≤ 2 ∧ 2 ≤ min [104, 105, 33].length chunkMax := by
  intro script scripted device line emulated
  obtain ⟨written, sent, -⟩ := Host.write_gives_reported_number ⟨0⟩ [104, 105] 300
  obtain ⟨-, -, bounded⟩ := Host.write_gives_reported_number ⟨0⟩ [104, 105, 33] 2
  let answer := (Link.call ((Link.about .sendDataTcp ⟨0⟩).withParam [104, 105])
    [Slot.forValue 2]).run scripted.link
  have reported : scripted.link.Reports ⟨0⟩ [104, 105] 300 answer.2 :=
    ⟨0, ⟨[0x2c, 0x01], [0], 2⟩, Prod.fst_eq_iff.mp (by decide +kernel), rfl⟩
  have confirmed : answerAt (Host.attempt (Link.checkDataSent ⟨0⟩)) 0
      { scripted with link := answer.2 } = .ok true := by
    decide +kernel
  have taken : ((Host.write ⟨0⟩ [104, 105, 33]).run emulated).1 = .ok 2 := by decide +kernel
  have hscripted := (written ScriptedLine scripted).mpr
    ⟨by decide, by decide, 300, answer.2, by decide, by decide, reported, 0, by decide, confirmed⟩
  exact ⟨hscripted, (sent (by decide) ScriptedLine _ _).mpr hscripted, taken, bounded emulated taken⟩

/-- A write of two bytes is said to have taken 300, which is more than there were and more than one
frame carries. -/
theorem Host.write_exceeds_data :
    ∃ (host : Host ScriptedLine) (n : Nat), ((Host.write ⟨0⟩ [104, 105]).run host).1 = .ok n ∧
      ¬ n ≤ min [104, 105].length 243 := by
  let script := (ScriptedLine.new.queue [0xe0, 0xc4, 1, 2, 0x2c, 0x01, 0, 0xee]).queue
    [0xe0, 0xaa, 1, 1, 1, 0, 0, 0xee]
  exact ⟨Host.new (Link.new script .instant) .standard .standard, 300, by decide +kernel, by decide⟩

end SpiWifi
