import Mathlib.Algebra.Order.Floor.Div
import SpiWifi.Proofs.Socket.Uses

/-!
# Sending over a connection

A write hands over the first bytes of its data, as many as one frame carries and the device accepts,
in one request. Whether they count as delivered is asked afterwards and changes nothing. Over a served
link the answer of a write therefore says what was recorded as sent. To send all of the data is to
write what is left until nothing is, each time with one request.
-/

namespace SpiWifi

open Device

namespace Device

namespace Socket

/-- The slot after these bytes went out through it. -/
def passing (echo : Bool) (bytes : Bytes) (a : Socket) : Socket :=
  { a with tx := a.tx ++ bytes, rx := if echo then a.rx ++ bytes else a.rx }

theorem passing_nil (echo : Bool) (a : Socket) : a.passing echo [] = a := by
  cases echo <;> simp [passing]

theorem passing_passing (echo : Bool) (bytes bytes' : Bytes) (a : Socket) :
    (a.passing echo bytes).passing echo bytes' = a.passing echo (bytes ++ bytes') := by
  cases echo <;> simp [passing, List.append_assoc]

end Socket

namespace State

variable (s : State) (i : Fin socketCount)

/-- The most bytes that one write hands over. -/
def sendable : Nat :=
  match s.acceptLimit with
  | some limit => min chunkMax limit
  | none => chunkMax

/-- The bytes that a write of the data hands over. -/
def taken (data : Bytes) : Bytes := if (s.sockets.get i).Sends then data.take s.sendable else []

theorem sendable_le : s.sendable ≤ chunkMax := by
  unfold sendable
  split
  · exact Nat.min_le_left _ _
  · exact Nat.le_refl _

theorem sendable_pos (h : s.acceptLimit ≠ some 0) : 0 < s.sendable := by
  unfold sendable
  split
  · next limit hlimit =>
    rw [hlimit, ne_eq, Option.some.injEq] at h
    have : 0 < chunkMax := by decide
    omega
  · decide

theorem accepted_take (data : Bytes) : s.accepted (data.take chunkMax) = data.take s.sendable := by
  unfold accepted sendable
  cases s.acceptLimit with
  | some limit =>
    dsimp only
    rw [List.take_take, Nat.min_comm]
  | none => rfl

theorem sendStream_take (data : Bytes) :
    s.sendStream i (data.take chunkMax) = (UInt16.ofNat (s.taken i data).length,
      s.modifySocket i (Socket.passing s.echo (s.taken i data))) := by
  rw [sendStream_eq]
  unfold taken
  by_cases hsends : (s.sockets.get i).Sends
  · rw [if_pos hsends, if_pos hsends, accepted_take]
    refine Prod.ext rfl ?_
    simp only [modifySocket, sending, if_pos hsends, accepted_take]
    rfl
  · rw [if_neg hsends, if_neg hsends]
    refine Prod.ext rfl ?_
    simp only [modifySocket, sending, if_neg hsends, Socket.passing_nil]

theorem length_taken_le (data : Bytes) :
    (s.taken i data).length ≤ data.length ∧ (s.taken i data).length ≤ chunkMax := by
  have hsendable := s.sendable_le
  unfold taken
  split
  · rw [List.length_take]
    omega
  · exact ⟨Nat.zero_le _, Nat.zero_le _⟩

theorem take_length_taken (data : Bytes) : data.take (s.taken i data).length = s.taken i data := by
  unfold taken
  split
  · rw [List.length_take, ← List.take_eq_take_min]
  · rfl

end State

end Device

namespace Link

variable {l : Link Line} (h : l.Served)
include h

/-- A request whose reply is a 16-bit number. -/
theorem readU16LE_served {c : Command} {f : Frame} {s : State} (hf : IsRequestFor c f)
    (fits : f.Fits) {v : UInt16}
    (served : (serve c ⟨f.params⟩).run (l.transport.state.recorded c) =
      (some ((Frame.reply c).withU16LE v), s)) :
    (readU16LE f).run l = (.ok (some v), l.leaving s) ∧ (l.leaving s).Served := by
  have replyFits : ((Frame.reply c).withU16LE v).Fits := by
    refine Frame.fits_of_short (Nat.le_of_ble_eq_true rfl) fun p hp => ?_
    cases List.mem_singleton.mp hp
    exact Nat.le_of_ble_eq_true rfl
  obtain ⟨⟨truncated, hrequest⟩, hserved⟩ :=
    request_served h hf fits served replyFits [Slot.forValue 2]
  have hcall : (call f [Slot.forValue 2]).run l =
      (.ok (1, [Slot.holding 3 (Bytes.ofU16LE v)]), l.leaving s) := by
    simp only [StateT.run] at hrequest
    simp only [call, ExceptT.run, hrequest]
    rfl
  have hvalue : (Slot.holding 3 (Bytes.ofU16LE v)).u16LE? = some v := by
    rw [Slot.u16LE?, Slot.bytes_holding (Nat.le_refl 2)]
    exact congrArg some (Bytes.joinU16_ofU16BE v)
  refine ⟨?_, hserved⟩
  rw [readU16LE, readValue, run_bind_of_ok hcall]
  exact Prod.ext (congrArg Except.ok hvalue) rfl

omit h in
/-- What one write hands over just fits a frame. -/
theorem sendData_fits (socket : SocketHandle) {data : Bytes} (short : data.length ≤ chunkMax) :
    ((about .sendDataTcp socket).withParam data).Fits where
  count := by
    change 2 ≤ 255
    omega
  lengths p hp := by
    simp only [chunkMax] at short
    change p.length ≤ 65535
    rcases List.mem_append.mp hp with hraw | hdata
    · cases List.mem_singleton.mp hraw
      exact Nat.le_of_ble_eq_true rfl
    · cases List.mem_singleton.mp hdata
      omega
  size := by
    simp only [chunkMax] at short
    change (3 + (2 + 1 + (2 + data.length + 0)) + 1 + 3) / 4 * 4 ≤ 255
    omega

theorem sendData_served {socket : SocketHandle} {i : Fin socketCount} (hi : socket.index? = some i)
    (data : Bytes) :
    let s := l.transport.state.recorded .sendDataTcp
    let sent := s.modifySocket i (Socket.passing s.echo (s.taken i data))
    (sendData socket (data.take chunkMax)).run l =
        (.ok (UInt16.ofNat (s.taken i data).length), l.leaving sent) ∧
      (l.leaving sent).Served := by
  intro s sent
  have fits := sendData_fits socket (List.length_take_le chunkMax data)
  have hserve := run_serve_sendData hi s (data.take chunkMax)
  rw [← show (s.sendStream i (data.take chunkMax)).2 =
    s.modifySocket i (s.sending (data.take chunkMax)) by rw [s.sendStream_eq],
    s.sendStream_take] at hserve
  obtain ⟨hread, hserved⟩ := readU16LE_served h ⟨rfl, rfl⟩ fits hserve
  refine ⟨?_, hserved⟩
  rw [sendData, run_bind_of_ok hread]
  rfl

theorem checkDataSent_served (socket : SocketHandle) :
    let s := l.transport.state.recorded .dataSentTcp
    (checkDataSent socket).run l = (.ok s.confirmSends, l.leaving s) ∧ (l.leaving s).Served := by
  intro s
  obtain ⟨hread, hserved⟩ := readU8_served h (c := .dataSentTcp) (f := about .dataSentTcp socket)
    ⟨rfl, rfl⟩ (about_fits _ _) (run_serve_dataSent _ s)
  refine ⟨?_, hserved⟩
  rw [checkDataSent, run_bind_of_ok hread]
  cases hconfirms : s.confirmSends <;> rfl

end Link

namespace Host

/-- From the one host to the other these bytes went out through a socket, by so many requests to
send. -/
structure Passes (i : Fin socketCount) (bytes : Bytes) (requests : Nat) (host host' : Host Line) :
    Prop where
  served : host'.link.Served
  kept : host' = { host with link := host'.link }
  settings : host'.link.settings = host.link.settings
  state : host'.link.transport.state =
    { host.link.transport.state.modifySocket i
        (Socket.passing host.link.transport.state.echo bytes) with
      received := host'.link.transport.state.received }
  count : host'.link.transport.state.count .sendDataTcp =
    host.link.transport.state.count .sendDataTcp + requests

namespace Passes

variable {i : Fin socketCount} {bytes bytes' : Bytes} {n n' : Nat} {host host' host'' : Host Line}

theorem refl (i : Fin socketCount) (served : host.link.Served) : Passes i [] 0 host host where
  served := served
  kept := rfl
  settings := rfl
  state := by
    have hsame : Socket.passing host.link.transport.state.echo [] = id :=
      funext fun a => a.passing_nil _
    rw [hsame, State.modifySocket_id]
  count := rfl

theorem socket (h : Passes i bytes n host host') :
    host'.link.socketAt i = (host.link.socketAt i).passing host.link.transport.state.echo bytes := by
  rw [Link.socketAt, h.state]
  exact State.get_modifySocket_self _ i _

theorem sockets (h : Passes i bytes n host host') : host'.sockets = host.sockets := by
  rw [h.kept]

theorem echo (h : Passes i bytes n host host') :
    host'.link.transport.state.echo = host.link.transport.state.echo := by
  rw [h.state]
  rfl

theorem acceptLimit (h : Passes i bytes n host host') :
    host'.link.transport.state.acceptLimit = host.link.transport.state.acceptLimit := by
  rw [h.state]
  rfl

theorem confirmSends (h : Passes i bytes n host host') :
    host'.link.transport.state.confirmSends = host.link.transport.state.confirmSends := by
  rw [h.state]
  rfl

theorem trans (h : Passes i bytes n host host') (h' : Passes i bytes' n' host' host'') :
    Passes i (bytes ++ bytes') (n + n') host host'' where
  served := h'.served
  kept := by rw [h'.kept, h.kept]
  settings := h'.settings.trans h.settings
  state := by
    have hpassed : ∀ (s : State) (received : List Command),
        ({ s.modifySocket i (Socket.passing s.echo bytes) with received := received } :
          State).modifySocket i (Socket.passing s.echo bytes') =
        { s.modifySocket i (Socket.passing s.echo (bytes ++ bytes')) with received := received } := by
      intro s received
      have hboth := s.modifySocket_modifySocket i (Socket.passing s.echo bytes)
        (Socket.passing s.echo bytes')
      simp only [Socket.passing_passing] at hboth
      exact congrArg (fun s : State => { s with received := received }) hboth
    have hstate := h'.state
    rw [h.echo, h.state, hpassed] at hstate
    exact hstate
  count := by rw [h'.count, h.count, Nat.add_assoc]

end Passes

section
variable {host : Host Line} (served : host.link.Served) {socket : SocketHandle}
  {i : Fin socketCount}
include served

/-- To ask whether data was delivered changes nothing. -/
theorem attempt_checkDataSent (socket : SocketHandle) (i : Fin socketCount) :
    let asked := attempt (Link.checkDataSent socket) host
    asked.1 = .ok host.link.transport.state.confirmSends ∧ Passes i [] 0 host asked.2 := by
  obtain ⟨hask, hserved⟩ := Link.checkDataSent_served served socket
  dsimp only
  rw [run_attempt, hask]
  have hsame := (Passes.refl i served).state
  refine ⟨rfl, hserved, rfl, rfl, ?_, ?_⟩
  · exact congrArg (fun s : State =>
      { s with received := .dataSentTcp :: host.link.transport.state.received }) hsame
  · exact List.count_cons_of_ne (by decide)

theorem poll_delivered (socket : SocketHandle) (i : Fin socketCount) (budget : Nat) :
    let polled := pollFor (attempt (Link.checkDataSent socket)) deliveredAnswer budget host
    polled.1.isSome = (host.link.transport.state.confirmSends && decide (0 < budget)) ∧
      Passes i [] 0 host polled.2 := by
  induction budget generalizing host with
  | zero => exact ⟨(Bool.and_false _).symm, .refl i served⟩
  | succ budget ih =>
    obtain ⟨hanswer, hpasses⟩ := attempt_checkDataSent served socket i
    rcases hasked : attempt (Link.checkDataSent socket) host with ⟨answer, after⟩
    rw [hasked] at hanswer hpasses
    cases hanswer
    obtain ⟨hfound, hrest⟩ := ih hpasses.served
    dsimp only at hfound hrest ⊢
    rw [pollFor_succ hasked]
    rw [hpasses.confirmSends] at hfound
    cases hconfirms : host.link.transport.state.confirmSends with
    | true => exact ⟨rfl, hpasses⟩
    | false =>
      rw [hconfirms] at hfound
      exact ⟨hfound, hpasses.trans hrest⟩

/-- What a write answers: that nothing was taken, how much was, or that its delivery was not
confirmed. -/
def writeAnswer (host : Host Line) (socket : SocketHandle) (taken : Bytes) : Except NetError Nat :=
  if taken = [] then .error (.sendRejected socket)
  else if host.link.transport.state.confirmSends ∧ 0 < host.sockets.confirmAttempts.toNat then
    .ok taken.length
  else .error (.sendUnconfirmed socket host.sockets.confirmAttempts)

theorem write_passes (hi : socket.index? = some i) {data : Bytes} (hdata : data ≠ []) :
    let taken := host.link.transport.state.taken i data
    let written := (write socket data).run host
    written.1 = host.writeAnswer socket taken ∧ Passes i taken 1 host written.2 := by
  intro taken written
  have hvalid : socket.isValid = true := SocketHandle.isValid_of_some hi
  obtain ⟨hsend, hserved⟩ := Link.sendData_served served hi data
  have hle : taken.length ≤ 243 := (host.link.transport.state.length_taken_le i data).2
  have hnumber : (UInt16.ofNat taken.length).toNat = taken.length := by
    rw [UInt16.toNat_ofNat']
    exact Nat.mod_eq_of_lt (by omega)
  have hnone : UInt16.ofNat taken.length = 0 ↔ taken = [] := by
    rw [← UInt16.toNat_inj, hnumber]
    exact List.length_eq_zero_iff
  let state : State := (host.link.transport.state.recorded .sendDataTcp).modifySocket i
    (Socket.passing host.link.transport.state.echo taken)
  let sent : Host Line := { host with link := host.link.leaving state }
  have hpasses : Passes i taken 1 host sent := ⟨hserved, rfl, rfl, rfl, List.count_cons_self⟩
  have hask : (ask (Link.sendData socket (data.take chunkMax))).run host =
      (.ok (UInt16.ofNat taken.length), sent) := run_ask_of_ok hsend
  obtain ⟨hfound, hrest⟩ := poll_delivered hpasses.served socket i host.sockets.confirmAttempts.toNat
  have hwritten : written = _ := run_write hvalid hdata
  rw [hask] at hwritten
  dsimp only at hwritten hfound hrest
  rw [hpasses.confirmSends] at hfound
  unfold writeAnswer
  by_cases htaken : taken = []
  · rw [if_pos (hnone.mpr htaken)] at hwritten
    rw [if_pos htaken, hwritten]
    exact ⟨rfl, hpasses⟩
  · rw [if_neg fun hzero => htaken (hnone.mp hzero)] at hwritten
    rw [if_neg htaken, hwritten]
    have hboth := hpasses.trans hrest
    rw [List.append_nil] at hboth
    rw [← hpasses.sockets] at hfound ⊢
    rcases hpolled : pollFor (attempt (Link.checkDataSent socket)) deliveredAnswer
      sent.sockets.confirmAttempts.toNat sent with ⟨_ | _, last⟩
    all_goals rw [hpolled] at hfound hboth
    · rw [if_neg fun hconfirmed => ?_]
      · exact ⟨rfl, hboth⟩
      · rw [hconfirmed.1, decide_eq_true hconfirmed.2] at hfound
        cases hfound
    · have hconfirmed := Bool.and_eq_true_iff.mp hfound.symm
      rw [if_pos ⟨hconfirmed.1, of_decide_eq_true hconfirmed.2⟩]
      exact ⟨congrArg Except.ok hnumber, hboth⟩

end

end Host

/-- A piece, and the pieces that the rest comes to. -/
theorem ceilDiv_succ {n m : Nat} (hn : 0 < n) (hm : 0 < m) :
    n ⌈/⌉ m = 1 + (n - min n m) ⌈/⌉ m := by
  rw [Nat.ceilDiv_eq_add_pred_div, Nat.ceilDiv_eq_add_pred_div,
    show n + m - 1 = n - 1 + m by omega, Nat.add_div_right _ hm, Nat.add_comm]
  congr 1
  rcases Nat.le_total n m with hle | hle
  · rw [Nat.min_eq_left hle, Nat.div_eq_of_lt (by omega), Nat.div_eq_of_lt (by omega)]
  · rw [Nat.min_eq_right hle, show n - m + m - 1 = n - 1 by omega]

namespace Stream

variable {s : Stream} {host : Host Line} {i : Fin socketCount}

/-- Bytes can be sent over the connection, and their delivery gets confirmed. -/
structure Ready (s : Stream) (host : Host Line) (i : Fin socketCount) : Prop where
  served : host.link.Served
  index : s.socket.index? = some i
  sends : (host.link.socketAt i).Sends
  confirms : host.link.transport.state.confirmSends = true
  asks : 0 < host.sockets.confirmAttempts.toNat
  accepts : host.link.transport.state.acceptLimit ≠ some 0

namespace Ready

theorem passes (h : s.Ready host i) {bytes : Bytes} {n : Nat} {host' : Host Line}
    (hpasses : host.Passes i bytes n host') : s.Ready host' i where
  served := hpasses.served
  index := h.index
  sends := by
    rw [hpasses.socket]
    exact h.sends
  confirms := hpasses.confirmSends.trans h.confirms
  asks := hpasses.sockets ▸ h.asks
  accepts := hpasses.acceptLimit ▸ h.accepts

theorem taken (h : s.Ready host i) (data : Bytes) :
    host.link.transport.state.taken i data = data.take host.link.transport.state.sendable :=
  if_pos h.sends

/-- What is written is taken, as much as is sendable at once. -/
theorem send (h : s.Ready host i) {data : Bytes} (hdata : data ≠ []) :
    let m := host.link.transport.state.sendable
    ∃ after, Stream.send data (s, host) = (.ok (min m data.length), s, after) ∧
      host.Passes i (data.take m) 1 after := by
  intro m
  obtain ⟨hanswer, hpasses⟩ := Host.write_passes h.served h.index hdata
  rw [h.taken] at hanswer hpasses
  have hpos : 0 < m := State.sendable_pos _ h.accepts
  have hlen : 0 < data.length := List.length_pos_iff.mpr hdata
  have hsome : data.take m ≠ [] := by
    rw [← List.length_pos_iff, List.length_take]
    omega
  have hok : host.writeAnswer s.socket (data.take m) = .ok (min m data.length) := by
    rw [Host.writeAnswer, if_neg hsome, if_pos ⟨h.confirms, h.asks⟩, List.length_take]
  have hfull : data.isEmpty = false := by
    rw [Bool.eq_false_iff]
    exact fun hempty => hdata (List.isEmpty_iff.mp hempty)
  rcases hwrite : Host.write s.socket data host with ⟨result, after⟩
  simp only [ExceptT.run, hwrite] at hanswer hpasses
  rw [hok] at hanswer
  subst hanswer
  refine ⟨after, ?_, hpasses⟩
  simp only [Stream.send, hfull, Bool.false_eq_true, if_false, Stream.write, hwrite]

/-- Sending all of the data succeeds, hands over just that, and takes the fewest requests. -/
theorem sendAll (h : s.Ready host i) (data : Bytes) :
    ∃ after, Stream.sendAll data (s, host) = (.ok (), s, after) ∧
      host.Passes i data (data.length ⌈/⌉ host.link.transport.state.sendable) after := by
  induction hn : data.length using Nat.strongRecOn generalizing data host with
  | _ n ih =>
  subst hn
  let m := host.link.transport.state.sendable
  have hpos : 0 < m := State.sendable_pos _ h.accepts
  by_cases hdata : data = []
  · subst hdata
    refine ⟨host, by rw [Stream.sendAll]; rfl, ?_⟩
    rw [List.length_nil, zero_ceilDiv]
    exact .refl i h.served
  · have hlen : 0 < data.length := List.length_pos_iff.mpr hdata
    obtain ⟨sent, hsend, hpasses⟩ := h.send hdata
    have hready := h.passes hpasses
    obtain ⟨after, hrest, hpassed⟩ :=
      ih (data.drop (min m data.length)).length (by rw [List.length_drop]; omega) hready _ rfl
    have hfull : data.isEmpty = false := by
      rw [Bool.eq_false_iff]
      exact fun hempty => hdata (List.isEmpty_iff.mp hempty)
    have hmore : ∃ k, min m data.length = k + 1 := ⟨min m data.length - 1, by omega⟩
    have hrun : Stream.sendAll data (s, host) =
        Stream.sendAll (data.drop (min m data.length)) (s, sent) := by
      obtain ⟨k, hk⟩ := hmore
      rw [hk] at hsend ⊢
      rw [Stream.sendAll]
      simp only [hfull, Bool.false_eq_true, if_false, hsend]
    refine ⟨after, hrun.trans hrest, ?_⟩
    have hboth := hpasses.trans hpassed
    have hsendable : sent.link.transport.state.sendable = m := by
      rw [State.sendable, hpasses.acceptLimit]
      rfl
    rw [hsendable, List.length_drop, Nat.min_comm, ← ceilDiv_succ hlen hpos] at hboth
    have htake : data.take m = data.take (min data.length m) := by
      rw [Nat.min_comm, ← List.take_eq_take_min]
    have hjoin : data.take m ++ data.drop (min data.length m) = data := by
      rw [htake, List.take_append_drop]
    rwa [hjoin] at hboth

end Ready

end Stream

end SpiWifi
