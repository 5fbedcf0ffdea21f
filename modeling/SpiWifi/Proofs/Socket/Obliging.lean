import SpiWifi.Proofs.Link.Questions
import SpiWifi.Proofs.Socket.Backlog
import SpiWifi.Proofs.Socket.Sending

/-!
# A device that does what it is asked

If connections are established, sends are accepted and confirmed, and no reply gets lost, then what
comes of connecting and writing depends on sizes alone. A connection is made if the request for it fits
the largest transfer. Data is written if the frame around it fits; else the write is refused, and
nothing has happened.
-/

namespace SpiWifi

open Device

/-- The device establishes connections, accepts and confirms what is sent, and answers everything. -/
structure Device.State.Obliging (s : State) : Prop where
  connects : s.connect = .establish
  confirms : s.confirmSends = true
  accepts : s.acceptLimit ≠ some 0
  answers : ∀ command, s.lossesLeft command = 0

namespace Device.State

theorem initial_obliging : initial.Obliging := ⟨rfl, rfl, nofun, fun _ => rfl⟩

/-- With a free slot at hand a reservation finds one. -/
theorem reserve_of_vacant {s : State} {j : Fin socketCount}
    (vacant : (s.sockets.get j).reserved = false) :
    ∃ i : Fin socketCount, s.reserve.1 = UInt8.ofNat i := by
  unfold reserve
  cases hfound : s.findSlot? fun socket => !socket.reserved with
  | some i => exact ⟨i, rfl⟩
  | none =>
    have hall := Array.findFinIdx?_eq_none_iff.mp (Option.map_eq_none_iff.mp hfound)
    have hreserved := hall (s.sockets.get j) (Vector.getElem_mem j.isLt).val
    rw [vacant] at hreserved
    exact absurd rfl hreserved

end Device.State

namespace Link

variable {l l' : Link Line} {socket : SocketHandle} {i : Fin socketCount}

theorem Uses.obliging {view : Device.Socket → Device.Socket} (h : Uses view socket l l')
    (obliging : l.device.Obliging) : l'.device.Obliging := by
  have hconnect := congrArg State.connect h.rest
  have hconfirm := congrArg State.confirmSends h.rest
  have haccept := congrArg State.acceptLimit h.rest
  refine ⟨hconnect.trans obliging.connects, hconfirm.trans obliging.confirms, fun hnone => ?_,
    h.kept obliging.answers⟩
  exact obliging.accepts (haccept.symm.trans hnone)

theorem length_connectFrame (ip : Ipv4) (port : UInt16) (socket : SocketHandle) (mode : SocketMode) :
    (connectFrame ip port socket mode).bytes.length = 16 := by
  rw [Frame.length_bytes]
  change (3 + (1 + 4 + (1 + 2 + (1 + 1 + (1 + 1 + 0)))) + 1 + 3) / 4 * 4 = 16
  rfl

/-- The size of the frame that hands over so many bytes. -/
def sendSize (n : Nat) : Nat := (n + 12) / 4 * 4

theorem length_sendFrame (socket : SocketHandle) (data : Bytes) :
    ((about .sendDataTcp socket).withParam data).bytes.length = sendSize data.length := by
  rw [Frame.length_bytes, sendSize]
  change (3 + (2 + 1 + (2 + data.length + 0)) + 1 + 3) / 4 * 4 = _
  omega

theorem startClient_outcome (l : Link Line) (hi : socket.index? = some i) (ip : Ipv4)
    (port : UInt16) :
    Outcome l .startClientTcp 16 8
      ((l.device.recorded .startClientTcp).modifySocket i
        (Socket.connecting l.device.connect ⟨ip, port⟩ 0))
      (l.device.connect != .refuse) ((startClient ip port socket .tcp).run l) := by
  have h := ack_outcome (l := l) (f := connectFrame ip port socket .tcp) ⟨rfl, rfl⟩
    (connectFrame_fits ip port .tcp) (serve_connect hi ip port .tcp _)
  rw [length_connectFrame] at h
  exact h

theorem sendData_outcome (l : Link Line) (hi : socket.index? = some i) (data : Bytes) :
    Outcome l .sendDataTcp (sendSize (min chunkMax data.length)) 8
      ((l.device.recorded .sendDataTcp).modifySocket i
        (Socket.passing l.device.echo (l.device.taken i data)))
      (UInt16.ofNat (l.device.taken i data).length)
      ((sendData socket (data.take chunkMax)).run l) := by
  have hserve := run_serve_sendData hi (l.device.recorded .sendDataTcp) (data.take chunkMax)
  rw [← show ((l.device.recorded .sendDataTcp).sendStream i (data.take chunkMax)).2 =
    (l.device.recorded .sendDataTcp).modifySocket i
      ((l.device.recorded .sendDataTcp).sending (data.take chunkMax)) by rw [State.sendStream_eq],
    State.sendStream_take] at hserve
  have hread := (readU16LE_outcome (l := l) (f := (about .sendDataTcp socket).withParam
    (data.take chunkMax)) ⟨rfl, rfl⟩ (sendData_fits socket (List.length_take_le _ _)) hserve).map
      fun answer => answer.getD 0
  rw [length_sendFrame, List.length_take, ← run_map fun answer => Option.getD answer 0] at hread
  exact hread

theorem checkDataSent_outcome (l : Link Line) (socket : SocketHandle) :
    Outcome l .dataSentTcp 8 8 (l.device.recorded .dataSentTcp) l.device.confirmSends
      ((checkDataSent socket).run l) := by
  have hread := (readValue_outcome (l := l) (f := about .dataSentTcp socket) ⟨rfl, rfl⟩
    (about_fits _ _) (Nat.le_of_ble_eq_true rfl) (run_serve_dataSent _ _) 1 Slot.u8?).map
      fun answer => (answer.map fun sent => sent != 0).getD false
  rw [length_about, ← run_map fun answer => (Option.map (fun sent => sent != 0) answer).getD false]
    at hread
  have hvalue : (Option.map (fun sent : UInt8 => sent != 0)
      (Slot.holding (1 + 1) [if l.device.confirmSends then 1 else 0]).u8?).getD false =
        l.device.confirmSends := by
    cases l.device.confirmSends <;> rfl
  rw [← hvalue]
  exact hread

/-- Only sizes matter to an obliging device. -/
theorem carries_of_obliging (obliging : l.device.Obliging)
    (searched : 1 ≤ l.settings.startBudget.toNat) (c : Command) {asks answers : Nat}
    (hasks : asks ≤ l.settings.maxFrameSize.toNat)
    (hanswers : answers ≤ l.settings.maxFrameSize.toNat) : l.Carries c asks answers :=
  ⟨hasks, hanswers, searched, obliging.answers c⟩

end Link

namespace Host

variable {host : Host Line} {socket : SocketHandle} {i j : Fin socketCount}

/-- A poll ends with its first question if the answer to that is the one it waits for. -/
theorem pollFor_at_once {α β : Type} {x : LinkM Line α} {wanted : Except LinkError α → Option β}
    {b : β} {budget : Nat} (asks : 1 ≤ budget)
    (uses : Link.Uses id socket host.link (x.run host.link).2)
    (answer : wanted (x.run host.link).1 = some b) :
    ∃ after, pollFor (attempt x) wanted budget host = (some b, after) ∧
      Uses id socket host after := by
  obtain ⟨n, rfl⟩ := Nat.exists_eq_add_of_le' asks
  refine ⟨(attempt x host).2, ?_, attempt_uses uses⟩
  rw [pollFor_succ (run_attempt x host)]
  simp only [answer, run_attempt]

theorem run_tryConnect (ip : Ipv4) (port : UInt16) (mode : SocketMode) (host : Host Line) :
    (tryConnect ip port mode).run host = match acquire.run host with
      | (.error e, host) => (.error e, host)
      | (.ok socket, host) =>
        match (Link.startClient ip port socket mode).run host.link with
        | (.error e, link) => (.error (.link e), { host with link := link })
        | (.ok acknowledged, link) =>
          if acknowledged then (awaitConnected socket).run { host with link := link }
          else (.error (.rejected .startClientTcp), { host with link := link }) := by
  unfold tryConnect
  rw [run_connectBy]
  rcases acquire.run host with ⟨e | socket, acquired⟩
  · rfl
  · dsimp only
    rw [run_ask]
    rcases (Link.startClient ip port socket mode).run acquired.link with ⟨e | _ | _, link⟩ <;> rfl

/-- No connection is made if the request for it does not fit the largest transfer. -/
theorem tryConnect_fails (size : host.link.settings.maxFrameSize.toNat < 16) (ip : Ipv4)
    (port : UInt16) : ∃ e after, (tryConnect ip port .tcp).run host = (.error e, after) := by
  rw [run_tryConnect]
  rcases acquire_outcome host with ⟨e, after, hacquire, -⟩ |
    ⟨socket, i, result, after, hacquire, hi, -, huses, -, -, ⟨e, rfl⟩ | ⟨rfl, -⟩⟩
  · exact ⟨e, after, by rw [hacquire]⟩
  · exact ⟨e, after, by rw [hacquire]⟩
  · obtain ⟨e, hfails⟩ := (Link.startClient_outcome after.link hi ip port).failed fun carries => by
      have hasks := carries.asks
      rw [huses.link.settings] at hasks
      omega
    rw [hacquire]
    rcases hstart : (Link.startClient ip port socket .tcp).run after.link with ⟨result, link⟩
    rw [hstart] at hfails
    cases hfails
    refine ⟨.link e, { after with link := link }, ?_⟩
    simp only [hstart]

/-- Over a link that gets every answer through, a free slot is found and its handle is learnt. -/
theorem acquire_succeeds (faithful : host.link.Faithful 8)
    (vacant : (host.link.found j).reserved = false) :
    ∃ socket i after, acquire.run host = (.ok socket, after) ∧ socket.index? = some i ∧
      Uses Socket.nothing socket host after := by
  obtain ⟨k, hk⟩ := State.reserve_of_vacant (s := host.link.device.recorded .getSocket) vacant
  have hget := (Link.getSocket_outcome host.link).carried
    (faithful.carries _ (by omega) (Nat.le_refl 8))
  have hok : (acquire.run host).1 = .ok ⟨UInt8.ofNat k⟩ := by
    have hvalid : SocketHandle.isValid ⟨UInt8.ofNat k⟩ = true :=
      SocketHandle.isValid_of_some (SocketHandle.index?_ofNat k)
    unfold acquire
    rw [run_bind, run_ask]
    rcases hrun : (Link.getSocket : LinkM Line SocketHandle).run host.link with ⟨result, link⟩
    rw [hrun, hk] at hget
    cases hget
    dsimp only
    rw [if_pos hvalid]
    rfl
  rcases acquire_outcome host with ⟨e, after, hacquire, -⟩ |
    ⟨socket, i, result, after, hacquire, hi, -, huses, -, -, ⟨e, rfl⟩ | ⟨rfl, -⟩⟩
  · cases (congrArg Prod.fst hacquire).symm.trans hok
  · cases (congrArg Prod.fst hacquire).symm.trans hok
  · exact ⟨socket, i, after, hacquire, hi, huses⟩

theorem awaitConnected_succeeds (faithful : host.link.Faithful 8)
    (attempts : 1 ≤ host.sockets.connectAttempts.toNat) (hi : socket.index? = some i)
    (live : (host.link.found i).state.isConnected = true) :
    ∃ after, (awaitConnected socket).run host = (.ok socket, after) ∧ Uses id socket host after := by
  have hstate := (Link.clientState_outcome host.link hi).carried
    (faithful.carries _ (Nat.le_refl 8) (Nat.le_refl 8))
  have hwanted : connectedAnswer ((Link.clientState socket).run host.link).1 = some () := by
    rw [hstate, connectedAnswer, if_pos live]
  obtain ⟨after, hpoll, huses⟩ :=
    pollFor_at_once attempts (Link.clientState_uses host.link) hwanted
  refine ⟨after, ?_, huses⟩
  rw [run_awaitConnected, hpoll]

/-- A connection is made if the request for it, put to a device whose sockets alone have changed,
makes an established connection of a slot. -/
theorem connectBy_succeeds {start : SocketHandle → LinkM Line Bool} {asks : Nat}
    {opened : Device.Socket} (faithful : host.link.Faithful asks) (asks_ge : 8 ≤ asks)
    (attempts : 1 ≤ host.sockets.connectAttempts.toNat)
    (vacant : (host.link.found j).reserved = false)
    (starts : ∀ {l : Link Line} {socket : SocketHandle} {i : Fin socketCount},
      l.device.rest = host.link.device.rest → socket.index? = some i →
      Link.Outcome l .startClientTcp asks 8
        ((l.device.recorded .startClientTcp).modifySocket i fun _ => opened) true
        ((start socket).run l))
    (live : opened.state.isConnected = true) :
    ∃ socket i after, (connectBy start).run host = (.ok socket, after) ∧
      socket.index? = some i ∧ Uses Socket.nothing socket host after ∧
      after.link.found i = opened := by
  obtain ⟨socket, i, acquired, hacquire, hi, hacquired⟩ :=
    acquire_succeeds (faithful.smaller asks_ge) vacant
  have hfaithful := faithful.uses hacquired.link
  have hstart := starts hacquired.link.rest hi
  have hanswer := hstart.carried (hfaithful.carries _ (Nat.le_refl asks) asks_ge)
  have hfound := Link.found_of_sent hstart hfaithful.size
  have huses : Link.Uses Socket.nothing socket acquired.link _ :=
    Link.uses_of_effect hi rfl hstart.effect
  rcases hrun : (start socket).run acquired.link with ⟨result, link⟩
  rw [hrun] at hanswer hfound huses
  cases hanswer
  let started : Host Line := { acquired with link := link }
  have hstarted : Uses Socket.nothing socket acquired started := uses_of_same huses
  obtain ⟨after, hawait, hafter⟩ := @awaitConnected_succeeds started socket i
    ((hfaithful.uses huses).smaller asks_ge)
    (by rw [hstarted.sockets, hacquired.sockets]; exact attempts) hi (by rw [hfound]; exact live)
  have hown : after.link.found i = link.found i := hafter.link.own i
  refine ⟨socket, i, after, ?_, hi, ?_, hown.trans hfound⟩
  · rw [run_connectBy, hacquire]
    dsimp only
    rw [run_ask_of_ok hrun]
    exact hawait
  · exact (hacquired.trans hstarted).trans ⟨hafter.link.weaken fun _ _ _ => rfl, hafter.sockets,
      hafter.cached⟩

section
variable (obliging : host.link.device.Obliging)
  (searched : 1 ≤ host.link.settings.startBudget.toNat)
include obliging searched

theorem tryConnect_succeeds (size : 16 ≤ host.link.settings.maxFrameSize.toNat)
    (attempts : 1 ≤ host.sockets.connectAttempts.toNat)
    (vacant : (host.link.found j).reserved = false) (ip : Ipv4) (port : UInt16) :
    ∃ socket i after, (tryConnect ip port .tcp).run host = (.ok socket, after) ∧
      socket.index? = some i ∧ Uses Socket.nothing socket host after ∧
      after.link.found i = Socket.connecting .establish ⟨ip, port⟩ 0 Socket.free := by
  refine connectBy_succeeds ⟨size, searched, obliging.answers⟩ (by omega) attempts vacant ?_ rfl
  intro l socket i hrest hi
  have hconnect : l.device.connect = .establish :=
    (congrArg State.connect hrest).trans obliging.connects
  have hstart := Link.startClient_outcome l hi ip port
  rw [hconnect] at hstart
  exact hstart

omit obliging searched in
/-- A write whose frame does not fit the largest transfer is refused, and nothing happens. -/
theorem write_refused (hi : socket.index? = some i) {data : Bytes} (hdata : data ≠ [])
    (size : host.link.settings.maxFrameSize.toNat < Link.sendSize (min chunkMax data.length)) :
    (write socket data).run host = (.error (.link (.protocol (.frameTooLarge
      (Link.sendSize (min chunkMax data.length)) host.link.settings.maxFrameSize.toNat))), host) := by
  have hvalid : socket.isValid = true := SocketHandle.isValid_of_some hi
  have fits := Link.sendData_fits socket (List.length_take_le chunkMax data)
  have hlength := Link.length_sendFrame socket (data.take chunkMax)
  rw [List.length_take] at hlength
  rw [← hlength] at size ⊢
  have hsend : (Link.sendData socket (data.take chunkMax)).run host.link = (.error (.protocol
      (.frameTooLarge ((Link.about .sendDataTcp socket).withParam (data.take chunkMax)).bytes.length
        host.link.settings.maxFrameSize.toNat)), host.link) := by
    rw [Link.sendData, Link.run_map fun answer => Option.getD answer 0, Link.readU16LE,
      Link.readValue, Link.run_bind, Link.run_call,
      Link.request_of_outgoing_error (Link.outgoing_of_long fits size)]
    rfl
  rw [run_write hvalid hdata, run_ask, hsend]

theorem confirm_succeeds (size : 8 ≤ host.link.settings.maxFrameSize.toNat)
    (attempts : 1 ≤ host.sockets.confirmAttempts.toNat) (socket : SocketHandle) :
    ∃ after, pollFor (attempt (Link.checkDataSent socket)) deliveredAnswer
        host.sockets.confirmAttempts.toNat host = (some (), after) ∧
      Uses id socket host after := by
  have hsent := (Link.checkDataSent_outcome host.link socket).carried
    (Link.carries_of_obliging obliging searched _ size size)
  refine pollFor_at_once attempts (Link.checkDataSent_uses host.link) ?_
  rw [hsent, obliging.confirms]
  rfl

/-- A write whose frame fits the largest transfer hands over some of its data, from the front. -/
theorem write_succeeds (hi : socket.index? = some i) (sends : (host.link.found i).Sends)
    (attempts : 1 ≤ host.sockets.confirmAttempts.toNat) {data : Bytes} (hdata : data ≠ [])
    (size : Link.sendSize (min chunkMax data.length) ≤ host.link.settings.maxFrameSize.toNat) :
    ∃ n after, (write socket data).run host = (.ok n, after) ∧ 1 ≤ n ∧ n ≤ data.length ∧
      Uses Socket.nothing socket host after ∧
      (after.link.found i).tx = (host.link.found i).tx ++ data.take n := by
  have hvalid : socket.isValid = true := SocketHandle.isValid_of_some hi
  have answers : 8 ≤ host.link.settings.maxFrameSize.toNat := by
    have : 12 ≤ Link.sendSize (min chunkMax data.length) := by
      simp only [Link.sendSize]
      omega
    omega
  let taken := host.link.device.taken i data
  have htaken : taken = data.take host.link.device.sendable := if_pos sends
  have hpos : 1 ≤ taken.length := by
    have := host.link.device.sendable_pos obliging.accepts
    have := List.length_pos_iff.mpr hdata
    rw [htaken, List.length_take]
    omega
  have hle : taken.length ≤ data.length := (host.link.device.length_taken_le i data).1
  have hchunk : taken.length ≤ 243 := (host.link.device.length_taken_le i data).2
  have hnumber : (UInt16.ofNat taken.length).toNat = taken.length := by
    rw [UInt16.toNat_ofNat']
    exact Nat.mod_eq_of_lt (by omega)
  have hsome : UInt16.ofNat taken.length ≠ 0 := by
    intro hzero
    rw [hzero] at hnumber
    exact absurd hnumber.symm (Nat.ne_of_gt hpos)
  have hsend := Link.sendData_outcome host.link hi data
  have hanswer := hsend.carried (Link.carries_of_obliging obliging searched _ size answers)
  have hfound := Link.found_of_sent hsend size
  have huses : Link.Uses Socket.nothing socket host.link _ :=
    Link.uses_of_effect hi rfl hsend.effect
  rcases hrun : (Link.sendData socket (data.take chunkMax)).run host.link with ⟨result, link⟩
  rw [hrun] at hanswer hfound huses
  cases hanswer
  let sent : Host Line := { host with link := link }
  have hsent : Uses Socket.nothing socket host sent := uses_of_same huses
  obtain ⟨after, hconfirm, hafter⟩ := @confirm_succeeds sent (huses.obliging obliging)
    (huses.settings ▸ searched) (huses.settings ▸ answers) attempts socket
  have hown : after.link.found i = link.found i := hafter.link.own i
  refine ⟨taken.length, after, ?_, hpos, hle, ?_, ?_⟩
  · rw [run_write hvalid hdata, run_ask, hrun]
    dsimp only
    rw [if_neg hsome, show pollFor (attempt (Link.checkDataSent socket)) deliveredAnswer
      host.sockets.confirmAttempts.toNat { host with link := link } = _ from hconfirm]
    exact congrArg (fun n => (Except.ok n, after)) hnumber
  · exact hsent.trans ⟨hafter.link.weaken fun _ _ _ => rfl, hafter.sockets, hafter.cached⟩
  · rw [hown, hfound, State.take_length_taken]
    rfl

end

end Host

end SpiWifi
