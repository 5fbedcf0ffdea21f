import SpiWifi.Proofs.Socket.Obliging
import SpiWifi.Proofs.Socket.Refilling

/-!
# What valid settings are good for

The check of the settings bounds the largest transfer by what a frame can be, the cache by what a
frame can carry, and asks for at least one question of most polls. It does not ask that the frames of
the host fit the largest transfer. Which settings receive every byte, and which connect and send, is
therefore a matter of a few sizes.
-/

namespace SpiWifi

open Device

namespace Settings

/-- The bounds that valid settings keep. -/
structure Bounded (c : Settings) : Prop where
  smallest : 4 ≤ c.link.maxFrameSize.toNat
  largest : c.link.maxFrameSize.toNat ≤ 255
  searched : 1 ≤ c.link.startBudget.toNat
  cached : 2 ≤ c.sockets.bufferSize.toNat
  storage : c.sockets.bufferSize.toNat ≤ 255
  connects : 1 ≤ c.sockets.connectAttempts.toNat
  stops : 1 ≤ c.sockets.stopAttempts.toNat

theorem bounded_of_valid {c : Settings} (valid : c.fault? = none) : c.Bounded := by
  unfold fault? LinkSettings.validate at valid
  split at valid
  · cases valid
  · next hlink =>
    split at hlink
    · cases hlink
    · next hsizes =>
      split at hlink
      · cases hlink
      · next hbudget =>
        have hsockets : c.sockets.fault? = none := by
          cases h : c.sockets.fault? with
          | none => rfl
          | some text => simp [h] at valid
        unfold SocketSettings.fault? at hsockets
        split at hsockets
        · cases hsockets
        · next hbuffer =>
          split at hsockets
          · cases hsockets
          · next hattempts =>
            simp only [not_or, UInt64.not_lt, gt_iff_lt, UInt64.le_iff_toNat_le] at hsizes hbuffer
            simp only [not_or, ← UInt32.toNat_inj] at hattempts
            rw [← UInt64.toNat_inj] at hbudget
            exact ⟨hsizes.1, hsizes.2, Nat.pos_of_ne_zero hbudget, hbuffer.1, hbuffer.2,
              Nat.pos_of_ne_zero hattempts.1, Nat.pos_of_ne_zero hattempts.2⟩

end Settings

/-- A host with the link and the caches of these settings. -/
structure Host.Configured (c : Settings) (host : Host Line) : Prop where
  link : host.link.settings = c.link
  capacity : host.cache.capacity = c.sockets.bufferSize.toNat
  fits : host.cache.Fits

namespace Settings

/-- The most bytes that a refill of a cache brings. -/
def largestRefill (c : Settings) : Nat := min bulkReplyMax (c.sockets.bufferSize.toNat - 1)

/-- With these settings no look for bytes loses any, and a look finds bytes if there are any. -/
def ReceivesAll (c : Settings) : Prop :=
  ∀ host : Host Line, host.Configured c → (∀ command, host.link.device.lossesLeft command = 0) →
    ∀ socket i, socket.index? = some i →
      (∀ e : SocketEvent, e.LooksAt socket →
        e.returned socket host ++ (e.apply host).cache.bytes socket ++
            ((e.apply host).link.found i).inflow =
          host.cache.bytes socket ++ (host.link.found i).inflow) ∧
      (host.cache.bytes socket = [] → (host.link.found i).loadDatagram.rx ≠ [] →
        0 < (Host.available socket host).1)

section
variable {c : Settings} {host : Host Line} {socket : SocketHandle} {i : Fin socketCount}

theorem due_ne_nil (bounded : c.Bounded) (configured : host.Configured c)
    (queued : (host.link.found i).loadDatagram.rx ≠ []) :
    (host.link.found i).due host.cache.capacity ≠ [] := by
  have hcapacity := bounded.cached
  have hqueued := List.length_pos_iff.mpr queued
  rw [← List.length_pos_iff, Socket.length_due, configured.capacity]
  simp only [bulkReplyMax]
  omega

/-- A refill gets through if its frames fit the largest transfer. -/
theorem refills_iff (bounded : c.Bounded) (configured : host.Configured c)
    (kept : ∀ command, host.link.device.lossesLeft command = 0) :
    host.Refills i ↔ 12 ≤ c.link.maxFrameSize.toNat ∧
      Link.fetchSize ((host.link.found i).due host.cache.capacity).length ≤
        c.link.maxFrameSize.toNat := by
  constructor
  · intro carries
    rw [← configured.link]
    exact ⟨carries.asks, carries.answers⟩
  · rintro ⟨asks, answers⟩
    rw [← configured.link] at asks answers
    exact ⟨asks, answers, by rw [configured.link]; exact bounded.searched, kept _⟩

theorem length_due_le_largest (configured : host.Configured c) :
    ((host.link.found i).due host.cache.capacity).length ≤ c.largestRefill := by
  rw [Socket.length_due, configured.capacity, largestRefill]
  omega

end

/-- A host with these settings, on whose device bytes wait for a socket. -/
def hostWith (c : Settings) (socket : SocketHandle) (queued : Bytes) : Host Line :=
  let state := State.initial.pushIncoming socket.raw queued
  .new { Link.new { Line.new with state := state } c.link with initialized := true } c.sockets
    c.station

section
variable (c : Settings) (socket : SocketHandle) (queued : Bytes)

theorem hostWith_configured : (c.hostWith socket queued).Configured c :=
  ⟨rfl, rfl, ReceiveCache.new_fits _⟩

theorem hostWith_dry : (c.hostWith socket queued).cache.bytes socket = [] := by
  rw [ReceiveCache.bytes]
  exact congrArg (fun e => (Option.map CacheEntry.bytes e).getD []) (ReceiveCache.entry?_new _ socket)

theorem hostWith_lossless (command : Command) :
    (c.hostWith socket queued).link.device.lossesLeft command = 0 := by
  have hlost : (c.hostWith socket queued).link.device.lost = [] := State.lost_onSocket _ socket.raw _
  rw [State.lossesLeft, hlost]
  rfl

variable {socket}

theorem hostWith_found {i : Fin socketCount} (hi : socket.index? = some i) :
    (c.hostWith socket queued).link.found i = { Socket.free with rx := queued } := by
  have hfree : State.initial.sockets.get i = Socket.free := get_replicate _ i
  rw [Link.found_of_initialized rfl]
  refine (State.get_onSocket _ socket.raw _ i).trans ((if_pos hi).trans ?_)
  rw [hfree]
  rfl

end

/-- Valid settings receive every byte just if the longest question and the reply that brings the
largest refill fit the largest transfer. -/
theorem receivesAll_iff {c : Settings} (valid : c.fault? = none) :
    c.ReceivesAll ↔ 12 ≤ c.link.maxFrameSize.toNat ∧
      Link.fetchSize c.largestRefill ≤ c.link.maxFrameSize.toNat := by
  have bounded := bounded_of_valid valid
  constructor
  · intro all
    -- as many bytes wait as a refill brings, so that their reply is the largest there is
    let socket : SocketHandle := ⟨0⟩
    let queued := Bytes.zeros c.largestRefill
    obtain ⟨i, hi⟩ : ∃ i, socket.index? = some i := ⟨_, rfl⟩
    have configured := hostWith_configured c socket queued
    have kept := hostWith_lossless c socket queued
    have hfound := hostWith_found c queued hi
    have hloaded : ((c.hostWith socket queued).link.found i).loadDatagram.rx = queued := by
      rw [hfound]
      rfl
    have hqueued : queued ≠ [] := by
      have hcached := bounded.cached
      rw [← List.length_pos_iff, Bytes.length_zeros, largestRefill]
      simp only [bulkReplyMax]
      omega
    have hpos := (all _ configured kept socket i hi).2 (hostWith_dry c socket queued)
      (by rwa [hloaded])
    rw [Host.available_pos_iff configured.fits hi, hostWith_dry] at hpos
    rcases hpos with hcached | ⟨-, hrefills⟩
    · exact absurd rfl hcached
    · have hlength : (((c.hostWith socket queued).link.found i).due
          (c.hostWith socket queued).cache.capacity).length = c.largestRefill := by
        rw [Socket.length_due, hloaded, Bytes.length_zeros, configured.capacity, Nat.min_assoc,
          ← largestRefill, Nat.min_self]
      rw [refills_iff bounded configured kept, hlength] at hrefills
      exact hrefills
  · rintro ⟨asks, answers⟩ host configured kept socket i hi
    have hlook := Host.available_look configured.fits hi
    have hrefills : host.Refills i := (refills_iff bounded configured kept).mpr
      ⟨asks, Nat.le_trans (Link.fetchSize_mono (length_due_le_largest configured)) answers⟩
    constructor
    · intro e looks
      obtain ⟨hbytes, hlink⟩ := Host.looks_of_event looks host
      rw [hbytes, hlink]
      rcases hlook.accounted with hkept | ⟨-, -, hfails, -, -⟩
      · exact hkept
      · exact absurd hrefills hfails
    · intro _ queued
      exact (Host.available_pos_iff configured.fits hi).mpr
        (Or.inr ⟨due_ne_nil bounded configured queued, hrefills⟩)

/-- With transfers of 64 bytes, caches of 59 bytes receive everything. -/
theorem receivesAll_of_small_caches :
    let c : Settings :=
      ⟨{ LinkSettings.instant with maxFrameSize := 64 },
        { SocketSettings.standard with bufferSize := 59 }, .standard⟩
    c.fault? = none ∧ c.ReceivesAll := by
  intro c
  have valid : c.fault? = none := by decide
  exact ⟨valid, (receivesAll_iff valid).mpr (by decide)⟩

/-- With transfers of 64 bytes and caches of the standard size, a look at 100 waiting bytes finds none,
and they are gone. -/
theorem refill_lost :
    let c : Settings := ⟨{ LinkSettings.instant with maxFrameSize := 64 }, .standard, .standard⟩
    let host := c.hostWith ⟨0⟩ (Bytes.zeros 100)
    let after := (SocketEvent.available ⟨0⟩).apply host
    c.fault? = none ∧ (Host.available ⟨0⟩ host).1 = 0 ∧ after.cache.bytes ⟨0⟩ = [] ∧
      (after.link.found ⟨0, by decide⟩).inflow = [] ∧ ¬ c.ReceivesAll := by
  intro c host after
  have hnone : (Host.available ⟨0⟩ host).1 = 0 := by decide +kernel
  refine ⟨by decide, hnone, by decide +kernel, by decide +kernel, fun all => ?_⟩
  have hqueued : (host.link.found ⟨0, by decide⟩).loadDatagram.rx ≠ [] := by decide +kernel
  have hpos := (all host (hostWith_configured c ⟨0⟩ _) (hostWith_lossless c ⟨0⟩ _) ⟨0⟩ _ rfl).2
    (hostWith_dry c ⟨0⟩ _) hqueued
  exact absurd hnone (Nat.ne_of_gt hpos)

end Settings

namespace Link

variable {l : Link Line} {socket : SocketHandle} {i : Fin socketCount}

theorem sentData_eq (ready : l.initialized = true) (hi : socket.index? = some i) :
    l.transport.state.sentData socket.raw = (l.found i).tx := by
  rw [State.sentData, State.socket?, show SocketHandle.slotOf? socket.raw = some i from hi,
    found_of_initialized ready]
  rfl

end Link

namespace Stream

theorem run_connectBy_idle (x : HostM Line SocketHandle) (host : Host Line) :
    (connectBy x).run.run (idle, host) = match x.run host with
      | (.ok socket, after) => (.ok (), ofHandle socket, after)
      | (.error e, after) => (.error e, idle, after) := by
  refine (run_connectBy idle host x).trans ?_
  rw [stop_of_invalid idle host rfl]
  rcases x.run host with ⟨e | socket, after⟩ <;> rfl

theorem run_write (data : Bytes) (s : Stream) (host : Host Line) :
    (write data).run.run (s, host) = match (Host.write s.socket data).run host with
      | (.ok n, after) => (.ok n, s, after)
      | (.error e, after) => (.error e, { s with writeFailed := true }, after) := by
  rcases hrun : (Host.write s.socket data).run host with ⟨e | n, after⟩
  all_goals
    simp only [ExceptT.run] at hrun
    simp only [write, ExceptT.run, StateT.run, hrun]

end Stream

namespace Settings

/-- Over an obliging device a new client of a host with valid settings, which ask at least once for
delivery, connects if the request for it fits the largest transfer. Then a write sends some of its
data if the frame around it fits, and is refused else. -/
theorem connects_and_sends {c : Settings} (valid : c.fault? = none)
    (asks : 1 ≤ c.sockets.confirmAttempts.toNat) {d : Device.Line} (obliging : d.state.Obliging)
    (ip : Ipv4) (port : UInt16) {data : Bytes} (hdata : data ≠ []) :
    let host := Host.new (Link.new d c.link) c.sockets c.station
    let connect := (Stream.connect ip port .tcp).run.run (Stream.idle, host)
    let largest := c.link.maxFrameSize.toNat
    let size := Link.sendSize (min chunkMax data.length)
    (largest < 16 → ∃ e, connect.1 = .error e) ∧
    (16 ≤ largest → ∃ s connected, connect = (.ok (), s, connected) ∧
      (size ≤ largest → ∃ n after,
        (Stream.write data).run.run (s, connected) = (.ok n, s, after) ∧ 1 ≤ n ∧ n ≤ data.length ∧
          after.link.transport.state.sentData s.socket.raw = data.take n) ∧
      (largest < size →
        (Stream.write data).run.run (s, connected) =
            (.error (.link (.protocol (.frameTooLarge size largest))),
              { s with writeFailed := true }, connected) ∧
          connected.link.transport.state.sentData s.socket.raw = [])) := by
  intro host connect largest size
  have bounded := bounded_of_valid valid
  have hconnect : connect = _ := Stream.run_connectBy_idle (Host.tryConnect ip port .tcp) host
  constructor
  · intro small
    obtain ⟨e, after, hfails⟩ := @Host.tryConnect_fails host small ip port
    rw [hconnect, hfails]
    exact ⟨e, rfl⟩
  · intro fits
    have hobliging : host.link.device.Obliging :=
      ⟨obliging.connects, obliging.confirms, obliging.accepts, obliging.answers⟩
    have vacant : (host.link.found ⟨0, by decide⟩).reserved = false := by
      rw [Link.found_of_uninitialized rfl]
      rfl
    obtain ⟨socket, i, connected, htry, hi, huses, hfound⟩ := Host.tryConnect_succeeds hobliging
      bounded.searched fits bounded.connects vacant ip port
    have hsettings : connected.link.settings = c.link := huses.link.settings
    have ready : connected.link.initialized = true := by
      refine Link.initialized_of_reserved (i := i) ?_
      rw [hfound]
      rfl
    refine ⟨.ofHandle socket, connected, by rw [hconnect, htry], fun hsize => ?_, fun hlong => ?_⟩
    · obtain ⟨n, after, hwrite, hpos, hle, hafter, htx⟩ := Host.write_succeeds
        (huses.link.obliging hobliging) (hsettings ▸ bounded.searched) hi
        (hfound ▸ ⟨rfl, rfl⟩) (huses.sockets ▸ asks) hdata (hsettings ▸ hsize)
      have hready : after.link.initialized = true := by
        cases hinit : after.link.initialized with
        | true => rfl
        | false => rw [← hinit, hafter.link.untouched hinit, ready]
      refine ⟨n, after, ?_, hpos, hle, ?_⟩
      · rw [Stream.run_write]
        simp only [Stream.ofHandle, hwrite]
      · rw [show (Stream.ofHandle socket).socket = socket from rfl, Link.sentData_eq hready hi, htx,
          hfound]
        rfl
    · constructor
      · have hrefused := @Host.write_refused connected socket i hi data hdata (by
          rw [hsettings]
          exact hlong)
        rw [hsettings] at hrefused
        rw [Stream.run_write]
        simp only [Stream.ofHandle, hrefused]
        rfl
      · rw [show (Stream.ofHandle socket).socket = socket from rfl, Link.sentData_eq ready hi, hfound]
        rfl

/-- Transfers of 16 bytes are enough to connect and to write two bytes. -/
theorem connects_and_sends_in_sixteen :
    let c : Settings := ⟨{ LinkSettings.instant with maxFrameSize := 16 }, .standard, .standard⟩
    let host := Host.new (Link.new Line.new c.link) c.sockets c.station
    c.fault? = none ∧ 1 ≤ c.sockets.confirmAttempts.toNat ∧ ∃ s connected,
      (Stream.connect ⟨10, 0, 0, 1⟩ 80 .tcp).run.run (Stream.idle, host) = (.ok (), s, connected) ∧
        ∃ n after, (Stream.write [104, 105]).run.run (s, connected) = (.ok n, s, after) ∧
          1 ≤ n ∧ n ≤ 2 ∧
          after.link.transport.state.sentData s.socket.raw = List.take n [104, 105] := by
  intro c host
  have valid : c.fault? = none := by decide
  have asks : 1 ≤ c.sockets.confirmAttempts.toNat := by decide
  obtain ⟨s, connected, hconnect, hwrite, -⟩ :=
    (connects_and_sends (d := Line.new) valid asks State.initial_obliging ⟨10, 0, 0, 1⟩ 80
      (List.cons_ne_nil 104 [105])).2 (by decide)
  exact ⟨valid, asks, s, connected, hconnect, hwrite (by decide)⟩

/-- With transfers of 8 bytes no client connects, though the settings are valid. -/
theorem connect_too_large :
    let c : Settings := ⟨{ LinkSettings.instant with maxFrameSize := 8 }, .standard, .standard⟩
    let host := Host.new (Link.new Line.new c.link) c.sockets c.station
    c.fault? = none ∧
      ((Stream.connect ⟨10, 0, 0, 1⟩ 80 .tcp).run.run (Stream.idle, host)).1 =
        .error (.link (.protocol (.frameTooLarge 16 8))) := by
  intro c host
  exact ⟨by decide, by decide +kernel⟩

end Settings

end SpiWifi
