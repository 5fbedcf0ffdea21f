import SpiWifi.Proofs.Socket.Assembling
import SpiWifi.Proofs.Socket.Boundaries
import SpiWifi.Proofs.Socket.Obliging
import SpiWifi.Proofs.Station.Inquiries
import SpiWifi.Proofs.Text.Dotted

/-!
# Resolving names

A lookup takes two requests. The device answers the first by whether it knows the name and keeps what
it found for the second, until the next lookup; an address that means that nothing was found takes the
place of a missing one. A lookup changes nothing else of the device, so what came before has no part in
its answer, and a connection that is opened by name goes to the address that the lookup gives.
-/

namespace SpiWifi

open Device

namespace Device.State

/-- The device resolves a name to an address: the one that it spells out, or else its entry in the
table of hosts. -/
def Resolves (s : State) (name : String) (ip : Ipv4) : Prop :=
  name = ip.toText ∨ (∀ spelt : Ipv4, name ≠ spelt.toText) ∧ s.hosts.get? name = some ip

theorem resolve_eq_some_iff {s : State} {name : String} {ip : Ipv4} :
    s.resolve name = some ip ↔ s.Resolves name ip := by
  cases hspelt : Ipv4.ofText? name with
  | some spelt =>
    have hname : name = spelt.toText := Ipv4.ofText?_eq_some_iff.mp hspelt
    simp only [resolve, hspelt, Option.some.injEq]
    constructor
    · rintro rfl
      exact Or.inl hname
    · rintro (hip | ⟨hnone, -⟩)
      · exact Option.some.inj (hspelt.symm.trans (Ipv4.ofText?_eq_some_iff.mpr hip))
      · exact absurd hname (hnone spelt)
  | none =>
    have hnone (other : Ipv4) : name ≠ other.toText := by
      intro hname
      cases hspelt.symm.trans (Ipv4.ofText?_eq_some_iff.mpr hname)
    simp only [resolve, hspelt]
    constructor
    · intro hentry
      exact Or.inr ⟨hnone, hentry⟩
    · rintro (hip | ⟨-, hentry⟩)
      · exact absurd hip (hnone ip)
      · exact hentry

/-- What a lookup leaves alone: all but the result of the last one and the records of commands and
replies. -/
def unlooked (s : State) : State := { s with lastLookup := none, received := [], lost := [] }

theorem resolve_congr {s s' : State} (h : s'.unlooked = s.unlooked) (name : String) :
    s'.resolve name = s.resolve name := by
  have hhosts := congrArg hosts h
  simp only [unlooked] at hhosts
  simp only [resolve, hhosts]

theorem resolve_of_rest {s s' : State} (h : s'.rest = s.rest) (name : String) :
    s'.resolve name = s.resolve name := by
  have hhosts := congrArg hosts h
  simp only [rest] at hhosts
  simp only [resolve, hhosts]

end Device.State

namespace Device

theorem run_serve_lookup (name : String) (s : State) :
    (serve .reqHostByName ⟨[Text.Utf8.encode name]⟩).run s =
      (some (ack .reqHostByName (s.resolve name).isSome),
        { s with lastLookup := s.resolve name }) := by
  unfold serve
  exact Serving.run_need_bind (Text.Utf8.decode?_encode name) _ s

theorem run_serve_result (s : State) :
    (serve .getHostByName ⟨[]⟩).run s =
      (some ((Frame.reply .getHostByName).withIpv4 (s.lastLookup.getD .broadcast)), s) := rfl

end Device

namespace Link

def lookupFrame (name : String) : Frame := Host.withText (Frame.command .reqHostByName) name

theorem lookupFrame_fits {name : String} (short : (Text.Utf8.encode name).length ≤ 235) :
    (lookupFrame name).Fits := by
  rw [Frame.fits_iff_size, lookupFrame, Host.withText, Frame.paramsSize_withParam]
  change 0 + (1 + (Text.Utf8.encode name).length) ≤ 248
  omega

theorem length_lookupFrame (name : String) :
    (lookupFrame name).bytes.length = ((Text.Utf8.encode name).length + 8) / 4 * 4 := by
  rw [Frame.length_bytes]
  change (3 + (1 + (Text.Utf8.encode name).length + 0) + 1 + 3) / 4 * 4 = _
  omega

theorem length_connectHostFrame (name : String) (port : UInt16) (socket : SocketHandle)
    (mode : SocketMode) : (connectHostFrame name port socket mode).bytes.length =
      ((Text.Utf8.encode name).length + 20) / 4 * 4 := by
  rw [Frame.length_bytes]
  change (3 + (1 + (Text.Utf8.encode name).length + (1 + 4 + (1 + 2 + (1 + 1 + (1 + 1 + 0))))) +
    1 + 3) / 4 * 4 = _
  omega

/-- Between these links names may have been looked up, and nothing else has happened. -/
abbrev LookedUp (l l' : Link Line) : Prop := Becomes State.unlooked l.device.unlooked l l'

namespace LookedUp

variable {l l' l'' : Link Line}

theorem trans (h : LookedUp l l') (h' : LookedUp l' l'') : LookedUp l l'' :=
  Becomes.trans h (h.seen ▸ h')

theorem connect (h : LookedUp l l') : l'.device.connect = l.device.connect := by
  have hconnect := congrArg State.connect h.seen
  exact hconnect

theorem found (h : LookedUp l l') (i : Fin socketCount) : l'.found i = l.found i := by
  have hsockets := congrArg State.sockets h.seen
  simp only [State.unlooked] at hsockets
  rw [Link.found, Link.found, hsockets]

end LookedUp

variable (l : Link Line)

theorem lookup_lookedUp (name : String) : LookedUp l ((ack (lookupFrame name)).run l).2 := by
  rw [ack, run_map fun answer => answer == some ackByte, readU8, link_readValue]
  refine .of_request ⟨rfl, rfl⟩ (run_serve_lookup name _) ?_ ?_ _
  · intro lost
    rfl
  · rfl

theorem result_lookedUp (slots : List Slot) :
    LookedUp l ((call (Frame.command .getHostByName) slots).run l).2 := by
  rw [link_call]
  refine .of_request ⟨rfl, rfl⟩ (run_serve_result _) ?_ ?_ _
  · intro lost
    rfl
  · rfl

variable {l} {size : Nat} (faithful : l.Faithful size)
include faithful

/-- The first request tells whether the device knows the name, and leaves it the result. -/
theorem lookup_faithful {name : String} (fits : (lookupFrame name).Fits)
    (asks : (lookupFrame name).bytes.length ≤ size) (answers : 8 ≤ size) :
    ∃ l', (ack (lookupFrame name)).run l = (.ok (l.device.resolve name).isSome, l') ∧
      l'.Faithful size ∧ l'.device.lastLookup = l.device.resolve name := by
  have hserve := run_serve_lookup name (l.device.recorded .reqHostByName)
  have houtcome := ack_outcome (f := lookupFrame name) ⟨rfl, rfl⟩ fits hserve
  have hrun := houtcome.run (faithful.carries _ asks answers)
  obtain ⟨s', hreplied, hlink⟩ := houtcome.sent (Nat.le_trans asks faithful.size)
  refine ⟨_, hrun, (lookup_lookedUp l name).faithful faithful, ?_⟩
  rw [hlink, device_leaving, hreplied.same]
  rfl

/-- The second request brings the result, or the address that stands for none. -/
theorem result_faithful (answers : 12 ≤ size) :
    ∃ l', (call (Frame.command .getHostByName) [Slot.forValue 4]).run l =
      (.ok (1, [Slot.holding 5 (l.device.lastLookup.getD .broadcast).octets]), l') := by
  have fits : (Frame.command .getHostByName).Fits :=
    Frame.fits_of_short (by decide) fun _ hp => absurd hp List.not_mem_nil
  have asks : (Frame.command .getHostByName).bytes.length ≤ size := by
    rw [Frame.length_bytes]
    exact Nat.le_trans (Nat.le_of_ble_eq_true rfl) answers
  have short (ip : Ipv4) : ip.octets.length ≤ 6 := Nat.le_of_ble_eq_true rfl
  have houtcome := call_value_outcome (l := l) (c := .getHostByName) ⟨rfl, rfl⟩ fits
    (run_serve_result _) (fits_value _ (short _)) 4
  exact ⟨_, houtcome.run (faithful.carries _ asks
    (Nat.le_trans (length_value_le _ (short _)) answers))⟩

end Link

namespace Host

/-- What the result of a lookup is taken for. -/
def lookupAnswer (name : String) (found : Option Ipv4) : Except NetError Ipv4 :=
  match found with
  | some ip => if ip = .broadcast ∨ ip = .unspecified then .error (.hostNotFound name) else .ok ip
  | none => .error (.hostNotFound name)

theorem lookupAnswer_eq_ok_iff {name : String} {found : Option Ipv4} {ip : Ipv4} :
    lookupAnswer name found = .ok ip ↔ found = some ip ∧ ip ≠ .unspecified ∧ ip ≠ .broadcast := by
  rcases found with _ | other
  · simp [lookupAnswer]
  · simp only [lookupAnswer]
    split
    · next hnone =>
      constructor
      · intro h
        cases h
      · rintro ⟨hip, hspecified, hhost⟩
        cases hip
        exact absurd hnone (not_or.mpr ⟨hhost, hspecified⟩)
    · next hsome =>
      constructor
      · intro h
        cases h
        exact ⟨rfl, (not_or.mp hsome).2, (not_or.mp hsome).1⟩
      · rintro ⟨hip, -⟩
        cases hip
        rfl

theorem lookupAnswer_cases (name : String) (found : Option Ipv4) :
    (∃ ip, lookupAnswer name found = .ok ip) ∨
      lookupAnswer name found = .error (.hostNotFound name) := by
  rcases found with _ | ip
  · exact Or.inr rfl
  · simp only [lookupAnswer]
    split
    · exact Or.inr rfl
    · exact Or.inl ⟨ip, rfl⟩

/-- What the reply to the second request is taken for. -/
def lookupResult (name : String) : Nat × List Slot → Except NetError Ipv4
  | (_, [slot]) => lookupAnswer name slot.ipv4?
  | _ => .error (.hostNotFound name)

theorem run_hostByName {τ : Type} [Transport τ] (name : String) (host : Host τ) :
    (hostByName name).run host = match (Link.ack (Link.lookupFrame name)).run host.link with
      | (.error e, link) => (.error (.link e), { host with link := link })
      | (.ok false, link) => (.error (.hostNotFound name), { host with link := link })
      | (.ok true, link) =>
        match (Link.call (Frame.command .getHostByName) [Slot.forValue 4]).run link with
        | (.error e, link) => (.error (.link e), { host with link := link })
        | (.ok filled, link) => (lookupResult name filled, { host with link := link }) := by
  unfold hostByName
  rw [run_bind, run_ask]
  rcases hlookup : (Link.ack (Link.lookupFrame name)).run host.link with ⟨e | known, link⟩
  · rw [show (Link.ack (withText (Frame.command .reqHostByName) name)).run host.link = _ from hlookup]
  · rw [show (Link.ack (withText (Frame.command .reqHostByName) name)).run host.link = _ from hlookup]
    cases known
    · rfl
    · change ((ask (Link.call (Frame.command .getHostByName) [Slot.forValue 4])) >>= _).run _ = _
      rw [run_bind, run_ask]
      dsimp only
      rcases (Link.call (Frame.command .getHostByName) [Slot.forValue 4]).run link with
        ⟨e | ⟨count, _ | ⟨slot, _ | _⟩⟩, result⟩
      · rfl
      · rfl
      · dsimp only [lookupResult]
        rcases slot.ipv4? with _ | ip
        · rfl
        · dsimp only [lookupAnswer]
          split <;> rfl
      · rfl

/-- The host after these names were looked up, one after the other. -/
def lookups (names : List String) (host : Host Line) : Host Line :=
  names.foldl (fun host name => ((hostByName name).run host).2) host

theorem hostByName_lookedUp (name : String) (host : Host Line) :
    Link.LookedUp host.link ((hostByName name).run host).2.link ∧
      ((hostByName name).run host).2.sockets = host.sockets := by
  have hlookup := Link.lookup_lookedUp host.link name
  rw [run_hostByName]
  rcases hasked : (Link.ack (Link.lookupFrame name)).run host.link with ⟨e | _ | _, asked⟩
  all_goals rw [hasked] at hlookup
  · exact ⟨hlookup, rfl⟩
  · exact ⟨hlookup, rfl⟩
  · have hresult := Link.result_lookedUp asked [Slot.forValue 4]
    rcases htold : (Link.call (Frame.command .getHostByName) [Slot.forValue 4]).run asked with
      ⟨e | _, told⟩
    all_goals
      rw [htold] at hresult
      simp only [htold, and_true]
      exact hlookup.trans hresult

theorem lookups_lookedUp (names : List String) (host : Host Line) :
    Link.LookedUp host.link (host.lookups names).link ∧
      (host.lookups names).sockets = host.sockets := by
  induction names generalizing host with
  | nil => exact ⟨.refl _ host.link, rfl⟩
  | cons name rest ih =>
    obtain ⟨hname, hkept⟩ := hostByName_lookedUp name host
    obtain ⟨hrest, hsame⟩ := ih ((hostByName name).run host).2
    exact ⟨hname.trans hrest, hsame.trans hkept⟩

/-- Over a link that gets every answer through, a lookup gives what the device knows at that time. -/
theorem hostByName_answer {host : Host Line} {size : Nat} (faithful : host.link.Faithful size)
    {name : String} (fits : (Link.lookupFrame name).Fits)
    (asks : (Link.lookupFrame name).bytes.length ≤ size) (answers : 12 ≤ size) :
    ((hostByName name).run host).1 = lookupAnswer name (host.link.device.resolve name) := by
  obtain ⟨asked, hlookup, hfaithful, hkept⟩ :=
    Link.lookup_faithful faithful fits asks (by omega)
  rw [run_hostByName, hlookup]
  cases hname : host.link.device.resolve name with
  | none => rfl
  | some ip =>
    obtain ⟨told, hresult⟩ := Link.result_faithful hfaithful answers
    rw [hkept, hname] at hresult
    dsimp only [Option.isSome_some]
    rw [hresult]
    rfl

end Host

namespace Device.Socket

def connected (peer : Endpoint) (mode : UInt8) : Socket :=
  { free with
    reserved := true
    kind := .client
    state := .established
    mode := mode
    remote := some peer }

theorem connecting_establish {mode : UInt8} (stream : SocketMode.isDatagram mode = false)
    (peer : Endpoint) (a : Socket) : a.connecting .establish peer mode = connected peer mode := by
  simp [connecting, stream, connected]

end Device.Socket

theorem Link.startClientHost_outcome (l : Link Line) {socket : SocketHandle} {i : Fin socketCount}
    (hi : socket.index? = some i) {name : String} (short : (Text.Utf8.encode name).length ≤ 235)
    {ip : Ipv4} (resolves : l.device.resolve name = some ip)
    (connects : l.device.connect = .establish) (port : UInt16) {mode : SocketMode}
    (stream : SocketMode.isDatagram mode.raw = false) :
    Outcome l .startClientTcp (((Text.Utf8.encode name).length + 20) / 4 * 4) 8
      ((l.device.recorded .startClientTcp).modifySocket i fun _ =>
        Socket.connected ⟨ip, port⟩ mode.raw) true
      ((startClientHost name .unspecified port socket mode).run l) := by
  have hserve := serve_connectHost hi name port mode (l.device.recorded .startClientTcp)
  have hname : (l.device.recorded .startClientTcp).resolve name = some ip := resolves
  have hconnect : (l.device.recorded .startClientTcp).connect = .establish := connects
  have hslot : Socket.connecting .establish ⟨ip, port⟩ mode.raw =
      fun _ => Socket.connected ⟨ip, port⟩ mode.raw :=
    funext fun a => Socket.connecting_establish stream ⟨ip, port⟩ a
  rw [hname] at hserve
  dsimp only at hserve
  rw [hconnect, hslot, stream] at hserve
  have houtcome := ack_outcome (f := connectHostFrame name port socket mode) ⟨rfl, rfl⟩
    (connectHostFrame_fits_iff.mpr short) hserve
  rw [length_connectHostFrame] at houtcome
  exact houtcome

namespace Host

/-- A connection by name is made to the address that the device resolves the name to. -/
theorem tryConnectHost_succeeds {host : Host Line} {name : String} {port : UInt16}
    {mode : SocketMode} {j : Fin socketCount} {ip : Ipv4}
    (stream : SocketMode.isDatagram mode.raw = false)
    (short : (Text.Utf8.encode name).length ≤ 235)
    (faithful : host.link.Faithful (((Text.Utf8.encode name).length + 20) / 4 * 4))
    (attempts : 1 ≤ host.sockets.connectAttempts.toNat)
    (connects : host.link.device.connect = .establish)
    (vacant : (host.link.found j).reserved = false)
    (resolves : host.link.device.resolve name = some ip) :
    ∃ socket i after, (tryConnectHost name port mode).run host = (.ok socket, after) ∧
      socket.index? = some i ∧ (after.link.found i).state = .established ∧
      (remote socket after).1 = some ⟨ip, port⟩ := by
  have starts {l : Link Line} {socket : SocketHandle} {i : Fin socketCount}
      (hrest : l.device.rest = host.link.device.rest) (hi : socket.index? = some i) :=
    Link.startClientHost_outcome l hi short ((State.resolve_of_rest hrest name).trans resolves)
      ((congrArg State.connect hrest).trans connects) port stream
  obtain ⟨socket, i, after, hrun, hi, huses, hfound⟩ :=
    connectBy_succeeds faithful (by omega) attempts vacant starts rfl
  refine ⟨socket, i, after, hrun, hi, ?_, ?_⟩
  · rw [hfound]
    rfl
  · have hfaithful := (faithful.uses huses.link).smaller (by omega : 12 ≤ _)
    rw [remote_faithful hfaithful hi, hfound]
    rfl

/-- Whatever was looked up before, a lookup of a name gives the address that the device resolves the
name to, unless that address means that there is none; and a connection by name is then made to it. -/
theorem hostByName_resolves {host : Host Line} {name : String} {port : UInt16} {mode : SocketMode}
    (stream : mode = .tcp ∨ mode = .tls)
    (fits : (Link.connectHostFrame name port .none mode).Fits)
    (faithful : host.link.Faithful (Link.connectHostFrame name port .none mode).bytes.length)
    (attempts : 1 ≤ host.sockets.connectAttempts.toNat) (earlier : List String) :
    let answer := ((hostByName name).run (host.lookups earlier)).1
    (∀ ip, answer = .ok ip ↔
      host.link.device.Resolves name ip ∧ ip ≠ .unspecified ∧ ip ≠ .broadcast) ∧
    ((¬ ∃ ip, host.link.device.Resolves name ip ∧ ip ≠ .unspecified ∧ ip ≠ .broadcast) →
      answer = .error (.hostNotFound name)) ∧
    ∀ ip, answer = .ok ip → host.link.device.connect = .establish →
      (∃ j, (host.link.found j).reserved = false) → ∀ later : List String,
      ∃ socket i after,
        (tryConnectHost name port mode).run (host.lookups later) = (.ok socket, after) ∧
        socket.index? = some i ∧ (after.link.found i).state = .established ∧
        (remote socket after).1 = some ⟨ip, port⟩ := by
  intro answer
  have short := Link.connectHostFrame_fits_iff.mp fits
  rw [Link.length_connectHostFrame] at faithful
  have hstream : SocketMode.isDatagram mode.raw = false := by
    rcases stream with rfl | rfl <;> decide
  have hanswer : answer = lookupAnswer name (host.link.device.resolve name) := by
    have hlooked := (lookups_lookedUp earlier host).1
    rw [← State.resolve_congr hlooked.seen]
    refine hostByName_answer (hlooked.faithful faithful) (Link.lookupFrame_fits short) ?_ (by omega)
    rw [Link.length_lookupFrame]
    omega
  have hok (ip : Ipv4) : answer = .ok ip ↔
      host.link.device.Resolves name ip ∧ ip ≠ .unspecified ∧ ip ≠ .broadcast := by
    rw [hanswer, lookupAnswer_eq_ok_iff, State.resolve_eq_some_iff]
  refine ⟨hok, fun hnone => ?_, ?_⟩
  · rcases lookupAnswer_cases name (host.link.device.resolve name) with ⟨ip, hip⟩ | hmissing
    · exact absurd ⟨ip, (hok ip).mp (hanswer.trans hip)⟩ hnone
    · exact hanswer.trans hmissing
  · rintro ip hip connects ⟨j, vacant⟩ later
    obtain ⟨hlooked, hsockets⟩ := lookups_lookedUp later host
    have hresolves := State.resolve_eq_some_iff.mpr ((hok ip).mp hip).1
    refine tryConnectHost_succeeds (j := j) hstream short (hlooked.faithful faithful)
      (hsockets ▸ attempts) ?_ ?_ ?_
    · exact (hlooked.connect).trans connects
    · rw [hlooked.found]
      exact vacant
    · rw [State.resolve_congr hlooked.seen]
      exact hresolves

/-- The address of a name that nobody has is not left over for the next one, nor is that of the one
before; and an address of zeros in the table is no address. -/
theorem hostByName_resolves_after_misses :
    let device : State :=
      { State.initial with hosts := [("void.test", ⟨0, 0, 0, 0⟩), ("nina.test", ⟨10, 0, 0, 7⟩)] }
    let host : Host Line :=
      Host.new (Link.new { Line.new with state := device } .standard) .standard .standard
    let before := host.lookups ["nina.test", "gone.test", "void.test", "10.0.0.8"]
    ((hostByName "void.test").run before).1 = .error (.hostNotFound "void.test") ∧
    ((hostByName "nina.test").run before).1 = .ok ⟨10, 0, 0, 7⟩ ∧
    ∃ socket i after, (tryConnectHost "nina.test" 443 .tls).run before = (.ok socket, after) ∧
      socket.index? = some i ∧ (after.link.found i).state = .established ∧
      (remote socket after).1 = some ⟨⟨10, 0, 0, 7⟩, 443⟩ := by
  intro device host before
  have fits (name : String) (short : (Text.Utf8.encode name).length ≤ 9) :
      (Link.connectHostFrame name 443 .none .tls).Fits :=
    Link.connectHostFrame_fits_iff.mpr (by omega)
  have faithful (name : String) (short : (Text.Utf8.encode name).length ≤ 9) :
      host.link.Faithful (Link.connectHostFrame name 443 .none .tls).bytes.length := by
    have wide : host.link.Faithful 252 := ⟨by decide, by decide, fun _ => rfl⟩
    refine wide.smaller ?_
    rw [Link.length_connectHostFrame]
    omega
  obtain ⟨-, hvoid, -⟩ := @hostByName_resolves host "void.test" 443 .tls (Or.inr rfl)
    (fits "void.test" (by decide)) (faithful "void.test" (by decide)) (by decide)
    ["nina.test", "gone.test", "void.test", "10.0.0.8"]
  obtain ⟨hnina, -, hconnect⟩ := @hostByName_resolves host "nina.test" 443 .tls (Or.inr rfl)
    (fits "nina.test" (by decide)) (faithful "nina.test" (by decide)) (by decide)
    ["nina.test", "gone.test", "void.test", "10.0.0.8"]
  have hfound := (hnina ⟨10, 0, 0, 7⟩).mpr
    ⟨State.resolve_eq_some_iff.mp (by decide), by decide, by decide⟩
  refine ⟨hvoid ?_, hfound, hconnect _ hfound rfl ⟨⟨0, by decide⟩, by decide⟩ _⟩
  rintro ⟨ip, hip, hspecified, -⟩
  have hzeros : host.link.device.resolve "void.test" = some .unspecified := by decide
  exact hspecified (Option.some.inj ((State.resolve_eq_some_iff.mpr hip).symm.trans hzeros))

end Host

end SpiWifi
