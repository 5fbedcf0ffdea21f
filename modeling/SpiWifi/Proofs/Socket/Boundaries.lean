import SpiWifi.Proofs.Link.Questions
import SpiWifi.Proofs.Socket.Backlog
import SpiWifi.Proofs.Wire.Sizes

/-!
# The boundaries of datagrams

The device loads one datagram at a time into the receive queue of a slot, and only when the queue is
empty; the host asks for bytes only when its cache is. So all that a datagram socket still has to hand
over, in the cache and in the queue, comes from the datagram that was loaded last, and the slot names
its sender. No read returns bytes of two datagrams.
-/

namespace SpiWifi

open Device

namespace Device

def payloads (datagrams : List Datagram) : Bytes := datagrams.flatMap Datagram.data

theorem payloads_append (first second : List Datagram) :
    payloads (first ++ second) = payloads first ++ payloads second := List.flatMap_append

/-- The bytes of the datagrams that were loaded were returned or are still unread, and what is unread
is the end of the last one. -/
structure Unfolds (loaded : List Datagram) (returned unread : Bytes) (sender : Option Endpoint) :
    Prop where
  bytes : returned ++ unread = payloads loaded
  last : unread ≠ [] → ∃ g, loaded.getLast? = some g ∧ sender = some g.sender ∧ unread <:+ g.data

namespace Socket

/-- The slot hands over the datagrams that were pushed to it: some of them it has loaded, and of these
some bytes were returned and some are cached. -/
def Delivers (a : Socket) (pushed : List Datagram) (returned cached : Bytes) : Prop :=
  ∃ loaded, loaded ++ a.datagrams = pushed ∧ Unfolds loaded returned (cached ++ a.rx) a.remote

namespace Delivers

variable {a : Socket} {pushed : List Datagram} {returned cached out : Bytes}

theorem start (h : a.rx = []) : a.Delivers a.datagrams [] [] := by
  refine ⟨[], rfl, ?_, fun hsome => absurd h hsome⟩
  rw [h]
  rfl

/-- No byte is lost, made up or moved. -/
theorem conserves (h : a.Delivers pushed returned cached) :
    returned ++ cached ++ a.rx ++ payloads a.datagrams = payloads pushed := by
  obtain ⟨loaded, rfl, hunfolds⟩ := h
  rw [payloads_append, ← hunfolds.bytes, List.append_assoc returned]

theorem congr {a' : Socket} (h : a.Delivers pushed returned cached) (rx : a'.rx = a.rx)
    (remote : a'.remote = a.remote) {new : List Datagram}
    (datagrams : a'.datagrams = a.datagrams ++ new) :
    a'.Delivers (pushed ++ new) returned cached := by
  obtain ⟨loaded, rfl, hunfolds⟩ := h
  refine ⟨loaded, ?_, ?_⟩
  · rw [datagrams, List.append_assoc]
  · rw [rx, remote]
    exact hunfolds

/-- Bytes that are cached are returned. -/
theorem take (h : a.Delivers pushed returned (out ++ cached)) :
    a.Delivers pushed (returned ++ out) cached := by
  obtain ⟨loaded, hpushed, hunfolds⟩ := h
  refine ⟨loaded, hpushed, ?_, fun hsome => ?_⟩
  · rw [← hunfolds.bytes, List.append_assoc, List.append_assoc]
  · have hmore : out ++ cached ++ a.rx ≠ [] := by
      rw [List.append_assoc]
      exact fun hnil => hsome (List.append_eq_nil_iff.mp hnil).2
    obtain ⟨g, hlast, hsender, hsuffix⟩ := hunfolds.last hmore
    rw [List.append_assoc] at hsuffix
    exact ⟨g, hlast, hsender, (List.suffix_append out _).trans hsuffix⟩

/-- A datagram is loaded only when nothing of the one before is left. -/
theorem load (h : a.Delivers pushed returned []) : a.loadDatagram.Delivers pushed returned [] := by
  unfold loadDatagram
  split
  · next hload =>
    obtain ⟨loaded, hpushed, hunfolds⟩ := h
    cases hwaiting : a.datagrams with
    | nil => exact ⟨loaded, hpushed, hunfolds⟩
    | cons g rest =>
      have hbytes := hunfolds.bytes
      rw [List.nil_append, hload.2, List.append_nil] at hbytes
      refine ⟨loaded ++ [g], ?_, ?_, fun _ => ⟨g, List.getLast?_concat, rfl, ?_⟩⟩
      · rw [← hpushed, hwaiting, List.append_assoc]
        rfl
      · rw [payloads_append, hbytes]
        change payloads loaded ++ g.data = payloads loaded ++ (g.data ++ [])
        rw [List.append_nil]
      · exact List.suffix_refl g.data
  · exact h

/-- A refill moves the front of the queue to the cache. -/
theorem refill (h : a.Delivers pushed returned []) (n : Nat) :
    (a.drained n).Delivers pushed returned (a.loadDatagram.rx.take n) := by
  obtain ⟨loaded, hpushed, hunfolds⟩ := h.load
  refine ⟨loaded, hpushed, ?_⟩
  change Unfolds loaded returned (a.loadDatagram.rx.take n ++ a.loadDatagram.rx.drop n)
    a.loadDatagram.remote
  rw [List.take_append_drop]
  exact hunfolds

/-- Bytes that are returned together come from one datagram, from the place in it at which the bytes
before ended; and the slot names its sender. -/
theorem source (h : a.Delivers pushed returned (out ++ cached)) (hout : out ≠ []) :
    ∃ (j : Nat) (g : Datagram) (skip : Nat), pushed[j]? = some g ∧
      returned = payloads (pushed.take j) ++ g.data.take skip ∧ out <+: g.data.drop skip ∧
      a.remote = some g.sender := by
  obtain ⟨loaded, rfl, hunfolds⟩ := h
  have hmore : out ++ cached ++ a.rx ≠ [] := by
    rw [List.append_assoc]
    exact fun hnil => hout (List.append_eq_nil_iff.mp hnil).1
  obtain ⟨g, hlast, hsender, front, hdata⟩ := hunfolds.last hmore
  obtain ⟨before, rfl⟩ := List.getLast?_eq_some_iff.mp hlast
  have hreturned : returned = payloads before ++ front := by
    have hbytes : returned ++ (out ++ cached ++ a.rx) =
        payloads before ++ front ++ (out ++ cached ++ a.rx) := by
      rw [hunfolds.bytes, payloads_append, List.append_assoc, hdata]
      exact congrArg (payloads before ++ ·) (List.append_nil g.data)
    exact List.append_cancel_right hbytes
  refine ⟨before.length, g, front.length, ?_, ?_, ?_, hsender⟩
  · rw [List.append_assoc, List.getElem?_append_right (Nat.le_refl _), Nat.sub_self]
    rfl
  · rw [hreturned, List.append_assoc, List.take_left, ← hdata, List.take_left]
  · rw [← hdata, List.drop_left, List.append_assoc]
    exact List.prefix_append out _

end Delivers

end Socket

end Device

namespace Link

theorem Served.of_uses {view : Device.Socket → Device.Socket} {socket : SocketHandle}
    {l l' : Link Line} (h : l.Served) (uses : Uses view socket l l') : l'.Served := by
  have hreset : l'.initialized = true := by
    cases hinit : l'.initialized with
    | true => rfl
    | false => exact absurd (uses.untouched hinit ▸ h.reset) (Bool.eq_false_iff.mp hinit)
  have hkept : ∀ c, l.device.lossesLeft c = 0 := fun c => by
    rw [device_of_initialized h.reset]
    exact h.kept c
  refine ⟨hreset, uses.settings ▸ h.size, uses.settings ▸ h.budget, fun c => ?_⟩
  rw [← device_of_initialized hreset]
  exact uses.kept hkept c

theorem Served.faithful {l : Link Line} (h : l.Served) : l.Faithful 252 := by
  refine ⟨h.size, h.budget, fun c => ?_⟩
  rw [device_of_initialized h.reset]
  exact h.kept c

theorem fetchInto_drains {l : Link Line} (h : l.Served) {socket : SocketHandle}
    {i : Fin socketCount} (hi : socket.index? = some i) (slot : Slot) :
    ∃ n filled l', fetchInto socket slot l = ((n, filled), l') ∧
      filled.bytes = (l.socketAt i).loadDatagram.rx.take n ∧
      l'.socketAt i = (l.socketAt i).drained n := by
  obtain ⟨-, filled, hfetch, -, hbytes⟩ := fetchInto_served h hi slot
  exact ⟨_, filled, _, hfetch, hbytes, State.get_modifySocket_self _ i _⟩

/-- The peer that a slot names is read as it is. -/
theorem remoteData_faithful {l : Link Line} (h : l.Faithful 12) {socket : SocketHandle}
    {i : Fin socketCount} (hi : socket.index? = some i) :
    ((remoteData socket).run l).1 = .ok (l.found i).remote := by
  have hserve := run_serve_remote hi (l.device.recorded .getRemoteData)
  have hsame : ((l.device.recorded .getRemoteData).sockets.get i).remote = (l.found i).remote := rfl
  rw [hsame] at hserve
  cases hremote : (l.found i).remote with
  | none =>
    rw [hremote] at hserve
    have replyFits : (Frame.reply .getRemoteData).Fits :=
      Frame.fits_of_short (Nat.zero_le _) fun _ hp => absurd hp List.not_mem_nil
    have houtcome := call_outcome (f := about .getRemoteData socket) ⟨rfl, rfl⟩ (about_fits _ _)
      hserve replyFits [Slot.forValue 4, Slot.forValue 2]
    rw [length_about] at houtcome
    have hcall := houtcome.run (h.carries _ (by omega) (by rw [Frame.length_bytes]; decide))
    rw [remoteData, run_bind, hcall]
    rfl
  | some peer =>
    rw [hremote] at hserve
    have replyFits : (((Frame.reply .getRemoteData).withIpv4 peer.ip).withU16 peer.port).Fits := by
      rw [Frame.fits_iff_size, Frame.paramsSize_withU16, Frame.paramsSize_withIpv4]
      exact Nat.le_of_ble_eq_true rfl
    have answers :
        (((Frame.reply .getRemoteData).withIpv4 peer.ip).withU16 peer.port).bytes.length ≤ 12 := by
      rw [Frame.length_bytes, Frame.encodedLength_eq, Frame.paramsSize_withU16,
        Frame.paramsSize_withIpv4, Frame.width_withIpv4]
      decide
    have houtcome := call_outcome (f := about .getRemoteData socket) ⟨rfl, rfl⟩ (about_fits _ _)
      hserve replyFits [Slot.forValue 4, Slot.forValue 2]
    rw [length_about] at houtcome
    have hcall := houtcome.run (h.carries _ (by omega) answers)
    have hip : (Slot.holding 5 peer.ip.octets).ipv4? = some peer.ip := rfl
    have hport : (Slot.holding 3 (Bytes.ofU16BE peer.port)).u16? = some peer.port :=
      congrArg some (Bytes.joinU16_ofU16BE peer.port)
    rw [show stored _ _ = [Slot.holding 5 peer.ip.octets, Slot.holding 3 (Bytes.ofU16BE peer.port)]
      from rfl, show min _ _ = 2 from rfl] at hcall
    rw [remoteData, run_bind, hcall]
    dsimp only
    rw [hip, hport]
    rfl

end Link

namespace Host

variable {host : Host Line} {socket : SocketHandle} {i : Fin socketCount}
  {pushed : List Datagram} {returned : Bytes}

/-- To look for bytes either changes nothing, or finds none in the cache and refills it. -/
theorem available_refills (served : host.link.Served) (hi : socket.index? = some i) :
    let after := (available socket host).2
    (after.cache.bytes socket = host.cache.bytes socket ∧ after.link = host.link) ∨
    (host.cache.bytes socket = [] ∧ ∃ n,
      after.cache.bytes socket = (host.link.socketAt i).loadDatagram.rx.take n ∧
      after.link.socketAt i = (host.link.socketAt i).drained n) := by
  intro after
  have hafter : after = _ := congrArg Prod.snd (run_onCache _ host)
  rcases ReceiveCache.available_draws Link.fetchInto socket host.cache host.link hi with
    ⟨-, hsame⟩ | ⟨hdry, slot, -, hdrawn, hleft⟩
  · rw [hafter, hsame]
    exact Or.inl ⟨rfl, rfl⟩
  · obtain ⟨n, filled, link, hfetch, hbytes, hslot⟩ := Link.fetchInto_drains served hi slot
    rw [hfetch] at hdrawn hleft
    refine Or.inr ⟨hdry, n, ?_, ?_⟩
    · rw [hafter]
      refine hdrawn.trans ?_
      rw [hbytes, List.take_take, Nat.min_self]
    · rw [hafter]
      exact (congrArg (Link.socketAt · i) hleft).trans hslot

theorem available_delivers (served : host.link.Served) (hi : socket.index? = some i)
    (h : (host.link.found i).Delivers pushed returned (host.cache.bytes socket)) :
    let after := (available socket host).2
    (after.link.found i).Delivers pushed returned (after.cache.bytes socket) := by
  intro after
  have hserved : after.link.Served := served.of_uses (available_receives socket host).link
  rw [Link.found_of_initialized hserved.reset]
  rw [Link.found_of_initialized served.reset] at h
  rcases available_refills served hi with ⟨hcache, hlink⟩ | ⟨hdry, n, hcache, hslot⟩
  · rw [hcache, hlink]
    exact h
  · rw [hdry] at h
    rw [hcache, hslot]
    exact h.refill n

/-- A read looks first, and then returns bytes from the cache. -/
theorem read_delivers (served : host.link.Served) (hi : socket.index? = some i)
    (h : (host.link.found i).Delivers pushed returned (host.cache.bytes socket)) (n : Nat) :
    let result := read socket n host
    (result.2.link.found i).Delivers pushed returned
      (result.1 ++ result.2.cache.bytes socket) := by
  intro result
  have hlooked := available_delivers served hi h
  have hread := ReceiveCache.read_append Link.fetchInto socket host.cache host.link n
  have hcache : result.1 ++ result.2.cache.bytes socket =
      (available socket host).2.cache.bytes socket := hread
  rw [hcache, read_link]
  exact hlooked

theorem cache_remote (socket : SocketHandle) (host : Host Line) :
    (remote socket host).2.cache = host.cache := by
  unfold remote
  split
  · simp only [bind, StateT.bind, run_attempt]
    rcases (Link.remoteData socket).run host.link with ⟨e | peer, link⟩ <;> rfl
  · rfl

theorem remote_faithful (faithful : host.link.Faithful 12) (hi : socket.index? = some i) :
    (remote socket host).1 = (host.link.found i).remote := by
  have hvalid : socket.isValid = true := SocketHandle.isValid_of_some hi
  have hremote := Link.remoteData_faithful faithful hi
  simp only [remote, hvalid, if_true, bind, StateT.bind, run_attempt, hremote]
  rfl

end Host

end SpiWifi
