import SpiWifi.Proofs.Socket.Reuse
import SpiWifi.Settings.Basic

/-!
# Looking for bytes

To look for the bytes of a socket is to refill its cache if that has run dry. How much is asked for
comes from the size of the cache, how much is sent from the limit of the device, and how much is read
from the largest transfer of the link. The device gives its bytes up before the host knows whether the
reply fits the transfer. So settings receive everything if the largest refill fits the largest
transfer, and only then: the check of the settings does not ask for it.
-/

namespace SpiWifi

open Device

namespace Device.Socket

/-- The bytes that a slot holds for the host, in the order in which it hands them over. -/
def inflow (a : Socket) : Bytes :=
  a.rx ++ if a.kind = .datagram then a.datagrams.flatMap Datagram.data else []

theorem inflow_loadDatagram (a : Socket) : a.loadDatagram.inflow = a.inflow := by
  unfold loadDatagram
  split
  · next h =>
    cases hwaiting : a.datagrams with
    | nil => rfl
    | cons d rest => simp [inflow, h.1, h.2, hwaiting]
  · rfl

/-- What is due to a fetch is the front of what came in, and a fetch leaves the rest. -/
theorem due_inflow (capacity : Nat) (a : Socket) :
    a.due capacity ++ (a.drained (a.due capacity).length).inflow = a.inflow := by
  rw [← inflow_loadDatagram a, inflow, inflow, ← due_append capacity a, List.append_assoc]
  rfl

end Device.Socket

theorem CacheEntry.Fits.refilled_of {capacity count : Nat} {e : CacheEntry} {slot : Slot}
    (fits : e.Fits capacity) (dry : e.remaining = 0) (storage : slot.capacity = capacity)
    (held : count = 0 ∨ count = slot.length) : (e.refilled count slot).Fits capacity := by
  unfold CacheEntry.refilled
  split
  · next hpos =>
    rcases held with hnone | hall
    · omega
    · refine ⟨storage, ?_, fun _ => (Nat.zero_add _).trans hall⟩
      have hle : slot.length ≤ slot.capacity := by
        simp only [Slot.length, Slot.capacity, Slot.raw, List.length_append]
        omega
      dsimp only
      omega
  · exact ⟨storage, fits.bound, fun hpos => absurd hpos (by dsimp only; omega)⟩

/-- A source that keeps the storage, and counts what it stored or nothing, keeps the cache sound. -/
theorem ReceiveCache.Fits.available {σ : Type} {fetch : Fetch σ} {c : ReceiveCache} (fits : c.Fits)
    (h : SocketHandle) (s : σ)
    (stores : ∀ i slot, h.index? = some i → (fetch h slot s).1.2.capacity = slot.capacity ∧
      ((fetch h slot s).1.1 = 0 ∨ (fetch h slot s).1.1 = (fetch h slot s).1.2.length)) :
    (c.available fetch h s).2.1.Fits ∧ (c.available fetch h s).2.1.capacity = c.capacity := by
  cases hi : h.index? with
  | none =>
    rw [available_of_invalid hi]
    exact ⟨fits, rfl⟩
  | some i =>
    by_cases hr : c.remaining h = 0
    · have hentry := fits.entryAt i
      have hdry : (c.entryAt i).remaining = 0 := by rwa [← remaining_eq hi]
      obtain ⟨hstorage, hheld⟩ := stores i (c.entryAt i).slot hi
      rw [available_of_dry hi hr]
      exact ⟨fits.setEntry (hentry.refilled_of hdry (hstorage.trans hentry.storage) hheld), rfl⟩
    · rw [available_of_cached hi (Nat.pos_of_ne_zero hr)]
      exact ⟨fits, rfl⟩

def SocketEvent.LooksAt (socket : SocketHandle) : SocketEvent → Prop
  | available h | read h _ | peek h => h = socket
  | _ => False

namespace Host

variable {host : Host Line} {socket : SocketHandle} {i : Fin socketCount}

theorem available_fits (fits : host.cache.Fits) (socket : SocketHandle) :
    (available socket host).2.cache.Fits ∧
      (available socket host).2.cache.capacity = host.cache.capacity := by
  rw [available, run_onCache]
  refine fits.available socket host.link fun i slot hi => ?_
  have hfetched := Link.fetchInto_fetched host.link hi slot
  refine ⟨hfetched.capacity, ?_⟩
  by_cases hcarries : host.link.Carries .getDatabufTcp 12
      (Link.fetchSize ((host.link.found i).due slot.capacity).length)
  · obtain ⟨hcount, hbytes⟩ := hfetched.carried hcarries
    exact Or.inr (by rw [hcount, Slot.length, hbytes])
  · exact Or.inl (hfetched.failed hcarries)

/-- The settings of the link, and the replies to be lost, let a refill of a cache through. -/
def Refills (host : Host Line) (i : Fin socketCount) : Prop :=
  host.link.Carries .getDatabufTcp 12
    (Link.fetchSize ((host.link.found i).due host.cache.capacity).length)

/-- What becomes of the cache and the slot of a socket by a look for its bytes. -/
inductive Look (socket : SocketHandle) (i : Fin socketCount) (host after : Host Line) : Prop
  /-- There are bytes in the cache, or the question is too long for the link. -/
  | unasked (reason : host.cache.bytes socket ≠ [] ∨ host.link.settings.maxFrameSize.toNat < 12)
    (cached : after.cache.bytes socket = host.cache.bytes socket)
    (slot : after.link.found i = host.link.found i)
  | refilled (dry : host.cache.bytes socket = []) (carries : host.Refills i)
    (cached : after.cache.bytes socket = (host.link.found i).due host.cache.capacity)
    (slot : after.link.found i =
      (host.link.found i).drained ((host.link.found i).due host.cache.capacity).length)
  /-- The device has answered, but the answer does not arrive. -/
  | missed (dry : host.cache.bytes socket = [])
    (asked : 12 ≤ host.link.settings.maxFrameSize.toNat) (fails : ¬ host.Refills i)
    (cached : after.cache.bytes socket = [])
    (slot : after.link.found i =
      (host.link.found i).drained ((host.link.found i).due host.cache.capacity).length)

theorem available_look (fits : host.cache.Fits) (hi : socket.index? = some i) :
    Look socket i host (available socket host).2 := by
  have hafter : (available socket host).2 = _ := congrArg Prod.snd (run_onCache _ host)
  rcases ReceiveCache.available_draws Link.fetchInto socket host.cache host.link hi with
    ⟨hr, hsame⟩ | ⟨hdry, slot, rfl, hdrawn, hleft⟩
  · have hlength := fits.length_bytes socket
    rw [hafter, hsame]
    refine .unasked (Or.inl fun hdry => hr ?_) rfl rfl
    rw [← hlength, hdry, List.length_nil]
  · have hstorage := (fits.entryAt i).storage
    have hfetched := Link.fetchInto_fetched host.link hi (host.cache.entryAt i).slot
    have hsent := hfetched.sent
    have hcarried := hfetched.carried
    have hfailed := hfetched.failed
    rw [hstorage] at hsent hcarried hfailed
    rw [hafter]
    by_cases hasked : 12 ≤ host.link.settings.maxFrameSize.toNat
    · have hslot := (congrArg (Link.found · i) hleft).trans (hsent hasked)
      by_cases hcarries : host.Refills i
      · obtain ⟨hcount, hbytes⟩ := hcarried hcarries
        rw [hcount, hbytes, List.take_length] at hdrawn
        exact .refilled hdry hcarries hdrawn hslot
      · rw [hfailed hcarries, List.take_zero] at hdrawn
        exact .missed hdry hasked hcarries hdrawn hslot
    · rw [hfailed fun hcarries => hasked hcarries.asks, List.take_zero] at hdrawn
      rw [hfetched.unsent (Nat.not_le.mp hasked)] at hleft
      exact .unasked (Or.inr (Nat.not_le.mp hasked)) (hdrawn.trans hdry.symm)
        (congrArg (Link.found · i) hleft)

namespace Look

variable {after : Host Line} (look : Look socket i host after)
include look

/-- Either every byte is where it was or has moved to the cache, or those that were due are lost. -/
theorem accounted :
    after.cache.bytes socket ++ (after.link.found i).inflow =
        host.cache.bytes socket ++ (host.link.found i).inflow ∨
      (host.cache.bytes socket = [] ∧ 12 ≤ host.link.settings.maxFrameSize.toNat ∧
        ¬ host.Refills i ∧ after.cache.bytes socket = [] ∧
        (host.link.found i).due host.cache.capacity ++ (after.link.found i).inflow =
          (host.link.found i).inflow) := by
  cases look with
  | unasked reason cached slot =>
    left
    rw [cached, slot]
  | refilled dry carries cached slot =>
    left
    rw [cached, slot, dry, List.nil_append, Socket.due_inflow]
  | missed dry asked fails cached slot =>
    right
    refine ⟨dry, asked, fails, cached, ?_⟩
    rw [slot, Socket.due_inflow]

theorem nonempty_iff :
    after.cache.bytes socket ≠ [] ↔ host.cache.bytes socket ≠ [] ∨
      ((host.link.found i).due host.cache.capacity ≠ [] ∧ host.Refills i) := by
  cases look with
  | unasked reason cached slot =>
    rw [cached]
    constructor
    · exact Or.inl
    · rintro (hcached | ⟨-, hcarries⟩)
      · exact hcached
      · rcases reason with hcached | hshort
        · exact hcached
        · exact absurd hcarries.asks (Nat.not_le.mpr hshort)
  | refilled dry carries cached slot =>
    rw [cached, dry]
    exact ⟨fun hdue => Or.inr ⟨hdue, carries⟩, fun h => h.elim (absurd rfl) And.left⟩
  | missed dry asked fails cached slot =>
    rw [cached, dry]
    exact ⟨fun h => absurd rfl h, fun h => h.elim (absurd rfl) fun hdue => absurd hdue.2 fails⟩

end Look

/-- What a look counts is what it leaves in the cache. -/
theorem length_available (fits : host.cache.Fits) (socket : SocketHandle) :
    (available socket host).1 = ((available socket host).2.cache.bytes socket).length := by
  rw [(available_fits fits socket).1.length_bytes]
  exact ReceiveCache.available_remaining Link.fetchInto socket host.cache host.link

theorem available_pos_iff (fits : host.cache.Fits) (hi : socket.index? = some i) :
    0 < (available socket host).1 ↔ host.cache.bytes socket ≠ [] ∨
      ((host.link.found i).due host.cache.capacity ≠ [] ∧ host.Refills i) := by
  rw [length_available fits, List.length_pos_iff]
  exact (available_look fits hi).nonempty_iff

/-- Reading and peeking begin with a look. What they return was in the cache then. -/
theorem looks_of_event {e : SocketEvent} (looks : e.LooksAt socket) (host : Host Line) :
    e.returned socket host ++ (e.apply host).cache.bytes socket =
        (available socket host).2.cache.bytes socket ∧
      (e.apply host).link = (available socket host).2.link := by
  cases e with
  | available h =>
    cases looks
    exact ⟨rfl, rfl⟩
  | read h n =>
    cases looks
    refine ⟨?_, read_link socket n host⟩
    simp only [SocketEvent.returned, if_true]
    exact ReceiveCache.read_append Link.fetchInto socket host.cache host.link n
  | peek h =>
    cases looks
    have hpeek : (SocketEvent.peek socket).apply host = (available socket host).2 :=
      peek_host socket host
    rw [hpeek]
    exact ⟨rfl, rfl⟩
  | _ => cases looks

end Host

end SpiWifi
