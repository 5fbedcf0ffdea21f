import SpiWifi.Socket.Cache

/-!
# What the operations of the receive cache do

An operation on a socket first looks whether bytes are cached for it, and fetches if there are none.
What is left to do works on the cached bytes alone. The place of an entry is not moved when a fetch
brings nothing, so between fetches the cursor may stand anywhere in the storage; only an entry that
has bytes left ends where its slot ends.
-/

namespace SpiWifi

variable {σ : Type}

theorem vector_get {α : Type} {n : Nat} (v : Vector α n) (i : Fin n) : v.get i = v[i.val] := rfl

theorem get_replicate {α : Type} {n : Nat} (a : α) (i : Fin n) : (Vector.replicate n a).get i = a :=
  (vector_get _ i).trans (Vector.getElem_replicate _)

theorem SocketHandle.isValid_of_some {h : SocketHandle} {i : Fin socketCount}
    (hi : h.index? = some i) : h.isValid = true := by
  rw [isValid, hi]
  rfl

theorem SocketHandle.isValid_of_none {h : SocketHandle} (hi : h.index? = Option.none) :
    h.isValid = false := by
  rw [isValid, hi]
  rfl

theorem SocketHandle.eq_of_index? {h h' : SocketHandle} {i : Fin socketCount}
    (hi : h.index? = some i) (hi' : h'.index? = some i) : h = h' := by
  obtain ⟨raw⟩ := h
  obtain ⟨raw'⟩ := h'
  have hraw : ∀ {b : UInt8}, slotOf? b = some i → b.toNat = i := by
    intro b hb
    unfold slotOf? at hb
    split at hb
    · cases hb
      rfl
    · cases hb
  have heq : raw.toNat = raw'.toNat := (hraw hi).trans (hraw hi').symm
  rw [UInt8.toNat.inj heq]

/-- A fetch for a socket either moved a chunk of its queue into the slot, as much of it as the slot
keeps, or failed and moved nothing. A failed fetch may leave anything in the slot. -/
structure Moves (queue : σ → SocketHandle → Bytes) (h : SocketHandle) (slot : Slot) (s : σ)
    (result : (Nat × Slot) × σ) : Prop where
  capacity : result.1.2.capacity = slot.capacity
  others : ∀ h', h' ≠ h → queue result.2 h' = queue s h'
  moved :
    (∃ chunk, result.1.1 = min (min (queue s h).length chunk) (slot.capacity - 1) ∧
      result.1.2.bytes = (queue s h).take result.1.1 ∧
      queue result.2 h = (queue s h).drop result.1.1) ∨
    (result.1.1 = 0 ∧ queue result.2 h = queue s h)

namespace CacheEntry

/-- The unread bytes of an entry lie in its storage, and they are the last that its slot keeps. -/
structure Fits (capacity : Nat) (e : CacheEntry) : Prop where
  storage : e.slot.capacity = capacity
  bound : e.cursor + e.remaining ≤ capacity
  last : 0 < e.remaining → e.cursor + e.remaining = e.slot.length

variable {capacity : Nat} {e : CacheEntry}

theorem dry_fits (capacity : Nat) : (dry capacity).Fits capacity where
  storage := by simp [dry, Slot.empty, Slot.capacity, Slot.raw]
  bound := Nat.zero_le _
  last h := absurd h (Nat.lt_irrefl 0)

theorem Fits.length_bytes (h : e.Fits capacity) : e.bytes.length = e.remaining := by
  rw [bytes, List.length_take, List.length_drop]
  by_cases hr : 0 < e.remaining
  · have hlast := h.last hr
    rw [Slot.length] at hlast
    omega
  · omega

theorem head?_bytes (h : 0 < e.remaining) : e.slot.bytes[e.cursor]? = e.bytes.head? := by
  rw [bytes, List.head?_take, if_neg (by omega), List.head?_drop]

/-- What is read, and what is then left, are the bytes that were there. -/
theorem advance_bytes (e : CacheEntry) {n : Nat} (h : n ≤ e.remaining) :
    (e.slot.bytes.drop e.cursor).take n = e.bytes.take n ∧
      (e.advance n).bytes = e.bytes.drop n := by
  constructor
  · rw [bytes, List.take_take, Nat.min_eq_left h]
  · rw [bytes, bytes, List.drop_take, List.drop_drop]
    rfl

theorem Fits.advance (h : e.Fits capacity) {n : Nat} (hn : n ≤ e.remaining) :
    (e.advance n).Fits capacity where
  storage := h.storage
  bound := by
    have := h.bound
    simp only [CacheEntry.advance]
    omega
  last hr := by
    simp only [CacheEntry.advance] at hr ⊢
    have := h.last (by omega)
    omega

/-- A dry entry holds after a fetch what the fetch brought. -/
theorem bytes_refilled (dry : e.remaining = 0) (count : Nat) (slot : Slot) :
    (e.refilled count slot).bytes = slot.bytes.take count := by
  unfold CacheEntry.refilled
  split
  · rw [bytes, List.drop_zero]
  · next hnone => rw [bytes, dry, Nat.eq_zero_of_not_pos hnone, List.take_zero, List.take_zero]

variable {queue : σ → SocketHandle → Bytes} {h : SocketHandle} {s : σ}
  {result : (Nat × Slot) × σ}

/-- After a fetch into a dry entry, its bytes are those that left the queue. -/
theorem Fits.refilled (he : e.Fits capacity) (dry : e.remaining = 0)
    (hm : Moves queue h e.slot s result) :
    (e.refilled result.1.1 result.1.2).Fits capacity ∧
      queue s h = (e.refilled result.1.1 result.1.2).bytes ++ queue result.2 h := by
  have hcapacity := hm.capacity.trans he.storage
  by_cases hcount : 0 < result.1.1
  · rcases hm.moved with ⟨chunk, hn, hbytes, hrest⟩ | ⟨hnone, -⟩
    · rw [CacheEntry.refilled, if_pos hcount]
      have hlength : result.1.2.length = result.1.1 := by
        rw [Slot.length, hbytes, List.length_take]
        omega
      refine ⟨⟨hcapacity, ?_, fun _ => ?_⟩, ?_⟩
      · have := he.storage
        dsimp only
        omega
      · rw [hlength, Nat.zero_add]
      · rw [bytes, List.drop_zero, hbytes, List.take_take, Nat.min_self, hrest,
          List.take_append_drop]
    · omega
  · have hzero : result.1.1 = 0 := by omega
    have hbytes : (e.refilled result.1.1 result.1.2).bytes = [] := by
      rw [CacheEntry.refilled, if_neg hcount, bytes, dry, List.take_zero]
    have hqueue : queue result.2 h = queue s h := by
      rcases hm.moved with ⟨chunk, -, -, hrest⟩ | ⟨-, hrest⟩
      · rw [hrest, hzero, List.drop_zero]
      · exact hrest
    refine ⟨?_, by rw [hbytes, hqueue, List.nil_append]⟩
    rw [CacheEntry.refilled, if_neg hcount]
    exact ⟨hcapacity, he.bound, fun hr => absurd hr (by dsimp only; omega)⟩

end CacheEntry

namespace ReceiveCache

def Fits (c : ReceiveCache) : Prop :=
  ∀ i e, c.entries.get i = some e → e.Fits c.capacity

section
variable {c : ReceiveCache} {h h' : SocketHandle} {i : Fin socketCount} {e : CacheEntry}

theorem new_fits (capacity : Nat) : (new capacity).Fits := by
  intro i e he
  rw [new, get_replicate] at he
  cases he

theorem get_setEntry (j : Fin socketCount) (o : Option CacheEntry) :
    (c.setEntry i o).entries.get j = if i = j then o else c.entries.get j := by
  rw [setEntry, vector_get, Vector.getElem_set, vector_get]
  simp only [Fin.ext_iff]

theorem setEntry_get (he : c.entries.get i = some e) : c.setEntry i (some e) = c := by
  rw [setEntry, ← he, vector_get, Vector.set_getElem_self]

theorem entry?_eq (hi : h.index? = some i) : c.entry? h = c.entries.get i := by
  rw [ReceiveCache.entry?, hi, Option.bind_some]

theorem entry?_setEntry_self (hi : h.index? = some i) (o : Option CacheEntry) :
    entry? (c.setEntry i o) h = o := by
  rw [entry?_eq hi, get_setEntry, if_pos rfl]

theorem entry?_setEntry_ne (hi : h.index? = some i) (hne : h' ≠ h) (o : Option CacheEntry) :
    entry? (c.setEntry i o) h' = c.entry? h' := by
  unfold entry?
  cases hi' : h'.index? with
  | none => rfl
  | some j =>
    have hij : i ≠ j := by
      rintro rfl
      exact hne (SocketHandle.eq_of_index? hi' hi)
    exact (get_setEntry j o).trans (if_neg hij)

theorem Fits.setEntry (hc : c.Fits) (he : e.Fits c.capacity) : (c.setEntry i (some e)).Fits := by
  intro j e' he'
  rw [get_setEntry] at he'
  split at he'
  · cases he'
    exact he
  · exact hc j e' he'

end

section
variable (c : ReceiveCache)

/-- The entry that an operation on a slot works on: the slot's own, or a dry one. -/
def entryAt (i : Fin socketCount) : CacheEntry := (c.entries.get i).getD (.dry c.capacity)

variable {c} {h : SocketHandle} {i : Fin socketCount}

theorem Fits.entryAt (hc : c.Fits) (i : Fin socketCount) : (c.entryAt i).Fits c.capacity := by
  unfold ReceiveCache.entryAt
  cases he : c.entries.get i with
  | none => exact CacheEntry.dry_fits c.capacity
  | some e => exact hc i e he

theorem bytes_eq (hi : h.index? = some i) : c.bytes h = (c.entryAt i).bytes := by
  rw [bytes, entry?_eq hi, entryAt]
  cases c.entries.get i <;> rfl

theorem remaining_eq (hi : h.index? = some i) : c.remaining h = (c.entryAt i).remaining := by
  rw [remaining, entry?_eq hi, entryAt]
  cases c.entries.get i <;> rfl

theorem bytes_of_index?_none (hi : h.index? = none) : c.bytes h = [] := by
  rw [bytes, entry?, hi]
  rfl

theorem remaining_of_index?_none (hi : h.index? = none) : c.remaining h = 0 := by
  rw [remaining, entry?, hi]
  rfl

theorem bytes_congr {c' : ReceiveCache} (he : c'.entry? h = c.entry? h) :
    c'.bytes h = c.bytes h := by rw [bytes, he, bytes]

theorem Fits.length_bytes (hc : c.Fits) (h : SocketHandle) :
    (c.bytes h).length = c.remaining h := by
  cases hi : h.index? with
  | none => rw [bytes_of_index?_none hi, remaining_of_index?_none hi, List.length_nil]
  | some i => rw [bytes_eq hi, remaining_eq hi, (hc.entryAt i).length_bytes]

end

variable {fetch : Fetch σ} {h : SocketHandle} {i : Fin socketCount} {c : ReceiveCache} {s : σ}

theorem available_of_invalid (hi : h.index? = none) : c.available fetch h s = (0, c, s) := by
  simp only [available, hi]

theorem available_of_cached (hi : h.index? = some i) (hr : 0 < c.remaining h) :
    c.available fetch h s = (c.remaining h, c, s) := by
  rw [remaining_eq hi] at hr ⊢
  have hne : (c.entryAt i).remaining ≠ 0 := by omega
  simp only [available, hi]
  change (if (c.entryAt i).remaining = 0 then _ else _) = _
  rw [if_neg hne]
  cases he : c.entries.get i with
  | none =>
    rw [entryAt, he] at hr
    exact absurd hr (Nat.lt_irrefl 0)
  | some e =>
    rw [entryAt, he, Option.getD_some, setEntry_get he]

theorem available_of_dry (hi : h.index? = some i) (hr : c.remaining h = 0) :
    c.available fetch h s =
      let result := fetch h (c.entryAt i).slot s
      let e := (c.entryAt i).refilled result.1.1 result.1.2
      (e.remaining, c.setEntry i (some e), result.2) := by
  rw [remaining_eq hi] at hr
  simp only [available, hi]
  exact if_pos hr

/-- What looking for bytes of a socket may do: nothing if some are cached, or if there is no such
socket; otherwise one fetch, after which the bytes that left the queue are cached. -/
structure Looked (fetch : Fetch σ) (queue : σ → SocketHandle → Bytes) (h : SocketHandle)
    (c : ReceiveCache) (s : σ) (c' : ReceiveCache) (s' : σ) : Prop where
  fits : c'.Fits
  capacity : c'.capacity = c.capacity
  others : ∀ h', h' ≠ h → c'.entry? h' = c.entry? h'
  fetched :
    ((h.isValid = true → 0 < c.remaining h) ∧ c' = c ∧ s' = s) ∨
    (h.isValid = true ∧ c.remaining h = 0 ∧
      (∃ slot, slot.capacity = c.capacity ∧ s' = (fetch h slot s).2) ∧
      queue s h = c'.bytes h ++ queue s' h ∧ ∀ h', h' ≠ h → queue s' h' = queue s h')

section
variable {queue : σ → SocketHandle → Bytes} (hc : c.Fits)
  (hm : ∀ slot, h.isValid = true → slot.capacity = c.capacity →
    Moves queue h slot s (fetch h slot s))
include hc hm

theorem available_looked :
    (c.available fetch h s).1 = ((c.available fetch h s).2.1.bytes h).length ∧
      Looked fetch queue h c s (c.available fetch h s).2.1 (c.available fetch h s).2.2 := by
  cases hi : h.index? with
  | none =>
    have hinvalid : h.isValid = true → 0 < c.remaining h := by
      rw [SocketHandle.isValid_of_none hi]
      exact fun hf => nomatch hf
    rw [available_of_invalid hi]
    refine ⟨?_, hc, rfl, fun _ _ => rfl, Or.inl ⟨hinvalid, rfl, rfl⟩⟩
    rw [bytes_of_index?_none hi, List.length_nil]
  | some i =>
    have hvalid : h.isValid = true := SocketHandle.isValid_of_some hi
    by_cases hr : c.remaining h = 0
    · have hentry := hc.entryAt i
      have hmoves := hm (c.entryAt i).slot hvalid hentry.storage
      have hdry : (c.entryAt i).remaining = 0 := by rwa [← remaining_eq hi]
      obtain ⟨hfits, hqueue⟩ := hentry.refilled hdry hmoves
      rw [available_of_dry hi hr]
      dsimp only
      have hbytes : ∀ e, (c.setEntry i (some e)).bytes h = e.bytes := by
        intro e
        rw [bytes, entry?_setEntry_self hi]
        rfl
      refine ⟨?_, hc.setEntry hfits, rfl, fun h' hne => entry?_setEntry_ne hi hne _,
        Or.inr ⟨hvalid, hr, ⟨_, hentry.storage, rfl⟩, ?_, hmoves.others⟩⟩
      · rw [hbytes, hfits.length_bytes]
      · rw [hbytes]
        exact hqueue
    · have hpos : 0 < c.remaining h := by omega
      rw [available_of_cached hi hpos]
      exact ⟨(hc.length_bytes h).symm, hc, rfl, fun _ _ => rfl,
        Or.inl ⟨fun _ => hpos, rfl, rfl⟩⟩

/-- A peek gives the first of the bytes that looking leaves. -/
theorem peek_eq :
    c.peek fetch h s =
      (((c.available fetch h s).2.1.bytes h).head?, (c.available fetch h s).2) := by
  obtain ⟨hcount, hlooked⟩ := available_looked hc hm
  have hlength := hlooked.fits.length_bytes h
  rw [peek]
  generalize c.available fetch h s = looked at hcount hlength ⊢
  rcases looked with ⟨_ | n, c', s'⟩
  · rw [List.length_eq_zero_iff.mp hcount.symm]
    rfl
  · dsimp only at hcount hlength ⊢
    have hpos : 0 < c'.remaining h := by omega
    rw [bytes, remaining] at *
    cases he : c'.entry? h with
    | none =>
      rw [he] at hpos
      exact absurd hpos (Nat.lt_irrefl 0)
    | some e =>
      rw [he] at hpos
      exact congrArg (fun b => (b, c', s')) (CacheEntry.head?_bytes hpos)

/-- A read takes the first of the bytes that looking leaves. -/
theorem read_eq (k : Nat) :
    ∃ c'', c.read fetch h k s =
        (((c.available fetch h s).2.1.bytes h).take k, c'', (c.available fetch h s).2.2) ∧
      c''.Fits ∧ c''.capacity = c.capacity ∧
      c''.bytes h = ((c.available fetch h s).2.1.bytes h).drop k ∧
      (∀ h', h' ≠ h → c''.entry? h' = entry? (c.available fetch h s).2.1 h') := by
  obtain ⟨hcount, hlooked⟩ := available_looked hc hm
  have hfits := hlooked.fits
  have hcapacity := hlooked.capacity
  rw [read]
  generalize c.available fetch h s = looked at hcount hfits hcapacity ⊢
  obtain ⟨ready, c', s'⟩ := looked
  dsimp only at hcount hfits hcapacity ⊢
  have htake : (c'.bytes h).take (min ready k) = (c'.bytes h).take k := by
    rw [hcount, Nat.min_comm, ← List.take_eq_take_min]
  have hdrop : (c'.bytes h).drop (min ready k) = (c'.bytes h).drop k := by
    rw [hcount, Nat.min_comm, ← List.drop_eq_drop_min]
  rw [← htake, ← hdrop]
  -- Where nothing is ready or nothing is asked for, the entry is not touched.
  have hnothing : min ready k = 0 → ∃ c'', (([] : Bytes), c', s') =
      ((c'.bytes h).take (min ready k), c'', s') ∧ c''.Fits ∧ c''.capacity = c.capacity ∧
      c''.bytes h = (c'.bytes h).drop (min ready k) ∧
      ∀ h', h' ≠ h → c''.entry? h' = c'.entry? h' := by
    intro hmin
    rw [hmin]
    exact ⟨c', rfl, hfits, hcapacity, rfl, fun _ _ => rfl⟩
  cases hi : h.index? with
  | none =>
    refine hnothing ?_
    rw [hcount, bytes_of_index?_none hi, List.length_nil, Nat.zero_min]
  | some i =>
    have hbytes := bytes_eq (c := c') hi
    rw [entryAt] at hbytes
    dsimp only
    cases he : c'.entries.get i with
    | none =>
      rw [he] at hbytes
      refine hnothing ?_
      rw [hcount, hbytes]
      exact Nat.zero_min k
    | some e =>
      rw [he, Option.getD_some] at hbytes
      dsimp only
      by_cases hmin : min ready k = 0
      · rw [if_pos hmin]
        exact hnothing hmin
      · rw [hbytes] at hcount ⊢
        have hle : min ready k ≤ e.remaining := by
          rw [hcount, (hfits i e he).length_bytes]
          exact Nat.min_le_left _ _
        obtain ⟨hread, hleft⟩ := e.advance_bytes hle
        refine ⟨c'.setEntry i (some (e.advance (min ready k))), ?_,
          hfits.setEntry ((hfits i e he).advance hle), hcapacity, ?_,
          fun h' hne => entry?_setEntry_ne hi hne _⟩
        · rw [if_neg hmin, hread]
        · rw [bytes, entry?_setEntry_self hi]
          exact hleft

end

theorem Fits.setEntry_none (hc : c.Fits) (i : Fin socketCount) : (c.setEntry i none).Fits := by
  intro j e he
  rw [get_setEntry] at he
  split at he
  · cases he
  · exact hc j e he

theorem Fits.close (hc : c.Fits) (h : SocketHandle) : (c.close h).Fits := by
  unfold ReceiveCache.close
  cases h.index? with
  | none => exact hc
  | some i => exact hc.setEntry_none i

theorem capacity_close (c : ReceiveCache) (h : SocketHandle) :
    (c.close h).capacity = c.capacity := by
  unfold close
  cases h.index? <;> rfl

theorem isSome_of_close {h : SocketHandle} {i : Fin socketCount}
    (hi : ((c.close h).entries.get i).isSome) : (c.entries.get i).isSome := by
  unfold close at hi
  split at hi
  · next j hj =>
    by_cases hji : j = i
    · rw [get_setEntry, if_pos hji] at hi
      cases hi
    · rwa [get_setEntry, if_neg hji] at hi
  · exact hi

theorem entry?_close_self (c : ReceiveCache) (h : SocketHandle) : entry? (c.close h) h = none := by
  unfold close
  cases hi : h.index? with
  | none => rw [ReceiveCache.entry?, hi]; rfl
  | some i => exact entry?_setEntry_self hi none

theorem entry?_close_ne {h' : SocketHandle} (hne : h' ≠ h) (c : ReceiveCache) :
    entry? (c.close h) h' = c.entry? h' := by
  unfold close
  cases hi : h.index? with
  | none => rfl
  | some i => exact entry?_setEntry_ne hi hne none

theorem entry?_new (capacity : Nat) (h : SocketHandle) : entry? (new capacity) h = none := by
  unfold entry?
  cases h.index? with
  | none => rfl
  | some i =>
    rw [Option.bind_some, new, get_replicate]

end ReceiveCache

end SpiWifi
