import Mathlib.Data.List.DropRight
import SpiWifi.Proofs.Socket.Cache

/-!
# No byte is lost in the receive cache

Runs of the cache over a source that holds a byte queue for each socket. A run writes down, for
every operation, its answer and what its fetches took off the queues. Whatever chunks the source
chooses and however often it fails, the bytes read from a socket since it was last closed, followed
by the bytes cached for it, are the bytes fetched for it since then.
-/

namespace SpiWifi

variable {σ : Type}

/-- A source that holds a byte queue for each socket and moves chunks of it into slots. -/
structure ByteSource (σ : Type) where
  fetch : Fetch σ
  queue : σ → SocketHandle → Bytes
  moves : ∀ h slot s, h.isValid = true → Moves queue h slot s (fetch h slot s)

structure Fetched where
  handle : SocketHandle
  bytes : Bytes
  deriving DecidableEq

structure Logged (σ : Type) where
  source : σ
  log : List Fetched

/-- The same source, each fetch written down with the bytes that left the queue. -/
def ByteSource.logged (S : ByteSource σ) : ByteSource (Logged σ) where
  fetch h slot s :=
    let (result, source) := S.fetch h slot s.source
    let taken := (S.queue s.source h).length - (S.queue source h).length
    (result, ⟨source, s.log ++ [⟨h, (S.queue s.source h).take taken⟩]⟩)
  queue s := S.queue s.source
  moves h slot s hvalid :=
    let m := S.moves h slot s.source hvalid
    ⟨m.capacity, m.others, m.moved⟩

inductive CacheOp where
  | available (h : SocketHandle)
  | peek (h : SocketHandle)
  | read (h : SocketHandle) (n : Nat)
  | close (h : SocketHandle)
  | closeAll
  deriving DecidableEq

inductive CacheAnswer where
  | count (n : Nat)
  | byte (b : Option UInt8)
  | bytes (bs : Bytes)
  | done
  deriving DecidableEq

namespace CacheOp

def run (fetch : Fetch σ) (op : CacheOp) (c : ReceiveCache) (s : σ) :
    CacheAnswer × ReceiveCache × σ :=
  match op with
  | available h => ((c.available fetch h s).map .count id)
  | peek h => ((c.peek fetch h s).map .byte id)
  | read h n => ((c.read fetch h n s).map .bytes id)
  | close h => (.done, c.close h, s)
  | closeAll => (.done, c.closeAll, s)

def looksFor? : CacheOp → Option SocketHandle
  | available h | peek h | read h _ => some h
  | close _ | closeAll => none

def closes (h : SocketHandle) : CacheOp → Bool
  | close h' => h' = h
  | closeAll => true
  | _ => false

def concerns (h : SocketHandle) (op : CacheOp) : Bool := op.looksFor? = some h || op.closes h

/-- The operation leaves the unread bytes of this socket to the next read. -/
def spares (h : SocketHandle) : CacheOp → Bool
  | read h' _ => h' ≠ h
  | op => !op.closes h

end CacheOp

structure CacheStep where
  op : CacheOp
  answer : CacheAnswer
  fetches : List Fetched
  deriving DecidableEq

namespace CacheStep

def returned (h : SocketHandle) (st : CacheStep) : Bytes :=
  match st.op, st.answer with
  | .read h' _, .bytes bs => if h' = h then bs else []
  | _, _ => []

theorem returned_read (h : SocketHandle) (n : Nat) (bs : Bytes) (log : List Fetched) :
    returned h ⟨.read h n, .bytes bs, log⟩ = bs := if_pos rfl

theorem returned_of_no_read {h : SocketHandle} {op : CacheOp} (hop : ∀ n, op ≠ .read h n)
    (answer : CacheAnswer) (log : List Fetched) : returned h ⟨op, answer, log⟩ = [] := by
  cases op with
  | read h' n =>
    cases answer with
    | bytes bs =>
      refine if_neg ?_
      rintro rfl
      exact hop n rfl
    | count n => rfl
    | byte b => rfl
    | done => rfl
  | available h' => rfl
  | peek h' => rfl
  | close h' => rfl
  | closeAll => rfl

def fetched (h : SocketHandle) (st : CacheStep) : Bytes :=
  st.fetches.flatMap fun f => if f.handle = h then f.bytes else []

theorem fetched_one (h h' : SocketHandle) (op : CacheOp) (answer : CacheAnswer) (moved : Bytes) :
    fetched h ⟨op, answer, [⟨h', moved⟩]⟩ = if h' = h then moved else [] := List.append_nil _

end CacheStep

/-- A cache with its source in the middle of a run, and the operations so far. -/
structure CacheRun (σ : Type) where
  cache : ReceiveCache
  source : σ
  history : List CacheStep

namespace CacheRun

def step (S : ByteSource σ) (r : CacheRun σ) (op : CacheOp) : CacheRun σ :=
  let (answer, cache, logged) := op.run S.logged.fetch r.cache ⟨r.source, []⟩
  ⟨cache, logged.source, r.history ++ [⟨op, answer, logged.log⟩]⟩

/-- The operations since this socket was last closed. -/
def recent (h : SocketHandle) (history : List CacheStep) : List CacheStep :=
  history.rtakeWhile fun st => !st.op.closes h

end CacheRun

theorem ByteSource.available_logged (S : ByteSource σ) (h : SocketHandle) (c : ReceiveCache)
    (s : Logged σ) :
    c.available S.fetch h s.source =
      ((c.available S.logged.fetch h s).1, (c.available S.logged.fetch h s).2.1,
        (c.available S.logged.fetch h s).2.2.source) := by
  cases hi : h.index? with
  | none => rw [ReceiveCache.available_of_invalid hi, ReceiveCache.available_of_invalid hi]
  | some i =>
    by_cases hr : c.remaining h = 0
    · rw [ReceiveCache.available_of_dry hi hr, ReceiveCache.available_of_dry hi hr]
      rfl
    · have hpos : 0 < c.remaining h := by omega
      rw [ReceiveCache.available_of_cached hi hpos, ReceiveCache.available_of_cached hi hpos]

/-- Writing the fetches down changes nothing. -/
theorem CacheOp.run_logged (S : ByteSource σ) (op : CacheOp) (c : ReceiveCache) (s : Logged σ) :
    op.run S.fetch c s.source =
      ((op.run S.logged.fetch c s).1, (op.run S.logged.fetch c s).2.1,
        (op.run S.logged.fetch c s).2.2.source) := by
  cases op with
  | available h =>
    have hlook := S.available_logged h c s
    simp only [run, hlook]
    rfl
  | peek h =>
    have hlook := S.available_logged h c s
    simp only [run, ReceiveCache.peek, hlook]
    generalize c.available S.logged.fetch h s = looked
    rcases looked with ⟨_ | n, c', s'⟩ <;> rfl
  | read h n =>
    have hlook := S.available_logged h c s
    simp only [run, ReceiveCache.read, hlook]
    generalize c.available S.logged.fetch h s = looked
    obtain ⟨ready, c', s'⟩ := looked
    dsimp only
    cases h.index? with
    | none => rfl
    | some i =>
      dsimp only
      cases c'.entries.get i with
      | none => rfl
      | some e =>
        dsimp only
        split <;> rfl
  | close h => rfl
  | closeAll => rfl

/-- What an operation does that looks for the bytes of a socket and returns some of them: without a
fetch if there were any, else after one fetch, whose bytes it caches. -/
structure Looks (S : ByteSource σ) (h : SocketHandle) (returned : Bytes) (c : ReceiveCache) (s : σ)
    (c' : ReceiveCache) (s' : Logged σ) : Prop where
  fits : c'.Fits
  capacity : c'.capacity = c.capacity
  others : ∀ h', h' ≠ h → c'.entry? h' = c.entry? h' ∧ S.queue s'.source h' = S.queue s h'
  fetched :
    ((h.isValid = true → 0 < c.remaining h) ∧ s' = ⟨s, []⟩ ∧
      returned ++ c'.bytes h = c.bytes h) ∨
    (h.isValid = true ∧ c.remaining h = 0 ∧ ∃ moved, s'.log = [⟨h, moved⟩] ∧
      S.queue s h = moved ++ S.queue s'.source h ∧ returned ++ c'.bytes h = moved)

section
variable (S : ByteSource σ) {c : ReceiveCache} (hc : c.Fits) (h : SocketHandle) (s : σ)

theorem ByteSource.logged_moves (slot : Slot) (hvalid : h.isValid = true)
    (_ : slot.capacity = c.capacity) :
    Moves S.logged.queue h slot ⟨s, []⟩ (S.logged.fetch h slot ⟨s, []⟩) :=
  S.logged.moves h slot ⟨s, []⟩ hvalid

include hc

/-- The bytes cached by a fetch are those that it took off the queue. -/
theorem available_looks :
    Looks S h [] c s (c.available S.logged.fetch h ⟨s, []⟩).2.1
      (c.available S.logged.fetch h ⟨s, []⟩).2.2 := by
  obtain ⟨-, hlooked⟩ := ReceiveCache.available_looked hc (S.logged_moves h s)
  generalize c.available S.logged.fetch h ⟨s, []⟩ = looked at hlooked ⊢
  obtain ⟨n, c', s'⟩ := looked
  refine ⟨hlooked.fits, hlooked.capacity, fun h' hne => ⟨hlooked.others h' hne, ?_⟩, ?_⟩
  · rcases hlooked.fetched with ⟨-, -, rfl⟩ | ⟨-, -, -, -, hothers⟩
    · rfl
    · exact hothers h' hne
  · rcases hlooked.fetched with ⟨hcached, rfl, rfl⟩ | ⟨hvalid, hdry, ⟨slot, -, rfl⟩, hqueue, -⟩
    · exact Or.inl ⟨hcached, rfl, rfl⟩
    · refine Or.inr ⟨hvalid, hdry, c'.bytes h, ?_, hqueue, rfl⟩
      have hq : S.queue s h = c'.bytes h ++ S.queue (S.fetch h slot s).2 h := hqueue
      have htaken : (S.queue s h).take
          ((S.queue s h).length - (S.queue (S.fetch h slot s).2 h).length) = c'.bytes h := by
        rw [hq, List.length_append, Nat.add_sub_cancel, List.take_left]
      exact congrArg (fun b => [Fetched.mk h b]) htaken

theorem CacheOp.looks {op : CacheOp} (hop : op.looksFor? = some h) :
    let (answer, c', s') := op.run S.logged.fetch c ⟨s, []⟩
    Looks S h (CacheStep.returned h ⟨op, answer, s'.log⟩) c s c' s' := by
  have hlooks := available_looks S hc h s
  have hmoves := S.logged_moves (c := c) h s
  cases op with
  | available h' =>
    cases hop
    exact hlooks
  | peek h' =>
    cases hop
    simp only [run, ReceiveCache.peek_eq hc hmoves]
    exact hlooks
  | read h' n =>
    cases hop
    obtain ⟨c', hread, hfits, hcapacity, hbytes, hothers⟩ := ReceiveCache.read_eq hc hmoves n
    simp only [run, hread]
    generalize c.available S.logged.fetch h ⟨s, []⟩ = looked at hlooks hbytes hothers ⊢
    obtain ⟨ready, middle, s'⟩ := looked
    have hwhole : CacheStep.returned h ⟨.read h n, .bytes ((middle.bytes h).take n), s'.log⟩ ++
        c'.bytes h = middle.bytes h := by
      rw [hbytes, CacheStep.returned_read, List.take_append_drop]
    refine ⟨hfits, hcapacity, fun h' hne => ?_, ?_⟩
    · obtain ⟨hentry, hqueue⟩ := hlooks.others h' hne
      exact ⟨(hothers h' hne).trans hentry, hqueue⟩
    · rcases hlooks.fetched with ⟨hcached, hs, hb⟩ | ⟨hvalid, hdry, moved, hlog, hqueue, hb⟩
      · exact Or.inl ⟨hcached, hs, hwhole.trans hb⟩
      · exact Or.inr ⟨hvalid, hdry, moved, hlog, hqueue, hwhole.trans hb⟩
  | close h' => cases hop
  | closeAll => cases hop

end

/-- Freeing caches leaves the source alone, and every other socket's entry. -/
theorem CacheOp.run_closing {op : CacheOp} (hop : op.looksFor? = none) (fetch : Fetch σ)
    {c : ReceiveCache} (hc : c.Fits) (s : σ) :
    let (_, c', s') := op.run fetch c s
    s' = s ∧ c'.Fits ∧ c'.capacity = c.capacity ∧
      ∀ h, c'.entry? h = if op.closes h then none else c.entry? h := by
  cases op with
  | available h => cases hop
  | peek h => cases hop
  | read h n => cases hop
  | close h =>
    refine ⟨rfl, hc.close h, c.capacity_close h, fun h' => ?_⟩
    by_cases hh : h = h'
    · subst hh
      exact (c.entry?_close_self h).trans (if_pos (decide_eq_true rfl)).symm
    · exact (ReceiveCache.entry?_close_ne (Ne.symm hh) c).trans
        (if_neg (by simpa [closes] using hh)).symm
  | closeAll =>
    exact ⟨rfl, ReceiveCache.new_fits _, rfl, ReceiveCache.entry?_new _⟩

namespace CacheRun

/-- What holds after every operation of a run: the entries fit, and for every socket the bytes
returned since it was last closed, followed by its cached bytes, are the bytes fetched since. -/
structure Kept (capacity : Nat) (r : CacheRun σ) : Prop where
  fits : r.cache.Fits
  capacity : r.cache.capacity = capacity
  conserved : ∀ h, (recent h r.history).flatMap (CacheStep.returned h) ++ r.cache.bytes h =
    (recent h r.history).flatMap (CacheStep.fetched h)

theorem recent_concat (h : SocketHandle) (history : List CacheStep) (st : CacheStep) :
    recent h (history ++ [st]) =
      if st.op.closes h then [] else recent h history ++ [st] := by
  rw [recent, List.rtakeWhile_concat]
  cases st.op.closes h <;> rfl

/-- Bytes that an operation on a socket adds on both sides of the law. -/
theorem conserved_concat {h : SocketHandle} {history : List CacheStep} {st : CacheStep}
    {before after : Bytes} (hopen : st.op.closes h = false)
    (hlaw : (recent h history).flatMap (CacheStep.returned h) ++ before =
      (recent h history).flatMap (CacheStep.fetched h))
    (hst : st.returned h ++ after = before ++ st.fetched h) :
    (recent h (history ++ [st])).flatMap (CacheStep.returned h) ++ after =
      (recent h (history ++ [st])).flatMap (CacheStep.fetched h) := by
  rw [recent_concat, hopen]
  simp only [Bool.false_eq_true, if_false, List.flatMap_append, List.flatMap_singleton]
  rw [List.append_assoc, hst, ← List.append_assoc, hlaw]

theorem Kept.step_of_looks (S : ByteSource σ) {capacity : Nat} {r : CacheRun σ}
    (hr : r.Kept capacity) {op : CacheOp} {h : SocketHandle} (hop : op.looksFor? = some h) :
    (r.step S op).Kept capacity := by
  have hlooks := op.looks S hr.fits h r.source hop
  have hopen : ∀ h', op.closes h' = false := by
    intro h'
    cases op with
    | close h'' => cases hop
    | closeAll => cases hop
    | available h'' => rfl
    | peek h'' => rfl
    | read h'' n => rfl
  unfold CacheRun.step
  generalize op.run S.logged.fetch r.cache ⟨r.source, []⟩ = result at hlooks ⊢
  obtain ⟨answer, c', s'⟩ := result
  refine ⟨hlooks.fits, hlooks.capacity.trans hr.capacity, fun h' => ?_⟩
  refine conserved_concat (hopen h') (hr.conserved h') ?_
  by_cases hh : h' = h
  · subst hh
    rcases hlooks.fetched with ⟨-, rfl, hbytes⟩ | ⟨-, hdry, moved, hlog, -, hbytes⟩
    · exact hbytes.trans (List.append_nil _).symm
    · have hnil : r.cache.bytes h' = [] := by
        rw [← List.length_eq_zero_iff, hr.fits.length_bytes, hdry]
      rw [hnil, List.nil_append]
      dsimp only at hlog ⊢
      rw [hlog] at hbytes ⊢
      rw [CacheStep.fetched_one, if_pos rfl]
      exact hbytes
  · have helsewhere : ∀ n, op ≠ .read h' n := by
      rintro n rfl
      exact hh (Option.some.inj hop)
    have hentry := (hlooks.others h' hh).1
    have hfetched : CacheStep.fetched h' ⟨op, answer, s'.log⟩ = [] := by
      rcases hlooks.fetched with ⟨-, rfl, -⟩ | ⟨-, -, moved, hlog, -⟩
      · rfl
      · rw [hlog, CacheStep.fetched_one, if_neg (Ne.symm hh)]
    dsimp only
    rw [CacheStep.returned_of_no_read helsewhere, hfetched, List.append_nil, List.nil_append,
      ReceiveCache.bytes_congr hentry]

theorem Kept.step_of_closes (S : ByteSource σ) {capacity : Nat} {r : CacheRun σ}
    (hr : r.Kept capacity) {op : CacheOp} (hop : op.looksFor? = none) :
    (r.step S op).Kept capacity := by
  have hclosing := op.run_closing hop S.logged.fetch hr.fits ⟨r.source, []⟩
  have hnever : ∀ h n, op ≠ .read h n := by
    rintro h n rfl
    cases hop
  unfold CacheRun.step
  generalize op.run S.logged.fetch r.cache ⟨r.source, []⟩ = result at hclosing ⊢
  obtain ⟨answer, c', s'⟩ := result
  obtain ⟨rfl, hfits, hcapacity, hentry⟩ := hclosing
  refine ⟨hfits, hcapacity.trans hr.capacity, fun h => ?_⟩
  have he := hentry h
  cases hcloses : op.closes h with
  | true =>
    rw [hcloses, if_pos rfl] at he
    rw [recent_concat, if_pos hcloses, ReceiveCache.bytes, he]
    rfl
  | false =>
    rw [hcloses, if_neg Bool.false_ne_true] at he
    refine conserved_concat hcloses (hr.conserved h) ?_
    rw [CacheStep.returned_of_no_read (hnever h), List.nil_append, ReceiveCache.bytes_congr he]
    exact (List.append_nil _).symm

theorem Kept.step (S : ByteSource σ) {capacity : Nat} {r : CacheRun σ} (hr : r.Kept capacity)
    (op : CacheOp) : (r.step S op).Kept capacity := by
  cases hop : op.looksFor? with
  | some h => exact hr.step_of_looks S hop
  | none => exact hr.step_of_closes S hop

theorem Kept.run (S : ByteSource σ) {capacity : Nat} (ops : List CacheOp) {r : CacheRun σ}
    (hr : r.Kept capacity) : (ops.foldl (CacheRun.step S) r).Kept capacity := by
  induction ops generalizing r with
  | nil => exact hr
  | cons op rest ih => exact ih (hr.step S op)

/-- Unread bytes stay where they are as long as nobody reads them or closes their socket. -/
theorem Kept.bytes_step (S : ByteSource σ) {capacity : Nat} {r : CacheRun σ} (hr : r.Kept capacity)
    {h : SocketHandle} (hbytes : r.cache.bytes h ≠ []) {op : CacheOp} (hop : op.spares h = true) :
    (r.step S op).cache.bytes h = r.cache.bytes h := by
  cases hlook : op.looksFor? with
  | some h' =>
    have hlooks := op.looks S hr.fits h' r.source hlook
    unfold CacheRun.step
    generalize op.run S.logged.fetch r.cache ⟨r.source, []⟩ = result at hlooks ⊢
    obtain ⟨answer, c', s'⟩ := result
    by_cases hh : h = h'
    · subst hh
      have hno : ∀ n, op ≠ .read h n := by
        rintro n rfl
        simp [CacheOp.spares] at hop
      rcases hlooks.fetched with ⟨-, -, hsame⟩ | ⟨-, hdry, -⟩
      · rwa [CacheStep.returned_of_no_read hno, List.nil_append] at hsame
      · refine absurd (List.length_eq_zero_iff.mp ?_) hbytes
        rw [hr.fits.length_bytes, hdry]
    · exact ReceiveCache.bytes_congr (hlooks.others h hh).1
  | none =>
    have hopen : op.closes h = false := by
      cases op with
      | available h' => cases hlook
      | peek h' => cases hlook
      | read h' n => cases hlook
      | close h' => simpa [CacheOp.spares] using hop
      | closeAll => simp [CacheOp.spares, CacheOp.closes] at hop
    have hclosing := op.run_closing hlook S.logged.fetch hr.fits ⟨r.source, []⟩
    unfold CacheRun.step
    generalize op.run S.logged.fetch r.cache ⟨r.source, []⟩ = result at hclosing ⊢
    obtain ⟨answer, c', s'⟩ := result
    obtain ⟨-, -, -, hentry⟩ := hclosing
    have he := hentry h
    rw [hopen, if_neg Bool.false_ne_true] at he
    exact ReceiveCache.bytes_congr he

theorem Kept.bytes_run (S : ByteSource σ) {capacity : Nat} {h : SocketHandle} (ops : List CacheOp)
    {r : CacheRun σ} (hr : r.Kept capacity) (hbytes : r.cache.bytes h ≠ [])
    (hops : ∀ op ∈ ops, op.spares h = true) :
    (ops.foldl (CacheRun.step S) r).cache.bytes h = r.cache.bytes h := by
  induction ops generalizing r with
  | nil => rfl
  | cons op rest ih =>
    obtain ⟨hop, hrest⟩ := List.forall_mem_cons.mp hops
    have hstep := hr.bytes_step S hbytes hop
    rw [List.foldl_cons, ih (hr.step S op) (by rwa [hstep]) hrest, hstep]

theorem new_kept (capacity : Nat) (source : σ) :
    Kept capacity (⟨.new capacity, source, []⟩ : CacheRun σ) where
  fits := ReceiveCache.new_fits capacity
  capacity := rfl
  conserved h := by
    rw [ReceiveCache.bytes, ReceiveCache.entry?_new]
    rfl

section
variable (S : ByteSource σ) {capacity : Nat} {r : CacheRun σ} (hr : r.Kept capacity)
include hr

theorem Kept.step_fetches (op : CacheOp) :
    ∃ st, (r.step S op).history = r.history ++ [st] ∧ st.op = op ∧
      op.run S.fetch r.cache r.source = (st.answer, (r.step S op).cache, (r.step S op).source) ∧
      ((st.fetches = [] ∧ (r.step S op).source = r.source) ∨
        ∃ h moved, st.fetches = [⟨h, moved⟩] ∧ op.looksFor? = some h ∧ h.isValid = true ∧
          r.cache.remaining h = 0 ∧
          S.queue r.source h = moved ++ S.queue (r.step S op).source h) := by
  have hrun := op.run_logged S r.cache ⟨r.source, []⟩
  unfold CacheRun.step
  cases hop : op.looksFor? with
  | some h =>
    have hlooks := op.looks S hr.fits h r.source hop
    generalize op.run S.logged.fetch r.cache ⟨r.source, []⟩ = result at hlooks hrun ⊢
    obtain ⟨answer, c', s'⟩ := result
    refine ⟨⟨op, answer, s'.log⟩, rfl, rfl, hrun, ?_⟩
    rcases hlooks.fetched with ⟨-, hs, -⟩ | ⟨hvalid, hdry, moved, hlog, hqueue, -⟩
    · exact Or.inl ⟨congrArg Logged.log hs, congrArg Logged.source hs⟩
    · exact Or.inr ⟨h, moved, hlog, rfl, hvalid, hdry, hqueue⟩
  | none =>
    have hclosing := op.run_closing hop S.logged.fetch hr.fits ⟨r.source, []⟩
    generalize op.run S.logged.fetch r.cache ⟨r.source, []⟩ = result at hclosing hrun ⊢
    obtain ⟨answer, c', s'⟩ := result
    exact ⟨⟨op, answer, s'.log⟩, rfl, rfl, hrun,
      Or.inl ⟨congrArg Logged.log hclosing.1, congrArg Logged.source hclosing.1⟩⟩

theorem Kept.step_elsewhere (op : CacheOp) (h : SocketHandle) (hop : op.concerns h = false) :
    (r.step S op).cache.entry? h = r.cache.entry? h ∧
      S.queue (r.step S op).source h = S.queue r.source h := by
  obtain ⟨hlook, hopen⟩ := Bool.or_eq_false_iff.mp hop
  have hother := of_decide_eq_false hlook
  unfold CacheRun.step
  cases hfor : op.looksFor? with
  | some h' =>
    have hlooks := op.looks S hr.fits h' r.source hfor
    generalize op.run S.logged.fetch r.cache ⟨r.source, []⟩ = result at hlooks ⊢
    obtain ⟨answer, c', s'⟩ := result
    refine hlooks.others h fun heq => hother ?_
    rw [hfor, heq]
  | none =>
    have hclosing := op.run_closing hfor S.logged.fetch hr.fits ⟨r.source, []⟩
    generalize op.run S.logged.fetch r.cache ⟨r.source, []⟩ = result at hclosing ⊢
    obtain ⟨answer, c', s'⟩ := result
    obtain ⟨rfl, -, -, hentry⟩ := hclosing
    have he := hentry h
    rw [hopen, if_neg Bool.false_ne_true] at he
    exact ⟨he, rfl⟩

theorem Kept.step_closing (op : CacheOp) (h : SocketHandle) (hop : op.closes h = true) :
    (r.step S op).cache.entry? h = none ∧ (r.step S op).source = r.source := by
  have hfor : op.looksFor? = none := by
    cases op with
    | available h' => cases hop
    | peek h' => cases hop
    | read h' n => cases hop
    | close h' => rfl
    | closeAll => rfl
  unfold CacheRun.step
  have hclosing := op.run_closing hfor S.logged.fetch hr.fits ⟨r.source, []⟩
  generalize op.run S.logged.fetch r.cache ⟨r.source, []⟩ = result at hclosing ⊢
  obtain ⟨answer, c', s'⟩ := result
  obtain ⟨rfl, -, -, hentry⟩ := hclosing
  exact ⟨(hentry h).trans (if_pos hop), rfl⟩

/-- The byte that a peek shows is the first that the next read returns. -/
theorem Kept.peek_then_read (h : SocketHandle) :
    ((r.cache.peek S.fetch h r.source).1 = none ↔
      (r.cache.available S.fetch h r.source).1 = 0) ∧
    ∀ b, (r.cache.peek S.fetch h r.source).1 = some b →
      ∀ between : List CacheOp, (∀ o ∈ between, o.spares h = true) → ∀ n, 0 < n →
        let q := between.foldl (CacheRun.step S) (r.step S (.peek h))
        (q.cache.read S.fetch h n q.source).1.head? = some b := by
  have hmoves : ∀ {c : ReceiveCache} (s : σ) (slot : Slot), h.isValid = true →
      slot.capacity = c.capacity → Moves S.queue h slot s (S.fetch h slot s) :=
    fun s slot hvalid _ => S.moves h slot s hvalid
  have hpeek := ReceiveCache.peek_eq hr.fits (hmoves r.source)
  obtain ⟨hcount, -⟩ := ReceiveCache.available_looked hr.fits (hmoves r.source)
  refine ⟨?_, fun b hb between hspares n hn => ?_⟩
  · rw [hpeek, hcount, List.head?_eq_none_iff, List.length_eq_zero_iff]
  · intro q
    rw [hpeek] at hb
    have hafter : (r.step S (.peek h)).cache = (r.cache.available S.fetch h r.source).2.1 := by
      have hrun := CacheOp.run_logged S (.peek h) r.cache ⟨r.source, []⟩
      simp only [CacheOp.run, hpeek] at hrun
      exact (congrArg (fun x => x.2.1) hrun).symm
    have hnonempty : (r.step S (.peek h)).cache.bytes h ≠ [] := by
      rw [hafter]
      intro hnil
      rw [hnil] at hb
      cases hb
    have hr' := hr.step S (.peek h)
    have hkept : q.Kept capacity := hr'.run S between
    have hbytes : q.cache.bytes h = (r.step S (.peek h)).cache.bytes h :=
      hr'.bytes_run S between hnonempty hspares
    -- the bytes that the peek cached are still there, so the read does not fetch
    obtain ⟨c', hread, -⟩ := ReceiveCache.read_eq hkept.fits (hmoves q.source) n
    obtain ⟨-, hlooked⟩ := ReceiveCache.available_looked hkept.fits (hmoves q.source)
    rw [hread]
    dsimp only
    rcases hlooked.fetched with ⟨-, hsame, -⟩ | ⟨-, hdry, -⟩
    · rw [hsame, hbytes, hafter, List.head?_take, if_neg (by omega)]
      exact hb
    · refine absurd (List.length_eq_zero_iff.mp ?_) hnonempty
      rw [← hbytes, hkept.fits.length_bytes, hdry]

end

end CacheRun

/-- The receive cache over any source of byte queues, for every run `ops` of operations and every
operation `op` after it. The unread bytes of an entry lie in its storage and end where its slot ends.
For every socket the bytes returned since it was last closed, followed by its cached bytes, are the
bytes fetched for it since, and these are what left its queue. An operation fetches at most once, and
only for its own valid socket, when that has no cached bytes. It leaves every other socket's entry
and queue alone; closing leaves all queues alone. A peek gives nothing exactly if no bytes are
available, and otherwise the byte with which the next read begins, whatever is done before to other
sockets and by looking at this one. -/
theorem ReceiveCache.conserves_bytes (S : ByteSource σ) (capacity : Nat) (source : σ)
    (ops : List CacheOp) (op : CacheOp) :
    let r := ops.foldl (CacheRun.step S) ⟨.new capacity, source, []⟩
    let r' := r.step S op
    (∀ i e, r'.cache.entries.get i = some e → e.cursor + e.remaining ≤ capacity ∧
      (0 < e.remaining → e.cursor + e.remaining = e.slot.length)) ∧
    (∀ h, (CacheRun.recent h r'.history).flatMap (CacheStep.returned h) ++ r'.cache.bytes h =
      (CacheRun.recent h r'.history).flatMap (CacheStep.fetched h)) ∧
    (∃ st, r'.history = r.history ++ [st] ∧ st.op = op ∧
      op.run S.fetch r.cache r.source = (st.answer, r'.cache, r'.source) ∧
      ((st.fetches = [] ∧ r'.source = r.source) ∨
        ∃ h moved, st.fetches = [⟨h, moved⟩] ∧ op.looksFor? = some h ∧ h.isValid = true ∧
          r.cache.remaining h = 0 ∧ S.queue r.source h = moved ++ S.queue r'.source h)) ∧
    (∀ h, op.concerns h = false →
      r'.cache.entry? h = r.cache.entry? h ∧ S.queue r'.source h = S.queue r.source h) ∧
    (∀ h, op.closes h = true → r'.cache.entry? h = none ∧ r'.source = r.source) ∧
    (∀ h, ((r.cache.peek S.fetch h r.source).1 = none ↔
        (r.cache.available S.fetch h r.source).1 = 0) ∧
      ∀ b, (r.cache.peek S.fetch h r.source).1 = some b →
        ∀ between : List CacheOp, (∀ o ∈ between, o.spares h = true) → ∀ n, 0 < n →
          let q := between.foldl (CacheRun.step S) (r.step S (.peek h))
          (q.cache.read S.fetch h n q.source).1.head? = some b) := by
  intro r r'
  have hr : r.Kept capacity := (CacheRun.new_kept capacity source).run S ops
  have hr' : r'.Kept capacity := hr.step S op
  refine ⟨fun i e he => ?_, hr'.conserved, hr.step_fetches S op, hr.step_elsewhere S op,
    hr.step_closing S op, hr.peek_then_read S⟩
  have hfits := hr'.fits i e he
  rw [hr'.capacity] at hfits
  exact ⟨hfits.bound, hfits.last⟩

end SpiWifi
