import Mathlib.Algebra.BigOperators.Fin
import SpiWifi.Proofs.Board.Basic

/-!
# The ledger of socket slots

Every slot that is reserved on the device belongs to exactly one of three: an object that holds its
handle, a listener on which its connection waits, or nobody, because the handle got lost. This law is
kept by every move of a board, whatever replies are lost and however the device was told to behave.
Beside it stand the facts that it needs: what a slot that is held, free or waiting can be.
-/

namespace SpiWifi

open Device

namespace Device.Socket

/-- How often a slot waits on this one to be accepted. -/
def queues (a : Socket) (i : Fin socketCount) : Nat :=
  a.waiting.countP fun raw => SocketHandle.slotOf? raw = some i

theorem queues_of_waiting {a b : Socket} (h : a.waiting = b.waiting) (i : Fin socketCount) :
    a.queues i = b.queues i := by rw [queues, queues, h]

def queue (a : Socket) : List (Fin socketCount) := a.waiting.filterMap SocketHandle.slotOf?

theorem count_queue (a : Socket) (i : Fin socketCount) : a.queue.count i = a.queues i := by
  rw [queue, List.count_filterMap, queues]
  congr 1
  funext raw
  rw [beq_eq_decide]

/-- The slot after the one that waits first was handed out. -/
def dequeued (a : Socket) : Socket := { a with waiting := a.waiting.tail }

def first (a : Socket) : Option (Fin socketCount) := a.waiting.head?.bind SocketHandle.slotOf?

theorem queues_eq_dequeued (a : Socket) (i : Fin socketCount) :
    a.queues i = a.dequeued.queues i + a.first.toList.count i := by
  unfold queues first dequeued
  cases a.waiting with
  | nil => rfl
  | cons raw rest =>
    rw [List.countP_cons, List.tail_cons, List.head?_cons, Option.bind_some]
    cases SocketHandle.slotOf? raw with
    | none => simp
    | some j => simp [List.count_singleton]

theorem queues_of_nil {a : Socket} (h : a.waiting = []) (i : Fin socketCount) : a.queues i = 0 := by
  rw [queues, h]
  rfl

end Device.Socket

namespace Link

def waits (l : Link Line) (i : Fin socketCount) : Nat := ∑ j, (l.found j).queues i

section
variable {l l' : Link Line}

theorem waits_congr (h : ∀ j, (l'.found j).waiting = (l.found j).waiting) (i : Fin socketCount) :
    l'.waits i = l.waits i :=
  Finset.sum_congr rfl fun j _ => Socket.queues_of_waiting (h j) i

/-- The count changes as the one slot does that changed. -/
theorem waits_change (l l' : Link Line) {j : Fin socketCount}
    (others : ∀ m, m ≠ j → (l'.found m).waiting = (l.found m).waiting) (i : Fin socketCount) :
    l'.waits i + (l.found j).queues i = l.waits i + (l'.found j).queues i := by
  have hrest : ∑ m ∈ Finset.univ.erase j, (l'.found m).queues i =
      ∑ m ∈ Finset.univ.erase j, (l.found m).queues i :=
    Finset.sum_congr rfl fun m hm =>
      Socket.queues_of_waiting (others m (Finset.ne_of_mem_erase hm)) i
  have hafter := Finset.add_sum_erase Finset.univ (fun m => (l'.found m).queues i)
    (Finset.mem_univ j)
  have hbefore := Finset.add_sum_erase Finset.univ (fun m => (l.found m).queues i)
    (Finset.mem_univ j)
  simp only [waits]
  omega

theorem queues_le_waits (l : Link Line) (j i : Fin socketCount) : (l.found j).queues i ≤ l.waits i :=
  Nat.le.intro (Finset.add_sum_erase Finset.univ (fun m => (l.found m).queues i)
    (Finset.mem_univ j))

end

end Link

/-- The slot that an object holds is one that can be used as the object does. -/
def Owner.Serves (l : Link Line) : Owner → Prop
  | stream s => ∀ i, s.socket.index? = some i → (l.found i).kind ≠ .server
  | listener o => ∃ i, o.socket.index? = some i ∧ (l.found i).kind = .server
  | datagrams d => ∃ i, d.socket.index? = some i ∧ (l.found i).kind = .datagram
  | closed => True

theorem Owner.Serves.congr {l l' : Link Line} {o : Owner} (h : o.Serves l)
    (kinds : ∀ i, o.socket.index? = some i → (l'.found i).kind = (l.found i).kind) :
    o.Serves l' := by
  cases o with
  | stream s =>
    intro i hi
    rw [kinds i hi]
    exact h i hi
  | listener o =>
    obtain ⟨i, hi, hkind⟩ := h
    exact ⟨i, hi, (kinds i hi).trans hkind⟩
  | datagrams d =>
    obtain ⟨i, hi, hkind⟩ := h
    exact ⟨i, hi, (kinds i hi).trans hkind⟩
  | closed => trivial

namespace Board

/-- A socket as the next request finds it. -/
def found (b : Board) (i : Fin socketCount) : Device.Socket := b.host.link.found i

def holds (b : Board) (i : Fin socketCount) : Nat :=
  b.owners.countP fun o => o.socket.index? = some i

theorem count_held (b : Board) (i : Fin socketCount) : b.held.count i = b.holds i := by
  rw [held, List.count_filterMap, holds]
  congr 1
  funext o
  rw [beq_eq_decide]

section
variable {b : Board} {k : Nat} {o o' : Owner} {i : Fin socketCount} {host : Host Line}

theorem holds_pos (here : b.owners[k]? = some o) (hi : o.socket.index? = some i) :
    0 < b.holds i :=
  List.countP_pos_iff.mpr ⟨o, List.mem_of_getElem? here, decide_eq_true hi⟩

theorem holds_append (owners : List Owner) (b : Board) (i : Fin socketCount) :
    holds ⟨host, b.owners ++ owners⟩ i = b.holds i + holds ⟨host, owners⟩ i :=
  List.countP_append

/-- An object in the place of another. -/
theorem holds_set (here : b.owners[k]? = some o) (o' : Owner) (host : Host Line)
    (i : Fin socketCount) :
    holds ⟨host, b.owners.set k o'⟩ i + (if o.socket.index? = some i then 1 else 0) =
      b.holds i + (if o'.socket.index? = some i then 1 else 0) := by
  obtain ⟨hk, hget⟩ := List.getElem?_eq_some_iff.mp here
  have hset := List.countP_set (p := fun o : Owner => decide (o.socket.index? = some i))
    (l := b.owners) (i := k) (a := o') hk
  simp only [hget, decide_eq_true_eq] at hset
  have hpos : o.socket.index? = some i → 0 < b.holds i := holds_pos here
  simp only [holds] at hpos ⊢
  rw [hset]
  by_cases ho : o.socket.index? = some i
  · have := hpos ho
    simp only [ho, if_true]
    omega
  · simp only [ho, if_false]
    omega

end

/-- The ledger of a board is in order, and these are the slots that belong to nobody. -/
structure Sound (b : Board) (left : List (Fin socketCount)) : Prop where
  ledger : ∀ i, b.holds i + b.host.link.waits i + left.count i = (b.found i).reserved.toNat
  serves : ∀ o ∈ b.owners, o.Serves b.host.link
  cached : ∀ i, (b.host.cache.entries.get i).isSome → 0 < b.holds i
  carries : ∀ i, 0 < b.holds i → 8 ≤ b.host.link.settings.maxFrameSize.toNat ∧
    1 ≤ b.host.link.settings.startBudget.toNat
  vacant : ∀ i, (b.found i).reserved = false →
    (b.found i).kind = .unused ∧ (b.found i).waiting = [] ∧ (b.found i).tx = []
  queued : ∀ i, (b.found i).waiting ≠ [] → (b.found i).kind = .server
  pending : ∀ i, 0 < b.host.link.waits i → (b.found i).kind = .client ∧ (b.found i).tx = []

namespace Sound

variable {b b' : Board} {left left' : List (Fin socketCount)}

section
variable (h : Sound b left) {i : Fin socketCount}
include h

theorem holds_le (i : Fin socketCount) : b.holds i ≤ 1 := by
  have hledger := h.ledger i
  have := (b.found i).reserved.toNat_le
  omega

theorem reserved_of_holds (held : 0 < b.holds i) : (b.found i).reserved = true := by
  have hledger := h.ledger i
  cases hreserved : (b.found i).reserved with
  | true => rfl
  | false =>
    rw [hreserved, Bool.toNat_false] at hledger
    omega

theorem alone (held : 0 < b.holds i) :
    b.holds i = 1 ∧ b.host.link.waits i = 0 ∧ left.count i = 0 := by
  have hledger := h.ledger i
  have := (b.found i).reserved.toNat_le
  omega

theorem nobody (free : (b.found i).reserved = false) :
    b.holds i = 0 ∧ b.host.link.waits i = 0 ∧ left.count i = 0 := by
  have hledger := h.ledger i
  rw [free, Bool.toNat_false] at hledger
  omega

end

/-- A move that leaves to every slot what it is for. -/
theorem of_claims (h : Sound b left) {new : List (Fin socketCount)}
    (settings : b'.host.link.settings = b.host.link.settings)
    (claims : ∀ i, (b'.found i).reserved = (b.found i).reserved ∧
      (b'.found i).kind = (b.found i).kind ∧ (b'.found i).waiting = (b.found i).waiting)
    (sent : ∀ i, b.holds i = 0 → (b'.found i).tx = (b.found i).tx)
    (holds : ∀ i, b'.holds i + new.count i = b.holds i)
    (serves : ∀ o ∈ b'.owners, o ∈ b.owners ∨ o.Serves b.host.link)
    (cached : ∀ i, (b'.host.cache.entries.get i).isSome → 0 < b'.holds i) :
    Sound b' (left ++ new) := by
  have hwaits : ∀ i, b'.host.link.waits i = b.host.link.waits i :=
    Link.waits_congr fun i => (claims i).2.2
  refine ⟨fun i => ?_, fun o ho => ?_, cached, fun i hi => ?_, fun i hi => ?_, fun i hi => ?_,
    fun i hi => ?_⟩
  · have hledger := h.ledger i
    have hholds := holds i
    rw [hwaits, (claims i).1, List.count_append]
    omega
  · have hserves : o.Serves b.host.link := by
      rcases serves o ho with hold | hnew
      · exact h.serves o hold
      · exact hnew
    exact hserves.congr fun i _ => (claims i).2.1
  · rw [settings]
    exact h.carries i (by have := holds i; omega)
  · rw [(claims i).1] at hi
    obtain ⟨hkind, hwaiting, htx⟩ := h.vacant i hi
    exact ⟨(claims i).2.1.trans hkind, (claims i).2.2.trans hwaiting,
      (sent i (h.nobody hi).1).trans htx⟩
  · rw [(claims i).2.2] at hi
    exact (claims i).2.1.trans (h.queued i hi)
  · rw [hwaits] at hi
    obtain ⟨hkind, htx⟩ := h.pending i hi
    have hfree : b.holds i = 0 := by
      have hledger := h.ledger i
      have := (b.found i).reserved.toNat_le
      omega
    exact ⟨(claims i).2.1.trans hkind, (sent i hfree).trans htx⟩

/-- A move that changes one slot. -/
theorem of_change (h : Sound b left) {i : Fin socketCount}
    (settings : b'.host.link.settings = b.host.link.settings)
    (others : ∀ j, j ≠ i → b'.found j = b.found j)
    (ledger : ∀ j, b'.holds j + b'.host.link.waits j + left'.count j = (b'.found j).reserved.toNat)
    (serves : ∀ o ∈ b'.owners,
      o ∈ b.owners ∧ o.socket.index? ≠ some i ∨ o.Serves b'.host.link)
    (cached : ∀ j, (b'.host.cache.entries.get j).isSome → 0 < b'.holds j)
    (carries : ∀ j, 0 < b'.holds j → 0 < b.holds j ∨
      8 ≤ b.host.link.settings.maxFrameSize.toNat ∧ 1 ≤ b.host.link.settings.startBudget.toNat)
    (vacant : (b'.found i).reserved = false →
      (b'.found i).kind = .unused ∧ (b'.found i).waiting = [] ∧ (b'.found i).tx = [])
    (queued : (b'.found i).waiting ≠ [] → (b'.found i).kind = .server)
    (fewer : ∀ j, b'.host.link.waits j ≤ b.host.link.waits j)
    (pending : 0 < b'.host.link.waits i → (b'.found i).kind = .client ∧ (b'.found i).tx = []) :
    Sound b' left' := by
  refine ⟨ledger, fun o ho => ?_, cached, fun j hj => ?_, fun j hj => ?_, fun j hj => ?_,
    fun j hj => ?_⟩
  · rcases serves o ho with ⟨hold, hne⟩ | hserves
    · refine (h.serves o hold).congr fun j hj => ?_
      have hji : j ≠ i := by
        rintro rfl
        exact hne hj
      exact congrArg Device.Socket.kind (others j hji)
    · exact hserves
  · rw [settings]
    rcases carries j hj with hheld | hcarries
    · exact h.carries j hheld
    · exact hcarries
  · by_cases hji : j = i
    · subst hji
      exact vacant hj
    · rw [others j hji] at hj ⊢
      exact h.vacant j hj
  · by_cases hji : j = i
    · subst hji
      exact queued hj
    · rw [others j hji] at hj ⊢
      exact h.queued j hj
  · by_cases hji : j = i
    · subst hji
      exact pending hj
    · rw [others j hji]
      exact h.pending j (Nat.lt_of_lt_of_le hj (fewer j))

end Sound

end Board

end SpiWifi
