import SpiWifi.Proofs.Link.Journal

/-!
# The calls of a transaction

A transaction makes its calls in one order: what came in is discarded, the device is reset if that
is due, the busy line is looked at until it is low, the device is selected, the bytes are clocked,
the answer is taken, the device is released. If the wait for the busy line gives up, nothing after
it happens. `Transaction` is that order; sending and fetching follow it on every transport.
-/

namespace SpiWifi

/-- The call takes something from the transport and drives none of its lines. -/
def LineCall.Passive : LineCall → Prop
  | drive _ => False
  | busy _ | read _ => True

def resetPulse : List LineCall :=
  [.drive (.select false), .drive (.reset true), .drive (.reset false), .drive (.reset true)]

def duePulse (initialized : Bool) : List LineCall := if initialized then [] else resetPulse

/-- The calls of a transaction that is to clock `tx` out, on a link that was `initialized` or not.
The flag says whether it came to that, or the wait gave up. -/
inductive Transaction (initialized : Bool) (tx : Bytes) : Bool → List LineCall → Prop
  | gaveUp {looks : List LineCall} (waits : ∀ c ∈ looks, c.Passive) :
      Transaction initialized tx false (.drive .clear :: (duePulse initialized ++ looks))
  | ran {looks grace reads : List LineCall} (waits : ∀ c ∈ looks, c.Passive)
      (idle : looks.getLast? = some (.busy false)) (lingers : ∀ c ∈ grace, c.Passive)
      (takes : ∀ c ∈ reads, c.Passive) :
      Transaction initialized tx true
        (.drive .clear :: (duePulse initialized ++ looks ++ [.drive (.select true)] ++ grace ++
          [.drive (.transfer tx)] ++ reads ++ [.drive (.select false)]))

namespace Link

variable {τ : Type}

/-- From the one link to the other these calls are made, and the settings stay. -/
structure Makes (l l' : Link (Journaled τ)) (calls : List LineCall) : Prop where
  journal : l'.journal.map JournalEntry.call = l.journal.map JournalEntry.call ++ calls
  settings : l'.settings = l.settings

namespace Makes

variable {l l' l'' : Link (Journaled τ)} {a b : List LineCall}

theorem refl (l : Link (Journaled τ)) : Makes l l [] := ⟨(List.append_nil _).symm, rfl⟩

theorem trans (h : Makes l l' a) (h' : Makes l' l'' b) : Makes l l'' (a ++ b) where
  journal := by rw [h'.journal, h.journal, List.append_assoc]
  settings := h'.settings.trans h.settings

theorem one {call : LineCall}
    (h : l'.transport.entries.map JournalEntry.call =
      call :: l.transport.entries.map JournalEntry.call)
    (settings : l'.settings = l.settings) : Makes l l' [call] where
  journal := by
    rw [Link.journal, List.map_reverse, h, List.reverse_cons, ← List.map_reverse, Link.journal]
  settings := settings

end Makes

variable [Transport τ] (l : Link (Journaled τ))

theorem setSelect_makes (on : Bool) : Makes l (l.setSelect on) [.drive (.select on)] :=
  Makes.one rfl rfl

theorem setReset_makes (high : Bool) : Makes l (l.setReset high) [.drive (.reset high)] :=
  Makes.one rfl rfl

theorem clear_makes : Makes l l.clear [.drive .clear] := Makes.one rfl rfl

theorem transfer_makes (tx : Bytes) : Makes l (l.transfer tx) [.drive (.transfer tx)] :=
  Makes.one rfl rfl

theorem pollBusy_makes : Makes l l.pollBusy.2 [.busy l.pollBusy.1] := Makes.one rfl rfl

theorem resetDevice_makes : Makes l l.resetDevice resetPulse := by
  have h := (((setSelect_makes l false).trans (setReset_makes _ true)).trans
    (setReset_makes _ false)).trans (setReset_makes _ true)
  exact ⟨h.journal, h.settings⟩

theorem ensureReset_makes : Makes l l.ensureReset (duePulse l.initialized) := by
  unfold ensureReset duePulse
  split
  · exact Makes.refl l
  · exact resetDevice_makes l

/-- The last look tells the outcome of the wait. -/
theorem awaitIdle_makes (timed : Bool) (polls : Nat) (expired : Bool) :
    ∃ looks, (∀ c ∈ looks, LineCall.Passive c) ∧
      Makes l (awaitIdle timed polls expired l).2
        (looks ++ [.busy !(awaitIdle timed polls expired l).1]) := by
  induction polls generalizing expired l with
  | zero =>
    refine ⟨[], List.forall_mem_nil _, ?_⟩
    have h := pollBusy_makes l
    rw [awaitIdle]
    generalize l.pollBusy = looked at h ⊢
    obtain ⟨busy, next⟩ := looked
    rw [← Bool.not_not busy] at h
    exact h
  | succ polls ih =>
    have h := pollBusy_makes l
    rw [awaitIdle]
    generalize l.pollBusy = looked at h ⊢
    rcases looked with ⟨_ | _, next⟩
    · exact ⟨[], List.forall_mem_nil _, h⟩
    · cases expired with
      | true => exact ⟨[], List.forall_mem_nil _, h⟩
      | false =>
        obtain ⟨looks, hlooks, hrest⟩ := ih { next with signals := next.signals.takeReady }
          (timed && !next.signals.deviceReady.raised)
        have hfirst : Makes l { next with signals := next.signals.takeReady } [.busy true] :=
          ⟨h.journal, h.settings⟩
        exact ⟨.busy true :: looks, List.forall_mem_cons.mpr ⟨trivial, hlooks⟩,
          hfirst.trans hrest⟩

theorem waitReady_makes (limit : Option UInt64) :
    ∃ looks, (∀ c ∈ looks, LineCall.Passive c) ∧
      Makes l ((waitReady limit).run l).2 looks ∧
      (((waitReady limit).run l).1 = .ok () → looks.getLast? = some (.busy false)) ∧
      ∀ ms, ((waitReady limit).run l).1 = .error (.deviceNotReady ms) → limit = some ms := by
  have hpassive : ∀ (looks : List LineCall) (answer : Bool), (∀ c ∈ looks, LineCall.Passive c) →
      ∀ c ∈ looks ++ [.busy answer], LineCall.Passive c := by
    intro looks answer h c hc
    rcases List.mem_append.mp hc with hc | hc
    · exact h c hc
    · cases List.mem_singleton.mp hc
      trivial
  cases limit with
  | none =>
    obtain ⟨looks, hlooks, h⟩ := awaitIdle_makes l false l.patience false
    simp only [waitReady, ExceptT.run]
    generalize awaitIdle false l.patience false l = waited at h ⊢
    refine ⟨_, hpassive _ (!waited.1) hlooks, ?_⟩
    rcases waited with ⟨_ | _, l'⟩
    · refine ⟨h, fun hok => ?_, fun ms herr => ?_⟩
      · cases hok
      · cases herr
    · exact ⟨h, fun _ => List.getLast?_concat, fun ms herr => by cases herr⟩
  | some limit =>
    obtain ⟨looks, hlooks, h⟩ := awaitIdle_makes l true l.patience (limit == 0)
    simp only [waitReady, ExceptT.run]
    generalize awaitIdle true l.patience (limit == 0) l = waited at h ⊢
    refine ⟨_, hpassive _ (!waited.1) hlooks, ?_⟩
    rcases waited with ⟨_ | _, l'⟩
    · refine ⟨h, fun hok => ?_, fun ms herr => ?_⟩
      · cases hok
      · cases herr
        rfl
    · exact ⟨h, fun _ => List.getLast?_concat, fun ms herr => by cases herr⟩

theorem readByte_makes :
    Makes l { l with transport := (Transport.readByte l.transport).2 }
      [.read (Transport.readByte l.transport).1] :=
  Makes.one rfl rfl

theorem readBytes_makes (n : Nat) :
    ∃ reads, (∀ c ∈ reads, LineCall.Passive c) ∧ Makes l (l.readBytes n).2 reads := by
  induction n generalizing l with
  | zero => exact ⟨[], List.forall_mem_nil _, Makes.refl l⟩
  | succ n ih =>
    have h := readByte_makes l
    unfold readBytes
    rw [Transport.readBytes]
    generalize Transport.readByte l.transport = taken at h ⊢
    rcases taken with ⟨_ | b, next⟩
    · exact ⟨[.read none], List.forall_mem_singleton.mpr trivial, h⟩
    · obtain ⟨reads, hreads, hrest⟩ := ih { l with transport := next }
      exact ⟨.read (some b) :: reads, List.forall_mem_cons.mpr ⟨trivial, hreads⟩, h.trans hrest⟩

theorem select_makes :
    ∃ looks, (∀ c ∈ looks, LineCall.Passive c) ∧
      match (select : LinkM (Journaled τ) Unit).run l with
      | (.error e, l') =>
        Makes l l' (duePulse l.initialized ++ looks) ∧
        ∀ ms, e = .deviceNotReady ms → l.settings.readyTimeout = some ms
      | (.ok (), l') =>
        looks.getLast? = some (.busy false) ∧ ∃ grace, (∀ c ∈ grace, LineCall.Passive c) ∧
          Makes l l' (duePulse l.initialized ++ looks ++ [.drive (.select true)] ++ grace) := by
  have hreset := ensureReset_makes l
  obtain ⟨looks, hlooks, hwait, hidle, hlimit⟩ :=
    waitReady_makes l.ensureReset l.ensureReset.settings.readyTimeout
  refine ⟨looks, hlooks, ?_⟩
  rw [run_select]
  generalize (waitReady l.ensureReset.settings.readyTimeout).run l.ensureReset = waited
    at hwait hidle hlimit ⊢
  rcases waited with ⟨e | _, middle⟩
  · refine ⟨hreset.trans hwait, fun ms he => ?_⟩
    rw [← hreset.settings]
    exact hlimit ms (congrArg Except.error he)
  · obtain ⟨grace, hgrace, hlinger, -⟩ :=
      waitReady_makes (middle.setSelect true) (some middle.settings.selectWait)
    exact ⟨hidle rfl, grace, hgrace,
      ((hreset.trans hwait).trans (setSelect_makes middle true)).trans hlinger⟩

/-- What a transaction did: it made its calls, came to its transfer or not, and if it gave up the
wait, that was because of the limit. -/
structure Transacts (l : Link (Journaled τ)) (tx : Bytes) {α : Type}
    (outcome : Except LinkError α × Link (Journaled τ)) (calls : List LineCall) : Prop where
  makes : Makes l outcome.2 calls
  shape : Transaction l.initialized tx outcome.1.isOk calls
  limit : ∀ ms, outcome.1 = .error (.deviceNotReady ms) → l.settings.readyTimeout = some ms

theorem send_transacts {f : Frame} {tx : Bytes} (hout : l.settings.outgoing f = .ok tx) :
    ∃ calls, Transacts l tx ((send f).run l) calls := by
  obtain ⟨looks, hlooks, hselect⟩ := select_makes l.clear
  rw [run_send, hout]
  dsimp only
  generalize (select : LinkM (Journaled τ) Unit).run l.clear = selected at hselect ⊢
  rcases selected with ⟨e | _, middle⟩
  · obtain ⟨hmakes, hlimit⟩ := hselect
    refine ⟨_, (clear_makes l).trans hmakes, Transaction.gaveUp hlooks, fun ms he => ?_⟩
    cases he
    exact hlimit ms rfl
  · obtain ⟨hidle, grace, hgrace, hmakes⟩ := hselect
    have hrest := (transfer_makes middle tx).trans (setSelect_makes _ false)
    refine ⟨_, ?_, Transaction.ran hlooks hidle hgrace (List.forall_mem_nil _),
      fun ms he => nomatch he⟩
    rw [List.append_nil, List.append_assoc]
    exact (clear_makes l).trans (hmakes.trans hrest)

theorem fetch_transacts (size : Nat) :
    ∃ calls, Transacts l (Bytes.zeros size) ((fetch size).run l) calls := by
  obtain ⟨looks, hlooks, hselect⟩ := select_makes l.clear
  rw [run_fetch]
  generalize (select : LinkM (Journaled τ) Unit).run l.clear = selected at hselect ⊢
  rcases selected with ⟨e | _, middle⟩
  · obtain ⟨hmakes, hlimit⟩ := hselect
    refine ⟨_, (clear_makes l).trans hmakes, Transaction.gaveUp hlooks, fun ms he => ?_⟩
    cases he
    exact hlimit ms rfl
  · obtain ⟨hidle, grace, hgrace, hmakes⟩ := hselect
    obtain ⟨reads, hreads, htaken⟩ := readBytes_makes (middle.transfer (Bytes.zeros size)) size
    have hrest := ((transfer_makes middle (Bytes.zeros size)).trans htaken).trans
      (setSelect_makes _ false)
    refine ⟨_, ?_, Transaction.ran hlooks hidle hgrace hreads, fun ms he => nomatch he⟩
    rw [List.append_assoc, List.append_assoc, ← List.append_assoc [_] reads]
    exact (clear_makes l).trans (hmakes.trans hrest)

end Link

end SpiWifi
