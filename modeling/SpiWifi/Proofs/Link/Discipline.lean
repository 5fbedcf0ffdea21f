import SpiWifi.Proofs.History
import SpiWifi.Proofs.Link.Calls

/-!
# The discipline of the lines

What a link never does to its lines, whatever the transport answers. A run is a list of operations
on a link that was not used yet; the calls made since the last stop are carried along, because a
reset pulse before it does not count. Every statement about the calls of an operation is read off
the order of the calls in a transaction, and a run keeps them because every operation does.
-/

namespace SpiWifi

namespace LineCall

def selectLevel? : LineCall → Option Bool
  | drive (.select on) => some on
  | _ => none

def resetLevel? : LineCall → Option Bool
  | drive (.reset high) => some high
  | _ => none

/-- The call neither selects the device nor clocks bytes. -/
def Harmless : LineCall → Prop
  | drive (.select true) | drive (.transfer _) => False
  | _ => True

theorem Passive.harmless {c : LineCall} (h : c.Passive) : c.Harmless := by
  cases c with
  | drive e => exact absurd h id
  | busy answer => trivial
  | read byte => trivial

end LineCall

open LineCall

/-- After these calls the device is selected. -/
def Selected (calls : List LineCall) : Prop :=
  (calls.filterMap selectLevel?).getLast? = some true

/-- After these calls the reset line is high, and it was last driven through a whole pulse. -/
def Pulsed (calls : List LineCall) : Prop :=
  [true, false, true] <:+ calls.filterMap resetLevel?

section
variable {a b : List LineCall}

theorem selected_concat : Selected (a ++ [.drive (.select true)]) := by
  rw [Selected, List.filterMap_append]
  exact List.getLast?_concat

theorem not_selected_concat : ¬Selected (a ++ [.drive (.select false)]) := by
  intro h
  rw [Selected, List.filterMap_append] at h
  exact absurd (List.getLast?_concat.symm.trans h) (by decide)

theorem filterMap_of_passive {level : LineCall → Option Bool}
    (hlevel : ∀ c, c.Passive → level c = none) (h : ∀ c ∈ a, c.Passive) :
    a.filterMap level = [] := by
  rw [List.filterMap_eq_nil_iff]
  intro c hc
  exact hlevel c (h c hc)

theorem selectLevel?_of_passive (c : LineCall) (h : c.Passive) : c.selectLevel? = none := by
  cases c with
  | drive e => exact absurd h id
  | busy answer => rfl
  | read byte => rfl

theorem resetLevel?_of_passive (c : LineCall) (h : c.Passive) : c.resetLevel? = none := by
  cases c with
  | drive e => exact absurd h id
  | busy answer => rfl
  | read byte => rfl

theorem Selected.append (ha : Selected a) (hb : ∀ c ∈ b, c.Passive) : Selected (a ++ b) := by
  rwa [Selected, List.filterMap_append, filterMap_of_passive selectLevel?_of_passive hb,
    List.append_nil]

/-- Only a call that selects the device leaves it selected. -/
theorem not_selected_append (ha : ¬Selected a) (hb : ∀ c ∈ b, c.Harmless) :
    ¬Selected (a ++ b) := by
  intro h
  rw [Selected, List.filterMap_append, List.getLast?_append] at h
  cases hlast : (b.filterMap selectLevel?).getLast? with
  | none =>
    rw [hlast] at h
    exact ha h
  | some on =>
    rw [hlast] at h
    cases h
    obtain ⟨c, hc, hlevel⟩ := List.mem_filterMap.mp (List.mem_of_getLast? hlast)
    have hharmless := hb c hc
    rcases c with (_ | _ | _ | _) | _ | _
    · cases hlevel
      exact hharmless
    all_goals cases hlevel

theorem Pulsed.append (ha : Pulsed a) (hb : b.filterMap resetLevel? = []) : Pulsed (a ++ b) := by
  rwa [Pulsed, List.filterMap_append, hb, List.append_nil]

theorem pulsed_resetPulse : Pulsed (a ++ resetPulse) := by
  rw [Pulsed, List.filterMap_append]
  exact List.suffix_append _ _

end

/-- A call of an operation is allowed after the calls `past` since the last stop and the calls `pre`
of the operation itself. A transfer needs the device selected and reset, and bytes that the
operation may send; to select the device takes a look that found it idle. -/
def Allowed (payload : Bytes → Prop) (past pre : List LineCall) : LineCall → Prop
  | .drive (.transfer tx) => Selected (past ++ pre) ∧ Pulsed (past ++ pre) ∧ payload tx
  | .drive (.select true) => pre.getLast? = some (.busy false)
  | _ => True

theorem LineCall.Harmless.allowed {payload : Bytes → Prop} {past pre : List LineCall}
    {call : LineCall} (h : call.Harmless) : Allowed payload past pre call := by
  rcases call with (on | high | _ | tx) | answer | byte
  · cases on
    · trivial
    · exact absurd h id
  · trivial
  · trivial
  · exact absurd h id
  · trivial
  · trivial

/-- What may lean on the calls since the last stop may lean on the same calls where they belong to
the operation. -/
theorem Allowed.regroup {payload : Bytes → Prop} {past a b : List LineCall} {call : LineCall}
    (h : Allowed payload (past ++ a) b call) : Allowed payload past (a ++ b) call := by
  rcases call with (on | high | _ | tx) | answer | byte
  · cases on
    · trivial
    · change b.getLast? = _ at h
      change (a ++ b).getLast? = _
      rw [List.getLast?_append, h]
      rfl
  · trivial
  · trivial
  · change Selected _ ∧ Pulsed _ ∧ _ at h
    rwa [List.append_assoc] at h
  · trivial
  · trivial

/-- Every call of an operation is allowed at its place. -/
def Obeys (payload : Bytes → Prop) (past calls : List LineCall) : Prop :=
  EachAfter (Allowed payload past) calls

namespace Obeys

variable {payload : Bytes → Prop} {past a b : List LineCall}

theorem of_harmless (h : ∀ c ∈ a, c.Harmless) : Obeys payload past a :=
  EachAfter.of_forall fun c hc _ => (h c hc).allowed

theorem append (ha : Obeys payload past a) (hb : Obeys payload (past ++ a) b) :
    Obeys payload past (a ++ b) :=
  EachAfter.append ha (EachAfter.mono hb fun _ _ h => h.regroup)

theorem concat {call : LineCall} (ha : Obeys payload past a)
    (hcall : Allowed payload past a call) : Obeys payload past (a ++ [call]) :=
  EachAfter.concat ha hcall

end Obeys

/-- The last transaction in the calls gave up its wait: after it was begun the device was not
selected and nothing was clocked. -/
def GaveUp (calls : List LineCall) : Prop :=
  ∃ earlier wait, calls = earlier ++ .drive .clear :: wait ∧ .drive .clear ∉ wait ∧
    ∀ c ∈ wait, c.Harmless

theorem GaveUp.append_left {calls : List LineCall} (h : GaveUp calls) (earlier : List LineCall) :
    GaveUp (earlier ++ calls) := by
  obtain ⟨before, wait, rfl, hclear, hwait⟩ := h
  exact ⟨earlier ++ before, wait, (List.append_assoc ..).symm, hclear, hwait⟩

/-- What calls after `past` that clock bytes keep and leave behind. -/
structure Sound (payload : Bytes → Prop) (past calls : List LineCall) : Prop where
  obeys : Obeys payload past calls
  released : ¬Selected (past ++ calls)
  pulsed : Pulsed (past ++ calls)

theorem Sound.append {payload : Bytes → Prop} {past a b : List LineCall}
    (ha : Sound payload past a) (hb : Sound payload (past ++ a) b) :
    Sound payload past (a ++ b) where
  obeys := ha.obeys.append hb.obeys
  released := by
    rw [← List.append_assoc]
    exact hb.released
  pulsed := by
    rw [← List.append_assoc]
    exact hb.pulsed

section
variable {initialized : Bool} {past looks : List LineCall}

theorem duePulse_harmless (initialized : Bool) :
    ∀ c ∈ duePulse initialized, c.Harmless ∧ c ≠ .drive .clear := by
  cases initialized with
  | true => exact List.forall_mem_nil _
  | false =>
    intro c hc
    simp only [duePulse, resetPulse, Bool.false_eq_true, if_false, List.mem_cons,
      List.not_mem_nil, or_false] at hc
    rcases hc with rfl | rfl | rfl | rfl <;> exact ⟨trivial, by decide⟩

theorem opening_harmless (initialized : Bool) (waits : ∀ c ∈ looks, c.Passive) :
    ∀ c ∈ duePulse initialized ++ looks, c.Harmless ∧ c ≠ .drive .clear := by
  intro c hc
  rcases List.mem_append.mp hc with hc | hc
  · exact duePulse_harmless initialized c hc
  · refine ⟨(waits c hc).harmless, ?_⟩
    rintro rfl
    exact waits _ hc

/-- Once a transaction has waited, the device was reset since the last stop. -/
theorem opening_pulsed (reset : initialized = true → Pulsed past)
    (waits : ∀ c ∈ looks, c.Passive) :
    Pulsed (past ++ .drive .clear :: (duePulse initialized ++ looks)) := by
  have hlooks := filterMap_of_passive resetLevel?_of_passive waits
  cases initialized with
  | true => exact (reset rfl).append hlooks
  | false =>
    have h := (pulsed_resetPulse (a := past ++ [.drive .clear])).append hlooks
    rwa [List.append_assoc, List.append_assoc] at h

end

namespace Transaction

variable {initialized done : Bool} {tx : Bytes} {past calls : List LineCall}

theorem gaveUp_of_not_done (h : Transaction initialized tx done calls) (hdone : done = false) :
    GaveUp calls := by
  cases h with
  | gaveUp waits =>
    have hwait := opening_harmless initialized waits
    exact ⟨[], _, rfl, fun hc => (hwait _ hc).2 rfl, fun c hc => (hwait c hc).1⟩
  | ran => cases hdone

/-- Whether a transaction comes to its transfer or not, its calls are allowed and the device is
released at its end. -/
theorem sound (payload : Bytes → Prop) (h : Transaction initialized tx done calls)
    (reset : initialized = true → Pulsed past) (free : ¬Selected past) (sends : payload tx) :
    Sound payload past calls := by
  have hopening : ∀ {looks : List LineCall}, (∀ c ∈ looks, c.Passive) →
      ∀ c ∈ LineCall.drive .clear :: (duePulse initialized ++ looks), c.Harmless := fun waits =>
    List.forall_mem_cons.mpr ⟨trivial, fun c hc => (opening_harmless initialized waits c hc).1⟩
  cases h with
  | gaveUp waits =>
    exact ⟨Obeys.of_harmless (hopening waits), not_selected_append free (hopening waits),
      opening_pulsed reset waits⟩
  | @ran looks grace reads waits idle lingers takes =>
    have hobeys : Obeys payload past (.drive .clear :: (duePulse initialized ++ looks)) :=
      Obeys.of_harmless (hopening waits)
    have hpulsed := opening_pulsed reset waits
    -- the last look, which found the device idle, is the call before the select
    have hidle : Allowed payload past (.drive .clear :: (duePulse initialized ++ looks))
        (.drive (.select true)) := by
      change List.getLast? _ = _
      rw [← List.cons_append, List.getLast?_append, idle]
      rfl
    change Sound payload past ((.drive .clear :: (duePulse initialized ++ looks)) ++
      [.drive (.select true)] ++ grace ++ [.drive (.transfer tx)] ++ reads ++
      [.drive (.select false)])
    generalize LineCall.drive .clear :: (duePulse initialized ++ looks) = opening
      at hobeys hpulsed hidle ⊢
    have hready : Obeys payload past (opening ++ [.drive (.select true)] ++ grace) :=
      (hobeys.concat hidle).append (Obeys.of_harmless fun c hc => (lingers c hc).harmless)
    have hselected : Selected (past ++ (opening ++ [.drive (.select true)] ++ grace)) := by
      rw [← List.append_assoc, ← List.append_assoc]
      exact selected_concat.append lingers
    have hreset : Pulsed (past ++ (opening ++ [.drive (.select true)] ++ grace)) := by
      rw [← List.append_assoc, ← List.append_assoc]
      exact (hpulsed.append rfl).append (filterMap_of_passive resetLevel?_of_passive lingers)
    generalize opening ++ [.drive (.select true)] ++ grace = before at hready hselected hreset ⊢
    have htransfer : Obeys payload past (before ++ [.drive (.transfer tx)]) :=
      hready.concat ⟨hselected, hreset, sends⟩
    refine ⟨(htransfer.append (Obeys.of_harmless fun c hc => (takes c hc).harmless)).append
      (Obeys.of_harmless (List.forall_mem_singleton.mpr trivial)), ?_, ?_⟩
    · rw [← List.append_assoc]
      exact not_selected_concat
    · rw [← List.append_assoc, ← List.append_assoc, ← List.append_assoc]
      exact ((hreset.append rfl).append
        (filterMap_of_passive resetLevel?_of_passive takes)).append rfl

end Transaction

/-- The link refuses the frame: it has no encoding, or one that is longer than a transfer may be. -/
def Refused (settings : LinkSettings) (f : Frame) : Prop :=
  ∀ tx, f.encode = .ok tx → settings.maxFrameSize.toNat < tx.length

theorem outgoing_of_refused {settings : LinkSettings} {f : Frame} (h : Refused settings f) :
    ∃ e, settings.outgoing f = .error e := by
  unfold LinkSettings.outgoing
  cases hencode : f.encode with
  | error e => exact ⟨e, rfl⟩
  | ok tx => exact ⟨_, if_pos (h tx hencode)⟩

namespace LinkOp

def frame? : LinkOp → Option Frame
  | send f | request f _ => some f
  | _ => none

/-- The bytes that the operation may clock out: its frame, and zeros for a reply. -/
def Clocks (settings : LinkSettings) : LinkOp → Bytes → Prop
  | send f, tx => f.encode = .ok tx
  | receive _ size _ _, tx => tx = Bytes.zeros (min (min size settings.maxFrameSize.toNat) 255)
  | request f _, tx =>
    f.encode = .ok tx ∨ tx = Bytes.zeros (min settings.maxFrameSize.toNat 255)
  | start, _ | stop, _ => False

/-- What one operation keeps, the calls `past` made since the last stop. -/
structure Disciplined {τ : Type} (settings : LinkSettings) (op : LinkOp) (past : List LineCall)
    (result : LinkOutcome × Link τ) (calls : List LineCall) : Prop where
  obeys : Obeys (op.Clocks settings) past calls
  released : ¬Selected (past ++ calls)
  pulsed : result.2.initialized = true → Pulsed (past ++ calls)
  gaveUp : ∀ ms, result.1.result = .error (.deviceNotReady ms) →
    settings.readyTimeout = some ms ∧ GaveUp calls

variable {τ : Type} [Transport τ]

/-- A refused frame leaves the link and the host's slots alone. -/
theorem run_of_refused {op : LinkOp} {f : Frame} (hframe : op.frame? = some f) (l : Link τ)
    (h : Refused l.settings f) : ∃ e, op.run l = (⟨.error (.protocol e), op.slots⟩, l) := by
  obtain ⟨e, he⟩ := outgoing_of_refused h
  refine ⟨e, ?_⟩
  cases op with
  | send g =>
    cases hframe
    rw [run, Link.run_send, he]
    rfl
  | request g slots =>
    cases hframe
    rw [run, Link.run_request, Link.run_send, he]
    rfl
  | receive opcode size width slots => cases hframe
  | start => cases hframe
  | stop => cases hframe

end LinkOp

namespace Link

variable {τ : Type} {l : Link (Journaled τ)} {past : List LineCall}

theorem Transacts.gaveUp {α : Type} {tx : Bytes} {outcome : Except LinkError α × Link (Journaled τ)}
    {calls : List LineCall} (h : Transacts l tx outcome calls) (ms : UInt64)
    (hresult : outcome.1 = .error (.deviceNotReady ms)) :
    l.settings.readyTimeout = some ms ∧ GaveUp calls :=
  ⟨h.limit ms hresult, h.shape.gaveUp_of_not_done (by rw [hresult]; rfl)⟩

/-- What was read never tells that the device was not ready. -/
theorem readReply_ne_deviceNotReady (settings : LinkSettings) (opcode : UInt8) (width : Width)
    (slots : List Slot) (rx : Bytes) (ms : UInt64) :
    (readReply settings opcode width slots rx).1 ≠ .error (.deviceNotReady ms) := by
  intro h
  simp only [readReply] at h
  split at h
  · cases h
  · cases h

variable [Transport τ]

theorem receive_sound (payload : Bytes → Prop) (opcode : UInt8) (size : Nat) (width : Width)
    (slots : List Slot) (reset : l.initialized = true → Pulsed past) (free : ¬Selected past)
    (sends : payload (Bytes.zeros (l.settings.replySize size))) :
    ∃ calls, Makes l ((receive opcode size width slots).run l).2 calls ∧
      Sound payload past calls ∧
      ∀ ms, ((receive opcode size width slots).run l).1.1 = .error (.deviceNotReady ms) →
        l.settings.readyTimeout = some ms ∧ GaveUp calls := by
  obtain ⟨calls, h⟩ := fetch_transacts l (l.settings.replySize size)
  have hsound := h.shape.sound payload reset free sends
  have hmakes := h.makes
  have hgaveUp := fun ms => h.gaveUp ms
  rw [run_receive]
  generalize (fetch (l.settings.replySize size)).run l = fetched at hmakes hgaveUp ⊢
  refine ⟨calls, ?_⟩
  rcases fetched with ⟨e | rx, l'⟩
  · refine ⟨hmakes, hsound, fun ms he => hgaveUp ms ?_⟩
    cases he
    rfl
  · refine ⟨hmakes, hsound, fun ms he => ?_⟩
    exact absurd he (readReply_ne_deviceNotReady _ _ _ _ _ _)

end Link

namespace LinkOp

variable {τ : Type} (l : Link (Journaled τ)) {past : List LineCall}

/-- An operation that makes no call and leaves the link alone. -/
theorem disciplined_nothing {op : LinkOp} {outcome : LinkOutcome}
    (houtcome : ∀ ms, outcome.result ≠ .error (.deviceNotReady ms))
    (reset : l.initialized = true → Pulsed past) (free : ¬Selected past) :
    Disciplined l.settings op past (outcome, l) [] where
  obeys := Obeys.of_harmless (List.forall_mem_nil _)
  released := by rwa [List.append_nil]
  pulsed := by rwa [List.append_nil]
  gaveUp ms h := absurd h (houtcome ms)

theorem error_of_map_error {α β : Type} {x : Except LinkError α} {f : α → β} {e : LinkError}
    (h : x.map f = .error e) : x = .error e := by
  cases x with
  | error _ =>
    cases h
    rfl
  | ok _ => cases h

variable [Transport τ]

theorem send_disciplined (f : Frame) (reset : l.initialized = true → Pulsed past)
    (free : ¬Selected past) :
    ∃ calls, Link.Makes l ((send f).run l).2 calls ∧
      Disciplined l.settings (.send f) past ((send f).run l) calls := by
  rw [run_send]
  cases hout : l.settings.outgoing f with
  | error e =>
    rw [Link.run_send, hout]
    exact ⟨[], Link.Makes.refl l, disciplined_nothing l (fun ms h => nomatch h) reset free⟩
  | ok tx =>
    obtain ⟨calls, h⟩ := Link.send_transacts l hout
    have hsound := h.shape.sound ((send f).Clocks l.settings) reset free
      (encode_of_outgoing hout)
    exact ⟨calls, h.makes, hsound.obeys, hsound.released, fun _ => hsound.pulsed,
      fun ms hresult => h.gaveUp ms (error_of_map_error hresult)⟩

theorem receive_disciplined (opcode : UInt8) (size : Nat) (width : Width) (slots : List Slot)
    (reset : l.initialized = true → Pulsed past) (free : ¬Selected past) :
    ∃ calls, Link.Makes l ((receive opcode size width slots).run l).2 calls ∧
      Disciplined l.settings (.receive opcode size width slots) past
        ((receive opcode size width slots).run l) calls := by
  obtain ⟨calls, hmakes, hsound, hgaveUp⟩ := Link.receive_sound
    ((receive opcode size width slots).Clocks l.settings) opcode size width slots reset free rfl
  rw [run_receive]
  exact ⟨calls, hmakes, hsound.obeys, hsound.released, fun _ => hsound.pulsed,
    fun ms hresult => hgaveUp ms (error_of_map_error hresult)⟩

theorem request_disciplined (f : Frame) (slots : List Slot)
    (reset : l.initialized = true → Pulsed past) (free : ¬Selected past) :
    ∃ calls, Link.Makes l ((request f slots).run l).2 calls ∧
      Disciplined l.settings (.request f slots) past ((request f slots).run l) calls := by
  rw [run_request, Link.run_request]
  cases hout : l.settings.outgoing f with
  | error e =>
    rw [Link.run_send, hout]
    exact ⟨[], Link.Makes.refl l, disciplined_nothing l (fun ms h => nomatch h) reset free⟩
  | ok tx =>
    obtain ⟨calls, h⟩ := Link.send_transacts l hout
    have hsound := h.shape.sound ((request f slots).Clocks l.settings) reset free
      (Or.inl (encode_of_outgoing hout))
    have hmakes := h.makes
    have hgaveUp := fun ms => h.gaveUp ms
    generalize (Link.send f).run l = sent at hmakes hgaveUp ⊢
    rcases sent with ⟨e | _, middle⟩
    · refine ⟨calls, hmakes, hsound.obeys, hsound.released, fun _ => hsound.pulsed,
        fun ms hresult => hgaveUp ms ?_⟩
      dsimp only at hresult
      cases error_of_map_error hresult
      rfl
    · -- the reply is fetched after a pulse that is already there
      have hsize : middle.settings.replySize middle.settings.maxFrameSize.toNat =
          min l.settings.maxFrameSize.toNat 255 := by
        rw [hmakes.settings, LinkSettings.replySize, Nat.min_self]
        rfl
      obtain ⟨replyCalls, hmakes', hsound', hgaveUp'⟩ := Link.receive_sound
        ((request f slots).Clocks l.settings) f.opcode middle.settings.maxFrameSize.toNat
        (Link.replyWidth f) slots
        (fun _ => hsound.pulsed) hsound.released (Or.inr (congrArg Bytes.zeros hsize))
      have hboth := hsound.append hsound'
      refine ⟨_, hmakes.trans hmakes', hboth.obeys, hboth.released, fun _ => hboth.pulsed,
        fun ms hresult => ?_⟩
      obtain ⟨hlimit, hwait⟩ := hgaveUp' ms (error_of_map_error hresult)
      exact ⟨hmakes.settings ▸ hlimit, hwait.append_left calls⟩

theorem disciplined (op : LinkOp) (reset : l.initialized = true → Pulsed past)
    (free : ¬Selected past) :
    ∃ calls, Link.Makes l (op.run l).2 calls ∧
      Disciplined l.settings op past (op.run l) calls := by
  cases op with
  | send f => exact send_disciplined l f reset free
  | receive opcode size width slots =>
    exact receive_disciplined l opcode size width slots reset free
  | request f slots => exact request_disciplined l f slots reset free
  | start =>
    have hharmless : ∀ c ∈ resetPulse, c.Harmless := fun c hc =>
      (duePulse_harmless false c hc).1
    exact ⟨resetPulse, Link.resetDevice_makes l, Obeys.of_harmless hharmless,
      not_selected_append free hharmless, fun _ => pulsed_resetPulse, fun ms h => nomatch h⟩
  | stop =>
    have hmakes := (Link.setSelect_makes l false).trans (Link.setReset_makes _ false)
    have hharmless : ∀ c ∈ ([.drive (.select false)] ++ [.drive (.reset false)] : List LineCall),
        c.Harmless := by
      intro c hc
      rcases List.mem_append.mp hc with hc | hc
      · cases List.mem_singleton.mp hc
        trivial
      · cases List.mem_singleton.mp hc
        trivial
    exact ⟨_, ⟨hmakes.journal, hmakes.settings⟩, Obeys.of_harmless hharmless,
      not_selected_append free hharmless, (fun h => nomatch h), fun ms h => nomatch h⟩

/-- The calls of an operation are those that watching it shows, and watching changes nothing. -/
theorem disciplined_calls (op : LinkOp) (l : Link τ) (reset : l.initialized = true → Pulsed past)
    (free : ¬Selected past) :
    Disciplined l.settings op past (op.run l) (op.calls l) ∧
      (op.run l).2.settings = l.settings := by
  obtain ⟨calls, hmakes, h⟩ := disciplined l.watched op reset free
  have hjournal := hmakes.journal
  have hrun := run_unwatched op l.watched
  have hcalls : op.calls l = calls := hjournal
  rw [hcalls, show l = l.watched.unwatched from rfl, hrun]
  exact ⟨⟨h.obeys, h.released, h.pulsed, h.gaveUp⟩, hmakes.settings⟩

end LinkOp

/-- A link in the middle of a run, with the calls made since it was made or last stopped. -/
structure LinkRun (τ : Type) where
  link : Link τ
  past : List LineCall

namespace LinkRun

variable {τ : Type} [Transport τ]

/-- The calls that count after an operation: a stop leaves the device without a reset. -/
def pastAfter (s : LinkRun τ) : LinkOp → List LineCall
  | .stop => []
  | op => s.past ++ op.calls s.link

def step (s : LinkRun τ) (op : LinkOp) : LinkRun τ := ⟨(op.run s.link).2, s.pastAfter op⟩

/-- What holds between two operations. -/
structure AtRest (settings : LinkSettings) (s : LinkRun τ) : Prop where
  settings : s.link.settings = settings
  reset : s.link.initialized = true → Pulsed s.past
  free : ¬Selected s.past

theorem AtRest.step {settings : LinkSettings} {s : LinkRun τ} (h : s.AtRest settings)
    (op : LinkOp) : (s.step op).AtRest settings := by
  obtain ⟨hop, hsettings⟩ := LinkOp.disciplined_calls op s.link h.reset h.free
  refine ⟨hsettings.trans h.settings, ?_, ?_⟩
  · cases op with
    | stop => exact fun hinit => nomatch hinit
    | send f => exact hop.pulsed
    | receive opcode size width slots => exact hop.pulsed
    | request f slots => exact hop.pulsed
    | start => exact hop.pulsed
  · cases op with
    | stop => exact fun hselected => nomatch hselected
    | send f => exact hop.released
    | receive opcode size width slots => exact hop.released
    | request f slots => exact hop.released
    | start => exact hop.released

theorem AtRest.run {settings : LinkSettings} (ops : List LinkOp) {s : LinkRun τ}
    (h : s.AtRest settings) : (ops.foldl LinkRun.step s).AtRest settings := by
  induction ops generalizing s with
  | nil => exact h
  | cons op rest ih => exact ih (h.step op)

end LinkRun

/-- The discipline of the lines, for every transport, every settings and every run of operations
`ops` followed by `op`, on a link that was not used before. The calls of `op` are those that
watching it shows; the calls `past` are those since the last stop. At every transfer the device is
selected and was reset since then, and the bytes are the frame or the zeros of the operation; the
device is only selected at once after a look that found it idle; and after every operation, failed
or not, it is not selected. If the device was not ready in time, the transaction that waited for it
neither selected it nor clocked bytes. A refused frame leaves the transport, the link and the slots
alone. -/
theorem Link.lines_disciplined {τ : Type} [Transport τ] (transport : τ) (signals : Signals)
    (settings : LinkSettings) (patience : Nat) (ops : List LinkOp) (op : LinkOp) :
    let s := ops.foldl LinkRun.step ⟨⟨transport, signals, settings, false, patience⟩, []⟩
    let (outcome, after) := op.run s.link
    let calls := op.calls s.link
    ((op.run s.link.watched).1 = outcome ∧ (op.run s.link.watched).2.unwatched = after ∧
      (op.run s.link.watched).2.journal.map JournalEntry.call = calls) ∧
    Obeys (op.Clocks settings) s.past calls ∧
    ¬Selected (s.past ++ calls) ∧
    (∀ ms, outcome.result = .error (.deviceNotReady ms) →
      settings.readyTimeout = some ms ∧ GaveUp calls) ∧
    (∀ f, op.frame? = some f → Refused settings f →
      calls = [] ∧ (∃ e, outcome.result = .error (.protocol e)) ∧ outcome.slots = op.slots ∧
        after = s.link) := by
  intro s
  have hstart : LinkRun.AtRest settings
      (⟨⟨transport, signals, settings, false, patience⟩, []⟩ : LinkRun τ) :=
    ⟨rfl, (fun h => nomatch h), fun h => nomatch h⟩
  have hrest := hstart.run ops
  obtain ⟨hop, -⟩ := LinkOp.disciplined_calls op s.link hrest.reset hrest.free
  have hwatched := LinkOp.run_unwatched op s.link.watched
  rw [show s.link.watched.unwatched = s.link from rfl] at hwatched
  have hsettings : s.link.settings = settings := hrest.settings
  rw [hsettings] at hop
  refine ⟨⟨(congrArg Prod.fst hwatched).symm, (congrArg Prod.snd hwatched).symm, rfl⟩,
    hop.obeys, hop.released, hop.gaveUp, fun f hframe hrefused => ?_⟩
  rw [← hsettings] at hrefused
  obtain ⟨e, hrun⟩ := LinkOp.run_of_refused hframe s.link hrefused
  obtain ⟨e', hjournal⟩ := LinkOp.run_of_refused hframe s.link.watched hrefused
  have hcalls : op.calls s.link = [] := by
    rw [LinkOp.calls, LinkOp.journal, hjournal]
    rfl
  exact ⟨hcalls, ⟨e, congrArg (fun r => r.1.result) hrun⟩,
    congrArg (fun r => r.1.slots) hrun, congrArg Prod.snd hrun⟩

end SpiWifi
