import SpiWifi.Proofs.History
import SpiWifi.Proofs.Link.Journal
import SpiWifi.Proofs.Link.Transparency

/-!
# Whose reply is delivered

The device holds a reply between two transfers, so nothing in the host ties a reply to the command
that caused it. Here a run over the emulated device is told by its events: commands that the device
was given, zeros clocked while it held some bytes, resets, and deliveries to the host. Between two
events the device may be told anything. The bytes that the device holds are always those with which
it answered the last event, if that was a command, and only a reply whose header the host expects is
ever delivered.
-/

namespace SpiWifi

open Device Reader

theorem Bytes.mem_of_mem_fit {b : UInt8} {n : Nat} {bytes : Bytes} (h : b ∈ Bytes.fit n bytes)
    (hb : b ≠ 0) : b ∈ bytes := by
  rcases List.mem_append.mp h with h | h
  · exact List.mem_of_mem_take h
  · exact absurd (List.mem_replicate.mp h).2 hb

theorem Bytes.fit_cons (n : Nat) (b : UInt8) (bytes : Bytes) :
    Bytes.fit (n + 1) (b :: bytes) = b :: Bytes.fit n bytes := by
  simp only [Bytes.fit, List.take_succ_cons, List.cons_append, List.length_cons,
    Nat.add_sub_add_right]

/-- The reply bit does not hide an opcode. -/
theorem opcode_of_reply_header {a b : UInt8}
    (h : (a &&& 0x7f) ||| replyBit = (b &&& 0x7f) ||| replyBit) : a &&& 0x7f = b &&& 0x7f := by
  have hstrip : ∀ c : Fin 256, ((UInt8.ofFin c &&& 0x7f) ||| replyBit) &&& 0x7f =
      UInt8.ofFin c &&& 0x7f := by decide +kernel
  have ha := hstrip a.toFin
  rw [show UInt8.ofFin a.toFin = a from rfl, h] at ha
  exact ha.symm.trans (hstrip b.toFin)

/-- In the bytes of a frame, cut or filled, the first start marker is the frame's own. -/
theorem header_of_fit_bytes {f : Frame} {n : Nat} {filler rest : Bytes} {header : UInt8}
    (hq : Quiet filler)
    (h : Bytes.fit n f.bytes = filler ++ Marker.start :: header :: rest) : f.header = header := by
  have hopen : ∃ tail, f.bytes = Marker.start :: f.header :: tail := ⟨_, rfl⟩
  obtain ⟨tail, htail⟩ := hopen
  rw [htail] at h
  have hlen := congrArg List.length h
  rw [Bytes.length_fit, List.length_append, List.length_cons, List.length_cons] at hlen
  obtain ⟨n, rfl⟩ : ∃ k, n = k + 2 := ⟨n - 2, by omega⟩
  rw [Bytes.fit_cons, Bytes.fit_cons] at h
  cases filler with
  | nil =>
    cases h
    rfl
  | cons b filler =>
    have hb : Marker.start = b := (List.cons.inj h).1
    exact absurd hb.symm (hq b List.mem_cons_self).1

/-- A reply is only read where the start marker is followed by the expected header. -/
theorem Link.header_of_readReply {settings : LinkSettings} {o : UInt8} {w : Width}
    {slots : List Slot} {rx : Bytes} {reply : Reply}
    (h : (readReply settings o w slots rx).1 = .ok reply) :
    ∃ rest, FirstMarker settings.startBudget.toNat Marker.start rx
      (((o &&& 0x7f) ||| replyBit) :: rest) := by
  simp only [readReply] at h
  split at h
  · cases h
  · next n hn =>
    obtain ⟨ps, k, rest, ha⟩ := ReplyReader.announces_of_parse_ok hn
    obtain ⟨count, body, hfirst, -⟩ := ha.split
    exact ⟨_, hfirst⟩

namespace Device

/-- The device, knowing `s`, was given a command with the opcode that the host asks for, executed
it, and answered with these bytes of a reply to it. -/
def Answers (o : UInt8) (tx : Bytes) (s : State) (bytes : Bytes) : Prop :=
  ∃ f c reply, Frame.decodeCommand tx = .ok f ∧ f.opcode = o &&& 0x7f ∧
    f.command? = some c ∧ (handle f s).1 = some reply ∧ IsReplyTo c reply ∧
    reply.encode = .ok bytes

/-- The device answers with nothing, with the error marker, or with a reply to the command. -/
theorem Line.execute_cases (tx : Bytes) (s : State) :
    (Line.execute tx s).1 = [] ∨ (Line.execute tx s).1 = [Marker.error] ∨
      ∃ f reply, Frame.decodeCommand tx = .ok f ∧ (handle f s).1 = some reply ∧
        reply.encode = .ok (Line.execute tx s).1 := by
  cases hsent : Frame.decodeCommand tx with
  | error e =>
    have hfault : Line.execute tx s = ([Marker.error], s) := by simp only [execute, hsent]
    rw [hfault]
    exact Or.inr (Or.inl rfl)
  | ok f =>
    rcases hserved : handle f s with ⟨_ | reply, s'⟩
    · rw [execute_of_refused hsent hserved]
      exact Or.inr (Or.inl rfl)
    · rw [execute_of_served hsent hserved]
      obtain ⟨c, hc, -⟩ := handle_some hserved
      rw [hc]
      rcases Nat.eq_zero_or_pos (s'.lossesLeft c) with hnone | hlost
      · cases hencode : reply.encode with
        | error e =>
          rw [answer_of_encode_error hnone hencode]
          exact Or.inr (Or.inl rfl)
        | ok bytes =>
          rw [answer_of_encode hnone hencode]
          exact Or.inr (Or.inr ⟨f, reply, rfl, congrArg Prod.fst hserved, hencode⟩)
      · rw [answer_of_lost hlost]
        exact Or.inl rfl

/-- What the host reads as a reply to `o`, the device answered to a command with that opcode. -/
theorem answers_of_readReply {settings : LinkSettings} {o : UInt8} {w : Width} {slots : List Slot}
    {size : Nat} {tx : Bytes} {s : State} {reply : Reply}
    (h : (Link.readReply settings o w slots (Bytes.fit size (Line.execute tx s).1)).1 = .ok reply) :
    Answers o tx s (Line.execute tx s).1 := by
  obtain ⟨rest, filler, -, hq, hbytes⟩ := Link.header_of_readReply h
  have hmem : Marker.start ∈ (Line.execute tx s).1 := by
    have hfit : Marker.start ∈ Bytes.fit size (Line.execute tx s).1 := by
      rw [hbytes]
      exact List.mem_append_right _ List.mem_cons_self
    exact Bytes.mem_of_mem_fit hfit (by decide)
  rcases Line.execute_cases tx s with hnone | hfault | ⟨f, answer, hsent, hserved, hencode⟩
  · rw [hnone] at hmem
    exact absurd hmem List.not_mem_nil
  · rw [hfault] at hmem
    exact absurd (List.mem_singleton.mp hmem) (by decide)
  · obtain ⟨c, hc, hreply⟩ := handle_some (Prod.ext hserved rfl)
    obtain ⟨-, -, hheader, -⟩ := Link.reply_expected (Prod.ext hserved rfl)
    refine ⟨f, c, answer, hsent, ?_, hc, hserved, hreply, hencode⟩
    obtain ⟨-, hanswer⟩ := Frame.encode_ok_iff.mp hencode
    rw [hanswer] at hbytes
    have hread := header_of_fit_bytes hq hbytes
    rw [hheader] at hread
    exact opcode_of_reply_header hread

end Device

inductive LinkEvent where
  /-- The reset line was driven low. -/
  | reset
  /-- The device, knowing `s`, was given a command. -/
  | command (tx : Bytes) (s : State)
  /-- Other bytes were clocked, so many, while the device held these bytes for the host. -/
  | filler (size : Nat) (held : Bytes)
  /-- The host was told that it has the reply to this opcode. -/
  | delivery (opcode : UInt8)

/-- The event that a call to the device is. Every transfer and every reset is one. -/
def JournalEntry.event? (entry : JournalEntry Line) : Option LinkEvent :=
  match entry.call with
  | .drive (.reset false) => some .reset
  | .drive (.transfer tx) =>
    if tx.head? = some Marker.start then some (.command tx entry.found.state)
    else some (.filler tx.length entry.found.pending)
  | _ => none

theorem JournalEntry.event?_command {tx : Bytes} (h : tx.head? = some Marker.start) (found : Line) :
    JournalEntry.event? ⟨found, .drive (.transfer tx)⟩ = some (.command tx found.state) := if_pos h

theorem JournalEntry.event?_zeros (size : Nat) (found : Line) :
    JournalEntry.event? ⟨found, .drive (.transfer (Bytes.zeros size))⟩ =
      some (.filler size found.pending) := by
  refine (if_neg (Link.head?_zeros_ne size)).trans ?_
  rw [Bytes.length_zeros]

namespace LinkOp

/-- The delivery in which an operation ends if it reads a reply. -/
def delivers (op : LinkOp) (outcome : LinkOutcome) : List LinkEvent :=
  match op, outcome.result with
  | receive opcode _ _ _, .ok _ => [.delivery opcode]
  | request f _, .ok _ => [.delivery f.opcode]
  | _, _ => []

def events (op : LinkOp) (l : Link Line) : List LinkEvent :=
  (op.journal l).filterMap JournalEntry.event? ++ op.delivers (op.run l).1

end LinkOp

/-- A link to the emulated device in the middle of a run, with the events so far. -/
structure DeviceRun where
  link : Link Line
  events : List LinkEvent

namespace DeviceRun

def step (r : DeviceRun) (told : State → State) (op : LinkOp) : DeviceRun :=
  let l := r.link.onTransport (Line.onState told)
  ⟨(op.run l).2, r.events ++ op.events l⟩

def run (r : DeviceRun) : List ((State → State) × LinkOp) → DeviceRun
  | [] => r
  | (told, op) :: rest => (r.step told op).run rest

end DeviceRun

namespace Link

def seen (l : Link (Journaled Line)) : List LinkEvent := l.journal.filterMap JournalEntry.event?

section
variable (l : Link (Journaled Line))

theorem seen_of_event {l' : Link (Journaled Line)} {entry : JournalEntry Line} {event : LinkEvent}
    (h : l'.transport.entries = entry :: l.transport.entries)
    (hevent : entry.event? = some event) : l'.seen = l.seen ++ [event] := by
  rw [seen, journal, h, List.reverse_cons, List.filterMap_append, seen, journal,
    List.filterMap_cons_some hevent, List.filterMap_nil]

theorem seen_of_no_event {l' : Link (Journaled Line)} {entry : JournalEntry Line}
    (h : l'.transport.entries = entry :: l.transport.entries) (hevent : entry.event? = none) :
    l'.seen = l.seen := by
  rw [seen, journal, h, List.reverse_cons, List.filterMap_append, seen, journal,
    List.filterMap_cons_none hevent, List.filterMap_nil, List.append_nil]

theorem seen_setSelect (on : Bool) : (l.setSelect on).seen = l.seen :=
  seen_of_no_event l rfl rfl

theorem seen_clear : l.clear.seen = l.seen := seen_of_no_event l rfl rfl

theorem seen_pollBusy : l.pollBusy.2.seen = l.seen := seen_of_no_event l rfl rfl

theorem seen_release : (l.setReset true).seen = l.seen := seen_of_no_event l rfl rfl

theorem seen_hold : (l.setReset false).seen = l.seen ++ [.reset] := seen_of_event l rfl rfl

theorem seen_resetDevice : l.resetDevice.seen = l.seen ++ [.reset] := by
  have h := seen_release (((l.setSelect false).setReset true).setReset false)
  rw [seen_hold, seen_release ((l.setSelect false)), seen_setSelect] at h
  exact h

theorem seen_ensureReset :
    l.ensureReset.seen = l.seen ++ if l.initialized then [] else [.reset] := by
  unfold ensureReset
  split
  · exact (List.append_nil _).symm
  · exact seen_resetDevice l

theorem seen_transfer_command {tx : Bytes} (h : tx.head? = some Marker.start) :
    (l.transfer tx).seen = l.seen ++ [.command tx l.transport.transport.state] :=
  seen_of_event l rfl (JournalEntry.event?_command h _)

theorem seen_transfer_zeros (size : Nat) :
    (l.transfer (Bytes.zeros size)).seen =
      l.seen ++ [.filler size l.transport.transport.pending] :=
  seen_of_event l rfl (JournalEntry.event?_zeros size _)

theorem seen_readBytes (n : Nat) : (l.readBytes n).2.seen = l.seen := by
  induction n generalizing l with
  | zero => rfl
  | succ n ih =>
    have h : { l with transport := (Transport.readByte l.transport).2 }.seen = l.seen :=
      seen_of_no_event l rfl rfl
    unfold readBytes
    rw [Transport.readBytes]
    generalize Transport.readByte l.transport = taken at h ⊢
    rcases taken with ⟨_ | b, next⟩
    · exact h
    · exact (ih { l with transport := next }).trans h

/-- The device never holds its busy line, so every wait is one look. -/
theorem waitReady_look (limit : Option UInt64) :
    (waitReady limit).run l = (.ok (), l.pollBusy.2) := by
  have hlook : ∀ timed polls expired, awaitIdle timed polls expired l = (true, l.pollBusy.2) := by
    intro timed polls expired
    cases polls <;> rfl
  cases limit with
  | none => simp only [waitReady, ExceptT.run, hlook]
  | some ms => simp only [waitReady, ExceptT.run, hlook]

theorem select_looks :
    (select : LinkM (Journaled Line) Unit).run l =
      (.ok (), (l.ensureReset.pollBusy.2.setSelect true).pollBusy.2) := by
  rw [run_select, waitReady_look]
  dsimp only
  rw [waitReady_look]

/-- Selecting the device shows what a due reset did to it, and nothing else. -/
theorem select_seen :
    let l' := (l.clear.ensureReset.pollBusy.2.setSelect true).pollBusy.2
    l'.seen = l.seen ++ (if l.initialized then [] else [.reset]) ∧
      l'.transport.transport.state = l.unwatched.ensureReset.transport.state ∧
      l'.transport.transport.pending = l.unwatched.ensureReset.transport.pending := by
  refine ⟨?_, ?_⟩
  · rw [seen_pollBusy, seen_setSelect, seen_pollBusy, seen_ensureReset, seen_clear]
    rfl
  · obtain ⟨⟨d, entries⟩, signals, settings, initialized, patience⟩ := l
    cases initialized <;> exact ⟨rfl, rfl⟩

theorem seen_send {f : Frame} {tx : Bytes} (hout : l.settings.outgoing f = .ok tx)
    (hstart : tx.head? = some Marker.start) :
    ((send f).run l).2.seen = l.seen ++ (if l.initialized then [] else [.reset]) ++
      [.command tx l.unwatched.ensureReset.transport.state] := by
  obtain ⟨hseen, hstate, -⟩ := select_seen l
  rw [run_send, hout]
  dsimp only
  rw [select_looks]
  dsimp only
  rw [seen_setSelect, seen_transfer_command _ hstart, hseen, hstate]

theorem seen_fetch (size : Nat) :
    ((fetch size).run l).2.seen = l.seen ++ (if l.initialized then [] else [.reset]) ++
      [.filler size l.unwatched.ensureReset.transport.pending] := by
  obtain ⟨hseen, -, hpending⟩ := select_seen l
  rw [run_fetch, select_looks]
  dsimp only
  rw [seen_setSelect, seen_readBytes, seen_transfer_zeros, hseen, hpending]

end

end Link

/-- The bytes that the device holds answer the last event, a command, or there are none. -/
def Holds (events : List LinkEvent) (held : Bytes) : Prop :=
  held = [] ∨ ∃ earlier tx s, events = earlier ++ [.command tx s] ∧ (Line.execute tx s).1 = held

/-- The last event before the delivery of the reply to `o` is the transfer that brought it. It
brought the bytes with which the device answered the command before it, a command to which `o`
belongs, and there is nothing between the two. -/
def Answered (o : UInt8) (events : List LinkEvent) : Prop :=
  ∃ earlier tx s size bytes, events = earlier ++ [.command tx s, .filler size bytes] ∧
    Answers o tx s bytes

/-- Every delivery is answered where it stands. -/
def Delivers : List LinkEvent → Prop :=
  EachAfter fun before event => ∀ o, event = .delivery o → Answered o before

theorem Delivers.append {events more : List LinkEvent} (h : Delivers events)
    (hmore : ∀ o, .delivery o ∉ more) : Delivers (events ++ more) := by
  refine EachAfter.append h (EachAfter.of_forall fun event hevent before o ho => ?_)
  rw [ho] at hevent
  exact absurd hevent (hmore o)

theorem Delivers.concat {events : List LinkEvent} {o : UInt8} (h : Delivers events)
    (ho : Answered o events) : Delivers (events ++ [.delivery o]) := by
  refine EachAfter.concat h fun o' ho' => ?_
  cases ho'
  exact ho

/-- The new events of an operation end well: the device still holds what they say, or the operation
ends in a delivery that they answer, and the device holds nothing more. -/
def Concludes (events : List LinkEvent) (held : Bytes) (last : List LinkEvent) : Prop :=
  (last = [] ∧ Holds events held) ∨ ∃ o, last = [.delivery o] ∧ held = [] ∧ Answered o events

namespace Link

theorem held_of_readReply {settings : LinkSettings} {o : UInt8} {w : Width} {slots : List Slot}
    {size : Nat} {held : Bytes} {reply : Reply}
    (h : (readReply settings o w slots (Bytes.fit size held)).1 = .ok reply) : held ≠ [] := by
  rintro rfl
  rw [readReply_silence] at h
  cases h

theorem head?_of_outgoing {settings : LinkSettings} {f : Frame} {tx : Bytes}
    (h : settings.outgoing f = .ok tx) : tx.head? = some Marker.start := by
  obtain ⟨-, rfl⟩ := Frame.encode_ok_iff.mp (encode_of_outgoing h)
  rfl

section
variable (l : Link (Journaled Line))

/-- The calls of a transaction show no delivery: that is the host's business. -/
theorem no_delivery_in_transaction (initialized : Bool) {event : LinkEvent}
    (h : ∀ o, event ≠ .delivery o) :
    ∀ o, .delivery o ∉ (if initialized then [] else [.reset]) ++ [event] := by
  intro o hmem
  rcases List.mem_append.mp hmem with hmem | hmem
  · cases initialized
    · cases List.mem_singleton.mp hmem
    · exact absurd hmem List.not_mem_nil
  · exact h o (List.mem_singleton.mp hmem).symm

theorem send_shows (f : Frame) :
    ∃ new, ((send f).run l).2.seen = l.seen ++ new ∧ (∀ o, .delivery o ∉ new) ∧
      ∀ events, Holds events l.unwatched.transport.pending →
        Holds (events ++ new) ((send f).run l).2.unwatched.transport.pending := by
  cases hout : l.settings.outgoing f with
  | error e =>
    rw [run_send, hout]
    refine ⟨[], (List.append_nil _).symm, fun _ => List.not_mem_nil, fun events h => ?_⟩
    rwa [List.append_nil]
  | ok tx =>
    have hstart := head?_of_outgoing hout
    have hsent := send_unwatched l f
    rw [send_device (l := l.unwatched) hout hstart] at hsent
    have hseen := seen_send l hout hstart
    rw [List.append_assoc] at hseen
    refine ⟨_, hseen, no_delivery_in_transaction _ (by intro o h; cases h), fun events _ => ?_⟩
    have hheld := congrArg (fun r => r.2.transport.pending) hsent
    dsimp only at hheld
    rw [← hheld, ← List.append_assoc]
    exact Or.inr ⟨_, _, _, rfl, rfl⟩

theorem receive_shows (opcode : UInt8) (size : Nat) (width : Width) (slots : List Slot) :
    ∃ new, ((receive opcode size width slots).run l).2.seen = l.seen ++ new ∧
      (∀ o, .delivery o ∉ new) ∧
      ((receive opcode size width slots).run l).2.unwatched.transport.pending = [] ∧
      ∀ events reply, Holds events l.unwatched.transport.pending →
        ((receive opcode size width slots).run l).1.1 = .ok reply →
          Answered opcode (events ++ new) := by
  have hfetch := fetch_unwatched l (l.settings.replySize size)
  rw [fetch_device] at hfetch
  have hseen := seen_fetch l (l.settings.replySize size)
  rw [List.append_assoc] at hseen
  rw [run_receive]
  generalize (fetch (l.settings.replySize size)).run l = fetched at hfetch hseen ⊢
  rcases fetched with ⟨e | rx, l'⟩
  · cases congrArg Prod.fst hfetch
  · cases congrArg Prod.fst hfetch
    refine ⟨_, hseen, no_delivery_in_transaction _ (by intro o h; cases h),
      congrArg (fun r => r.2.transport.pending) hfetch.symm, fun events reply hholds hread => ?_⟩
    have hheld := held_of_readReply hread
    cases hinit : l.initialized with
    | false =>
      -- a reset that was due has cleared the device
      have hreset : l.unwatched.ensureReset = l.unwatched.resetDevice :=
        if_neg (ne_true_of_eq_false hinit)
      exact absurd (congrArg (fun m : Link Line => m.transport.pending) hreset) hheld
    | true =>
      have hreset : l.unwatched.ensureReset = l.unwatched := if_pos hinit
      rw [hreset] at hread hheld ⊢
      rcases hholds with hnone | ⟨earlier, tx, s, rfl, hexecute⟩
      · exact absurd hnone hheld
      · rw [← hexecute] at hread ⊢
        exact ⟨earlier, tx, s, _, _, List.append_assoc _ _ _, answers_of_readReply hread⟩

end

end Link

namespace LinkOp

theorem shows (op : LinkOp) (l : Link (Journaled Line)) :
    ∃ new, (op.run l).2.seen = l.seen ++ new ∧ (∀ o, .delivery o ∉ new) ∧
      ∀ events, Holds events l.unwatched.transport.pending →
        Concludes (events ++ new) (op.run l).2.unwatched.transport.pending
          (op.delivers (op.run l).1) := by
  cases op with
  | send f =>
    obtain ⟨new, hseen, hnew, hholds⟩ := Link.send_shows l f
    exact ⟨new, hseen, hnew, fun events h => Or.inl ⟨rfl, hholds events h⟩⟩
  | receive opcode size width slots =>
    obtain ⟨new, hseen, hnew, hpending, hanswered⟩ := Link.receive_shows l opcode size width slots
    refine ⟨new, hseen, hnew, fun events hholds => ?_⟩
    rw [run_receive]
    cases hresult : ((Link.receive opcode size width slots).run l).1.1 with
    | error e => exact Or.inl ⟨rfl, Or.inl hpending⟩
    | ok reply =>
      exact Or.inr ⟨opcode, rfl, hpending, hanswered events reply hholds hresult⟩
  | request f slots =>
    rw [run_request, Link.run_request]
    obtain ⟨sent, hsent, hno, hholds⟩ := Link.send_shows l f
    generalize (Link.send f).run l = outcome at hsent hholds ⊢
    rcases outcome with ⟨e | _, middle⟩
    · exact ⟨sent, hsent, hno, fun events h => Or.inl ⟨rfl, hholds events h⟩⟩
    · obtain ⟨received, hreceived, hno', hpending, hanswered⟩ := Link.receive_shows middle f.opcode
        middle.settings.maxFrameSize.toNat (Link.replyWidth f) slots
      refine ⟨sent ++ received, ?_, fun o hmem => ?_, fun events h => ?_⟩
      · rw [← List.append_assoc, ← hsent]
        exact hreceived
      · rcases List.mem_append.mp hmem with hmem | hmem
        · exact hno o hmem
        · exact hno' o hmem
      · rw [← List.append_assoc]
        dsimp only
        cases hresult : ((Link.receive f.opcode middle.settings.maxFrameSize.toNat
            (Link.replyWidth f) slots).run middle).1.1 with
        | error e => exact Or.inl ⟨rfl, Or.inl hpending⟩
        | ok reply =>
          exact Or.inr ⟨f.opcode, rfl, hpending, hanswered _ reply (hholds events h) hresult⟩
  | start =>
    refine ⟨[.reset], Link.seen_resetDevice l, fun o hmem => ?_,
      fun _ _ => Or.inl ⟨rfl, Or.inl rfl⟩⟩
    cases List.mem_singleton.mp hmem
  | stop =>
    have hseen : ((l.setSelect false).setReset false).seen = l.seen ++ [.reset] := by
      rw [Link.seen_hold, Link.seen_setSelect]
    refine ⟨[.reset], hseen, fun o hmem => ?_,
      fun _ _ => Or.inl ⟨rfl, Or.inl rfl⟩⟩
    cases List.mem_singleton.mp hmem

/-- An operation keeps what the device holds and the deliveries in order. -/
theorem events_keep (op : LinkOp) (l : Link Line) {earlier : List LinkEvent}
    (hholds : Holds earlier l.transport.pending) (hdelivers : Delivers earlier) :
    Holds (earlier ++ op.events l) (op.run l).2.transport.pending ∧
      Delivers (earlier ++ op.events l) := by
  obtain ⟨new, hseen, hno, hconcludes⟩ := op.shows l.watched
  have hrun := run_unwatched op l.watched
  rw [show l.watched.unwatched = l from rfl] at hrun
  have hend := hconcludes earlier hholds
  rw [← congrArg (fun r => r.2.transport.pending) hrun, ← congrArg Prod.fst hrun] at hend
  have hjournal : (op.journal l).filterMap JournalEntry.event? = new := hseen
  rw [events, hjournal, ← List.append_assoc]
  have hbefore := hdelivers.append hno
  rcases hend with ⟨hlast, hheld⟩ | ⟨o, hlast, hheld, hanswered⟩
  · rw [hlast, List.append_nil]
    exact ⟨hheld, hbefore⟩
  · rw [hlast]
    exact ⟨Or.inl hheld, hbefore.concat hanswered⟩

end LinkOp

theorem DeviceRun.run_keep (ops : List ((State → State) × LinkOp)) {r : DeviceRun}
    (hholds : Holds r.events r.link.transport.pending) (hdelivers : Delivers r.events) :
    Delivers (r.run ops).events := by
  induction ops generalizing r with
  | nil => exact hdelivers
  | cons first rest ih =>
    obtain ⟨told, op⟩ := first
    obtain ⟨hholds', hdelivers'⟩ :=
      LinkOp.events_keep op (r.link.onTransport (Line.onState told)) hholds hdelivers
    exact ih hholds' hdelivers'

/-- A reply is delivered at most once, and only for its own command: for every run of operations on
a new link to a new device, whatever the device is told between them. Every transfer and every reset
of the run is an event. Just before a delivery of the reply to `o` stands the transfer that brought
it, and just before that the command that it answers, which the device executed, knowing `s`, with a
reply that encodes to the bytes transferred. So between two deliveries there is the command that the
second one answers. -/
theorem Link.replies_delivered_once (signals : Signals) (settings : LinkSettings) (patience : Nat)
    (ops : List ((State → State) × LinkOp)) :
    let link : Link Line := ⟨Line.new, signals, settings, false, patience⟩
    let events := (DeviceRun.run ⟨link, []⟩ ops).events
    (∀ before o after, events = before ++ .delivery o :: after →
      ∃ earlier tx s size bytes, before = earlier ++ [.command tx s, .filler size bytes] ∧
        Answers o tx s bytes) ∧
    (∀ before o between o' after,
      events = before ++ .delivery o :: (between ++ .delivery o' :: after) →
      ∃ tx s bytes, .command tx s ∈ between ∧ Answers o' tx s bytes) := by
  intro link events
  have hdelivers : Delivers events :=
    DeviceRun.run_keep ops (Or.inl rfl : Holds [] link.transport.pending) (EachAfter.nil _)
  refine ⟨fun before o after heq => hdelivers before _ after heq o rfl,
    fun before o between o' after heq => ?_⟩
  rw [← List.cons_append, ← List.append_assoc] at heq
  obtain ⟨earlier, tx, s, size, bytes, hlast, hanswers⟩ := hdelivers _ _ after heq o' rfl
  refine ⟨tx, s, bytes, ?_, hanswers⟩
  -- the delivery before is neither the command nor the transfer, so both stand after it
  rcases List.append_eq_append_iff.mp hlast with ⟨mid, -, hmid⟩ | ⟨mid, -, hmid⟩
  · cases mid with
    | nil => cases hmid
    | cons first rest =>
      cases hmid
      exact List.mem_append_right _ List.mem_cons_self
  · have hmem : LinkEvent.delivery o ∈ [.command tx s, .filler size bytes] := by
      rw [hmid]
      exact List.mem_append_right _ List.mem_cons_self
    simp at hmem

end SpiWifi
