import SpiWifi.Device.Line
import SpiWifi.Link.Transaction

/-!
# Transactions with the emulated device

The emulated device never holds its busy line, so a transaction with it always runs to its end: the
wait is over at the first look, and what remains is what the transfer does. A request is then one
command executed by the device and one read of its answer, followed by zeros up to the size of the
transfer; nothing of the answer stays behind in the device.
-/

namespace SpiWifi

namespace Link

section
variable {τ α β : Type} {l middle : Link τ}

theorem run_modify [Transport τ] (f : Link τ → Link τ) (l : Link τ) :
    (modify f : LinkM τ Unit).run l = (.ok (), f l) := rfl

theorem run_get [Transport τ] (l : Link τ) : (get : LinkM τ (Link τ)).run l = (.ok l, l) := rfl

theorem run_modifyGet [Transport τ] (f : Link τ → α × Link τ) (l : Link τ) :
    (modifyGet f : LinkM τ α).run l = (.ok (f l).1, (f l).2) := rfl

theorem run_bind_of_ok {x : LinkM τ α} {a : α} (h : x.run l = (.ok a, middle))
    (k : α → LinkM τ β) : (x >>= k).run l = (k a).run middle := by
  simp only [ExceptT.run] at h ⊢
  simp only [bind, ExceptT.bind, ExceptT.mk, StateT.bind, h]
  rfl

variable [Transport τ]

theorem receive_of_fetch {opcode : UInt8} {size : Nat} {rx : Bytes}
    (h : (fetch (l.settings.replySize size)).run l = (.ok rx, middle)) (width : Width)
    (slots : List Slot) :
    (receive opcode size width slots).run l =
      (readReply l.settings opcode width slots rx, middle) := by
  simp only [ExceptT.run] at h
  simp only [receive, StateT.run, bind, StateT.bind, get, getThe, MonadStateOf.get, StateT.get,
    pure, ExceptT.run, h]
  rfl

theorem request_of_send {f : Frame} (h : (send f).run l = (.ok (), middle)) (slots : List Slot) :
    (request f slots).run l =
      (receive f.opcode middle.settings.maxFrameSize.toNat (replyWidth f) slots).run middle := by
  simp only [ExceptT.run] at h
  simp only [request, StateT.run, bind, StateT.bind, get, getThe, MonadStateOf.get, StateT.get,
    pure, ExceptT.run, h]

end

open Device

theorem awaitIdle_device (timed : Bool) (polls : Nat) (expired : Bool) (l : Link Line) :
    awaitIdle timed polls expired l = (true, l) := by
  cases polls <;> rfl

theorem waitReady_device (limit : Option UInt64) (l : Link Line) :
    (waitReady limit).run l = (.ok (), l) := by
  cases limit with
  | none => simp only [waitReady, ExceptT.run, awaitIdle_device]
  | some ms => simp only [waitReady, ExceptT.run, awaitIdle_device]

theorem select_device (l : Link Line) :
    (select : LinkM Line Unit).run l = (.ok (), l.ensureReset.setSelect true) := by
  unfold select
  rw [run_bind_of_ok (run_modify ensureReset l), run_bind_of_ok (run_get _),
    run_bind_of_ok (waitReady_device _ _), run_bind_of_ok (run_modify (setSelect true) _),
    run_bind_of_ok (run_get _)]
  simp only [ignoring, ExceptT.run]
  exact congrArg (Prod.mk _) (congrArg Prod.snd (waitReady_device _ _))

/-- A command frame is executed at once; its answer waits for the next transfer. -/
theorem transfer_command {tx : Bytes} (h : tx.head? = some Marker.start) (l : Link Line) :
    transfer tx l = { l with
      transport := { l.transport with
        state := (Line.execute tx l.transport.state).2
        pending := (Line.execute tx l.transport.state).1
        inbound := Bytes.zeros tx.length }
      signals := l.signals.takeDone } := by
  simp only [transfer, Transport.startTransfer, Line.startTransfer, if_pos h]
  rfl

/-- Any other transfer brings the answer in, cut or filled to the length of the transfer. -/
theorem transfer_filler {tx : Bytes} (h : tx.head? ≠ some Marker.start) (l : Link Line) :
    transfer tx l = { l with
      transport := { l.transport with
        pending := []
        inbound := Bytes.fit tx.length l.transport.pending }
      signals := l.signals.takeDone } := by
  simp only [transfer, Transport.startTransfer, Line.startTransfer, if_neg h]
  rfl

theorem head?_zeros_ne (n : Nat) : (Bytes.zeros n).head? ≠ some Marker.start := by
  cases n with
  | zero => exact fun h => nomatch h
  | succ n => exact fun h => absurd (Option.some.inj h) (by decide)

theorem readBytes_device (n : Nat) (d : Line) :
    Transport.readBytes n d = (d.inbound.take n, { d with inbound := d.inbound.drop n }) := by
  induction n generalizing d with
  | zero => rfl
  | succ n ih =>
    obtain ⟨state, pending, inbound, selected⟩ := d
    cases inbound with
    | nil => rfl
    | cons b rest =>
      have hread : Transport.readByte (τ := Line) ⟨state, pending, b :: rest, selected⟩ =
          (some b, ⟨state, pending, rest, selected⟩) := rfl
      rw [Transport.readBytes, hread]
      simp only [ih, List.take_succ_cons, List.drop_succ_cons]

/-- Sending a command frame: after a reset if one is due, the device executes it, and holds its
answer. -/
theorem send_device {l : Link Line} {f : Frame} {tx : Bytes}
    (hout : l.settings.outgoing f = .ok tx) (hstart : tx.head? = some Marker.start) :
    (send f).run l = (.ok (), { l.ensureReset with
      transport := ⟨(Line.execute tx l.ensureReset.transport.state).2,
        (Line.execute tx l.ensureReset.transport.state).1, Bytes.zeros tx.length, false⟩
      signals := l.signals.takeDone }) := by
  obtain ⟨d, signals, settings, initialized, patience⟩ := l
  simp only at hout
  unfold send
  rw [run_bind_of_ok (run_get _)]
  simp only [hout]
  rw [run_bind_of_ok (run_modify clear _), run_bind_of_ok (select_device _),
    run_bind_of_ok (run_modify (transfer tx) _), run_modify, transfer_command hstart]
  cases initialized <;> rfl

/-- Fetching: after a reset if one is due, what the device holds is read, cut or filled with zeros
to the size, and the device holds it no longer. -/
theorem fetch_device (size : Nat) (l : Link Line) :
    (fetch size).run l =
      (.ok (Bytes.fit size l.ensureReset.transport.pending), { l.ensureReset with
        transport := ⟨l.ensureReset.transport.state, [], [], false⟩
        signals := l.signals.takeDone }) := by
  obtain ⟨d, signals, settings, initialized, patience⟩ := l
  have hfit : ∀ bytes, (Bytes.fit size bytes).take size = Bytes.fit size bytes := fun bytes =>
    List.take_of_length_le (Nat.le_of_eq (Bytes.length_fit size bytes))
  have hrest : ∀ bytes, (Bytes.fit size bytes).drop size = [] := fun bytes =>
    List.drop_eq_nil_of_le (Nat.le_of_eq (Bytes.length_fit size bytes))
  unfold fetch
  rw [run_bind_of_ok (run_modify clear _), run_bind_of_ok (select_device _),
    run_bind_of_ok (run_modify (transfer (Bytes.zeros size)) _),
    transfer_filler (head?_zeros_ne size), Bytes.length_zeros,
    run_bind_of_ok (run_modifyGet (readBytes size) _), run_bind_of_ok (run_modify _ _)]
  simp only [readBytes, readBytes_device, hfit, hrest]
  cases initialized <;> rfl

/-- A request to a device that was reset before: the command is executed, and its answer is all
that is read. Afterwards the device holds no bytes and is not selected. -/
theorem request_device {l : Link Line} (ready : l.initialized = true) {f : Frame} {tx : Bytes}
    (hout : l.settings.outgoing f = .ok tx) (hstart : tx.head? = some Marker.start)
    (slots : List Slot) :
    (request f slots).run l =
      (readReply l.settings f.opcode (replyWidth f) slots
        (Bytes.fit (l.settings.replySize l.settings.maxFrameSize.toNat)
          (Line.execute tx l.transport.state).1),
      { l with
        transport := ⟨(Line.execute tx l.transport.state).2, [], [], false⟩
        signals := l.signals.takeDone }) := by
  have hreset : l.ensureReset = l := if_pos ready
  rw [request_of_send (send_device hout hstart), hreset]
  refine receive_of_fetch ((fetch_device _ _).trans ?_) _ _
  rw [show ∀ m : Link Line, m.initialized = true → m.ensureReset = m from fun m h => if_pos h]
  · rfl
  · exact ready

end Link

end SpiWifi
