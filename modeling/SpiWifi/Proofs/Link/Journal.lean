import SpiWifi.Link.Script
import SpiWifi.Proofs.Link.Stages

/-!
# Watching a transport

A transport can be watched: each call to it is written down together with the transport as the call
found it. A link does the same over a watched transport as over the transport itself, so the journal
of an operation says what the operation does to the lines, whatever the transport. The operations
that a host has on a link are one type here, so that a run is a list of them.
-/

namespace SpiWifi

/-- A call to a transport: something done to its lines, a look at the busy line with the answer, or
a byte taken. -/
inductive LineCall where
  | drive (e : LineEvent)
  | busy (answer : Bool)
  | read (byte : Option UInt8)
  deriving DecidableEq

structure JournalEntry (τ : Type) where
  found : τ
  call : LineCall

/-- A transport with the calls made to it. -/
structure Journaled (τ : Type) where
  transport : τ
  /-- The calls, the latest first. -/
  entries : List (JournalEntry τ)

namespace Journaled

variable {τ : Type}

def note (t : Journaled τ) (call : LineCall) (next : τ) : Journaled τ :=
  ⟨next, ⟨t.transport, call⟩ :: t.entries⟩

variable [Transport τ]

instance : Transport (Journaled τ) where
  setSelect on t := t.note (.drive (.select on)) (Transport.setSelect on t.transport)
  setReset high t := t.note (.drive (.reset high)) (Transport.setReset high t.transport)
  isBusy t signals :=
    let answer := Transport.isBusy t.transport signals
    ⟨answer.busy, t.note (.busy answer.busy) answer.transport, answer.signals⟩
  clear t := t.note (.drive .clear) (Transport.clear t.transport)
  startTransfer tx t signals :=
    let (next, signals) := Transport.startTransfer tx t.transport signals
    (t.note (.drive (.transfer tx)) next, signals)
  readByte t :=
    let (byte, next) := Transport.readByte t.transport
    (byte, t.note (.read byte) next)

theorem readBytes_transport (n : Nat) (t : Journaled τ) :
    Transport.readBytes n t.transport =
      ((Transport.readBytes n t).1, (Transport.readBytes n t).2.transport) := by
  induction n generalizing t with
  | zero => rfl
  | succ n ih =>
    rcases h : Transport.readByte t.transport with ⟨_ | b, next⟩
    · have hread : Transport.readByte t = (none, t.note (.read none) next) := by
        simp only [Transport.readByte] at h ⊢
        rw [h]
      simp only [Transport.readBytes, h, hread]
      rfl
    · have hread : Transport.readByte t = (some b, t.note (.read (some b)) next) := by
        simp only [Transport.readByte] at h ⊢
        rw [h]
      have hrest := ih (t.note (.read (some b)) next)
      simp only [Transport.readBytes, h, hread]
      exact congrArg (fun r => (b :: r.1, r.2)) hrest

end Journaled

namespace Link

variable {τ : Type}

def watched (l : Link τ) : Link (Journaled τ) :=
  ⟨⟨l.transport, []⟩, l.signals, l.settings, l.initialized, l.patience⟩

def unwatched (l : Link (Journaled τ)) : Link τ :=
  ⟨l.transport.transport, l.signals, l.settings, l.initialized, l.patience⟩

def journal (l : Link (Journaled τ)) : List (JournalEntry τ) := l.transport.entries.reverse

variable [Transport τ]

section
variable (l : Link (Journaled τ))

theorem pollBusy_unwatched :
    l.unwatched.pollBusy = (l.pollBusy.1, l.pollBusy.2.unwatched) := rfl

theorem ensureReset_unwatched : l.ensureReset.unwatched = l.unwatched.ensureReset := by
  obtain ⟨t, signals, settings, initialized, patience⟩ := l
  cases initialized <;> rfl

theorem awaitIdle_unwatched (timed : Bool) (polls : Nat) (expired : Bool) :
    awaitIdle timed polls expired l.unwatched =
      ((awaitIdle timed polls expired l).1, (awaitIdle timed polls expired l).2.unwatched) := by
  induction polls generalizing expired l with
  | zero => rfl
  | succ polls ih =>
    rw [awaitIdle, awaitIdle, pollBusy_unwatched]
    rcases l.pollBusy with ⟨_ | _, l⟩
    · rfl
    · cases expired
      · exact ih { l with signals := l.signals.takeReady } _
      · rfl

theorem waitReady_unwatched (limit : Option UInt64) :
    (waitReady limit).run l.unwatched =
      (((waitReady limit).run l).1, ((waitReady limit).run l).2.unwatched) := by
  cases limit with
  | none =>
    simp only [waitReady, ExceptT.run]
    rw [show l.unwatched.patience = l.patience from rfl, awaitIdle_unwatched]
    rcases awaitIdle false l.patience false l with ⟨_ | _, l⟩ <;> rfl
  | some ms =>
    simp only [waitReady, ExceptT.run]
    rw [show l.unwatched.patience = l.patience from rfl, awaitIdle_unwatched]
    rcases awaitIdle true l.patience (ms == 0) l with ⟨_ | _, l⟩ <;> rfl

theorem select_unwatched :
    (select : LinkM τ Unit).run l.unwatched =
      (((select : LinkM (Journaled τ) Unit).run l).1,
        ((select : LinkM (Journaled τ) Unit).run l).2.unwatched) := by
  rw [run_select, run_select, ← ensureReset_unwatched,
    show l.ensureReset.unwatched.settings = l.ensureReset.settings from rfl, waitReady_unwatched]
  rcases (waitReady l.ensureReset.settings.readyTimeout).run l.ensureReset with ⟨e | _, l⟩
  · rfl
  · have hgrace := waitReady_unwatched (l.setSelect true) (some l.settings.selectWait)
    exact congrArg (Prod.mk _) (congrArg Prod.snd hgrace)

theorem send_unwatched (f : Frame) :
    (send f).run l.unwatched = (((send f).run l).1, ((send f).run l).2.unwatched) := by
  rw [run_send, run_send, show l.unwatched.settings = l.settings from rfl]
  rcases l.settings.outgoing f with e | tx
  · rfl
  · dsimp only
    rw [show l.unwatched.clear = l.clear.unwatched from rfl, select_unwatched]
    rcases (select : LinkM (Journaled τ) Unit).run l.clear with ⟨_ | _, l⟩ <;> rfl

theorem fetch_unwatched (size : Nat) :
    (fetch size).run l.unwatched = (((fetch size).run l).1, ((fetch size).run l).2.unwatched) := by
  rw [run_fetch, run_fetch, show l.unwatched.clear = l.clear.unwatched from rfl, select_unwatched]
  rcases (select : LinkM (Journaled τ) Unit).run l.clear with ⟨e | _, l⟩
  · rfl
  · have hread := Journaled.readBytes_transport size (l.transfer (Bytes.zeros size)).transport
    dsimp only [readBytes]
    rw [show (l.unwatched.transfer (Bytes.zeros size)).transport =
      (l.transfer (Bytes.zeros size)).transport.transport from rfl, hread]
    rfl

theorem receive_unwatched (opcode : UInt8) (size : Nat) (width : Width) (slots : List Slot) :
    (receive opcode size width slots).run l.unwatched =
      (((receive opcode size width slots).run l).1,
        ((receive opcode size width slots).run l).2.unwatched) := by
  rw [run_receive, run_receive, show l.unwatched.settings = l.settings from rfl, fetch_unwatched]
  rcases (fetch (l.settings.replySize size)).run l with ⟨_ | _, l'⟩ <;> rfl

theorem request_unwatched (f : Frame) (slots : List Slot) :
    (request f slots).run l.unwatched =
      (((request f slots).run l).1, ((request f slots).run l).2.unwatched) := by
  rw [run_request, run_request, send_unwatched]
  rcases (send f).run l with ⟨e | _, l⟩
  · rfl
  · exact receive_unwatched l _ _ _ _

end

end Link

inductive LinkOp where
  | send (f : Frame)
  | receive (opcode : UInt8) (size : Nat) (width : Width) (slots : List Slot)
  | request (f : Frame) (slots : List Slot)
  | start
  | stop

/-- What the host gets: a fault, or the reply if there was one to be read, and its slots. -/
structure LinkOutcome where
  result : Except LinkError (Option Reply)
  slots : List Slot

namespace LinkOp

variable {τ : Type} [Transport τ]

def slots : LinkOp → List Slot
  | receive _ _ _ slots | request _ slots => slots
  | _ => []

def run : LinkOp → Link τ → LinkOutcome × Link τ
  | send f, l =>
    match (Link.send f).run l with
    | (result, l) => (⟨result.map fun _ => none, []⟩, l)
  | receive opcode size width slots, l =>
    match (Link.receive opcode size width slots).run l with
    | ((result, slots), l) => (⟨result.map some, slots⟩, l)
  | request f slots, l =>
    match (Link.request f slots).run l with
    | ((result, slots), l) => (⟨result.map some, slots⟩, l)
  | start, l => (⟨.ok none, []⟩, l.start)
  | stop, l => (⟨.ok none, []⟩, l.stop)

theorem run_send (f : Frame) (l : Link τ) :
    (send f).run l =
      (⟨((Link.send f).run l).1.map fun _ => none, []⟩, ((Link.send f).run l).2) := rfl

theorem run_receive (opcode : UInt8) (size : Nat) (width : Width) (slots : List Slot)
    (l : Link τ) :
    (receive opcode size width slots).run l =
      (⟨((Link.receive opcode size width slots).run l).1.1.map some,
        ((Link.receive opcode size width slots).run l).1.2⟩,
      ((Link.receive opcode size width slots).run l).2) := rfl

theorem run_request (f : Frame) (slots : List Slot) (l : Link τ) :
    (request f slots).run l =
      (⟨((Link.request f slots).run l).1.1.map some, ((Link.request f slots).run l).1.2⟩,
      ((Link.request f slots).run l).2) := rfl

theorem run_unwatched (op : LinkOp) (l : Link (Journaled τ)) :
    op.run l.unwatched = ((op.run l).1, (op.run l).2.unwatched) := by
  cases op with
  | send f =>
    rw [run_send, Link.send_unwatched]
    rfl
  | receive opcode size width slots =>
    rw [run_receive, Link.receive_unwatched]
    rfl
  | request f slots =>
    rw [run_request, Link.request_unwatched]
    rfl
  | start => rfl
  | stop => rfl

def journal (op : LinkOp) (l : Link τ) : List (JournalEntry τ) := (op.run l.watched).2.journal

def calls (op : LinkOp) (l : Link τ) : List LineCall := (op.journal l).map JournalEntry.call

end LinkOp

end SpiWifi
