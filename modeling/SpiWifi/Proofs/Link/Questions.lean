import Mathlib.Logic.Function.Iterate
import SpiWifi.Proofs.Polling
import SpiWifi.Proofs.Socket.Openings

/-!
# The same question again and again

A poll puts one request to the device over and over. Each time the device takes the same step, whether
or not its reply gets through, and one of the replies that are to be lost is used up. So after any
number of questions the device has taken as many steps, and the replies that remain to be lost are as
many fewer; what is to be lost of other commands is untouched.
-/

namespace SpiWifi

open Device

/-- The step does not look at the replies that are still to be lost, and leaves them alone. -/
def Device.State.IgnoresLosses (step : State → State) : Prop :=
  ∀ (s : State) (lost : Table Command Nat), step { s with lost := lost } = { step s with lost := lost }

namespace Link

/-- What asking the device so many times for a command leaves of a link. -/
structure Questioned (c : Command) (step : State → State) (n : Nat) (l l' : Link Line) : Prop where
  settings : l'.settings = l.settings
  ready : l.initialized = true → l'.initialized = true
  same : l'.device = { step^[n] l.device with lost := l'.device.lost }
  losses : l'.device.lossesLeft c = l.device.lossesLeft c - n
  others : ∀ c', c' ≠ c → l'.device.lossesLeft c' = l.device.lossesLeft c'

namespace Questioned

variable {c : Command} {step : State → State} {n : Nat} {l l' l'' : Link Line}

theorem refl (c : Command) (step : State → State) (l : Link Line) : Questioned c step 0 l l :=
  ⟨rfl, id, rfl, rfl, fun _ _ => rfl⟩

theorem succ (ignores : State.IgnoresLosses step) (h : Questioned c step n l l')
    (h' : Questioned c step 1 l' l'') : Questioned c step (n + 1) l l'' where
  settings := h'.settings.trans h.settings
  ready := h'.ready ∘ h.ready
  same := by
    have hstep : step l'.device = { step (step^[n] l.device) with lost := l'.device.lost } := by
      rw [h.same]
      exact ignores _ _
    rw [h'.same, Function.iterate_one, hstep, Function.iterate_succ_apply']
  losses := by rw [h'.losses, h.losses, Nat.sub_sub]
  others c' hne := (h'.others c' hne).trans (h.others c' hne)

/-- What got through before gets through still, and with a budget for its start there still is one. -/
theorem size (h : Questioned c step n l l') {size : Nat}
    (fits : size ≤ l.settings.maxFrameSize.toNat) : size ≤ l'.settings.maxFrameSize.toNat := by
  rw [h.settings]
  exact fits

theorem budget (h : Questioned c step n l l') (budget : 1 ≤ l.settings.startBudget.toNat) :
    1 ≤ l'.settings.startBudget.toNat := by
  rw [h.settings]
  exact budget

/-- After so many questions a request gets through once the losses are used up. -/
theorem carries_iff (h : Questioned c step n l l') {asks answers : Nat}
    (hasks : asks ≤ l.settings.maxFrameSize.toNat)
    (hanswers : answers ≤ l.settings.maxFrameSize.toNat)
    (budget : 1 ≤ l.settings.startBudget.toNat) :
    l'.Carries c asks answers ↔ l.device.lossesLeft c ≤ n := by
  constructor
  · intro carries
    have hkept := carries.kept
    rw [h.losses] at hkept
    omega
  · intro hle
    refine ⟨h.size hasks, h.size hanswers, h.budget budget, ?_⟩
    rw [h.losses]
    omega

end Questioned

/-- Frames of so many bytes get through, and no reply is to be lost. -/
structure Faithful (size : Nat) (l : Link Line) : Prop where
  size : size ≤ l.settings.maxFrameSize.toNat
  budget : 1 ≤ l.settings.startBudget.toNat
  kept : ∀ c, l.device.lossesLeft c = 0

namespace Faithful

variable {size : Nat} {l l' : Link Line}

theorem carries (h : l.Faithful size) (c : Command) {asks answers : Nat} (hasks : asks ≤ size)
    (hanswers : answers ≤ size) : l.Carries c asks answers :=
  ⟨Nat.le_trans hasks h.size, Nat.le_trans hanswers h.size, h.budget, h.kept c⟩

theorem smaller (h : l.Faithful size) {size' : Nat} (hle : size' ≤ size) : l.Faithful size' :=
  ⟨Nat.le_trans hle h.size, h.budget, h.kept⟩

/-- Neither the use of a socket nor a question changes that. -/
theorem uses (h : l.Faithful size) {view : Device.Socket → Device.Socket} {socket : SocketHandle}
    (used : Uses view socket l l') : l'.Faithful size where
  size := used.settings ▸ h.size
  budget := used.settings ▸ h.budget
  kept := used.kept h.kept

theorem questioned (h : l.Faithful size) {c : Command} {step : State → State} {n : Nat}
    (asked : Questioned c step n l l') : l'.Faithful size where
  size := asked.size h.size
  budget := asked.budget h.budget
  kept c' := by
    by_cases hc : c' = c
    · rw [hc, asked.losses, h.kept, Nat.zero_sub]
    · rw [asked.others c' hc, h.kept]

end Faithful

/-- From the one link to the other the device has come to be seen like this, and it loses no more
replies than before. -/
structure Becomes {β : Type} (view : State → β) (b : β) (l l' : Link Line) : Prop where
  settings : l'.settings = l.settings
  seen : view l'.device = b
  losses : ∀ c, l'.device.lossesLeft c ≤ l.device.lossesLeft c

namespace Becomes

variable {β : Type} {view : State → β} {b b' : β} {l l' l'' : Link Line}

theorem refl (view : State → β) (l : Link Line) : Becomes view (view l.device) l l :=
  ⟨rfl, rfl, fun _ => Nat.le_refl _⟩

theorem trans (h : Becomes view b l l') (h' : Becomes view b' l' l'') : Becomes view b' l l'' :=
  ⟨h'.settings.trans h.settings, h'.seen, fun c => Nat.le_trans (h'.losses c) (h.losses c)⟩

theorem faithful (h : Becomes view b l l') {size : Nat} (faithful : l.Faithful size) :
    l'.Faithful size where
  size := h.settings ▸ faithful.size
  budget := h.settings ▸ faithful.budget
  kept c := Nat.le_zero.mp (faithful.kept c ▸ h.losses c)

/-- A command that was served leaves the device as it is seen then, if the view is not of replies that
are still to be lost. -/
theorem of_served {c : Command} {f : Frame} {reply : Option Frame} {s s' : State}
    (served : (serve c ⟨f.params⟩).run (l.device.recorded c) = (reply, s)) (replied : s.Replied s')
    (left : l' = l.ensureReset.leaving s')
    (ignores : ∀ lost, view { s with lost := lost } = view s) : Becomes view (view s) l l' := by
  have hlost : s.lost = l.device.lost := by
    have hkeeps := serve_keeps_lost c ⟨f.params⟩ (l.device.recorded c)
    rw [served] at hkeeps
    exact hkeeps
  rw [left]
  refine ⟨ensureReset_settings l, ?_, ?_⟩
  · rw [device_leaving, replied.same]
    exact ignores _
  · intro c'
    have hlosses : s.lossesLeft c' = l.device.lossesLeft c' := by
      rw [State.lossesLeft, State.lossesLeft, hlost]
    rw [device_leaving, ← hlosses]
    exact replied.losses c'

/-- A request whose command changes nothing that is seen changes nothing of it, sent or not. -/
theorem of_request {c : Command} {f : Frame} {reply : Option Frame} {s : State}
    (hf : IsRequestFor c f)
    (served : (serve c ⟨f.params⟩).run (l.device.recorded c) = (reply, s))
    (ignores : ∀ lost, view { s with lost := lost } = view s)
    (same : view s = view l.device) (slots : List Slot) :
    Becomes view (view l.device) l ((request f slots).run l).2 := by
  rcases request_effect hf served slots with hunsent | ⟨s', hreplied, hsent⟩
  · rw [hunsent]
    exact .refl view l
  · rw [← same]
    exact of_served served hreplied hsent ignores

end Becomes

section
variable {l : Link Line} {c : Command} {f : Frame} {reply : Frame} {s : State}

theorem link_answer (f : Frame) (slots : List Slot) (l : Link Line) :
    (answer f slots l).2 = ((request f slots).run l).2 := by
  unfold answer
  rcases (request f slots).run l with ⟨⟨e | reply, filled⟩, l'⟩ <;> rfl

/-- A request that is sent and served is one question. -/
theorem questioned_of_request (step : State → State) (hf : IsRequestFor c f) (fits : f.Fits)
    (asks : f.bytes.length ≤ l.settings.maxFrameSize.toNat)
    (served : (serve c ⟨f.params⟩).run (l.device.recorded c) = (some reply, step l.device))
    (replyFits : reply.Fits) (slots : List Slot) :
    Questioned c step 1 l ((request f slots).run l).2 := by
  obtain ⟨truncated, houtcome⟩ := request_outcome hf fits served replyFits slots
  obtain ⟨s', hreplied, hlink⟩ := houtcome.sent asks
  rw [link_answer] at hlink
  have hlosses := lossesLeft_served hf fits asks replyFits served slots
  have hothers := fun c' (hne : c' ≠ c) => lossesLeft_request (l := l) hf hne slots
  rw [hlink] at hlosses hothers ⊢
  refine ⟨ensureReset_settings l, fun _ => ensureReset_initialized l, ?_, hlosses, hothers⟩
  rw [device_leaving]
  exact hreplied.same

/-- A request with all that it filled. -/
theorem call_outcome (hf : IsRequestFor c f) (fits : f.Fits)
    (served : (serve c ⟨f.params⟩).run (l.device.recorded c) = (some reply, s))
    (replyFits : reply.Fits) (slots : List Slot) :
    Outcome l c f.bytes.length reply.bytes.length s
      (min reply.params.length slots.length, stored (slots.map Slot.clear) reply.params)
      ((call f slots).run l) := by
  obtain ⟨truncated, houtcome⟩ := request_outcome hf fits served replyFits slots
  have hmap := houtcome.map fun filled => (filled.1.count, filled.2)
  have hrun : (call f slots).run l = ((answer f slots l).1.map fun filled =>
      (filled.1.count, filled.2), (answer f slots l).2) := by
    rw [run_call]
    unfold answer
    rcases (request f slots).run l with ⟨⟨e | reply, filled⟩, l'⟩ <;> rfl
  rw [hrun]
  exact hmap

/-- A request that is answered with one parameter. -/
theorem call_value_outcome (hf : IsRequestFor c f) (fits : f.Fits) {p : Bytes}
    (served : (serve c ⟨f.params⟩).run (l.device.recorded c) =
      (some ((Frame.reply c).withParam p), s))
    (replyFits : ((Frame.reply c).withParam p).Fits) (size : Nat) :
    Outcome l c f.bytes.length ((Frame.reply c).withParam p).bytes.length s
      (1, [Slot.holding (size + 1) p]) ((call f [Slot.forValue size]).run l) := by
  have hcall := call_outcome hf fits served replyFits [Slot.forValue size]
  have hstored : stored ([Slot.forValue size].map Slot.clear)
      ((Frame.reply c).withParam p).params = [Slot.holding (size + 1) p] := by
    change [Slot.holding (Slot.forValue size).clear.capacity p] = _
    rw [Slot.capacity_clear, show (Slot.forValue size).capacity = size + 1 from Bytes.length_zeros _]
  rw [hstored] at hcall
  exact hcall

/-- The value of a request whose frames get through. -/
theorem Outcome.run {asks answers : Nat} {α : Type} {a : α} {x : LinkM Line α}
    (h : Outcome l c asks answers s a (x.run l)) (carries : l.Carries c asks answers) :
    x.run l = (.ok a, (x.run l).2) :=
  Prod.ext (h.carried carries) rfl

end

end Link

namespace Host

/-- Step by step along the questions of a poll. -/
theorem questioned_afterAsking {α : Type} {c : Command} {step : State → State} {asks : Nat}
    {ask : StateM (Host Line) α} (ignores : State.IgnoresLosses step)
    (question : ∀ host : Host Line, asks ≤ host.link.settings.maxFrameSize.toNat →
      Link.Questioned c step 1 host.link (ask host).2.link)
    {host : Host Line} (size : asks ≤ host.link.settings.maxFrameSize.toNat) (n : Nat) :
    Link.Questioned c step n host.link (afterAsking ask n host).link := by
  induction n with
  | zero => exact .refl c step host.link
  | succ n ih =>
    rw [afterAsking_succ]
    exact ih.succ ignores (question _ (ih.size size))

end Host

end SpiWifi
