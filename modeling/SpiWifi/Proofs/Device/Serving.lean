import SpiWifi.Device.Handle

/-!
# What serving a command keeps and gives

Commands are served by small computations that read parameters, change the state and end in a
reply. Two properties of such computations are closed under sequencing: a view of the state that no
part changes, and a property of the values given that the last part ensures. With them the table
of commands is gone through once for each fact: every reply carries its command's opcode and reply
width, and no command touches the replies that are still to be lost.
-/

namespace SpiWifi.Device

namespace Serving

variable {α β γ : Type}

/-- The computation leaves this view of the state as it was, whether it can be served or not. -/
def Keeps (view : State → γ) (x : Serving α) : Prop := ∀ s, view (x.run s).2 = view s

def Yields (post : α → Prop) (x : Serving α) : Prop := ∀ s a, (x.run s).1 = some a → post a

theorem run_bind (x : Serving α) (k : α → Serving β) (s : State) :
    (x >>= k).run s = match x.run s with
      | (none, s) => (none, s)
      | (some a, s) => (k a).run s := by
  simp only [bind, OptionT.bind, OptionT.mk, OptionT.run, StateT.bind]
  rcases x s with ⟨_ | a, s⟩ <;> rfl

theorem run_need_bind {x : Option α} {a : α} (h : x = some a) (k : α → Serving β) (s : State) :
    (need x >>= k).run s = (k a).run s := by
  rw [run_bind, h]
  rfl

theorem run_modify_bind (f : State → State) (k : Unit → Serving β) (s : State) :
    ((modify f : Serving Unit) >>= k).run s = (k ()).run (f s) := rfl

theorem run_get_bind (k : State → Serving β) (s : State) :
    ((get : Serving State) >>= k).run s = (k s).run s := rfl

namespace Keeps

variable {view : State → γ}

theorem pure (a : α) : Keeps view (pure a : Serving α) := fun _ => rfl

theorem need (x : Option α) : Keeps view (need x) := fun _ => rfl

theorem slot (raw : UInt8) : Keeps view (slot raw) := fun _ => rfl

theorem get : Keeps view (get : Serving State) := fun _ => rfl

theorem modify {f : State → State} (h : ∀ s, view (f s) = view s) :
    Keeps view (modify f : Serving Unit) := h

theorem modifyGet {f : State → α × State} (h : ∀ s, view (f s).2 = view s) :
    Keeps view (modifyGet f : Serving α) := h

theorem bind {x : Serving α} {k : α → Serving β} (hx : Keeps view x)
    (hk : ∀ a, Keeps view (k a)) : Keeps view (x >>= k) := by
  intro s
  have hs := hx s
  rw [run_bind]
  rcases h : x.run s with ⟨_ | a, s'⟩
  · rw [h] at hs
    exact hs
  · rw [h] at hs
    exact (hk a s').trans hs

end Keeps

namespace Yields

variable {post : α → Prop}

theorem pure {a : α} (h : post a) : Yields post (pure a : Serving α) := by
  intro s b hb
  cases hb
  exact h

theorem modifyGet {f : State → α × State} (h : ∀ s, post (f s).1) :
    Yields post (modifyGet f : Serving α) := by
  intro s b hb
  cases hb
  exact h s

theorem bind {x : Serving β} {k : β → Serving α} (hk : ∀ b, Yields post (k b)) :
    Yields post (x >>= k) := by
  intro s a ha
  rw [run_bind] at ha
  rcases h : x.run s with ⟨_ | b, s'⟩
  · rw [h] at ha
    cases ha
  · rw [h] at ha
    exact hk b s' a ha

end Yields

end Serving

open Serving

/-- The frame has the header and the width of a reply to the command. -/
def IsReplyTo (c : Command) (f : Frame) : Prop :=
  f.header = c.opcode ||| replyBit ∧ f.width = c.replyWidth

namespace IsReplyTo

variable {c : Command} {f : Frame}

@[simp] theorem reply (c : Command) : IsReplyTo c (Frame.reply c) := ⟨rfl, rfl⟩

@[simp] theorem ack (c : Command) (ok : Bool) : IsReplyTo c (ack c ok) := ⟨rfl, rfl⟩

@[simp] theorem withParam_iff (p : Bytes) : IsReplyTo c (f.withParam p) ↔ IsReplyTo c f := Iff.rfl

@[simp] theorem withU8_iff (v : UInt8) : IsReplyTo c (f.withU8 v) ↔ IsReplyTo c f := Iff.rfl

@[simp] theorem withU16_iff (v : UInt16) : IsReplyTo c (f.withU16 v) ↔ IsReplyTo c f := Iff.rfl

@[simp] theorem withU16LE_iff (v : UInt16) : IsReplyTo c (f.withU16LE v) ↔ IsReplyTo c f :=
  Iff.rfl

@[simp] theorem withU32LE_iff (v : UInt32) : IsReplyTo c (f.withU32LE v) ↔ IsReplyTo c f :=
  Iff.rfl

@[simp] theorem withIpv4_iff (ip : Ipv4) : IsReplyTo c (f.withIpv4 ip) ↔ IsReplyTo c f := Iff.rfl

theorem replyWith {α : Type} (h : IsReplyTo c f) {add : Frame → α → Frame}
    (hadd : ∀ v, IsReplyTo c (add f v)) (x : Option α) : IsReplyTo c (replyWith f add x) := by
  cases x with
  | none => exact h
  | some v => exact hadd v

theorem addNames (h : IsReplyTo c f) (networks : List AccessPoint) :
    IsReplyTo c (State.addNames f networks) := by
  induction networks generalizing f with
  | nil => exact h
  | cons n rest ih =>
    rw [State.addNames]
    split
    · exact h
    · exact ih h

theorem scanResults (h : IsReplyTo c f) (s : State) : IsReplyTo c (s.scanResults f).1 := by
  unfold State.scanResults
  split
  · exact h
  · exact h.addNames _

end IsReplyTo

theorem networkReply_yields {c : Command} (p : Params) {add : AccessPoint → Frame}
    (hadd : ∀ n, IsReplyTo c (add n)) :
    Yields (IsReplyTo c) (networkReply p (Frame.reply c) add) := by
  refine Yields.bind fun index => Yields.bind fun s => ?_
  split
  · exact Yields.pure (hadd _)
  · exact Yields.pure (IsReplyTo.reply c)

/-- Every command is answered by a reply to it. -/
theorem serve_yields (c : Command) (p : Params) : Yields (IsReplyTo c) (serve c p) := by
  cases c
  all_goals
    unfold serve
    dsimp only
    -- only the last step of a command gives its reply, so the steps before it are passed over
    repeat' with_reducible first
      | refine Yields.bind fun _ => ?_
      | refine Yields.pure ?_
      | refine Yields.modifyGet fun s => IsReplyTo.scanResults ?_ s
      | refine networkReply_yields p fun _ => ?_
      | split
  all_goals first
    | exact IsReplyTo.replyWith (by simp) (by simp) _
    | simp

section
variable (s : State) (i : Fin socketCount)

theorem lost_reserve : s.reserve.2.lost = s.lost := by
  unfold State.reserve
  split <;> rfl

theorem lost_connectSlot (peer : Endpoint) (mode : UInt8) :
    (s.connectSlot i peer mode).2.lost = s.lost := by
  unfold State.connectSlot
  split
  · rfl
  · split <;> rfl

theorem lost_stopSlot : (s.stopSlot i).lost = s.lost := by
  unfold State.stopSlot
  split <;> rfl

theorem lost_available : (s.available i).2.lost = s.lost := by
  unfold State.available
  dsimp only
  split <;> rfl

theorem lost_sendStream (data : Bytes) : (s.sendStream i data).2.lost = s.lost := by
  unfold State.sendStream
  dsimp only
  split <;> rfl

theorem lost_pollStatus : s.pollStatus.2.lost = s.lost := by
  unfold State.pollStatus
  split <;> rfl

theorem lost_scanResults (reply : Frame) : (s.scanResults reply).2.lost = s.lost := by
  unfold State.scanResults
  split <;> rfl

end

theorem startServer_keeps_lost (p : Params) : Keeps State.lost (startServer p) := by
  unfold startServer
  refine Keeps.bind (Keeps.need _) fun offset => Keeps.bind (Keeps.need _) fun port =>
    Keeps.bind (Keeps.need _) fun mode => Keeps.bind (Keeps.need _) fun raw => ?_
  split
  · exact Keeps.pure _
  · exact Keeps.bind (Keeps.modify fun _ => rfl) fun _ => Keeps.pure _

theorem startClient_keeps_lost (p : Params) : Keeps State.lost (startClient p) := by
  unfold startClient
  refine Keeps.bind (Keeps.need _) fun target => Keeps.bind (Keeps.need _) fun ip =>
    Keeps.bind (Keeps.need _) fun port => Keeps.bind (Keeps.need _) fun raw =>
    Keeps.bind (Keeps.need _) fun mode => Keeps.bind Keeps.get fun s => ?_
  dsimp only
  split
  · exact Keeps.modifyGet fun s => lost_connectSlot s _ _ _
  · exact Keeps.pure _

theorem networkReply_keeps_lost (p : Params) (reply : Frame) (add : AccessPoint → Frame) :
    Keeps State.lost (networkReply p reply add) := by
  refine Keeps.bind (Keeps.need _) fun index => Keeps.bind Keeps.get fun s => ?_
  split
  · exact Keeps.pure _
  · exact Keeps.pure _

/-- No command changes how many replies are still to be lost. -/
theorem serve_keeps_lost (c : Command) (p : Params) : Keeps State.lost (serve c p) := by
  cases c
  all_goals
    unfold serve
    dsimp only
    repeat' with_reducible first
      | exact Keeps.pure _
      | exact Keeps.need _
      | exact Keeps.slot _
      | exact Keeps.get
      | exact startServer_keeps_lost p
      | exact startClient_keeps_lost p
      | exact networkReply_keeps_lost p _ _
      | refine Keeps.bind ?_ fun _ => ?_
      | refine Keeps.modify fun s => ?_
      | refine Keeps.modifyGet fun s => ?_
      | split
  all_goals first
    | rfl
    | simp only [lost_reserve, lost_stopSlot, lost_available, lost_sendStream, lost_pollStatus,
        lost_scanResults]

/-- A frame is only answered if its command is known, and then by a reply to that command. -/
theorem handle_some {f reply : Frame} {s s' : State} (h : handle f s = (some reply, s')) :
    ∃ c, f.command? = some c ∧ IsReplyTo c reply := by
  unfold handle at h
  split at h
  · cases h
  · next c hc => exact ⟨c, hc, serve_yields c _ _ _ (congrArg Prod.fst h)⟩

theorem lost_handle (f : Frame) (s : State) : (handle f s).2.lost = s.lost := by
  unfold handle
  split
  · rfl
  · next c _ => exact serve_keeps_lost c _ _

def State.lossesLeft (s : State) (c : Command) : Nat := (s.lost.get? c).getD 0

theorem lossesLeft_of_handle {f : Frame} {s s' : State} {reply : Option Frame}
    (h : handle f s = (reply, s')) (c : Command) : s'.lossesLeft c = s.lossesLeft c := by
  have hlost := lost_handle f s
  rw [h] at hlost
  rw [State.lossesLeft, State.lossesLeft, hlost]

theorem State.lost_of_lossesLeft_pos {s : State} {c : Command} (h : 0 < s.lossesLeft c) :
    ∃ n, s.lost.get? c = some (n + 1) ∧ s.lossesLeft c = n + 1 := by
  unfold lossesLeft at h ⊢
  generalize s.lost.get? c = left at h ⊢
  rcases left with _ | _ | n
  · exact absurd h (Nat.lt_irrefl 0)
  · exact absurd h (Nat.lt_irrefl 0)
  · exact ⟨n, rfl, rfl⟩

theorem State.lost_of_lossesLeft_eq_zero {s : State} {c : Command} (h : s.lossesLeft c = 0) :
    s.lost.get? c = none ∨ s.lost.get? c = some 0 := by
  unfold lossesLeft at h
  generalize s.lost.get? c = left at h ⊢
  rcases left with _ | n
  · exact Or.inl rfl
  · exact Or.inr (congrArg some h)

end SpiWifi.Device
