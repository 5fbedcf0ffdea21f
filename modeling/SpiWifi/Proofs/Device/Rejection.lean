import SpiWifi.Proofs.Socket.Requests

/-!
# What a rejected command leaves behind

A command is rejected when a parameter is missing or has the wrong length, or when it names a slot
that does not exist. Nearly every command reads all that it needs before its first change, so that a
rejection leaves the device as it was, but for the command on record. Three commands read on after
a change: a read of one byte has by then moved the next datagram into the receive queue, and the
address settings have set the addresses that stand before the one missing.
-/

namespace SpiWifi.Device

namespace Serving

variable {α β : Type}

def Total (x : Serving α) : Prop := ∀ s, (x.run s).1 ≠ none

/-- If the computation cannot be served from a state, what it leaves behind satisfies a condition. -/
def Leaves (x : Serving α) (s : State) (post : State → Prop) : Prop :=
  (x.run s).1 = none → post (x.run s).2

/-- If the computation cannot be served, it leaves the state as it was. -/
def Atomic (x : Serving α) : Prop := ∀ s, Leaves x s (· = s)

namespace Total

theorem pure (a : α) : Total (pure a : Serving α) := fun _ h => Option.some_ne_none a h

theorem get : Total (get : Serving State) := fun s h => Option.some_ne_none s h

theorem modify (f : State → State) : Total (modify f : Serving Unit) :=
  fun _ h => Option.some_ne_none () h

theorem modifyGet (f : State → α × State) : Total (modifyGet f : Serving α) :=
  fun s h => Option.some_ne_none (f s).1 h

theorem bind {x : Serving α} {k : α → Serving β} (hx : Total x) (hk : ∀ a, Total (k a)) :
    Total (x >>= k) := by
  intro s
  have hs := hx s
  rw [run_bind]
  rcases h : x.run s with ⟨_ | a, s'⟩
  · rw [h] at hs
    exact absurd rfl hs
  · exact hk a s'

end Total

namespace Leaves

variable {s : State} {post : State → Prop}

theorem of_total {x : Serving α} (hx : Total x) : Leaves x s post := by
  intro hs
  exact absurd hs (hx s)

theorem need {x : Option α} {k : α → Serving β} (hnone : x = none → post s)
    (hsome : ∀ a, x = some a → Leaves (k a) s post) : Leaves (need x >>= k) s post := by
  cases x with
  | none => exact fun _ => hnone rfl
  | some a => exact hsome a rfl

theorem modify {f : State → State} {k : Unit → Serving β} (h : Leaves (k ()) (f s) post) :
    Leaves ((modify f : Serving Unit) >>= k) s post := h

end Leaves

namespace Atomic

theorem of_total {x : Serving α} (hx : Total x) : Atomic x := fun _ => Leaves.of_total hx

theorem modifyGet (f : State → α × State) : Atomic (modifyGet f : Serving α) :=
  of_total (Total.modifyGet f)

/-- What is read before everything else cannot be left half done. -/
theorem read {x : Serving α} {k : α → Serving β} (hx : Keeps id x) (hk : ∀ a, Atomic (k a)) :
    Atomic (x >>= k) := by
  intro s
  have hs : (x.run s).2 = s := hx s
  unfold Leaves
  rw [run_bind]
  rcases h : x.run s with ⟨_ | a, s'⟩
  · intro _
    rw [h] at hs
    exact hs
  · rw [h] at hs
    subst hs
    exact hk a _

theorem bind {x : Serving α} {k : α → Serving β} (hx : Atomic x) (hk : ∀ a, Total (k a)) :
    Atomic (x >>= k) := by
  intro s
  have hs := hx s
  unfold Leaves at hs ⊢
  rw [run_bind]
  rcases h : x.run s with ⟨_ | a, s'⟩
  · intro _
    rw [h] at hs
    exact hs rfl
  · intro hnone
    exact absurd hnone (hk a s')

end Atomic

end Serving

open Serving

theorem startServer_atomic (p : Params) : Atomic (startServer p) := by
  unfold startServer
  refine Atomic.read (Keeps.need _) fun offset => Atomic.read (Keeps.need _) fun port =>
    Atomic.read (Keeps.need _) fun mode => Atomic.read (Keeps.need _) fun raw => ?_
  split
  · exact Atomic.of_total (Total.pure _)
  · exact Atomic.of_total (Total.bind (Total.modify _) fun _ => Total.pure _)

theorem startClient_atomic (p : Params) : Atomic (startClient p) := by
  unfold startClient
  refine Atomic.read (Keeps.need _) fun target => Atomic.read (Keeps.need _) fun ip =>
    Atomic.read (Keeps.need _) fun port => Atomic.read (Keeps.need _) fun raw =>
    Atomic.read (Keeps.need _) fun mode => Atomic.read Keeps.get fun s => ?_
  dsimp only
  split
  · exact Atomic.modifyGet _
  · exact Atomic.of_total (Total.pure _)

theorem networkReply_atomic (p : Params) (reply : Frame) (add : AccessPoint → Frame) :
    Atomic (networkReply p reply add) := by
  refine Atomic.read (Keeps.need _) fun index => Atomic.read Keeps.get fun s => ?_
  split
  · exact Atomic.of_total (Total.pure _)
  · exact Atomic.of_total (Total.pure _)

/-- The command reads on after its first change. -/
def ReadsOn (c : Command) : Prop := c = .getDataTcp ∨ c = .setIpConfig ∨ c = .setDnsConfig

instance (c : Command) : Decidable (ReadsOn c) := inferInstanceAs (Decidable (_ ∨ _ ∨ _))

/-- All other commands read what they need before they change anything. -/
theorem serve_atomic {c : Command} (h : ¬ ReadsOn c) (p : Params) : Atomic (serve c p) := by
  cases c
  case getDataTcp | setIpConfig | setDnsConfig => exact absurd (by decide) h
  all_goals
    unfold serve
    dsimp only
    -- readers are passed over one by one, and from the first change on nothing can be missing
    repeat' with_reducible first
      | exact Atomic.modifyGet _
      | exact networkReply_atomic p _ _
      | refine Atomic.bind (startServer_atomic p) fun _ => ?_
      | refine Atomic.bind (startClient_atomic p) fun _ => ?_
      | refine Atomic.read (Keeps.need _) fun _ => ?_
      | refine Atomic.read (Keeps.slot _) fun _ => ?_
      | refine Atomic.read Keeps.get fun _ => ?_
      | exact Total.pure _
      | refine Total.bind (Total.modify _) fun _ => ?_
      | refine Total.bind (Total.modifyGet _) fun _ => ?_
      | refine Total.bind Total.get fun _ => ?_
      | split
      | refine Atomic.of_total ?_

/-- What has become of the state when a command is rejected. -/
def leftover (c : Command) (p : Params) (s : State) : State :=
  match c with
  | .getDataTcp =>
    match (p.u8 0).bind SocketHandle.slotOf? with
    | some i => s.modifySocket i Socket.loadDatagram
    | none => s
  | .setIpConfig =>
    match p.u8 0, p.ipv4 1, p.ipv4 2 with
    | some _, some ip, some gateway => { s with ip := ip, gateway := gateway }
    | some _, some ip, none => { s with ip := ip }
    | _, _, _ => s
  | .setDnsConfig =>
    match p.u8 0, p.ipv4 1 with
    | some _, some dns1 => { s with dns1 := dns1 }
    | _, _ => s
  | _ => s

theorem getDataTcp_leaves (p : Params) (s : State) :
    Leaves (serve .getDataTcp p) s (· = leftover .getDataTcp p s) := by
  unfold serve
  refine Leaves.need (fun hraw => by simp [leftover, hraw]) fun raw hraw => ?_
  refine Leaves.need (fun hi => by simp [leftover, hraw, hi]) fun i hi => Leaves.modify ?_
  refine Leaves.need (fun _ => by simp [leftover, hraw, hi]) fun peek _ => Leaves.of_total ?_
  refine Total.bind Total.get fun s => ?_
  split
  · exact Total.bind (Total.modify _) fun _ => Total.pure _
  · exact Total.pure _

/-- A smaller count asks for fewer addresses. -/
theorem not_le_of_count {a b valid : UInt8} (h : ¬ a ≤ valid) (hab : a ≤ b) : ¬ b ≤ valid :=
  fun hb => h (UInt8.le_trans hab hb)

theorem setIpConfig_leaves (p : Params) (s : State) :
    Leaves (serve .setIpConfig p) s (· = leftover .setIpConfig p s) := by
  have hack : Total (pure (ack .setIpConfig true)) := Total.pure _
  unfold serve
  refine Leaves.need (fun hvalid => by simp [leftover, hvalid]) fun valid hvalid => ?_
  by_cases h1 : 1 ≤ valid
  · simp only [h1, if_true]
    refine Leaves.need (fun hip => by simp [leftover, hvalid, hip]) fun ip hip => Leaves.modify ?_
    by_cases h2 : 2 ≤ valid
    · simp only [h2, if_true]
      refine Leaves.need (fun hgateway => by simp [leftover, hvalid, hip, hgateway])
        fun gateway hgateway => Leaves.modify ?_
      split
      · refine Leaves.need (fun _ => by simp [leftover, hvalid, hip, hgateway]) fun subnet _ => ?_
        exact Leaves.of_total (Total.bind (Total.modify _) fun _ => hack)
      · exact Leaves.of_total hack
    · have h3 : ¬ 3 ≤ valid := not_le_of_count h2 (by decide)
      simp only [h2, h3, if_false]
      exact Leaves.of_total hack
  · have h2 : ¬ 2 ≤ valid := not_le_of_count h1 (by decide)
    have h3 : ¬ 3 ≤ valid := not_le_of_count h1 (by decide)
    simp only [h1, h2, h3, if_false]
    exact Leaves.of_total hack

theorem setDnsConfig_leaves (p : Params) (s : State) :
    Leaves (serve .setDnsConfig p) s (· = leftover .setDnsConfig p s) := by
  have hack : Total (pure (ack .setDnsConfig true)) := Total.pure _
  unfold serve
  refine Leaves.need (fun hvalid => by simp [leftover, hvalid]) fun valid hvalid => ?_
  by_cases h1 : 1 ≤ valid
  · simp only [h1, if_true]
    refine Leaves.need (fun hdns => by simp [leftover, hvalid, hdns]) fun dns1 hdns =>
      Leaves.modify ?_
    split
    · refine Leaves.need (fun _ => by simp [leftover, hvalid, hdns]) fun dns2 _ => ?_
      exact Leaves.of_total (Total.bind (Total.modify _) fun _ => hack)
    · exact Leaves.of_total hack
  · have h2 : ¬ 2 ≤ valid := not_le_of_count h1 (by decide)
    simp only [h1, h2, if_false]
    exact Leaves.of_total hack

theorem leftover_of_reads_first {c : Command} (h : ¬ ReadsOn c) (p : Params) (s : State) :
    leftover c p s = s := by
  cases c
  case getDataTcp | setIpConfig | setDnsConfig => exact absurd (by decide) h
  all_goals rfl

theorem serve_leaves (c : Command) (p : Params) (s : State) :
    Leaves (serve c p) s (· = leftover c p s) := by
  by_cases h : ReadsOn c
  · rcases h with rfl | rfl | rfl
    · exact getDataTcp_leaves p s
    · exact setIpConfig_leaves p s
    · exact setDnsConfig_leaves p s
  · rw [leftover_of_reads_first h p s]
    exact serve_atomic h p s

/-- A frame that is rejected leaves the device as it was, if its command is not known, and
otherwise with the command on record and what the command changed before it read on. -/
theorem rejected_leaves {f : Frame} {s : State} (h : (handle f s).1 = none) :
    (handle f s).2 = match f.command? with
      | none => s
      | some c => leftover c ⟨f.params⟩ (s.recorded c) := by
  revert h
  unfold handle
  cases f.command? with
  | none =>
    intro
    rfl
  | some c => exact serve_leaves c ⟨f.params⟩ (s.recorded c)

/-- Two servers are announced and one is sent: the command is rejected, and the device keeps that
one. -/
theorem rejected_server_kept :
    let f := ((Frame.command .setDnsConfig).withU8 2).withIpv4 ⟨1, 2, 3, 4⟩
    (handle f .initial).1 = none ∧ (handle f .initial).2.dns1 = ⟨1, 2, 3, 4⟩ ∧
    ∀ received, (handle f .initial).2 ≠ { State.initial with received := received } := by
  refine ⟨rfl, rfl, fun received h => ?_⟩
  have hdns : (⟨1, 2, 3, 4⟩ : Ipv4) = State.initial.dns1 := congrArg State.dns1 h
  exact absurd hdns (by decide)

theorem rejected_leaves_server :
    let f := ((Frame.command .setDnsConfig).withU8 2).withIpv4 ⟨1, 2, 3, 4⟩
    (handle f .initial).1 = none ∧
    (handle f .initial).2 =
      leftover .setDnsConfig ⟨f.params⟩ (State.initial.recorded .setDnsConfig) :=
  ⟨rfl, rejected_leaves rfl⟩

end SpiWifi.Device
