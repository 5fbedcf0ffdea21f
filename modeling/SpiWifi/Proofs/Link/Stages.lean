import SpiWifi.Proofs.Link.Exchange

/-!
# Transactions, stage by stage

What each part of a transaction does, as one equation over any transport: it goes on with what the
part before it gave, or stops at that part's fault and leaves the link as the fault left it. Proofs
about runs go by these equations and do not open the parts themselves.
-/

namespace SpiWifi

theorem encode_of_outgoing {settings : LinkSettings} {f : Frame} {tx : Bytes}
    (h : settings.outgoing f = .ok tx) : f.encode = .ok tx := by
  unfold LinkSettings.outgoing at h
  cases hencode : f.encode with
  | error e =>
    rw [hencode] at h
    cases h
  | ok bytes =>
    rw [hencode] at h
    dsimp only at h
    split at h
    · cases h
    · exact h

namespace Link

variable {τ α β : Type}

theorem run_bind (x : LinkM τ α) (k : α → LinkM τ β) (l : Link τ) :
    (x >>= k).run l = match x.run l with
      | (.error e, l) => (.error e, l)
      | (.ok a, l) => (k a).run l := by
  simp only [bind, ExceptT.bind, ExceptT.mk, ExceptT.run, StateT.bind]
  rcases x l with ⟨_ | a, l⟩ <;> rfl

theorem run_map (g : α → β) (x : LinkM τ α) (l : Link τ) :
    (do return g (← x) : LinkM τ β).run l = ((x.run l).1.map g, (x.run l).2) := by
  rw [run_bind]
  rcases x.run l with ⟨e | a, l'⟩ <;> rfl

variable [Transport τ]

/-- The wait before the select can fail; the one after it cannot. -/
theorem run_select (l : Link τ) :
    (select : LinkM τ Unit).run l =
      match (waitReady l.ensureReset.settings.readyTimeout).run l.ensureReset with
      | (.error e, l) => (.error e, l)
      | (.ok (), l) =>
        (.ok (), ((waitReady (some l.settings.selectWait)).run (l.setSelect true)).2) := by
  unfold select
  rw [run_bind_of_ok (run_modify ensureReset l), run_bind_of_ok (run_get _), run_bind]
  rcases (waitReady l.ensureReset.settings.readyTimeout).run l.ensureReset with ⟨_ | _, _⟩ <;> rfl

theorem run_send (f : Frame) (l : Link τ) :
    (send f).run l =
      match l.settings.outgoing f with
      | .error e => (.error (.protocol e), l)
      | .ok tx =>
        match (select : LinkM τ Unit).run l.clear with
        | (.error e, l) => (.error e, l)
        | (.ok (), l) => (.ok (), (l.transfer tx).setSelect false) := by
  unfold send
  rw [run_bind_of_ok (run_get l)]
  rcases l.settings.outgoing f with e | tx
  · rfl
  · dsimp only
    rw [run_bind_of_ok (run_modify clear l), run_bind]
    rcases (select : LinkM τ Unit).run l.clear with ⟨_ | _, _⟩ <;> rfl

theorem run_fetch (size : Nat) (l : Link τ) :
    (fetch size).run l =
      match (select : LinkM τ Unit).run l.clear with
      | (.error e, l) => (.error e, l)
      | (.ok (), l) =>
        let (rx, l) := (l.transfer (Bytes.zeros size)).readBytes size
        (.ok rx, l.setSelect false) := by
  unfold fetch
  rw [run_bind_of_ok (run_modify clear l), run_bind]
  rcases (select : LinkM τ Unit).run l.clear with ⟨_ | _, _⟩ <;> rfl

theorem run_receive (opcode : UInt8) (size : Nat) (width : Width) (slots : List Slot)
    (l : Link τ) :
    (receive opcode size width slots).run l =
      match (fetch (l.settings.replySize size)).run l with
      | (.error e, l') => ((.error e, slots), l')
      | (.ok rx, l') => (readReply l.settings opcode width slots rx, l') := by
  rcases h : (fetch (l.settings.replySize size)).run l with ⟨e | rx, l'⟩
  · simp only [ExceptT.run] at h
    simp only [receive, StateT.run, bind, StateT.bind, get, getThe, MonadStateOf.get, StateT.get,
      pure, ExceptT.run, h]
    rfl
  · exact receive_of_fetch h width slots

theorem run_request (f : Frame) (slots : List Slot) (l : Link τ) :
    (request f slots).run l =
      match (send f).run l with
      | (.error e, l) => ((.error e, slots), l)
      | (.ok (), l) =>
        (receive f.opcode l.settings.maxFrameSize.toNat (replyWidth f) slots).run l := by
  rcases h : (send f).run l with ⟨e | _, l'⟩
  · simp only [ExceptT.run] at h
    simp only [request, StateT.run, bind, StateT.bind, ExceptT.run, h]
    rfl
  · exact request_of_send h slots

end Link

end SpiWifi
