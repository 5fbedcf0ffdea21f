import SpiWifi.Proofs.Board.Records

/-!
# Datagram sockets on a board

An object that is a datagram socket after an operation was bound by it, on a slot that nobody had, or
was there before; and then the operation was one of its own, or left alone what belongs to it.
-/

namespace SpiWifi

open Device

namespace Board

/-- The datagram socket in a place, with the operation on it that an event is. -/
def datagramOp? (b : Board) (k : Nat) (e : BoardEvent) : Option (DatagramSocket × DatagramOp) :=
  match e, b.owners[k]? with
  | .datagrams j op, some (.datagrams d) => if j = k then some (d, op) else none
  | _, _ => none

variable {b : Board} {left : List (Fin socketCount)} {k : Nat} {d : DatagramSocket}
  {e : BoardEvent} {i : Fin socketCount}

theorem datagramOp?_of_here (here : b.owners[k]? = some (.datagrams d)) (op : DatagramOp) :
    b.datagramOp? k (.datagrams k op) = some (d, op) := by
  simp only [datagramOp?, here, if_true]

theorem datagramOp?_of_other (other : ∀ op, e ≠ .datagrams k op) : b.datagramOp? k e = none := by
  unfold datagramOp?
  split
  · next j op d _ =>
    refine if_neg ?_
    rintro rfl
    exact other op rfl
  · rfl

theorem datagramOp?_of_length_le (hle : b.owners.length ≤ k) : b.datagramOp? k e = none := by
  unfold datagramOp?
  rw [List.getElem?_eq_none hle]
  split
  · next hnone => cases hnone
  · rfl

/-- What binding a datagram socket does: nobody had its slot, and the slot was put to listen. Nothing
is cached that was not before. -/
structure Binds (b : Board) (e : BoardEvent) (k : Nat) (d : DatagramSocket) : Prop where
  place : b.owners.length = k
  slot : ∃ i port mode, d.socket.index? = some i ∧ (b.found i).reserved = false ∧
    (b.step e).found i = (b.found i).listening port mode
  cache : (b.step e).host.cache = b.host.cache

theorem make_binds {port : UInt16} {mode : SocketMode} {x : HostM Line DatagramSocket}
    {y : HostM Line SocketHandle}
    (run : x.run.run b.host = ((y.run b.host).1.map (⟨·, port⟩), (y.run b.host).2))
    (listens : ∀ socket after, y.run b.host = (.ok socket, after) →
      ∃ i, socket.index? = some i ∧ (b.host.link.found i).reserved = false ∧
        after.link.found i = (b.host.link.found i).listening port mode.raw ∧
        after.cache = b.host.cache)
    (there : (b.make x .datagrams).owners[b.owners.length]? = some (.datagrams d)) :
    (∃ i port mode, d.socket.index? = some i ∧ (b.found i).reserved = false ∧
      (b.make x .datagrams).found i = (b.found i).listening port mode) ∧
    (b.make x .datagrams).host.cache = b.host.cache := by
  have hmake := make_eq (⟨·, port⟩ : SocketHandle → DatagramSocket) run .datagrams
  rcases hy : y.run b.host with ⟨e | socket, after⟩
  all_goals
    rw [hy] at hmake
    rw [hmake] at there ⊢
  · rw [List.getElem?_eq_none (Nat.le_refl _)] at there
    cases there
  · obtain ⟨i, index, vacant, hslot, hcache⟩ := listens socket after hy
    rw [List.getElem?_concat_length] at there
    cases there
    exact ⟨⟨i, port, mode.raw, index, vacant, hslot⟩, hcache⟩

/-- What becomes of an operation for a datagram socket that is there afterwards. -/
inductive Concerns (b : Board) (e : BoardEvent) (k : Nat) (d : DatagramSocket) : Prop
  | spared (here : b.owners[k]? = some (.datagrams d)) (other : ∀ op, e ≠ .datagrams k op)
    (spares : Spares b k (.datagrams d) (b.step e))
  | used (here : b.owners[k]? = some (.datagrams d)) (op : DatagramOp) (own : e = .datagrams k op)
    (step : b.step e = ⟨op.run d b.host, b.owners⟩)
  | bound (binds : Binds b e k d)

theorem Concerns.of_same (there : (b.step e).owners[k]? = some (.datagrams d))
    (other : ∀ op, e ≠ .datagrams k op) (same : b.step e = b) : Concerns b e k d := by
  rw [same] at there
  exact .spared there other (same.symm ▸ ⟨there, fun _ _ => rfl, fun _ _ => rfl⟩)

/-- A datagram socket in the place of the object that an operation concerns. -/
theorem concerns_subject (inside : ∀ happening, e ≠ .happens happening)
    (there : (b.step e).owners[b.subject e]? = some (.datagrams d)) :
    Concerns b e (b.subject e) d := by
  have hadded : ∀ {new : List Owner}, (b.owners ++ new)[b.owners.length]? = some (.datagrams d) →
      .datagrams d ∈ new := by
    intro new hnew
    rw [List.getElem?_append_right (Nat.le_refl _)] at hnew
    exact List.mem_of_getElem? hnew
  have hset : ∀ {k : Nat} {o p : Owner}, b.owners[k]? = some o →
      (b.owners.set k p)[k]? = some (.datagrams d) → p = .datagrams d := by
    intro k o p here hp
    rw [List.getElem?_set_self (List.getElem?_eq_some_iff.mp here).1] at hp
    exact Option.some.inj hp
  cases e with
  | happens happening => exact absurd rfl (inside happening)
  | newStream => cases List.mem_singleton.mp (hadded there)
  | bind port =>
    simp only [step, make, subject] at there
    split at there
    · cases List.mem_singleton.mp (hadded there)
    · cases List.not_mem_nil (hadded ((List.append_nil b.owners).symm ▸ there))
  | bindDatagrams port =>
    obtain ⟨hslot, hcache⟩ := make_binds (Host.run_map _ _ _)
      (fun _ _ => Host.startServer_listens) there
    exact .bound ⟨rfl, hslot, hcache⟩
  | bindMulticast group port =>
    obtain ⟨hslot, hcache⟩ := make_binds (Host.run_map _ _ _)
      (fun _ _ => Host.startServerAt_listens) there
    exact .bound ⟨rfl, hslot, hcache⟩
  | stream k op =>
    by_cases hstream : ∃ s, b.owners[k]? = some (.stream s)
    · obtain ⟨s, here⟩ := hstream
      rw [step_stream here] at there
      cases hset here there
    · exact .of_same there (fun _ h => by cases h) (step_stream_of_none (fun s hs => hstream ⟨s, hs⟩) op)
  | accept k =>
    simp only [step, subject] at there
    split at there
    · obtain ⟨s, -, hs⟩ := List.mem_map.mp (hadded there)
      cases hs
    · cases List.not_mem_nil (hadded ((List.append_nil b.owners).symm ▸ there))
  | isListening k =>
    refine .of_same there (fun _ h => by cases h) ?_
    rw [step] at there ⊢
    split at there
    · next here => cases here.symm.trans there
    · rfl
  | closeListener k =>
    refine .of_same there (fun _ h => by cases h) ?_
    rw [step] at there ⊢
    split at there
    · next here => cases hset here there
    · rfl
  | datagrams k op =>
    rw [step] at there
    split at there
    · next here =>
      cases here.symm.trans there
      exact .used here op rfl (by rw [step, here])
    · next hnone => exact absurd there (hnone d)
  | closeDatagrams k =>
    refine .of_same there (fun _ h => by cases h) ?_
    rw [step] at there ⊢
    split at there
    · next here => cases hset here there
    · rfl

/-- What an operation comes to for a datagram socket that is there afterwards. -/
theorem step_concerns (h : Sound b left) (inside : ∀ happening, e ≠ .happens happening)
    (there : (b.step e).owners[k]? = some (.datagrams d)) : Concerns b e k d := by
  by_cases hk : k = b.subject e
  · subst hk
    exact concerns_subject inside there
  · obtain ⟨new, hpath, -⟩ := operation_path h inside
    have hlength := hpath.length
    have hlt := (List.getElem?_eq_some_iff.mp there).1
    have hspares := hpath.others h (List.getElem?_eq_getElem (by omega)) hk
    have here : b.owners[k]? = some (.datagrams d) :=
      (List.getElem?_eq_getElem (by omega)).trans (hspares.place.symm.trans there)
    rw [Option.some.inj (hspares.place.symm.trans there)] at hspares
    refine .spared here (fun op hop => hk ?_) hspares
    rw [hop]
    rfl

/-- Only closing it takes a datagram socket from its place. -/
theorem step_stays (h : Sound b left) (inside : ∀ happening, e ≠ .happens happening)
    (here : b.owners[k]? = some (.datagrams d)) (stays : e ≠ .closeDatagrams k) :
    (b.step e).owners[k]? = some (.datagrams d) := by
  by_cases hk : k = b.subject e
  · subst hk
    have hlt := (List.getElem?_eq_some_iff.mp here).1
    cases e with
    | happens happening => exact absurd rfl (inside happening)
    | newStream | bind | bindDatagrams | bindMulticast | accept => exact absurd hlt (Nat.lt_irrefl _)
    | stream k op =>
      have hnone : ∀ s, b.owners[k]? ≠ some (.stream s) := fun s hs => by
        cases here.symm.trans hs
      rw [step_stream_of_none hnone]
      exact here
    | isListening k =>
      rw [step]
      split <;> exact here
    | closeListener k =>
      rw [step]
      split
      · next hl => cases here.symm.trans hl
      · exact here
    | datagrams k op =>
      rw [step]
      split <;> exact here
    | closeDatagrams k => exact absurd rfl stays
  · obtain ⟨new, hpath, -⟩ := operation_path h inside
    exact (hpath.others h here hk).place

end Board

end SpiWifi
