import SpiWifi.Polling

/-!
# Polls

Every question is asked in the state that the question before it left, so a state alone fixes all the
answers that can follow. A poll stops at the first of them that it waits for, as long as that is within
its budget, and asks nothing more; if there is none it asks exactly as often as its budget says.
-/

namespace SpiWifi

variable {σ α β ε ρ : Type}

def afterAsking (ask : StateM σ α) : Nat → σ → σ
  | 0, s => s
  | n + 1, s => afterAsking ask n (ask s).2

def answerAt (ask : StateM σ α) (n : Nat) (s : σ) : α := (ask (afterAsking ask n s)).1

/-- The last question is asked where the ones before it led. -/
theorem afterAsking_succ (ask : StateM σ α) (n : Nat) (s : σ) :
    afterAsking ask (n + 1) s = (ask (afterAsking ask n s)).2 := by
  induction n generalizing s with
  | zero => rfl
  | succ n ih => exact ih (ask s).2

theorem pollFor_succ {ask : StateM σ α} {s after : σ} {answer : α} (h : ask s = (answer, after))
    (wanted : α → Option β) (budget : Nat) :
    pollFor ask wanted (budget + 1) s = match wanted answer with
      | some found => (some found, after)
      | none => pollFor ask wanted budget after := by
  simp only [pollFor, bind, StateT.bind, h]
  cases wanted answer <;> rfl

/-- What holds along every question holds along a poll. -/
theorem pollFor_along {R : σ → σ → Prop} (refl : ∀ s, R s s)
    (trans : ∀ s s' s'', R s s' → R s' s'' → R s s'') {ask : StateM σ α}
    (h : ∀ s, R s (ask s).2) (wanted : α → Option β) (budget : Nat) (s : σ) :
    R s (pollFor ask wanted budget s).2 := by
  induction budget generalizing s with
  | zero => exact refl s
  | succ budget ih =>
    have hask := h s
    rcases hasked : ask s with ⟨answer, after⟩
    rw [hasked] at hask
    rw [pollFor_succ hasked]
    cases wanted answer with
    | some found => exact hask
    | none => exact trans _ _ _ hask (ih after)

/-- How a poll ends: with the first answer it waits for, or after its last question. -/
theorem pollFor_cases (ask : StateM σ α) (wanted : α → Option β) (budget : Nat) (s : σ) :
    (∃ k b, k < budget ∧ wanted (answerAt ask k s) = some b ∧
      (∀ j, j < k → wanted (answerAt ask j s) = none) ∧
      pollFor ask wanted budget s = (some b, afterAsking ask (k + 1) s)) ∨
    ((∀ j, j < budget → wanted (answerAt ask j s) = none) ∧
      pollFor ask wanted budget s = (none, afterAsking ask budget s)) := by
  induction budget generalizing s with
  | zero => exact Or.inr ⟨nofun, rfl⟩
  | succ budget ih =>
    rw [pollFor_succ (show ask s = (answerAt ask 0 s, (ask s).2) from rfl)]
    cases hfirst : wanted (answerAt ask 0 s) with
    | some b => exact Or.inl ⟨0, b, Nat.succ_pos budget, hfirst, nofun, rfl⟩
    | none =>
      rcases ih (ask s).2 with ⟨k, b, hk, hfound, hbefore, hpoll⟩ | ⟨hmissed, hpoll⟩
      · refine Or.inl ⟨k + 1, b, Nat.succ_lt_succ hk, hfound, fun j hj => ?_, hpoll⟩
        cases j with
        | zero => exact hfirst
        | succ j => exact hbefore j (Nat.lt_of_succ_lt_succ hj)
      · refine Or.inr ⟨fun j hj => ?_, hpoll⟩
        cases j with
        | zero => exact hfirst
        | succ j => exact hmissed j (Nat.lt_of_succ_lt_succ hj)

section
variable {ask : StateM σ α} {s : σ}

theorem pollFor_of_found {wanted : α → Option β} {budget k : Nat} {b : β} (hk : k < budget)
    (found : wanted (answerAt ask k s) = some b)
    (before : ∀ j, j < k → wanted (answerAt ask j s) = none) :
    pollFor ask wanted budget s = (some b, afterAsking ask (k + 1) s) := by
  rcases pollFor_cases ask wanted budget s with ⟨k', b', -, found', before', hpoll⟩ | ⟨missed, -⟩
  · rcases Nat.lt_trichotomy k' k with hlt | rfl | hgt
    · cases found'.symm.trans (before k' hlt)
    · cases found'.symm.trans found
      exact hpoll
    · cases found.symm.trans (before' k hgt)
  · cases found.symm.trans (missed k hk)

theorem pollFor_of_missed {wanted : α → Option β} {budget : Nat}
    (missed : ∀ j, j < budget → wanted (answerAt ask j s) = none) :
    pollFor ask wanted budget s = (none, afterAsking ask budget s) := by
  rcases pollFor_cases ask wanted budget s with ⟨k, b, hk, found, -, -⟩ | ⟨-, hpoll⟩
  · cases found.symm.trans (missed k hk)
  · exact hpoll

theorem pollLast_succ {after : σ} {answer : α} (h : ask s = (answer, after)) (settled : α → Bool)
    (budget : Nat) (last : α) :
    pollLast ask settled (budget + 1) last s =
      if settled answer then (answer, after) else pollLast ask settled budget answer after := by
  simp only [pollLast, bind, StateT.bind, h]
  cases settled answer <;> rfl

/-- A poll for the last answer stops with the first that is settled. -/
theorem pollLast_of_settled {settled : α → Bool} {budget k : Nat} (hk : k < budget)
    (found : settled (answerAt ask k s) = true)
    (before : ∀ j, j < k → settled (answerAt ask j s) = false) (last : α) :
    pollLast ask settled budget last s = (answerAt ask k s, afterAsking ask (k + 1) s) := by
  induction k generalizing budget last s with
  | zero =>
    obtain ⟨n, rfl⟩ := Nat.exists_eq_add_of_lt hk
    rw [pollLast_succ (show ask s = (answerAt ask 0 s, (ask s).2) from rfl), if_pos found]
    rfl
  | succ k ih =>
    obtain ⟨n, rfl⟩ := Nat.exists_eq_add_of_lt hk
    have hfirst : settled (answerAt ask 0 s) ≠ true := Bool.eq_false_iff.mp (before 0 (Nat.succ_pos k))
    rw [pollLast_succ (show ask s = (answerAt ask 0 s, (ask s).2) from rfl), if_neg hfirst]
    exact @ih (ask s).2 _ (by omega) found (fun j hj => before (j + 1) (Nat.succ_lt_succ hj)) _

/-- If no answer is settled, the last one counts. -/
theorem pollLast_of_unsettled {settled : α → Bool} {budget : Nat}
    (missed : ∀ j, j < budget → settled (answerAt ask j s) = false) (last : α) :
    pollLast ask settled budget last s =
      (if budget = 0 then last else answerAt ask (budget - 1) s, afterAsking ask budget s) := by
  induction budget generalizing last s with
  | zero => rfl
  | succ budget ih =>
    have hfirst : settled (answerAt ask 0 s) ≠ true :=
      Bool.eq_false_iff.mp (missed 0 (Nat.succ_pos budget))
    rw [pollLast_succ (show ask s = (answerAt ask 0 s, (ask s).2) from rfl), if_neg hfirst,
      @ih (ask s).2 (fun j hj => missed (j + 1) (Nat.succ_lt_succ hj)), if_neg (Nat.succ_ne_zero _)]
    cases budget <;> rfl

end

/-- An operation that ends as a poll does. It gives its value just if one of the answers within the
budget is wanted. Then it asks no question after the first of those; otherwise it gives its fault
after exactly as many questions as the budget has. -/
structure Polls (ask : StateM σ α) (wanted : α → Prop) (budget : Nat) (s : σ) (value : ρ)
    (fault : ε) (onFound onMissed : σ → σ) (outcome : Except ε ρ × σ) : Prop where
  ok_iff : outcome.1 = .ok value ↔ ∃ k, k < budget ∧ wanted (answerAt ask k s)
  found : ∀ k, k < budget → wanted (answerAt ask k s) →
    (∀ j, j < k → ¬ wanted (answerAt ask j s)) →
    outcome = (.ok value, onFound (afterAsking ask (k + 1) s))
  missed : (∀ k, k < budget → ¬ wanted (answerAt ask k s)) →
    outcome = (.error fault, onMissed (afterAsking ask budget s))

/-- An answer that is wanted is behind every value. -/
theorem Polls.of_ok {ask : StateM σ α} {wanted : α → Prop} {budget : Nat} {s : σ} {value v : ρ}
    {fault : ε} {onFound onMissed : σ → σ} {outcome : Except ε ρ × σ}
    (h : Polls ask wanted budget s value fault onFound onMissed outcome) (hok : outcome.1 = .ok v) :
    value = v ∧ ∃ k, k < budget ∧ wanted (answerAt ask k s) := by
  have heard : ∃ k, k < budget ∧ wanted (answerAt ask k s) := Classical.byContradiction fun hnone => by
    rw [h.missed fun k hk hwanted => hnone ⟨k, hk, hwanted⟩] at hok
    cases hok
  exact ⟨Except.ok.inj ((h.ok_iff.mpr heard).symm.trans hok), heard⟩

theorem polls_of_pollFor {ask : StateM σ α} {recognise : α → Option β} {wanted : α → Prop}
    {budget : Nat} {s : σ} {value : ρ} {fault : ε} {onFound onMissed : σ → σ}
    {outcome : Except ε ρ × σ} (recognises : ∀ answer, recognise answer = none ↔ ¬ wanted answer)
    (h : outcome = match pollFor ask recognise budget s with
      | (some _, after) => (.ok value, onFound after)
      | (none, after) => (.error fault, onMissed after)) :
    Polls ask wanted budget s value fault onFound onMissed outcome := by
  rcases pollFor_cases ask recognise budget s with
    ⟨k, b, hk, hfound, hbefore, hpoll⟩ | ⟨hmissed, hpoll⟩
  · rw [hpoll] at h
    have hwanted : wanted (answerAt ask k s) := Classical.byContradiction fun hnot => by
      cases hfound.symm.trans ((recognises _).mpr hnot)
    refine ⟨⟨fun _ => ⟨k, hk, hwanted⟩, fun _ => congrArg Prod.fst h⟩, fun k' _ hwanted' hfirst => ?_,
      fun hnone => absurd hwanted (hnone k hk)⟩
    have hsame : k' = k := by
      rcases Nat.lt_trichotomy k' k with hlt | heq | hgt
      · exact absurd hwanted' ((recognises _).mp (hbefore k' hlt))
      · exact heq
      · exact absurd hwanted (hfirst k hgt)
    rw [hsame]
    exact h
  · rw [hpoll] at h
    have hnever : ∀ k, k < budget → ¬ wanted (answerAt ask k s) :=
      fun k hk => (recognises _).mp (hmissed k hk)
    refine ⟨⟨fun hok => ?_, ?_⟩, fun k hk hwanted _ => absurd hwanted (hnever k hk), fun _ => h⟩
    · cases (congrArg Prod.fst h).symm.trans hok
    · rintro ⟨k, hk, hwanted⟩
      exact absurd hwanted (hnever k hk)

end SpiWifi
