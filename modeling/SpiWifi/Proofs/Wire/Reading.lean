import SpiWifi.Wire.Reader

/-!
# What the readers take

The readers of a byte, a length and a parameter have one way to succeed and one way to fail: they
take exactly the bytes that their value is written with, or the bytes end too early. `Measured`
says so, and is closed under sequencing, so that what a list of parameters takes follows from what
one byte takes.
-/

namespace SpiWifi

namespace Width

theorem length_ofLength (w : Width) (n : Nat) : (w.ofLength n).length = w.lengthSize := by
  cases w <;> rfl

end Width

namespace Reader

variable {α β : Type}

theorem on_pure (a : α) (s : Bytes) : (pure a : Reader α).on s = (.ok a, s) := rfl

theorem on_throw (e : ProtocolError) (s : Bytes) :
    (throw e : Reader α).on s = (.error e, s) := rfl

theorem on_bind_of_ok {r : Reader α} {s : Bytes} {a : α} {rest : Bytes}
    (h : r.on s = (.ok a, rest)) (k : α → Reader β) : (r >>= k).on s = (k a).on rest := by
  simp only [on] at h ⊢
  simp only [bind, ExceptT.bind, ExceptT.mk, StateT.bind, h]
  rfl

theorem on_bind_of_error {r : Reader α} {s : Bytes} {e : ProtocolError} {rest : Bytes}
    (h : r.on s = (.error e, rest)) (k : α → Reader β) : (r >>= k).on s = (.error e, rest) := by
  simp only [on] at h ⊢
  simp only [bind, ExceptT.bind, ExceptT.mk, StateT.bind, h]
  rfl

/-- A sequence succeeds where its first part does and its second part does on the rest. -/
theorem on_bind_ok_iff {r : Reader α} {k : α → Reader β} {s : Bytes} {b : β} {rest : Bytes} :
    (r >>= k).on s = (.ok b, rest) ↔
      ∃ a middle, r.on s = (.ok a, middle) ∧ (k a).on middle = (.ok b, rest) := by
  constructor
  · intro h
    rcases hr : r.on s with ⟨_ | a, middle⟩
    · rw [on_bind_of_error hr] at h
      cases h
    · rw [on_bind_of_ok hr] at h
      exact ⟨a, middle, rfl, h⟩
  · rintro ⟨a, middle, hr, hk⟩
    rw [on_bind_of_ok hr, hk]

/-- A sequence fails as its first part does, or as its second part on what the first leaves. -/
theorem on_bind_error_iff {r : Reader α} {k : α → Reader β} {s : Bytes} {e : ProtocolError}
    {rest : Bytes} :
    (r >>= k).on s = (.error e, rest) ↔ r.on s = (.error e, rest) ∨
      ∃ a middle, r.on s = (.ok a, middle) ∧ (k a).on middle = (.error e, rest) := by
  constructor
  · intro h
    rcases hr : r.on s with ⟨_ | a, middle⟩
    · rw [on_bind_of_error hr] at h
      cases h
      exact Or.inl rfl
    · rw [on_bind_of_ok hr] at h
      exact Or.inr ⟨a, middle, rfl, h⟩
  · rintro (hr | ⟨a, middle, hr, hk⟩)
    · exact on_bind_of_error hr k
    · rw [on_bind_of_ok hr, hk]

/-- The reader takes exactly the bytes that its value is written with, whatever follows them, and
fails only at the end of the bytes. -/
structure Measured (r : Reader α) (Written : α → Bytes → Prop) : Prop where
  ok_iff : ∀ s a rest, r.on s = (.ok a, rest) ↔ ∃ used, s = used ++ rest ∧ Written a used
  exhausted : ∀ s e rest, r.on s = (.error e, rest) → e = .streamExhausted ∧ rest = []

namespace Measured

theorem pure_nil (a : α) : Measured (pure a : Reader α) fun b used => b = a ∧ used = [] := by
  constructor
  · intro s b rest
    rw [on_pure]
    constructor
    · intro h
      cases h
      exact ⟨[], rfl, rfl, rfl⟩
    · rintro ⟨used, rfl, rfl, rfl⟩
      rfl
  · intro s e rest h
    cases h

theorem bind {r : Reader α} {k : α → Reader β} {W : α → Bytes → Prop}
    {V : α → β → Bytes → Prop} (hr : Measured r W) (hk : ∀ a, Measured (k a) (V a)) :
    Measured (r >>= k) fun b used =>
      ∃ a first second, used = first ++ second ∧ W a first ∧ V a b second := by
  constructor
  · intro s b rest
    rw [on_bind_ok_iff]
    constructor
    · rintro ⟨a, middle, ha, hb⟩
      obtain ⟨first, rfl, hfirst⟩ := (hr.ok_iff _ _ _).mp ha
      obtain ⟨second, rfl, hsecond⟩ := ((hk a).ok_iff _ _ _).mp hb
      exact ⟨first ++ second, (List.append_assoc ..).symm, a, first, second, rfl, hfirst, hsecond⟩
    · rintro ⟨_, rfl, a, first, second, rfl, hfirst, hsecond⟩
      exact ⟨a, second ++ rest, (hr.ok_iff _ _ _).mpr ⟨first, List.append_assoc .., hfirst⟩,
        ((hk a).ok_iff _ _ _).mpr ⟨second, rfl, hsecond⟩⟩
  · intro s e rest h
    rcases on_bind_error_iff.mp h with h | ⟨a, middle, _, h⟩
    · exact hr.exhausted _ _ _ h
    · exact (hk a).exhausted _ _ _ h

theorem congr {r : Reader α} {W V : α → Bytes → Prop} (hr : Measured r W)
    (same : ∀ a used, W a used ↔ V a used) : Measured r V := by
  constructor
  · intro s a rest
    rw [hr.ok_iff]
    exact exists_congr fun used => and_congr_right fun _ => same a used
  · exact hr.exhausted

/-- Either the value is there with the rest, or the bytes have ended. -/
theorem cases {r : Reader α} {W : α → Bytes → Prop} (hr : Measured r W) (s : Bytes) :
    (∃ a used rest, r.on s = (.ok a, rest) ∧ s = used ++ rest ∧ W a used) ∨
      r.on s = (.error .streamExhausted, []) := by
  rcases h : r.on s with ⟨e | a, rest⟩
  · obtain ⟨rfl, rfl⟩ := hr.exhausted _ _ _ h
    exact Or.inr rfl
  · obtain ⟨used, hs, hw⟩ := (hr.ok_iff _ _ _).mp h
    exact Or.inl ⟨a, used, rest, rfl, hs, hw⟩

theorem on_append {r : Reader α} {W : α → Bytes → Prop} (hr : Measured r W) {a : α}
    {used : Bytes} (hw : W a used) (rest : Bytes) : r.on (used ++ rest) = (.ok a, rest) :=
  (hr.ok_iff _ _ _).mpr ⟨used, rfl, hw⟩

end Measured

theorem measured_byte : Measured byte fun b used => used = [b] := by
  constructor
  · intro s b rest
    cases s with
    | nil => simp [on, byte]
    | cons c s =>
      simp only [on, byte, Prod.mk.injEq, Except.ok.injEq]
      constructor
      · rintro ⟨rfl, rfl⟩
        exact ⟨[c], rfl, rfl⟩
      · rintro ⟨_, hs, rfl⟩
        exact List.cons.inj hs
  · intro s e rest h
    cases s with
    | nil => cases h; exact ⟨rfl, rfl⟩
    | cons c s => cases h

theorem measured_take (n : Nat) : Measured (take n) fun p used => used = p ∧ p.length = n := by
  constructor
  · intro s p rest
    simp only [on, take]
    constructor
    · intro h
      split at h
      · next hn =>
        cases h
        exact ⟨s.take n, (List.take_append_drop n s).symm, rfl, List.length_take_of_le hn⟩
      · cases h
    · rintro ⟨used, rfl, rfl, rfl⟩
      simp
  · intro s e rest h
    simp only [on, take] at h
    split at h
    · cases h
    · cases h; exact ⟨rfl, rfl⟩

theorem measured_length (w : Width) :
    Measured (length w) fun n used => n ≤ w.maxLength ∧ used = w.ofLength n := by
  cases w with
  | narrow =>
    refine (measured_byte.bind fun b => Measured.pure_nil b.toNat).congr fun n used => ?_
    constructor
    · rintro ⟨b, _, _, rfl, rfl, rfl, rfl⟩
      exact ⟨Nat.le_of_lt_succ b.toNat_lt, by simp [Width.ofLength]⟩
    · rintro ⟨hn, rfl⟩
      have hlow : n % 256 = n := Nat.mod_eq_of_lt (Nat.lt_succ_of_le hn)
      exact ⟨Bytes.low n, [Bytes.low n], [], rfl, rfl, by rw [Bytes.toNat_low, hlow], rfl⟩
  | wide =>
    refine (measured_byte.bind fun hi => measured_byte.bind fun lo =>
      Measured.pure_nil (hi.toNat * 256 + lo.toNat)).congr fun n used => ?_
    constructor
    · rintro ⟨hi, _, _, rfl, rfl, lo, _, _, rfl, rfl, rfl, rfl⟩
      have hhi := hi.toNat_lt
      have hlo := lo.toNat_lt
      have high : (hi.toNat * 256 + lo.toNat) / 256 = hi.toNat := by omega
      have low : Bytes.low (hi.toNat * 256 + lo.toNat) = lo := by
        apply UInt8.toNat.inj
        rw [Bytes.toNat_low]
        omega
      refine ⟨by simp only [Width.maxLength]; omega, ?_⟩
      simp only [Width.ofLength, high, Bytes.low_toNat, low, List.cons_append, List.nil_append]
    · rintro ⟨hn, rfl⟩
      simp only [Width.maxLength] at hn
      refine ⟨Bytes.low (n / 256), [Bytes.low (n / 256)], [Bytes.low n], rfl, rfl,
        Bytes.low n, [Bytes.low n], [], rfl, rfl, ?_, rfl⟩
      rw [Bytes.toNat_low, Bytes.toNat_low]
      omega

theorem measured_param (w : Width) :
    Measured (param w) fun p used => p.length ≤ w.maxLength ∧ used = Frame.paramBytes w p := by
  refine ((measured_length w).bind fun n => measured_take n).congr fun p used => ?_
  constructor
  · rintro ⟨_, _, _, rfl, ⟨hn, rfl⟩, rfl, rfl⟩
    exact ⟨hn, rfl⟩
  · rintro ⟨hp, rfl⟩
    exact ⟨p.length, w.ofLength p.length, p, rfl, ⟨hp, rfl⟩, rfl, rfl⟩

/-- The parameters that `n` announces, each with its length before it. -/
def ParamsWritten (w : Width) (n : Nat) (ps : List Bytes) (used : Bytes) : Prop :=
  ps.length = n ∧ (∀ p ∈ ps, p.length ≤ w.maxLength) ∧ used = ps.flatMap (Frame.paramBytes w)

theorem measured_params (w : Width) (n : Nat) : Measured (params w n) (ParamsWritten w n) := by
  induction n with
  | zero =>
    refine (Measured.pure_nil ([] : List Bytes)).congr fun ps used => ?_
    constructor
    · rintro ⟨rfl, rfl⟩
      exact ⟨rfl, by simp, rfl⟩
    · rintro ⟨hlen, _, rfl⟩
      rw [List.length_eq_zero_iff.mp hlen]
      exact ⟨rfl, rfl⟩
  | succ n ih =>
    refine ((measured_param w).bind fun p => ih.bind fun ps =>
      Measured.pure_nil (p :: ps)).congr fun ps used => ?_
    constructor
    · rintro ⟨p, _, _, rfl, ⟨hp, rfl⟩, qs, _, _, rfl, ⟨rfl, hqs, rfl⟩, rfl, rfl⟩
      refine ⟨rfl, ?_, by simp⟩
      intro q hq
      rcases List.mem_cons.mp hq with rfl | hq
      · exact hp
      · exact hqs q hq
    · rintro ⟨hlen, hps, rfl⟩
      cases ps with
      | nil => cases hlen
      | cons p qs =>
        exact ⟨p, Frame.paramBytes w p, qs.flatMap (Frame.paramBytes w), rfl,
          ⟨hps p (List.mem_cons_self ..), rfl⟩, qs, _, [], (List.append_nil _).symm,
          ⟨Nat.succ.inj hlen, fun q hq => hps q (List.mem_cons_of_mem p hq), rfl⟩, rfl, rfl⟩

end Reader

end SpiWifi
