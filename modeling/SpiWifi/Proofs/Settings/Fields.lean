import SpiWifi.Proofs.Text.Decimal
import SpiWifi.Settings.Basic

/-!
# Tables of fields

A table of fields makes up a value: each field gives back what it was set to, no field is touched by
setting another, no two have one name, and values that agree in all fields are equal. What is done to a
value field by field can then be told for each field by itself: how the environment overrides it, and
what it is read as from a record, in which a name that matters may come only once.
-/

namespace SpiWifi

namespace Field

variable {σ : Type}

/-- A field gives what it was set to, and is never beyond its limit. -/
structure Lawful (f : Field σ) : Prop where
  get_set : ∀ n s, n ≤ f.limit → f.get (f.set (some n) s) = some n
  get_clear : f.optional = true → ∀ s, f.get (f.set none s) = none
  bounded : ∀ s n, f.get s = some n → n ≤ f.limit
  present : f.optional = false → ∀ s, (f.get s).isSome

/-- The fields of a table make up a value. -/
structure Span (fields : List (Field σ)) : Prop where
  lawful : ∀ f ∈ fields, f.Lawful
  names : (fields.map name).Nodup
  apart : ∀ f ∈ fields, ∀ g ∈ fields, g.name ≠ f.name → ∀ n s, f.get (g.set n s) = f.get s
  ext : ∀ s s', (∀ f ∈ fields, f.get s = f.get s') → s = s'

theorem toNat_ofNat_u64 {n : Nat} (h : n ≤ Text.Numeral.maxU64) : (UInt64.ofNat n).toNat = n := by
  rw [UInt64.toNat_ofNat']
  simp only [Text.Numeral.maxU64] at h
  omega

theorem toNat_le_u64 (v : UInt64) : v.toNat ≤ Text.Numeral.maxU64 := by
  have := v.toNat_lt
  simp only [Text.Numeral.maxU64]
  omega

theorem toNat_ofNat_u32 {n : Nat} (h : n ≤ Text.Numeral.maxU32) : (UInt32.ofNat n).toNat = n := by
  rw [UInt32.toNat_ofNat']
  simp only [Text.Numeral.maxU32] at h
  omega

theorem toNat_le_u32 (v : UInt32) : v.toNat ≤ Text.Numeral.maxU32 := by
  have := v.toNat_lt
  simp only [Text.Numeral.maxU32]
  omega

theorem lawful_word (name : String) (envName : Option String) {get : σ → UInt64}
    {set : UInt64 → σ → σ} (h : ∀ v s, get (set v s) = v) : (word name envName get set).Lawful where
  get_set n s hn := by
    simp only [word, Option.getD_some, h, toNat_ofNat_u64 hn]
  get_clear hopt := nomatch hopt
  bounded s n hn := by
    cases hn
    exact toNat_le_u64 (get s)
  present _ _ := rfl

theorem lawful_optionalWord (name : String) (envName : Option String) {get : σ → Option UInt64}
    {set : Option UInt64 → σ → σ} (h : ∀ v s, get (set v s) = v) :
    (optionalWord name envName get set).Lawful where
  get_set n s hn := by
    simp only [optionalWord, Option.map_some, h, toNat_ofNat_u64 hn]
  get_clear _ s := by simp [optionalWord, h]
  bounded s n hn := by
    obtain ⟨v, -, rfl⟩ := Option.map_eq_some_iff.mp hn
    exact toNat_le_u64 v
  present hopt := nomatch hopt

theorem lawful_half (name : String) (envName : Option String) {get : σ → UInt32}
    {set : UInt32 → σ → σ} (h : ∀ v s, get (set v s) = v) : (half name envName get set).Lawful where
  get_set n s hn := by
    simp only [half, Option.getD_some, h, toNat_ofNat_u32 hn]
  get_clear hopt := nomatch hopt
  bounded s n hn := by
    cases hn
    exact toNat_le_u32 (get s)
  present _ _ := rfl

end Field

theorem LinkSettings.span_fields : Field.Span LinkSettings.fields where
  lawful := by
    simp only [fields, List.forall_mem_cons]
    refine ⟨Field.lawful_optionalWord _ _ ?_, Field.lawful_word _ _ ?_, Field.lawful_word _ _ ?_,
      Field.lawful_word _ _ ?_, Field.lawful_word _ _ ?_, Field.lawful_word _ _ ?_,
      List.forall_mem_nil _⟩ <;> exact fun _ _ => rfl
  names := by decide
  apart := by simp [fields, Field.word, Field.optionalWord]
  ext s s' h := by
    simp only [fields, List.forall_mem_cons, Field.word, Field.optionalWord, Option.some.injEq,
      UInt64.toNat_inj] at h
    obtain ⟨htimeout, hselect, hreset, hboot, hbudget, hframe, -⟩ := h
    have hsame := Option.map_injective (fun _ _ => UInt64.toNat_inj.mp) htimeout
    cases s
    cases s'
    simp_all

theorem SocketSettings.span_fields : Field.Span SocketSettings.fields where
  lawful := by
    simp only [fields, List.forall_mem_cons]
    refine ⟨Field.lawful_word _ _ ?_, Field.lawful_half _ _ ?_, Field.lawful_word _ _ ?_,
      Field.lawful_half _ _ ?_, Field.lawful_word _ _ ?_, Field.lawful_half _ _ ?_,
      Field.lawful_word _ _ ?_, List.forall_mem_nil _⟩ <;> exact fun _ _ => rfl
  names := by decide
  apart := by simp [fields, Field.word, Field.half]
  ext s s' h := by
    simp only [fields, List.forall_mem_cons, Field.word, Field.half, Option.some.injEq,
      UInt64.toNat_inj, UInt32.toNat_inj] at h
    cases s
    cases s'
    simp_all

theorem StationSettings.span_fields : Field.Span StationSettings.fields where
  lawful := by
    simp only [fields, List.forall_mem_cons]
    refine ⟨Field.lawful_half _ _ ?_, Field.lawful_word _ _ ?_, Field.lawful_half _ _ ?_,
      Field.lawful_word _ _ ?_, List.forall_mem_nil _⟩ <;> exact fun _ _ => rfl
  names := by decide
  apart := by simp [fields, Field.word, Field.half]
  ext s s' h := by
    simp only [fields, List.forall_mem_cons, Field.word, Field.half, Option.some.injEq,
      UInt64.toNat_inj, UInt32.toNat_inj] at h
    cases s
    cases s'
    simp_all

namespace Field

variable {σ : Type} {f : Field σ} {fields : List (Field σ)}

/-- What the environment says about a field, if it says anything: the number that its variable spells,
but that a zero, and anything that is no number, makes a field absent that may be. -/
def overridden (f : Field σ) (env : Environment) : Option (Option Nat) :=
  match f.envName.bind env with
  | none => none
  | some text =>
    match Text.Numeral.decimal? f.limit text with
    | some n => some (if f.optional ∧ n = 0 then none else some n)
    | none => if f.optional then some none else none

theorem decimal?_le {limit n : Nat} {text : String}
    (h : Text.Numeral.decimal? limit text = some n) : n ≤ limit := by
  unfold Text.Numeral.decimal? at h
  cases hread : Text.Numeral.decimal limit text with
  | error e =>
    rw [hread] at h
    cases h
  | ok v =>
    rw [hread] at h
    cases h
    exact Text.Numeral.le_limit_of_read hread

theorem Lawful.get_override (h : f.Lawful) (env : Environment) (s : σ) :
    f.get (f.override env s) = (f.overridden env).getD (f.get s) := by
  unfold override overridden
  cases f.envName.bind env with
  | none => rfl
  | some text =>
    simp only [readText]
    cases hcount : Text.Numeral.decimal? f.limit text with
    | none => cases hopt : f.optional <;> simp [h.get_clear, hopt]
    | some n =>
      have hget := h.get_set n s (decimal?_le hcount)
      cases hopt : f.optional with
      | false => simp [hget]
      | true =>
        by_cases hzero : n = 0
        · simp [hzero, Option.filter_some, h.get_clear hopt]
        · simp [hzero, Option.filter_some, hget, Nat.pos_of_ne_zero hzero]

theorem Span.get_override_of_ne (span : Span fields) (hf : f ∈ fields) {g : Field σ}
    (hg : g ∈ fields) (hne : g.name ≠ f.name) (env : Environment) (s : σ) :
    f.get (g.override env s) = f.get s := by
  have hset := span.apart f hf g hg hne
  unfold override readText
  split
  · dsimp only
    split
    · exact hset _ s
    · split
      · exact hset _ s
      · rfl
  · rfl

/-- What the environment makes of a field is told by the field's own variable. -/
theorem Span.get_overrideAll (span : Span fields) (hf : f ∈ fields) (env : Environment) (s : σ) :
    f.get (overrideAll fields env s) = (f.overridden env).getD (f.get s) := by
  have hothers (gs : List (Field σ)) (hgs : ∀ g ∈ gs, g ∈ fields ∧ g.name ≠ f.name) (s : σ) :
      f.get (overrideAll gs env s) = f.get s := by
    induction gs generalizing s with
    | nil => rfl
    | cons g rest ih =>
      obtain ⟨⟨hg, hne⟩, hrest⟩ := List.forall_mem_cons.mp hgs
      exact (ih hrest _).trans (span.get_override_of_ne hf hg hne env s)
  -- the list splits at the field, and neither part before nor after it has its name
  obtain ⟨before, after, hsplit⟩ := List.append_of_mem hf
  have hnames := span.names
  rw [hsplit, List.map_append, List.map_cons, List.nodup_append, List.nodup_cons] at hnames
  obtain ⟨-, ⟨hafter, -⟩, hbefore⟩ := hnames
  have hall : overrideAll fields env s =
      overrideAll after env (f.override env (overrideAll before env s)) := by
    rw [hsplit, overrideAll, List.foldl_append]
    rfl
  rw [hall, hothers after, (span.lawful f hf).get_override, hothers before]
  · intro g hg
    exact ⟨hsplit ▸ List.mem_append_left _ hg,
      hbefore _ (List.mem_map_of_mem hg) _ List.mem_cons_self⟩
  · intro g hg
    refine ⟨hsplit ▸ List.mem_append_right _ (List.mem_cons_of_mem _ hg), fun hname => ?_⟩
    exact hafter (hname ▸ List.mem_map_of_mem hg)

end Field

namespace Document

def entry? (name : String) : Document → Option Document
  | .record es => (es.find? fun e => e.1 == some name).map Prod.snd
  | _ => none

def count? : Document → Option Nat
  | .number n | .tagged _ (.number n) => some n
  | _ => none

namespace Setter

variable {σ α : Type} {setters : List (Setter σ)} {view : σ → α} {f : Setter σ} {s s' : σ}
  {seen : List String} {es : List (Option String × Document)}

/-- An entry has a name, which is passed over or has not come before. -/
theorem entries_cases {e : Option String × Document}
    (h : entries setters seen (e :: es) s = some s') :
    ∃ name, e.1 = some name ∧
      ((setters.find? (fun g => g.name == name) = none ∧ entries setters seen es s = some s') ∨
        ∃ g ∈ setters, ∃ s₁, setters.find? (fun g => g.name == name) = some g ∧ g.name = name ∧
          name ∉ seen ∧ g.apply e.2 s = some s₁ ∧
            entries setters (name :: seen) es s₁ = some s') := by
  obtain ⟨_ | name, d⟩ := e
  · cases h
  · refine ⟨name, rfl, ?_⟩
    rw [entries] at h
    cases hfind : setters.find? fun g => g.name == name with
    | none =>
      rw [hfind] at h
      exact .inl ⟨rfl, h⟩
    | some g =>
      rw [hfind] at h
      dsimp only at h
      split at h
      · cases h
      · next hnew =>
        split at h
        · cases h
        · next s₁ happly =>
          have hname : g.name = name := by simpa using List.find?_some hfind
          exact .inr ⟨g, List.mem_of_find?_eq_some hfind, s₁, rfl, hname, hnew, happly, h⟩

variable
  (others : ∀ g ∈ setters, g.name ≠ f.name → ∀ d s s', g.apply d s = some s' → view s' = view s)
include others

/-- Once a name has come, nothing that is seen of it changes any more. -/
theorem view_of_seen (hseen : f.name ∈ seen) (h : entries setters seen es s = some s') :
    view s' = view s := by
  induction es generalizing seen s with
  | nil =>
    cases h
    rfl
  | cons e rest ih =>
    obtain ⟨name, -, ⟨-, hrest⟩ | ⟨g, hg, s₁, -, hname, hnew, happly, hrest⟩⟩ := entries_cases h
    · exact ih hseen hrest
    · have hne : g.name ≠ f.name := by
        intro heq
        rw [← hname, heq] at hnew
        exact hnew hseen
      rw [ih (List.mem_cons_of_mem _ hseen) hrest]
      exact others g hg hne e.2 s s₁ happly

/-- What the entries of a record make of a view is told by the entry of its name, if there is one. -/
theorem view_of_entries (find : setters.find? (fun g => g.name == f.name) = some f)
    (h : entries setters seen es s = some s') :
    match entry? f.name (.record es) with
    | none => view s' = view s
    | some d => ∃ s₁ s₂, view s₁ = view s ∧ f.apply d s₁ = some s₂ ∧ view s' = view s₂ := by
  induction es generalizing seen s with
  | nil =>
    cases h
    rfl
  | cons e rest ih =>
    obtain ⟨name, hfirst, hcases⟩ := entries_cases h
    by_cases hname : name = f.name
    · have hentry : entry? f.name (.record (e :: rest)) = some e.2 := by
        simp [hfirst, hname, entry?]
      rw [hname, find] at hcases
      rw [hentry]
      obtain ⟨hnone, -⟩ | ⟨g, -, s₁, hfind, -, -, happly, hrest⟩ := hcases
      · cases hnone
      · obtain rfl : f = g := Option.some.inj hfind
        exact ⟨s, s₁, rfl, happly, view_of_seen others List.mem_cons_self hrest⟩
    · have hentry : entry? f.name (.record (e :: rest)) = entry? f.name (.record rest) := by
        simp [hfirst, hname, entry?]
      rw [hentry]
      obtain ⟨-, hrest⟩ | ⟨g, hg, s₁, -, heq, -, happly, hrest⟩ := hcases
      · exact ih hrest
      · have hkept : view s₁ = view s := others g hg (heq ▸ hname) e.2 s s₁ happly
        have hview := ih hrest
        rw [hkept] at hview
        exact hview

/-- The same of a document that stands for a record. -/
theorem view_of_read {d : Document} (find : setters.find? (fun g => g.name == f.name) = some f)
    (h : read false setters s d = some s') :
    match d.entry? f.name with
    | none => view s' = view s
    | some e => ∃ s₁ s₂, view s₁ = view s ∧ f.apply e s₁ = some s₂ ∧ view s' = view s₂ := by
  unfold read at h
  split at h
  · cases h
    rfl
  · cases h
    rfl
  · exact view_of_entries others find h
  · cases h
  · cases h

end Setter

end Document

namespace Field

variable {σ : Type} {f : Field σ} {fields : List (Field σ)} {d : Document} {s s' : σ}

/-- A field is set to the number that a document stands for, or made absent if it stands for none. -/
theorem read_cases (h : f.read d s = some s') :
    (∃ n ≤ f.limit, d.count? = some n ∧ s' = f.set (some n) s) ∨
      (f.optional = true ∧ d.count? = none ∧ s' = f.set none s) := by
  have hcount {n : Nat} (hn : d.count? = some n) (h : f.setCount n s = some s') :
      ∃ n ≤ f.limit, d.count? = some n ∧ s' = f.set (some n) s := by
    unfold setCount at h
    split at h
    · next hle => exact ⟨n, hle, hn, (Option.some.inj h).symm⟩
    · cases h
  unfold read at h
  split at h
  · exact .inl (hcount rfl h)
  · split at h
    · next hopt => exact .inr ⟨hopt, rfl, (Option.some.inj h).symm⟩
    · cases h
  · split at h
    · next hopt => exact .inr ⟨hopt, rfl, (Option.some.inj h).symm⟩
    · cases h
  · split at h
    · cases h
    · exact .inl (hcount rfl h)
  · split at h
    · next hopt => exact .inr ⟨(Bool.and_eq_true_iff.mp hopt).1, rfl, (Option.some.inj h).symm⟩
    · cases h
  · cases h

theorem Lawful.get_of_read (lawful : f.Lawful) (h : f.read d s = some s') :
    f.get s' = d.count? := by
  rcases read_cases h with ⟨n, hle, hcount, rfl⟩ | ⟨hopt, hcount, rfl⟩
  · rw [hcount, lawful.get_set n s hle]
  · rw [hcount, lawful.get_clear hopt s]

theorem Span.get_of_read_of_ne (span : Span fields) (hf : f ∈ fields) {g : Field σ}
    (hg : g ∈ fields) (hne : g.name ≠ f.name) (h : g.read d s = some s') : f.get s' = f.get s := by
  rcases read_cases h with ⟨n, -, -, rfl⟩ | ⟨-, -, rfl⟩
  · exact span.apart f hf g hg hne (some n) s
  · exact span.apart f hf g hg hne none s

theorem find?_of_nodup {α : Type} {key : α → String} {xs : List α} {x : α}
    (names : (xs.map key).Nodup) (hx : x ∈ xs) : xs.find? (fun y => key y == key x) = some x := by
  obtain ⟨before, after, rfl⟩ := List.append_of_mem hx
  rw [List.map_append, List.nodup_append] at names
  rw [List.find?_eq_some_iff_append]
  refine ⟨beq_self_eq_true _, before, after, rfl, ?_⟩
  intro y hy
  have hne : key y ≠ key x := names.2.2 _ (List.mem_map_of_mem hy) _ (by simp)
  simpa using hne

theorem Span.find?_setters (span : Span fields) (hf : f ∈ fields) :
    (fields.map setter).find? (fun g => g.name == f.name) = some f.setter := by
  rw [List.find?_map]
  exact congrArg (Option.map setter) (find?_of_nodup span.names hf)

/-- A part that is read from a document has the numbers that are written there, and otherwise those it
began with. -/
theorem Span.get_of_readPart (span : Span fields) (hf : f ∈ fields) {start : σ}
    (h : Settings.readPart false fields start d = some s) :
    f.get s = ((d.entry? f.name).map Document.count?).getD (f.get start) := by
  have hothers : ∀ g ∈ fields.map setter, g.name ≠ f.setter.name →
      ∀ d s s', g.apply d s = some s' → f.get s' = f.get s := by
    intro setter hsetter hne d s s' happly
    obtain ⟨g, hg, rfl⟩ := List.mem_map.mp hsetter
    exact span.get_of_read_of_ne hf hg hne happly
  have hview := Document.Setter.view_of_read hothers (span.find?_setters hf) h
  rw [show f.setter.name = f.name from rfl] at hview
  cases hentry : d.entry? f.name with
  | none =>
    rw [hentry] at hview
    exact hview
  | some e =>
    rw [hentry] at hview
    obtain ⟨s₁, s₂, -, hread, hsame⟩ := hview
    exact hsame.trans ((span.lawful f hf).get_of_read hread)

end Field

end SpiWifi
