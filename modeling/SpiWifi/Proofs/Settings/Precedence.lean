import SpiWifi.Proofs.Settings.Fields
import SpiWifi.Settings.Load

/-!
# Where each setting comes from

A setting comes from the environment if its variable spells it, else from the file if it is written
there, else from the standard values. Text that spells no number is passed over, as if the variable were
not set; but a setting that may be absent becomes absent by it.
-/

namespace SpiWifi

/-- What a document says about a field of a part, if it says anything: a number or none. -/
def Document.written (d : Document) (part name : String) : Option (Option Nat) :=
  ((d.entry? part).bind fun e => e.entry? name).map count?

/-- What a field comes to: what the environment says, else what is written, else the standard value. -/
def Field.chosen {σ : Type} (f : Field σ) (env : Environment) (written : Option (Option Nat))
    (standard : σ) : Option Nat :=
  (f.overridden env).getD (written.getD (f.get standard))

/-- The variable says nothing about any of these fields: it is none of theirs, or it spells no number
for a field that may not be absent. -/
def Field.Ignored {σ : Type} (fields : List (Field σ)) (env : Environment) (name : String) : Prop :=
  ∀ f ∈ fields, f.envName = some name →
    f.optional = false ∧ (env name).bind (Text.Numeral.decimal? f.limit) = none

instance {σ : Type} (fields : List (Field σ)) (env : Environment) (name : String) :
    Decidable (Field.Ignored fields env name) :=
  inferInstanceAs (Decidable (∀ f ∈ fields, _ → _))

def Environment.unset (env : Environment) (name : String) : Environment := fun other =>
  if other = name then none else env other

theorem Field.Ignored.overridden_unset {σ : Type} {fields : List (Field σ)} {env : Environment}
    {name : String} (ignored : Ignored fields env name) {f : Field σ} (hf : f ∈ fields) :
    f.overridden (env.unset name) = f.overridden env := by
  unfold overridden Environment.unset
  cases hown : f.envName with
  | none => rfl
  | some own =>
    by_cases hname : own = name
    · obtain ⟨mandatory, unread⟩ := ignored f hf (hname ▸ hown)
      simp only [Option.bind_some, if_pos hname]
      rw [hname]
      cases htext : env name with
      | none => rfl
      | some text =>
        rw [htext, Option.bind_some] at unread
        simp [unread, mandatory]
    · simp only [Option.bind_some, if_neg hname]

namespace Settings

/-- Where the file comes from that settings are loaded from, and what is written in it: it is the one
that the environment names, and it can be read and is in order; without one nothing is written. -/
def Source (env : Environment) (files : FileReader) (d : Document) : Prop :=
  match env fileVariable with
  | none => d = .blank
  | some path => ∃ text, files path = .ok text ∧ Document.Yaml.read? text = some d ∧
      (read false d).isSome

/-- Each setting is what the environment says, or else what is written, or else the standard. -/
structure Chosen (env : Environment) (d : Document) (s : Settings) : Prop where
  link : ∀ f ∈ LinkSettings.fields,
    f.get s.link = f.chosen env (d.written "link" f.name) .standard
  sockets : ∀ f ∈ SocketSettings.fields,
    f.get s.sockets = f.chosen env (d.written "sockets" f.name) .standard
  station : ∀ f ∈ StationSettings.fields,
    f.get s.station = f.chosen env (d.written "wifi" f.name) .standard

theorem Chosen.unique {env : Environment} {d : Document} {s s' : Settings} (h : Chosen env d s)
    (h' : Chosen env d s') : s' = s := by
  obtain ⟨link, sockets, station⟩ := s
  obtain ⟨link', sockets', station'⟩ := s'
  have hlink := LinkSettings.span_fields.ext link' link fun f hf =>
    (h'.link f hf).trans (h.link f hf).symm
  have hsockets := SocketSettings.span_fields.ext sockets' sockets fun f hf =>
    (h'.sockets f hf).trans (h.sockets f hf).symm
  have hstation := StationSettings.span_fields.ext station' station fun f hf =>
    (h'.station f hf).trans (h.station f hf).symm
  rw [hlink, hsockets, hstation]

section
variable {d : Document} {s : Settings}

/-- Reading one part leaves the others alone. -/
theorem setters_keep {g : Document.Setter Settings} (hg : g ∈ setters false) {s s' : Settings}
    (h : g.apply d s = some s') :
    (g.name ≠ "link" → s'.link = s.link) ∧ (g.name ≠ "sockets" → s'.sockets = s.sockets) ∧
      (g.name ≠ "wifi" → s'.station = s.station) := by
  simp only [setters, List.mem_cons, List.not_mem_nil, or_false] at hg
  rcases hg with rfl | rfl | rfl
  all_goals
    obtain ⟨v, -, rfl⟩ := Option.map_eq_some_iff.mp h
    simp

/-- A part is read from its entry of a document, and is standard without one. -/
def PartOf {σ : Type} (read : Document → Option σ) (standard : σ) (entry : Option Document) (v : σ) :
    Prop :=
  match entry with
  | none => v = standard
  | some d => read d = some v

theorem partOf_of_view {σ : Type} {part : Settings → σ} {replace : σ → Settings → Settings}
    {read : Document → Option σ} {entry : Option Document} {start : Settings}
    (replaced : ∀ v s, part (replace v s) = v)
    (view : match entry with
      | none => part s = part start
      | some d => ∃ s₁ s₂, part s₁ = part start ∧
        (read d).map (fun v => replace v s₁) = some s₂ ∧ part s = part s₂) :
    PartOf read (part start) entry (part s) := by
  cases entry with
  | none => exact view
  | some d =>
    obtain ⟨s₁, s₂, -, hpart, hsame⟩ := view
    obtain ⟨v, hv, rfl⟩ := Option.map_eq_some_iff.mp hpart
    rw [hsame, replaced]
    exact hv

theorem parts_of_read (h : read false d = some s) :
    PartOf (readLink false) .standard (d.entry? "link") s.link ∧
    PartOf (readSockets false) .standard (d.entry? "sockets") s.sockets ∧
    PartOf (readStation false) .standard (d.entry? "wifi") s.station := by
  have hlink := @Document.Setter.view_of_read _ _ _ link
    ⟨"link", fun d s => (readLink false d).map fun v => { s with link := v }⟩ _ _
    (fun g hg hne d s s' happly => (setters_keep hg happly).1 hne) d rfl h
  have hsockets := @Document.Setter.view_of_read _ _ _ sockets
    ⟨"sockets", fun d s => (readSockets false d).map fun v => { s with sockets := v }⟩ _ _
    (fun g hg hne d s s' happly => (setters_keep hg happly).2.1 hne) d rfl h
  have hstation := @Document.Setter.view_of_read _ _ _ station
    ⟨"wifi", fun d s => (readStation false d).map fun v => { s with station := v }⟩ _ _
    (fun g hg hne d s s' happly => (setters_keep hg happly).2.2 hne) d rfl h
  exact ⟨partOf_of_view (fun _ _ => rfl) hlink, partOf_of_view (fun _ _ => rfl) hsockets,
    partOf_of_view (fun _ _ => rfl) hstation⟩

theorem chosen_of_part {σ : Type} {fields : List (Field σ)} (span : Field.Span fields) {f : Field σ}
    (hf : f ∈ fields) {standard v : σ} {name : String}
    (part : PartOf (readPart false fields standard) standard (d.entry? name) v) (env : Environment) :
    f.get (Field.overrideAll fields env v) = f.chosen env (d.written name f.name) standard := by
  rw [span.get_overrideAll hf, Field.chosen, Document.written]
  unfold PartOf at part
  split at part
  · next hnone => rw [hnone, part]; rfl
  · next e hentry => rw [hentry, Option.bind_some, span.get_of_readPart hf part]

theorem chosen_of_read (env : Environment) (h : read false d = some s) :
    Chosen env d (s.override env) where
  link _ hf := chosen_of_part LinkSettings.span_fields hf (parts_of_read h).1 env
  sockets _ hf := chosen_of_part SocketSettings.span_fields hf (parts_of_read h).2.1 env
  station _ hf := chosen_of_part StationSettings.span_fields hf (parts_of_read h).2.2 env

end

/-- What is loaded is checked as the environment, the file and the standard values say, in this order. -/
theorem load_of_source {env : Environment} {files : FileReader} {d : Document}
    (source : Source env files d) : ∃ s, Chosen env d s ∧ load env files = validate s := by
  unfold Source at source
  unfold load
  cases hfile : env fileVariable with
  | none =>
    rw [hfile] at source
    exact ⟨standard.override env, chosen_of_read env (by rw [source]; rfl), rfl⟩
  | some path =>
    rw [hfile] at source
    obtain ⟨text, htext, hyaml, hread⟩ := source
    obtain ⟨s, hs⟩ := Option.isSome_iff_exists.mp hread
    have hof : ofFile files path = .ok s := by
      simp only [ofFile, htext, ofYaml?, hyaml, Option.bind_some, hs]
    refine ⟨s.override env, chosen_of_read env hs, ?_⟩
    dsimp only
    rw [hof]
    rfl

/-- Loading checks the one collection of settings in which each is what the environment says, or else
what the file says, or else standard; and text that spells no number is as good as no variable, for a
setting that may not be absent. -/
theorem load_precedence {env : Environment} {files : FileReader} {d : Document}
    (source : Source env files d) :
    (∃ s, (∀ s', Chosen env d s' ↔ s' = s) ∧ load env files = validate s) ∧
    ∀ name, name ≠ fileVariable → Field.Ignored LinkSettings.fields env name →
      Field.Ignored SocketSettings.fields env name →
      Field.Ignored StationSettings.fields env name →
      load (env.unset name) files = load env files := by
  obtain ⟨s, hchosen, hload⟩ := load_of_source source
  refine ⟨⟨s, fun s' => ⟨fun h => hchosen.unique h, fun h => h ▸ hchosen⟩, hload⟩, ?_⟩
  intro name hname hlink hsockets hstation
  have hfile : env.unset name fileVariable = env fileVariable := if_neg hname.symm
  have source' : Source (env.unset name) files d := by
    unfold Source
    rw [hfile]
    exact source
  obtain ⟨s', hchosen', hload'⟩ := load_of_source source'
  have hsame : Chosen env d s' := by
    refine ⟨fun f hf => ?_, fun f hf => ?_, fun f hf => ?_⟩
    · rw [hchosen'.link f hf, Field.chosen, Field.chosen, hlink.overridden_unset hf]
    · rw [hchosen'.sockets f hf, Field.chosen, Field.chosen, hsockets.overridden_unset hf]
    · rw [hchosen'.station f hf, Field.chosen, Field.chosen, hstation.overridden_unset hf]
  rw [hload, hload', hchosen.unique hsame]

/-- One setting of the file is overridden, one is cleared by a zero, one is kept although its variable
holds no number, and one is kept that has no variable. -/
theorem load_precedence_in_part :
    let text := "link:\n  ready_timeout_ms: 250\n  max_frame_size: 64\nsockets:\n  buffer_size: 16\n"
    let env : Environment := fun name =>
      [("NINALINK_CONFIG", "nina.yaml"), ("NINALINK_READY_TIMEOUT_MS", "0"),
        ("NINALINK_SELECT_WAIT_MS", "+7"), ("NINALINK_BUFFER_SIZE", "many")].lookup name
    let loaded : Settings :=
      { standard with
        link := { LinkSettings.standard with selectWait := 7, maxFrameSize := 64 }
        sockets := { SocketSettings.standard with bufferSize := 16 } }
    load env (fun _ => .ok text) = .ok loaded ∧
    load (env.unset "NINALINK_BUFFER_SIZE") (fun _ => .ok text) = .ok loaded := by
  intro text env loaded
  have readable : Document.Yaml.read? text = some ((Document.Yaml.read? text).getD .blank) := by
    obtain ⟨d, hd⟩ : ∃ d, Document.Yaml.read? text = some d :=
      Option.isSome_iff_exists.mp (by decide +kernel)
    rw [hd, Option.getD_some]
  have source : Source env (fun _ => .ok text) ((Document.Yaml.read? text).getD .blank) :=
    ⟨text, rfl, readable, by decide +kernel⟩
  obtain ⟨⟨s, hs, hload⟩, hunset⟩ := load_precedence source
  have hloaded : loaded = s :=
    (hs loaded).mp ⟨by decide +kernel, by decide +kernel, by decide +kernel⟩
  have hvalid : load env (fun _ => .ok text) = .ok loaded := by
    rw [hload, ← hloaded]
    rfl
  refine ⟨hvalid, (hunset _ ?_ ?_ ?_ ?_).trans hvalid⟩
  · decide
  · decide +kernel
  · decide +kernel
  · decide +kernel

/-- A variable that spells no number clears a timeout that the file gives, which stays without it. -/
theorem timeout_cleared :
    let files : FileReader := fun _ => .ok "link:\n  ready_timeout_ms: 250\n"
    let env : Environment := fun name =>
      [("NINALINK_CONFIG", "nina.yaml"), ("NINALINK_READY_TIMEOUT_MS", "soon")].lookup name
    Text.Numeral.decimal? Text.Numeral.maxU64 "soon" = none ∧
    load (env.unset "NINALINK_READY_TIMEOUT_MS") files =
      .ok { standard with link := { LinkSettings.standard with readyTimeout := some 250 } } ∧
    load env files = .ok standard := by
  intro files env
  refine ⟨by decide, ?_, ?_⟩
  · decide +kernel
  · decide +kernel

end Settings

end SpiWifi
