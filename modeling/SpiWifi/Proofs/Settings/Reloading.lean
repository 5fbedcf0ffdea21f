import SpiWifi.Proofs.Document.Sections
import SpiWifi.Proofs.Settings.Fields

/-!
# Settings that are read back

A part whose fields are all written is read back as it was: every entry is taken, since no name comes
twice and no number is out of range, and every field is what was written. The parts are sections with
names that are read as they were meant, so the text of all settings is read back as well.
-/

namespace SpiWifi

namespace Field

variable {σ : Type} {f : Field σ} {fields : List (Field σ)}

theorem Lawful.exists_read (lawful : f.Lawful) (v s : σ) :
    ∃ s', f.read (Settings.countDocument (f.get v)) s = some s' := by
  cases hget : f.get v with
  | none =>
    have hoptional : f.optional = true := by
      cases hopt : f.optional with
      | true => rfl
      | false =>
        have hpresent := lawful.present hopt v
        rw [hget] at hpresent
        cases hpresent
    exact ⟨f.set none s, by simp [Settings.countDocument, read, hoptional]⟩
  | some n =>
    have hle := lawful.bounded v n hget
    exact ⟨f.set (some n) s, by simp [Settings.countDocument, read, setCount, hle]⟩

/-- The entries of some fields are all taken if none of them has come before. -/
theorem Span.exists_entries (span : Span fields) (v : σ) {rest : List (Field σ)}
    (hrest : ∀ f ∈ rest, f ∈ fields) (names : (rest.map name).Nodup) {seen : List String}
    (hseen : ∀ f ∈ rest, f.name ∉ seen) (s : σ) :
    ∃ s', Document.Setter.entries (fields.map setter) seen
      (rest.map fun f => (some f.name, Settings.countDocument (f.get v))) s = some s' := by
  induction rest generalizing seen s with
  | nil => exact ⟨s, rfl⟩
  | cons f rest ih =>
    obtain ⟨hf, hrest⟩ := List.forall_mem_cons.mp hrest
    obtain ⟨hnew, hseen⟩ := List.forall_mem_cons.mp hseen
    obtain ⟨hother, names⟩ := List.nodup_cons.mp names
    obtain ⟨s₁, hread⟩ := (span.lawful f hf).exists_read v s
    have hlater : ∀ g ∈ rest, g.name ∉ f.name :: seen := by
      intro g hg hmem
      rcases List.mem_cons.mp hmem with heq | hmem
      · exact hother (heq ▸ List.mem_map_of_mem hg)
      · exact hseen g hg hmem
    obtain ⟨s', hentries⟩ := ih hrest names hlater s₁
    exact ⟨s', by simp [Document.Setter.entries, span.find?_setters hf, hnew, setter, hread, hentries]⟩

def document (fields : List (Field σ)) (v : σ) : Document :=
  .record (fields.map fun f => (some f.name, Settings.countDocument (f.get v)))

theorem Span.entry?_document (span : Span fields) (hf : f ∈ fields) (v : σ) :
    Document.entry? f.name (document fields v) = some (Settings.countDocument (f.get v)) := by
  have hfind := find?_of_nodup span.names hf
  simp [document, Document.entry?, List.find?_map, Function.comp_def, hfind]

/-- A part whose fields are all written is read back as it was. -/
theorem Span.readPart_document (span : Span fields) (start v : σ) :
    Settings.readPart false fields start (document fields v) = some v := by
  obtain ⟨v', hread⟩ := span.exists_entries v (fun _ hf => hf) span.names
    (fun _ _ => List.not_mem_nil) start
  have hpart : Settings.readPart false fields start (document fields v) = some v' := hread
  have hsame : v' = v := by
    apply span.ext
    intro f hf
    rw [span.get_of_readPart hf hpart, span.entry?_document hf]
    cases f.get v with
    | none => rfl
    | some n => rfl
  rw [hpart, hsame]

/-- The names of a table are read as they were meant, and its numbers have 64 bits at most. -/
def Written (fields : List (Field σ)) : Prop :=
  ∀ f ∈ fields, Document.Yaml.Scan.IsName f.name ∧ Document.Yaml.StandsForItself f.name ∧
    f.limit ≤ Text.Numeral.maxU64

instance (fields : List (Field σ)) : Decidable (Written fields) :=
  inferInstanceAs (Decidable (∀ f ∈ fields, _))

/-- A part is a section that is read as it was meant. -/
theorem Span.section_entries (span : Span fields) (written : Written fields) (hne : fields ≠ [])
    {part : String} (hpart : Document.Yaml.Scan.IsName part)
    (hitself : Document.Yaml.StandsForItself part) (v : σ) :
    Document.Yaml.Section (part, fields.map fun f => f.entry v) where
  name := hpart
  itself := hitself
  nonempty := List.map_eq_nil_iff.not.mpr hne
  entries e he := by
    obtain ⟨f, hf, rfl⟩ := List.mem_map.mp he
    obtain ⟨hname, hself, hlimit⟩ := written f hf
    exact ⟨hname, hself, fun n hn => Nat.le_trans ((span.lawful f hf).bounded v n hn) hlimit⟩

end Field

theorem LinkSettings.written_fields : Field.Written LinkSettings.fields := by decide +kernel

theorem SocketSettings.written_fields : Field.Written SocketSettings.fields := by decide +kernel

theorem StationSettings.written_fields : Field.Written StationSettings.fields := by decide +kernel

namespace Settings

theorem section_of_mem_sections (s : Settings) :
    ∀ part ∈ s.sections, Document.Yaml.Section part := by
  simp only [sections, List.forall_mem_cons]
  refine ⟨?_, ?_, ?_, List.forall_mem_nil _⟩
  · exact LinkSettings.span_fields.section_entries LinkSettings.written_fields (List.cons_ne_nil _ _)
      (by decide +kernel) (by decide +kernel) s.link
  · exact SocketSettings.span_fields.section_entries SocketSettings.written_fields
      (List.cons_ne_nil _ _) (by decide +kernel) (by decide +kernel) s.sockets
  · exact StationSettings.span_fields.section_entries StationSettings.written_fields
      (List.cons_ne_nil _ _) (by decide +kernel) (by decide +kernel) s.station

theorem toDocument_eq (s : Settings) : s.toDocument =
    .record [(some "link", Field.document LinkSettings.fields s.link),
      (some "sockets", Field.document SocketSettings.fields s.sockets),
      (some "wifi", Field.document StationSettings.fields s.station)] := rfl

/-- The record of all settings is read back as they were. -/
theorem read_toDocument (s : Settings) : read false s.toDocument = some s := by
  have hlink := LinkSettings.span_fields.readPart_document .standard s.link
  have hsockets := SocketSettings.span_fields.readPart_document .standard s.sockets
  have hstation := StationSettings.span_fields.readPart_document .standard s.station
  rw [toDocument_eq]
  simp [read, setters, Document.Setter.read, Document.Setter.entries, readLink, readSockets,
    readStation, hlink, hsockets, hstation]

/-- The text of all settings spells their record. -/
theorem read?_toYaml (s : Settings) : Document.Yaml.read? s.toYaml = some s.toDocument :=
  Document.Yaml.read?_write (List.cons_ne_nil _ _) s.section_of_mem_sections

/-- A file that holds the text of settings gives them back, whatever they are and whether they are valid
or not. -/
theorem ofFile_of_saved (s : Settings) (files : FileReader) (path : String)
    (saved : files path = .ok s.toYaml) : ofFile files path = .ok s := by
  have hread : ofYaml? s.toYaml = some s := by
    rw [ofYaml?, read?_toYaml, Option.bind_some, read_toDocument]
  simp only [ofFile, saved, hread]

/-- Settings at the ends of their ranges: a timeout that is absent, zeros, and the largest numbers of
either size. They are no valid settings. -/
def extreme : Settings where
  link := ⟨none, 18446744073709551615, 0, 750, 1000, 255⟩
  sockets := { SocketSettings.standard with bufferSize := 0, connectAttempts := 4294967295 }
  station := { StationSettings.standard with scanInterval := 18446744073709551615 }

def extremeText : String := "link:
  ready_timeout_ms: null
  select_wait_ms: 18446744073709551615
  reset_pulse_ms: 0
  boot_delay_ms: 750
  start_marker_budget: 1000
  max_frame_size: 255
sockets:
  buffer_size: 0
  connect_attempts: 4294967295
  connect_interval_ms: 100
  send_confirm_attempts: 25
  send_confirm_interval_ms: 100
  stop_attempts: 50
  stop_interval_ms: 100
wifi:
  scan_attempts: 10
  scan_interval_ms: 18446744073709551615
  join_attempts: 10
  join_interval_ms: 5000
"

theorem ofFile_of_saved_extremes :
    extreme.toYaml = extremeText ∧
      ofFile (fun _ => .ok extremeText) "ninalink.yaml" = .ok extreme := by
  have htext : extreme.toYaml = extremeText := by cbv
  exact ⟨htext, ofFile_of_saved extreme _ "ninalink.yaml" (by rw [htext])⟩

end Settings

end SpiWifi
