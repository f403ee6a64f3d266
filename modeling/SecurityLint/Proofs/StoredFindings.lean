import SecurityLint.Fingerprint
import SecurityLint.Proofs.TreeJson
import SecurityLint.Report

/-!
Findings that a host stores as JSON and reads again. Each part of a finding reads back from what is
written for it, whatever texts it holds and whichever parts are missing, as long as its files are
texts and its nodes positions that a word can hold. So a list of findings is read as it was, and
fingerprints, listings and verdicts are the same after reading.
-/
namespace SecurityLint

open Data

/-- A place reads back if its file is a text. -/
theorem Location.readsBack {l : Location} (h : l.file.IsText) :
    ReadsBack Location.toValue Location.ofValue? l := by
  refine ⟨nofun, ?_⟩
  have hrow : Row.ofValue? .json ("file" :: Span.fieldNames) l.toValue =
      some (Row.object (("file", l.file.toValue) :: l.span.fields)) :=
    Row.ofValue?_object _ _ _ (by simp [Span.fields])
  have hfile := (Path.readsBack h).required
  have hspan : Span.ofRow? (Row.object (("file", l.file.toValue) :: l.span.fields)) =
      some l.span := by
    apply l.span.ofRow?_object
    simp [Span.fieldNames, List.lookup_cons]
  rw [ofValue?, hrow]
  simp [hspan, Row.slot_object, Slot.ofLookup, hfile]

theorem Location.isWhole_toValue (l : Location) : l.toValue.isWhole ↔ l.file.IsText := by
  rw [toValue, Value.isWhole_object]
  simp [Span.fields, Value.isWhole_ofOption, Value.ofWord, Value.isWhole, Path.isWhole_toValue]

/-- An evidence reads back if its file is a text and its node a position that a word can hold. -/
theorem Evidence.readsBack (e : Evidence) (h : e.node < UInt64.size)
    (hfile : ∀ l ∈ e.location, l.file.IsText) : ReadsBack Evidence.toValue Evidence.ofValue? e := by
  refine ⟨nofun, ?_⟩
  have hrow := Row.ofValue?_object .json fieldNames [
    ("description", .text e.description),
    ("node", .nat e.node),
    ("location", .ofOption Location.toValue e.location),
    ("snippet", .ofOption .text e.snippet)] (by simp)
  have hdescription := (readsBack_text e.description).required
  have hnode := (readsBack_index e.node h).required
  have hlocation := Slot.optional_ofOption _ _ e.location fun l hl =>
    Location.readsBack (hfile l hl)
  have hsnippet := Slot.optional_ofOption _ _ e.snippet fun s _ => readsBack_text s
  rw [ofValue?, toValue, hrow]
  simp [Row.slot_object, Slot.ofLookup, List.lookup_cons, hdescription, hnode, hlocation,
    hsnippet]

theorem Evidence.isWhole_toValue (e : Evidence) :
    e.toValue.isWhole ↔ ∀ l ∈ e.location, l.file.IsText := by
  rw [toValue, Value.isWhole_object]
  simp [Value.isWhole, Value.isWhole_ofOption, Location.isWhole_toValue]

namespace Finding

/-- The nodes that a finding names are positions that a word can hold. -/
structure Addressed (f : Finding) : Prop where
  anchor : f.anchor < UInt64.size
  evidence : ∀ e ∈ f.evidence, e.node < UInt64.size

/-- The files that a finding names are texts. -/
structure Legible (f : Finding) : Prop where
  location : ∀ l ∈ f.location, l.file.IsText
  evidence : ∀ e ∈ f.evidence, ∀ l ∈ e.location, l.file.IsText

theorem isWhole_toValue (f : Finding) : f.toValue.isWhole ↔ f.Legible := by
  have hparts : f.toValue.isWhole ↔ (∀ l ∈ f.location, l.file.IsText) ∧
      ∀ e ∈ f.evidence, ∀ l ∈ e.location, l.file.IsText := by
    rw [toValue, Value.isWhole_object]
    simp [Value.isWhole, Value.isWhole_ofOption, Value.isWholeItems_eq_all,
      Location.isWhole_toValue, Evidence.isWhole_toValue]
  rw [hparts]
  constructor
  · intro h
    exact ⟨h.1, h.2⟩
  · intro h
    exact ⟨h.location, h.evidence⟩

theorem readsBack (f : Finding) (h : f.Addressed) (hfiles : f.Legible) :
    ReadsBack Finding.toValue Finding.ofValue? f := by
  refine ⟨nofun, ?_⟩
  have hrow := Row.ofValue?_object .json fieldNames [
    ("rule_id", .text f.ruleId),
    ("rule_name", .text f.ruleName),
    ("severity", .text f.severity.name),
    ("confidence", .text f.confidence.name),
    ("category", .text f.category.name),
    ("message", .text f.message),
    ("anchor", .nat f.anchor),
    ("location", .ofOption Location.toValue f.location),
    ("snippet", .ofOption .text f.snippet),
    ("evidence", .list (f.evidence.map Evidence.toValue)),
    ("remediation", .ofOption .text f.remediation),
    ("cwe_id", .ofOption .text f.cwe)] (by simp)
  have hseverity := (readsBack_oneOf .json Severity.all Severity.name f.severity
    f.severity.find?_name).required
  have hconfidence := (readsBack_oneOf .json Confidence.all Confidence.name f.confidence
    f.confidence.find?_name).required
  have hcategory := (readsBack_oneOf .json Category.all Category.name f.category
    f.category.find?_name).required
  have htext (s : String) := (readsBack_text s).required
  have hanchor := (readsBack_index f.anchor h.anchor).required
  have hlocation := Slot.optional_ofOption _ _ f.location fun l hl =>
    Location.readsBack (hfiles.location l hl)
  have hoptional (s : Option String) := Slot.optional_ofOption _ _ s fun s _ => readsBack_text s
  have hevidence := (readsBack_list Evidence.toValue Evidence.ofValue? f.evidence
    fun e he => e.readsBack (h.evidence e he) (hfiles.evidence e he)).required
  rw [ofValue?, toValue, hrow]
  simp [Row.slot_object, Slot.ofLookup, List.lookup_cons, htext, hseverity, hconfidence,
    hcategory, hanchor, hlocation, hoptional, hevidence]

def toJson? (f : Finding) : Option String :=
  Json.write? f.toValue

def ofJson? (json : String) : Option Finding :=
  (Json.parse? json).bind ofValue?

/-- A finding can be written exactly if the files it names are texts. -/
theorem toJson?_eq_some_iff (f : Finding) (json : String) :
    f.toJson? = some json ↔ f.Legible ∧ Json.render f.toValue = json := by
  rw [← isWhole_toValue, toJson?, Json.write?, Option.ite_none_right_eq_some, Option.some.injEq]

theorem exists_reads_back (f : Finding) (h : f.Addressed) (hfiles : f.Legible) :
    ∃ json, f.toJson? = some json ∧ ofJson? json = some f := by
  refine ⟨_, (f.toJson?_eq_some_iff _).mpr ⟨hfiles, rfl⟩, ?_⟩
  rw [ofJson?, Json.parse?_render, Option.bind_some, (f.readsBack h hfiles).decoded]

/-- Findings that were stored one by one come back as they were, with their fingerprints; and every
policy lists and judges the list that was read as it does the list that was stored. -/
theorem stored_reads_back (findings : List Finding) (h : ∀ f ∈ findings, f.Addressed)
    (hfiles : ∀ f ∈ findings, f.Legible) :
    ∃ texts, findings.mapM toJson? = some texts ∧
      let decoded := texts.mapM ofJson?
      decoded = some findings ∧
      (∀ f ∈ findings, ∃ json, f.toJson? = some json ∧ ofJson? json = some f ∧
        (ofJson? json).map fingerprint = some f.fingerprint) ∧
      ∀ p : Policy, decoded.map p.apply = some (p.apply findings) ∧
        decoded.map p.evaluate = some (p.evaluate findings) := by
  have hone : ∀ f ∈ findings, ∃ json, f.toJson? = some json ∧ ofJson? json = some f := by
    intro f hf
    exact f.exists_reads_back (h f hf) (hfiles f hf)
  obtain ⟨texts, htexts, hall⟩ := exists_mapM_eq_some toJson? ofJson? findings hone
  refine ⟨texts, htexts, hall, ?_, ?_⟩
  · intro f hf
    obtain ⟨json, hjson, hread⟩ := hone f hf
    exact ⟨json, hjson, hread, by rw [hread, Option.map_some]⟩
  · intro p
    rw [hall]
    exact ⟨rfl, rfl⟩

/-- A finding at the last position that a word can hold, with a message that needs escapes, a place
whose last line is missing, and evidence without a place. -/
def escapedFinding : Finding where
  ruleId := "plaintext-secret"
  ruleName := "Plaintext secret"
  severity := .critical
  confidence := .medium
  category := .sensitiveDataExposure
  message := "\"otp\" \\ \n\x00 ключ"
  anchor := UInt64.size - 1
  location := some ⟨.ofText "src/ключ b.php", ⟨3, 18446744073709551615, none, some 0⟩⟩
  snippet := some ""
  evidence := [
    ⟨"", 0, none, some "$otp"⟩,
    ⟨"sink", UInt64.size - 1, some ⟨.empty, ⟨1, 1, some 2, none⟩⟩, none⟩]
  remediation := none
  cwe := some "CWE-312"

theorem escapedFinding_reads_back :
    let bare : Finding := { escapedFinding with location := none, evidence := [] }
    (∀ f ∈ [escapedFinding, bare], f.Addressed) ∧ (∀ f ∈ [escapedFinding, bare], f.Legible) ∧
      ∃ texts, [escapedFinding, bare].mapM toJson? = some texts ∧
        texts.mapM ofJson? = some [escapedFinding, bare] ∧
        (escapedFinding.toJson?.bind ofJson?).map fingerprint = some escapedFinding.fingerprint ∧
        (texts.mapM ofJson?).map (fun fs => (({} : Policy).evaluate fs).pass) = some false := by
  intro bare
  have haddressed : ∀ f ∈ [escapedFinding, bare], f.Addressed := by
    have hevidence : ∀ e ∈ escapedFinding.evidence, e.node < UInt64.size := by
      simp [escapedFinding]
    intro f hf
    rcases List.mem_cons.mp hf with rfl | hf
    · exact ⟨by decide, hevidence⟩
    · rw [List.mem_singleton.mp hf]
      exact ⟨by decide, nofun⟩
  have hlegible : ∀ f ∈ [escapedFinding, bare], f.Legible := by
    have hempty : Path.empty.IsText := ⟨"", by decide +kernel⟩
    have hevidence : ∀ e ∈ escapedFinding.evidence, ∀ l ∈ e.location, l.file.IsText := by
      simp [escapedFinding, hempty]
    intro f hf
    rcases List.mem_cons.mp hf with rfl | hf
    · refine ⟨?_, hevidence⟩
      intro l hl
      rw [← Option.some.inj hl]
      exact ⟨_, rfl⟩
    · rw [List.mem_singleton.mp hf]
      exact ⟨nofun, nofun⟩
  obtain ⟨texts, htexts, hall, hone, _⟩ :=
    stored_reads_back [escapedFinding, bare] haddressed hlegible
  obtain ⟨json, hjson, _, hprint⟩ := hone escapedFinding List.mem_cons_self
  refine ⟨haddressed, hlegible, texts, htexts, hall, ?_, ?_⟩
  · rw [hjson]
    exact hprint
  · rw [hall]
    decide +kernel

end Finding

end SecurityLint
