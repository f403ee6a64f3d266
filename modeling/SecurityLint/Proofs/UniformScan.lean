import SecurityLint.Proofs.ScanSafety
import SecurityLint.Proofs.Verdicts

/-!
What a scan reports, node by node. The raw findings are those of the nodes in document order,
each with the rules that want its kind; the rules are uniform, so lists of counterparts give
findings that say the same about counterparts.
-/
namespace SecurityLint

variable {t u : SyntaxTree} {R : Cursor t → Cursor u → Prop} {rules : List Rule}

/-- What the rules report on a node, one after the other. -/
def findingsAt (rules : List Rule) (c : Cursor t) : List Finding :=
  (rules.filter fun rule => c.kind ∈ rule.kinds).flatMap fun rule => rule.findings c

theorem flatMap_findings_visits (rules : List Rule) (t : SyntaxTree) :
    (visits rules t).flatMap Visit.findings = t.rootCursor.order.flatMap (findingsAt rules) := by
  rw [visits, List.flatMap_assoc]
  congr 1
  funext c
  rw [findingsAt, ← map_fst_filter_zipIdx, List.flatMap_map, List.flatMap_map]
  congr 1
  funext r
  exact Visit.findings_eq _

theorem findingsAt_of_file (hkinds : ∀ rule ∈ rules, .file ∉ rule.kinds) {c : Cursor t}
    (h : c.kind = .file) : findingsAt rules c = [] := by
  have hnone : (rules.filter fun rule => c.kind ∈ rule.kinds) = [] := by
    rw [h, List.filter_eq_nil_iff]
    intro rule hrule
    simpa using hkinds rule hrule
  rw [findingsAt, hnone, List.flatMap_nil]

theorem like_findingsAt (huniform : ∀ rule ∈ rules, rule.Uniform) (h : Counterparts R)
    {c : Cursor t} {d : Cursor u} (hcd : R c d) :
    List.Forall₂ (Finding.Like R) (findingsAt rules c) (findingsAt rules d) := by
  rw [findingsAt, findingsAt, h.kind hcd]
  have hsame : List.Forall₂ (fun rule rule' : Rule => rule.Uniform ∧ rule' = rule)
      (rules.filter fun rule => c.kind ∈ rule.kinds)
      (rules.filter fun rule => c.kind ∈ rule.kinds) := by
    rw [List.forall₂_same]
    intro rule hrule
    exact ⟨huniform rule (List.mem_of_mem_filter hrule), rfl⟩
  refine List.rel_flatMap hsame ?_
  rintro rule _ ⟨hrule, rfl⟩
  exact hrule h hcd

/-- Lists of counterparts give findings that say the same about counterparts. -/
theorem like_flatMap_findingsAt (huniform : ∀ rule ∈ rules, rule.Uniform) (h : Counterparts R)
    {nodes : List (Cursor t)} {nodes' : List (Cursor u)} (hnodes : List.Forall₂ R nodes nodes') :
    List.Forall₂ (Finding.Like R) (nodes.flatMap (findingsAt rules))
      (nodes'.flatMap (findingsAt rules)) :=
  List.rel_flatMap hnodes fun _ _ hcd => like_findingsAt huniform h hcd

namespace Scanner

variable {config : Config} {s : Scanner}

theorem findings_scan (h : Scanner.ofConfig config = .ok s) (t : SyntaxTree) :
    (s.engine.scan t).findings = t.rootCursor.order.flatMap (findingsAt s.engine.rules) := by
  rw [scan_eq_visits h, flatMap_findings_visits]

theorem mem_findings_scan (h : Scanner.ofConfig config = .ok s) {rule : Rule}
    (hrule : rule ∈ s.engine.rules) {c : Cursor t} (hkind : c.kind ∈ rule.kinds) {f : Finding}
    (hf : f ∈ rule.findings c) : f ∈ (s.engine.scan t).findings := by
  have hwanted : rule ∈ s.engine.rules.filter fun rule => c.kind ∈ rule.kinds :=
    List.mem_filter.mpr ⟨hrule, decide_eq_true hkind⟩
  rw [findings_scan h]
  exact List.mem_flatMap.mpr ⟨c, t.mem_order_rootCursor c, List.mem_flatMap.mpr ⟨rule, hwanted, hf⟩⟩

theorem diagnostics_scan (h : Scanner.ofConfig config = .ok s) (t : SyntaxTree) :
    (s.engine.scan t).diagnostics = [] := by
  rw [scan_eq_visits h]

theorem uniform_of_mem (h : Scanner.ofConfig config = .ok s) :
    ∀ rule ∈ s.engine.rules, rule.Uniform := by
  obtain ⟨rules, hrules, hengine, _⟩ := exists_of_ofConfig h
  rw [hengine]
  exact RuleSettings.uniform_of_mem_rules hrules

/-- Nothing is reported on a file as a whole. -/
theorem findingsAt_file (h : Scanner.ofConfig config = .ok s) {c : Cursor t}
    (hkind : c.kind = .file) : findingsAt s.engine.rules c = [] := by
  obtain ⟨rules, hrules, hengine, _⟩ := exists_of_ofConfig h
  rw [hengine]
  exact findingsAt_of_file (RuleSettings.file_not_mem_kinds hrules) hkind

/-- Trees whose roots are counterparts are reported alike. -/
theorem like_scan (h : Scanner.ofConfig config = .ok s) (hpairs : Counterparts R)
    (hroot : R t.rootCursor u.rootCursor) :
    List.Forall₂ (Finding.Like R) (s.engine.scan t).findings (s.engine.scan u).findings := by
  rw [findings_scan h, findings_scan h]
  exact like_flatMap_findingsAt (uniform_of_mem h) hpairs (hpairs.order hroot)

/-- Reports on raw findings that a policy cannot tell apart differ as these do. -/
theorem scan_eq_of_findings (h : Scanner.ofConfig config = .ok s) {view : Finding → Finding}
    (hblind : Policy.BlindTo view)
    (hraw : (s.engine.scan u).findings = (s.engine.scan t).findings.map view) :
    s.scan u = { s.scan t with findings := (s.scan t).findings.map view } := by
  simp only [Scanner.scan, hraw, diagnostics_scan h, s.policy.apply_map hblind,
    s.policy.evaluate_map hblind]

end Scanner

end SecurityLint
