import SecurityLint.Proofs.UniformScan

/-!
Subscriptions leave nothing out. The rules of a scanner are selective: shown a node of a kind that
it does not want, a rule asks nothing and reports nothing, so the visit leaves the state of the
scan as it was. Showing every node to every rule is therefore the same scan, with more visits.
-/
namespace SecurityLint

variable {t : SyntaxTree} {rules : List Rule}

namespace Engine

variable {σ : Type}

/-- Scans a tree by showing every node to every rule, whatever kinds the rules want. -/
def scanAllInto (e : Engine) (t : SyntaxTree) (report : σ → Finding → σ) (sink : σ) :
    σ × List Diagnostic :=
  let p : Progress σ t := t.cursors.foldl
    (fun p c => e.rules.foldl (present report c) p)
    { memo := Memo.empty t, sink }
  (p.sink, p.diagnostics.toList)

def scanAll (e : Engine) (t : SyntaxTree) : Outcome :=
  let (findings, diagnostics) := e.scanAllInto t Array.push #[]
  { findings := findings.toList, diagnostics }

/-- A visit of a node that the rule does not want changes nothing. -/
theorem present_eq_self {rule : Rule} (hrule : rule.Selective) {c : Cursor t}
    (hkind : c.kind ∉ rule.kinds) (report : σ → Finding → σ) (p : Progress σ t) :
    present report c p rule = p := by
  have hrun : (rule.visit t c).run p.memo = (.ok [], p.memo) := by
    rw [hrule c hkind]
    rfl
  rw [present, hrun]
  rfl

theorem foldl_present_filter (hselective : ∀ rule ∈ rules, rule.Selective)
    (report : σ → Finding → σ) (c : Cursor t) (p : Progress σ t) :
    (rules.filter fun rule => c.kind ∈ rule.kinds).foldl (present report c) p =
      rules.foldl (present report c) p := by
  induction rules generalizing p with
  | nil => rfl
  | cons rule rules ih =>
    obtain ⟨hrule, hrest⟩ := List.forall_mem_cons.mp hselective
    by_cases hkind : c.kind ∈ rule.kinds
    · rw [List.filter_cons_of_pos (by simpa using hkind), List.foldl_cons, List.foldl_cons,
        ih hrest]
    · rw [List.filter_cons_of_neg (by simpa using hkind), List.foldl_cons,
        present_eq_self hrule hkind, ih hrest]

theorem scanInto_eq_scanAllInto (hselective : ∀ rule ∈ rules, rule.Selective) (t : SyntaxTree)
    (report : σ → Finding → σ) (sink : σ) :
    (Engine.ofRules rules).scanInto t report sink =
      (Engine.ofRules rules).scanAllInto t report sink := by
  have hnode (c : Cursor t) (p : Progress σ t) :
      ((Engine.ofRules rules).subscribers c.kind).foldl (present report c) p =
        rules.foldl (present report c) p := by
    rw [subscribers_eq_filter, foldl_present_filter hselective]
  simp only [scanInto, scanAllInto, hnode]
  rfl

end Engine

theorem Rule.Selective.findings_eq_nil {rule : Rule} (h : rule.Selective) {c : Cursor t}
    (hkind : c.kind ∉ rule.kinds) : rule.findings c = [] := by
  rw [Rule.findings, h c hkind]
  rfl

theorem findingsAt_eq_flatMap (hselective : ∀ rule ∈ rules, rule.Selective) (c : Cursor t) :
    findingsAt rules c = rules.flatMap fun rule => rule.findings c := by
  rw [findingsAt]
  induction rules with
  | nil => rfl
  | cons rule rules ih =>
    obtain ⟨hrule, hrest⟩ := List.forall_mem_cons.mp hselective
    by_cases hkind : c.kind ∈ rule.kinds
    · rw [List.filter_cons_of_pos (by simpa using hkind), List.flatMap_cons, List.flatMap_cons,
        ih hrest]
    · rw [List.filter_cons_of_neg (by simpa using hkind), List.flatMap_cons,
        hrule.findings_eq_nil hkind, List.nil_append, ih hrest]

namespace Scanner

variable {config : Config} {s : Scanner}

theorem selective_of_mem (h : Scanner.ofConfig config = .ok s) :
    ∀ rule ∈ s.engine.rules, rule.Selective := by
  obtain ⟨rules, hrules, hengine, _⟩ := exists_of_ofConfig h
  rw [hengine]
  exact RuleSettings.selective_of_mem_rules hrules

/-- The scan that goes by subscriptions is the scan that shows every node, in document order, to
every rule, in the order of the rules: it tells any sink the same findings and leaves the same
diagnostics. A rule that is shown a node of a kind that it does not want has no findings, and the
memo stays as it was. -/
theorem scan_eq_scanAll (h : Scanner.ofConfig config = .ok s) (t : SyntaxTree) :
    (∀ {σ : Type} (report : σ → Finding → σ) (sink : σ),
      s.engine.scanInto t report sink = s.engine.scanAllInto t report sink) ∧
    s.engine.scan t = s.engine.scanAll t ∧
    (s.engine.scan t).findings =
      t.cursors.flatMap (fun c => s.engine.rules.flatMap fun rule => rule.findings c) ∧
    ∀ rule ∈ s.engine.rules, ∀ c : Cursor t, c.kind ∉ rule.kinds →
      ∀ m : Memo t, (rule.visit t c).run m = (.ok [], m) := by
  have hselective := selective_of_mem h
  have hinto {σ : Type} (report : σ → Finding → σ) (sink : σ) :
      s.engine.scanInto t report sink = s.engine.scanAllInto t report sink := by
    rw [engine_eq h]
    exact Engine.scanInto_eq_scanAllInto hselective t report sink
  refine ⟨hinto, ?_, ?_, ?_⟩
  · rw [Engine.scan, Engine.scanAll, hinto]
  · rw [findings_scan h, t.cursors_eq_order]
    congr 1
    funext c
    exact findingsAt_eq_flatMap hselective c
  · intro rule hrule c hkind m
    rw [hselective rule hrule c hkind]
    rfl

/-- The file around a call that stores secrets is of a kind that no rule wants. -/
theorem storageTree_scan_eq_scanAll : ∃ s, Scanner.ofConfig wordConfig = .ok s ∧
    s.engine.rules.map (·.info.id) = RuleSettings.allIds ∧
    s.engine.scan storageTree = s.engine.scanAll storageTree ∧
    ∀ rule ∈ s.engine.rules, ∀ m,
      (rule.visit storageTree storageTree.rootCursor).run m = (.ok [], m) := by
  obtain ⟨s, hs, hids⟩ := exists_ofConfig_word
  obtain ⟨_, hscan, _, hsilent⟩ := scan_eq_scanAll hs storageTree
  refine ⟨s, hs, hids, hscan, ?_⟩
  intro rule hrule
  apply hsilent rule hrule
  obtain ⟨rules, hrules, hengine, _⟩ := exists_of_ofConfig hs
  rw [hengine] at hrule
  exact RuleSettings.file_not_mem_kinds hrules rule hrule

end Scanner

end SecurityLint
