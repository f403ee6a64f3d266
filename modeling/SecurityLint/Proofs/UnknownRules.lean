import SecurityLint.Proofs.DisabledRules
import SecurityLint.Proofs.SortedEntries

/-!
Keys in a policy that name no rule of the scanner. Each rule signs its findings with its own key,
so no finding carries one of these; a policy looks up nothing but the keys of findings, and so
judges as if they were not there.
-/
namespace SecurityLint

namespace Policy

/-- Takes a key out of the policy: the rule is neither ignored nor overridden. -/
def forget (p : Policy) (key : String) : Policy :=
  { p with ignoreRules := p.ignoreRules.erase key, overrides := p.overrides.erase key }

variable {p q : Policy} {key : String} {findings : List Finding}

theorem keeps_forget {f : Finding} (h : f.ruleId ≠ key) : (p.forget key).keeps f = p.keeps f := by
  have hcontains : (p.forget key).ignoreRules.contains f.ruleId =
      p.ignoreRules.contains f.ruleId := by
    unfold SortedMap.contains forget
    rw [SortedMap.get?_erase, if_neg (Ne.symm h)]
  unfold keeps
  rw [hcontains]
  rfl

theorem severityOf_forget {f : Finding} (h : f.ruleId ≠ key) :
    (p.forget key).severityOf f = p.severityOf f := by
  unfold severityOf forget
  rw [SortedMap.get?_erase, if_neg (Ne.symm h)]

/-- Policies with one threshold that treat each of the findings alike list and judge them alike. -/
theorem report_congr (hfailOn : p.failOn = q.failOn)
    (hkeeps : ∀ f ∈ findings, p.keeps f = q.keeps f)
    (hseverity : ∀ f ∈ findings, p.severityOf f = q.severityOf f) :
    p.apply findings = q.apply findings ∧ p.evaluate findings = q.evaluate findings := by
  have hfilter : findings.filter p.keeps = findings.filter q.keeps := List.filter_congr hkeeps
  have hkept : ∀ f ∈ findings.filter q.keeps, p.severityOf f = q.severityOf f :=
    fun f hf => hseverity f (List.mem_of_mem_filter hf)
  have htally : p.tally findings = q.tally findings := by
    unfold tally clear
    rw [hfilter, hfailOn]
    apply List.foldl_ext
    intro v f hf
    rw [count, count, hkept f hf]
  constructor
  · unfold apply
    rw [hfilter]
    apply List.map_congr_left
    intro f hf
    rw [hkept f hf]
  · rw [evaluate_eq_tally, evaluate_eq_tally, htally, hfailOn]

end Policy

/-- The keys of the rules are those of the kinds that are enabled. -/
theorem RuleSettings.mem_ids_iff {s : RuleSettings} {rules : List Rule} (h : s.rules = .ok rules)
    (id : String) : id ∈ rules.map (·.info.id) ↔
      ∃ b : Builtin, b.enabled (b.get s) = true ∧ b.info.id = id := by
  obtain ⟨parts, hparts, rfl⟩ := (rules_eq_ok_iff_parts s rules).mp h
  rw [List.mem_map]
  constructor
  · intro hrule
    obtain ⟨rule, hmem, hid⟩ := hrule
    obtain ⟨b, _, hpart⟩ := List.mem_flatMap.mp hmem
    obtain ⟨henabled, hinfo⟩ := Builtin.of_mem_ruleIf (hparts b) hpart
    exact ⟨b, henabled, by rw [← hid, hinfo]⟩
  · intro hb
    obtain ⟨b, henabled, hid⟩ := hb
    rcases (ruleIf_eq_ok_iff _ _ _).mp (hparts b) with ⟨hoff, _⟩ | ⟨_, rule, hrule, hone⟩
    · rw [henabled] at hoff
      cases hoff
    · refine ⟨rule, List.mem_flatMap.mpr ⟨b, b.mem_all, ?_⟩, ?_⟩
      · rw [hone]
        exact List.mem_singleton.mpr rfl
      · rw [Builtin.info_of_compile hrule, hid]

theorem Engine.map_id_ruleInfos (e : Engine) :
    e.ruleInfos.map (·.id) = e.rules.map (·.info.id) := by
  rw [ruleInfos, List.map_map]
  rfl

namespace Scanner

variable {config : Config} {s : Scanner}

theorem mem_unknownRules_iff (s : Scanner) (key : String) :
    key ∈ s.unknownRules ↔
      (s.policy.ignoreRules.contains key = true ∨ s.policy.overrides.contains key = true) ∧
        key ∉ s.engine.ruleInfos.map (·.id) := by
  unfold unknownRules
  rw [List.mem_mergeSort, List.mem_filter, List.mem_append, SortedMap.mem_keys_iff,
    SortedMap.mem_keys_iff]
  simp

/-- Every raw finding carries the key of a rule of the scanner. -/
theorem ruleId_mem_of_mem_scan (h : Scanner.ofConfig config = .ok s) {t : SyntaxTree} {f : Finding}
    (hf : f ∈ (s.engine.scan t).findings) : f.ruleId ∈ s.engine.rules.map (·.info.id) := by
  rw [scan_eq_visits h] at hf
  obtain ⟨v, hv, hfound⟩ := List.mem_flatMap.mp hf
  rw [Visit.findings_eq] at hfound
  have hsigned := (lawful_of_mem_visits h hv).signed v.node f hfound
  exact List.mem_map.mpr ⟨v.rule, rule_mem_of_mem_visits hv, hsigned.symm⟩

/-- A key that no rule has is not looked up, so it can be taken out of the policy. -/
theorem scan_forget (h : Scanner.ofConfig config = .ok s) {key : String}
    (hkey : key ∉ s.engine.rules.map (·.info.id)) (t : SyntaxTree) :
    Scanner.scan { s with policy := s.policy.forget key } t = s.scan t := by
  have hother : ∀ f ∈ (s.engine.scan t).findings, f.ruleId ≠ key := by
    intro f hf hsame
    exact hkey (hsame ▸ ruleId_mem_of_mem_scan h hf)
  have hfailOn : (s.policy.forget key).failOn = s.policy.failOn := rfl
  obtain ⟨hlist, hverdict⟩ := Policy.report_congr hfailOn
    (fun f hf => Policy.keeps_forget (hother f hf))
    (fun f hf => Policy.severityOf_forget (hother f hf))
  simp only [scan, hlist, hverdict]

/-- The keys that a scanner warns about are those in its policy that no enabled rule has, and they
are inert: without such a key the scanner can be made as well and gives the same report of every
tree. For every raw finding carries the key of a rule that is registered, which is the key of an
enabled one. -/
theorem unknownRules_inert (h : Scanner.ofConfig config = .ok s) :
    (∀ key, key ∈ s.unknownRules ↔
      (config.policy.ignoreRules.contains key = true ∨
        config.policy.overrides.contains key = true) ∧
      ∀ b : Builtin, b.enabled (b.get config.rules) = true → b.info.id ≠ key) ∧
    (∀ key ∈ s.unknownRules, ∃ s',
      Scanner.ofConfig { config with policy := config.policy.forget key } = .ok s' ∧
        ∀ t : SyntaxTree, s'.scan t = s.scan t) ∧
    ∀ t : SyntaxTree, ∀ f ∈ (s.engine.scan t).findings,
      f.ruleId ∈ s.engine.ruleInfos.map (·.id) ∧
        ∃ b : Builtin, b.enabled (b.get config.rules) = true ∧ b.info.id = f.ruleId := by
  obtain ⟨hvalid, rules, hrules, hs⟩ := (ofConfig_eq_ok_iff config s).mp h
  have hids : s.engine.rules = rules := by rw [hs]; rfl
  have hpolicy : s.policy = config.policy := by rw [hs]
  refine ⟨?_, ?_, ?_⟩
  · intro key
    rw [mem_unknownRules_iff, Engine.map_id_ruleInfos, hids, hpolicy,
      RuleSettings.mem_ids_iff hrules]
    simp only [not_exists, not_and, ne_eq]
  · intro key hkey
    have hunknown := ((mem_unknownRules_iff s key).mp hkey).2
    rw [Engine.map_id_ruleInfos] at hunknown
    refine ⟨{ s with policy := s.policy.forget key }, ?_, scan_forget h hunknown⟩
    apply (ofConfig_eq_ok_iff _ _).mpr
    exact ⟨hvalid, rules, hrules, by rw [hs]⟩
  · intro t f hf
    have hmem := ruleId_mem_of_mem_scan h hf
    rw [Engine.map_id_ruleInfos]
    refine ⟨hmem, ?_⟩
    rw [hids] at hmem
    exact (RuleSettings.mem_ids_iff hrules f.ruleId).mp hmem

/-- A key that is misspelt, ignored and overridden, makes no difference. -/
theorem misspelt_rule_inert :
    let config : Config := { wordConfig with policy := {
      ignoreRules := SortedSet.ofList ["mass-asignment"]
      overrides := SortedMap.empty.put "mass-asignment" .info } }
    ∃ s s', Scanner.ofConfig config = .ok s ∧ "mass-asignment" ∈ s.unknownRules ∧
      Scanner.ofConfig { config with policy := config.policy.forget "mass-asignment" } = .ok s' ∧
      s'.scan storageTree = s.scan storageTree := by
  intro config
  obtain ⟨word, hword, _⟩ := exists_ofConfig_word
  obtain ⟨hvalid, rules, hrules, _⟩ := (ofConfig_eq_ok_iff _ _).mp hword
  have hs := (ofConfig_eq_ok_iff config _).mpr ⟨hvalid, rules, hrules, rfl⟩
  obtain ⟨hunknown, hinert, _⟩ := unknownRules_inert hs
  have hkey := (hunknown "mass-asignment").mpr
    ⟨.inl (by decide +kernel), fun b _ => by cases b <;> decide⟩
  obtain ⟨s', hs', hscan⟩ := hinert _ hkey
  exact ⟨_, s', hs, hkey, hs', hscan storageTree⟩

end Scanner

end SecurityLint
