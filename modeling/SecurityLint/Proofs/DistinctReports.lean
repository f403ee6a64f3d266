import SecurityLint.Proofs.Identity
import SecurityLint.Proofs.MarkupChecks

/-!
No two reports of a scan are alike. Findings of one rule differ in anchor or message, be they
of one visit or of two, and findings of different rules carry different keys. A host that drops
reports with a fingerprint seen before thus drops none of a single scan; the bytes that are hashed
tell the reports apart as long as no byte of the path can be taken for a separator.
-/
namespace SecurityLint

variable {t : SyntaxTree}

namespace Finding

/-- What no two findings of a scan have in common. -/
def key (f : Finding) : String × NodeId × String :=
  (f.ruleId, f.anchor, f.message)

theorem Differs.key_ne {f g : Finding} (h : f.Differs g) : f.key ≠ g.key := by
  intro hkey
  obtain ⟨_, hanchor, hmessage⟩ := by simpa only [key, Prod.mk.injEq] using hkey
  exact h hanchor hmessage

theorem key_ne_of_ruleId_ne {f g : Finding} (h : f.ruleId ≠ g.ruleId) : f.key ≠ g.key :=
  fun hkey => h (congrArg Prod.fst hkey)

end Finding

/-- Two visits with lawful rules have no report in common: they differ in the node or in the
rule. -/
theorem Visit.key_ne {rules : List Rule} (hlawful : ∀ rule ∈ rules, rule.Lawful)
    (hids : (rules.map (·.info.id)).Nodup) {v w : Visit t} (hv : v ∈ visits rules t)
    (hw : w ∈ visits rules t) (hne : (v.node, v.index) ≠ (w.node, w.index)) :
    ∀ f ∈ v.findings, ∀ g ∈ w.findings, f.key ≠ g.key := by
  have hvlaw := hlawful v.rule (rule_mem_of_mem_visits hv)
  have hwlaw := hlawful w.rule (rule_mem_of_mem_visits hw)
  have hvrule := ((mem_visits_iff rules v).mp hv).1
  have hwrule := ((mem_visits_iff rules w).mp hw).1
  intro f hf g hg
  rw [findings_eq] at hf hg
  by_cases hindex : v.index = w.index
  · have hrule : v.rule = w.rule := by
      rw [hindex, hwrule, Option.some.injEq] at hvrule
      exact hvrule.symm
    have hnode : v.node ≠ w.node := fun hnode => hne (by rw [hnode, hindex])
    rw [← hrule] at hg
    exact (hvlaw.apart hnode f hf g hg).key_ne
  · apply Finding.key_ne_of_ruleId_ne
    rw [hvlaw.signed v.node f hf, hwlaw.signed w.node g hg]
    intro hid
    have hvid : (rules.map (·.info.id))[v.index]? = some v.rule.info.id := by
      rw [List.getElem?_map, hvrule, Option.map_some]
    have hwid : (rules.map (·.info.id))[w.index]? = some w.rule.info.id := by
      rw [List.getElem?_map, hwrule, Option.map_some]
    have hlt := (List.getElem?_eq_some_iff.mp hvid).1
    exact hindex ((List.getElem?_inj hlt hids).mp (by rw [hvid, hwid, hid]))

theorem nodup_keys_visits {rules : List Rule} (hlawful : ∀ rule ∈ rules, rule.Lawful)
    (hids : (rules.map (·.info.id)).Nodup) (t : SyntaxTree) :
    (((visits rules t).flatMap Visit.findings).map Finding.key).Nodup := by
  rw [List.Nodup, List.pairwise_map, List.pairwise_flatMap]
  constructor
  · intro v hv
    rw [Visit.findings_eq]
    have hdiffer := (hlawful v.rule (rule_mem_of_mem_visits hv)).differ v.node
    exact hdiffer.imp Finding.Differs.key_ne
  · have hvisits := nodup_visits rules t
    rw [List.Nodup, List.pairwise_map] at hvisits
    refine hvisits.imp_of_mem ?_
    intro v w hv hw hne
    exact Visit.key_ne hlawful hids hv hw hne

/-- The findings of a scan that carry the key of a rule are what the rule reports on the nodes of
its kinds. -/
theorem mem_findings_visits_iff {rules : List Rule} (hlawful : ∀ rule ∈ rules, rule.Lawful)
    (hids : (rules.map (·.info.id)).Nodup) {rule : Rule} (hrule : rule ∈ rules) (f : Finding) :
    f ∈ (visits rules t).flatMap Visit.findings ∧ f.ruleId = rule.info.id ↔
      ∃ c : Cursor t, c.kind ∈ rule.kinds ∧ f ∈ rule.findings c := by
  constructor
  · rintro ⟨hf, hid⟩
    obtain ⟨v, hv, hf⟩ := List.mem_flatMap.mp hf
    have hmem := rule_mem_of_mem_visits hv
    rw [Visit.findings_eq] at hf
    have hsame : v.rule = rule := by
      apply List.inj_on_of_nodup_map hids hmem hrule
      rw [← (hlawful v.rule hmem).signed v.node f hf, hid]
    rw [← hsame]
    exact ⟨v.node, ((mem_visits_iff rules v).mp hv).2, hf⟩
  · rintro ⟨c, hkind, hf⟩
    obtain ⟨i, hi⟩ := List.getElem?_of_mem hrule
    refine ⟨List.mem_flatMap.mpr ⟨⟨c, i, rule⟩, ?_, ?_⟩, (hlawful rule hrule).signed c f hf⟩
    · exact (mem_visits_iff rules _).mpr ⟨hi, hkind⟩
    · rwa [Visit.findings_eq]

/-- A policy takes findings away, and changes nothing in the others that is not their severity. -/
theorem Policy.map_apply_sublist {α : Type} (p : Policy) (findings : List Finding)
    (view : Finding → α) (hview : ∀ f severity, view (f.withSeverity severity) = view f) :
    ((p.apply findings).map view).Sublist (findings.map view) := by
  rw [p.map_apply findings hview]
  exact List.filter_sublist.map view

/-- Findings with different keys differ in everything from which their keys can be told. -/
theorem nodup_map_of_nodup_keys {α : Type} {findings : List Finding}
    (h : (findings.map Finding.key).Nodup) (view : Finding → α)
    (hview : ∀ f ∈ findings, ∀ g ∈ findings, view f = view g → f.key = g.key) :
    (findings.map view).Nodup := by
  rw [List.Nodup, List.pairwise_map] at h ⊢
  refine h.imp_of_mem ?_
  intro f g hf hg hne hsame
  exact hne (hview f hf g hg hsame)

namespace Finding.Within

variable {f : Finding} {c : Cursor t}

theorem anchor_lt (h : f.Within c) : f.anchor < t.size := by
  obtain ⟨d, _, hanchor, _⟩ := h.anchor
  rw [hanchor]
  exact d.inside

/-- A finding is in the file of its tree, or has no location. -/
theorem file_eq (h : f.Within c) : f.file = .empty ∨ f.file = t.path.getD .empty := by
  obtain ⟨d, _, _, hlocation, _⟩ := h.anchor
  rw [file, hlocation]
  cases hspan : t.location? d.id with
  | none => exact .inl rfl
  | some location =>
    right
    simp only [SyntaxTree.location?, Option.bind_eq_bind, Option.bind_eq_some_iff,
      Option.pure_def, Option.some.injEq] at hspan
    obtain ⟨_, _, _, _, rfl⟩ := hspan
    rfl

theorem zero_not_mem_file (h : f.Within c) (hpath : 0 ∉ (t.path.getD .empty).bytes) :
    0 ∉ f.file.bytes := by
  obtain hfile | hfile := h.file_eq
  · rw [hfile]
    exact List.not_mem_nil
  · rwa [hfile]

end Finding.Within

namespace Scanner

variable {config : Config} {s : Scanner}

theorem nodup_keys_scan (h : Scanner.ofConfig config = .ok s) (t : SyntaxTree) :
    ((s.engine.scan t).findings.map Finding.key).Nodup := by
  obtain ⟨rules, hrules, hengine, _⟩ := exists_of_ofConfig h
  have hids : (s.engine.rules.map (·.info.id)).Nodup := by
    rw [hengine]
    exact RuleSettings.nodup_ids hrules
  rw [scan_eq_visits h]
  exact nodup_keys_visits (lawful_of_mem h) hids t

theorem nul_not_mem_ruleId (h : Scanner.ofConfig config = .ok s) {rule : Rule}
    (hrule : rule ∈ s.engine.rules) : '\x00' ∉ rule.info.id.toList := by
  obtain ⟨rules, hrules, hengine, _⟩ := exists_of_ofConfig h
  rw [hengine] at hrule
  have hmem := (RuleSettings.ids_sublist hrules).subset (List.mem_map_of_mem hrule)
  have hall : ∀ id ∈ RuleSettings.allIds, '\x00' ∉ id.toList := by decide +kernel
  exact hall _ hmem

theorem nodup_identities_scan (h : Scanner.ofConfig config = .ok s) (t : SyntaxTree)
    (hpath : 0 ∉ (t.path.getD .empty).bytes) (hsize : t.size ≤ UInt64.size) :
    ((s.engine.scan t).findings.map Finding.identity).Nodup := by
  have hframed : ∀ f ∈ (s.engine.scan t).findings, f.Framed := by
    intro f hf
    rw [scan_eq_visits h] at hf
    obtain ⟨v, hv, hf⟩ := List.mem_flatMap.mp hf
    have hlaw := lawful_of_mem_visits h hv
    rw [Visit.findings_eq] at hf
    have hwithin := hlaw.within v.node f hf
    refine ⟨?_, hwithin.zero_not_mem_file hpath, Nat.lt_of_lt_of_le hwithin.anchor_lt hsize⟩
    rw [hlaw.signed v.node f hf]
    exact nul_not_mem_ruleId h (rule_mem_of_mem_visits hv)
  refine nodup_map_of_nodup_keys (nodup_keys_scan h t) Finding.identity ?_
  intro f hf g hg hsame
  obtain ⟨hrule, _, hanchor, hmessage⟩ :=
    Finding.eq_of_identity_eq (hframed f hf) (hframed g hg) hsame
  rw [Finding.key, Finding.key, hrule, hanchor, hmessage]

/-- No two raw findings of a scan agree in rule, anchor and message, and so no two of the findings
that count do. The data that a fingerprint is taken of therefore tell all reports of one scan
apart; so do the bytes of these data, if there is no zero in the path and an anchor has
64 bits. -/
theorem reports_distinct (h : Scanner.ofConfig config = .ok s) (t : SyntaxTree) :
    ((s.engine.scan t).findings.map fun f => (f.ruleId, f.anchor, f.message)).Nodup ∧
    ((s.scan t).findings.map fun f => (f.ruleId, f.anchor, f.message)).Nodup ∧
    ((s.scan t).findings.map fun f => (f.ruleId, f.file.lossy, f.anchor, f.message)).Nodup ∧
    (0 ∉ (t.path.getD .empty).bytes → t.size ≤ UInt64.size →
      ((s.scan t).findings.map Finding.identity).Nodup) := by
  have hraw := nodup_keys_scan h t
  have hkeys : ((s.scan t).findings.map Finding.key).Nodup :=
    hraw.sublist (s.policy.map_apply_sublist _ Finding.key fun _ _ => rfl)
  refine ⟨hraw, hkeys, ?_, ?_⟩
  · refine nodup_map_of_nodup_keys hkeys _ ?_
    intro f _ g _ hsame
    simp only [Prod.mk.injEq] at hsame
    rw [Finding.key, Finding.key, hsame.1, hsame.2.2.1, hsame.2.2.2]
  · intro hpath hsize
    exact (nodup_identities_scan h t hpath hsize).sublist
      (s.policy.map_apply_sublist _ Finding.identity fun _ _ => rfl)

/-- Two reports of one rule about one node are told apart by their messages, in the keys and in
the bytes that are hashed. -/
theorem markupTree_reports_distinct : ∃ s, Scanner.ofConfig wordConfig = .ok s ∧
    (∃ f ∈ (s.engine.scan markupTree).findings, ∃ g ∈ (s.engine.scan markupTree).findings,
      f.ruleId = g.ruleId ∧ f.anchor = g.anchor ∧ f.message ≠ g.message) ∧
    ((s.engine.scan markupTree).findings.map fun f => (f.ruleId, f.anchor, f.message)).Nodup ∧
    ((s.scan markupTree).findings.map Finding.identity).Nodup := by
  obtain ⟨s, hs, _⟩ := exists_ofConfig_word
  obtain ⟨hraw, _, _, hidentities⟩ := reports_distinct hs markupTree
  exact ⟨s, hs, exists_findings_markupTree hs, hraw,
    hidentities (by decide +kernel) (by decide +kernel)⟩

end Scanner

end SecurityLint
