import SecurityLint.Proofs.JoinedVerdicts

/-!
Policies compared by leniency. One that fails later, drops more and overrides by lower severities
keeps only findings that the other keeps, and none of them counts as more severe. All that a verdict
says goes down with that, and the threshold goes up, so easing a policy never fails a scan.
-/
namespace SecurityLint

/-- The highest severity goes down with the findings. -/
theorem Verdict.Tallies.highest_le {v w : Verdict} {xs ys : List Finding} (hv : v.Tallies xs)
    (hw : w.Tallies ys) (h : ∀ f ∈ xs, ∃ g ∈ ys, f.severity ≤ g.severity) :
    v.highest ≤ w.highest := by
  cases hs : v.highest with
  | none => exact Option.none_le
  | some s =>
    obtain ⟨⟨f, hf, hfs⟩, _⟩ := (hv.highest_eq_some_iff s).mp hs
    obtain ⟨g, hg, hle⟩ := h f hf
    rw [hfs] at hle
    cases hr : w.highest with
    | none =>
      have hempty : ys = [] := hw.highest_eq_none_iff.mp hr
      rw [hempty] at hg
      cases hg
    | some r =>
      obtain ⟨_, hall⟩ := (hw.highest_eq_some_iff r).mp hr
      exact Option.some_le_some.mpr (le_trans hle (hall g hg))

theorem ruleCount_eq_countP_map (findings : List Finding) (id : String) :
    ruleCount findings id = (findings.map Finding.ruleId).countP (· == id) := by
  rw [List.countP_map]
  rfl

namespace Policy

/-- The policy `q` is at least as lenient as `p`: it fails at no lower severity, ignores what `p`
ignores, has no lower floor of confidence, where no floor is the lowest, and overrides the same
rules, by severities that are no higher. -/
structure EasedBy (p q : Policy) : Prop where
  failOn : p.failOn ≤ q.failOn
  ignoreRules : ∀ id, p.ignoreRules.contains id = true → q.ignoreRules.contains id = true
  minConfidence : p.minConfidence ≤ q.minConfidence
  overridden : ∀ id, p.overrides.contains id = q.overrides.contains id
  overrides : ∀ id s r, q.overrides.get? id = some s → p.overrides.get? id = some r → s ≤ r

variable {p q : Policy} (findings : List Finding)

/-- What the more lenient policy keeps, the other keeps too. -/
theorem EasedBy.keeps (h : p.EasedBy q) {f : Finding} (hkept : q.keeps f = true) :
    p.keeps f = true := by
  rw [keeps_iff] at hkept ⊢
  obtain ⟨hignored, hfloor⟩ := hkept
  constructor
  · by_contra hsome
    have hp : p.ignoreRules.contains f.ruleId = true := Option.isSome_iff_ne_none.mpr hsome
    have hq := h.ignoreRules f.ruleId hp
    rw [SortedMap.contains, hignored] at hq
    cases hq
  · intro floor hp
    have hle := h.minConfidence
    rw [hp] at hle
    cases hq : q.minConfidence with
    | none =>
      rw [hq] at hle
      exact absurd hle Option.not_some_le_none
    | some higher =>
      rw [hq] at hle
      have hreached : higher.rank ≤ f.confidence.rank := hfloor higher hq
      exact Nat.le_trans (Option.some_le_some.mp hle) hreached

theorem EasedBy.severityOf_le (h : p.EasedBy q) (f : Finding) :
    q.severityOf f ≤ p.severityOf f := by
  have hsame := h.overridden f.ruleId
  unfold severityOf
  unfold SortedMap.contains at hsame
  cases hp : p.overrides.get? f.ruleId with
  | none =>
    rw [hp] at hsame
    have hq : q.overrides.get? f.ruleId = none :=
      Option.isNone_iff_eq_none.mp (Option.isSome_eq_false_iff.mp hsame.symm)
    rw [hq]
  | some r =>
    rw [hp] at hsame
    obtain ⟨s, hq⟩ := Option.isSome_iff_exists.mp hsame.symm
    rw [hq]
    exact h.overrides f.ruleId s r hq hp

/-- Severities aside, the more lenient policy lists some of what the other lists, in its order. -/
theorem EasedBy.map_apply_sublist {α : Type} (h : p.EasedBy q) (view : Finding → α)
    (hview : ∀ f severity, view (f.withSeverity severity) = view f) :
    ((q.apply findings).map view).Sublist ((p.apply findings).map view) := by
  rw [q.map_apply findings hview, p.map_apply findings hview]
  exact (List.monotone_filter_right findings fun f hf => h.keeps hf).map view

theorem EasedBy.exists_severity_le (h : p.EasedBy q) :
    ∀ g ∈ q.apply findings, ∃ f ∈ p.apply findings, g.severity ≤ f.severity := by
  intro g hg
  obtain ⟨f, hf, rfl⟩ := List.mem_map.mp hg
  obtain ⟨hmem, hkept⟩ := List.mem_filter.mp hf
  have hp : f ∈ findings.filter p.keeps := List.mem_filter.mpr ⟨hmem, h.keeps hkept⟩
  exact ⟨p.effective f, List.mem_map_of_mem hp, h.severityOf_le f⟩

theorem EasedBy.ruleCount_le (h : p.EasedBy q) (id : String) :
    ruleCount (q.apply findings) id ≤ ruleCount (p.apply findings) id := by
  rw [ruleCount_eq_countP_map, ruleCount_eq_countP_map]
  exact (h.map_apply_sublist findings Finding.ruleId fun _ _ => rfl).countP_le

theorem EasedBy.pass (h : p.EasedBy q) (hpass : (p.evaluate findings).pass = true) :
    (q.evaluate findings).pass = true := by
  rw [(p.evaluate_reads findings).pass, evaluate_threshold] at hpass
  rw [(q.evaluate_reads findings).pass, evaluate_threshold]
  intro g hg
  obtain ⟨f, hf, hle⟩ := h.exists_severity_le findings g hg
  calc g.severity ≤ f.severity := hle
    _ < p.failOn := hpass f hf
    _ ≤ q.failOn := h.failOn

/-- Easing a policy only takes from its verdicts. What passed still passes, no more findings count,
neither in all nor for any rule, the highest severity is no higher, and the findings that are
listed are, severities aside, some of those that were listed before, in the same order. -/
theorem evaluate_le_of_easedBy (h : p.EasedBy q) :
    ((p.evaluate findings).pass = true → (q.evaluate findings).pass = true) ∧
    (q.evaluate findings).effective ≤ (p.evaluate findings).effective ∧
    (∀ id, (q.evaluate findings).byRule.get? id ≤ (p.evaluate findings).byRule.get? id) ∧
    (q.evaluate findings).highest ≤ (p.evaluate findings).highest ∧
    ∀ severity, ((q.apply findings).map fun f => f.withSeverity severity).Sublist
      ((p.apply findings).map fun f => f.withSeverity severity) := by
  have hp := (p.evaluate_reads findings).toTallies
  have hq := (q.evaluate_reads findings).toTallies
  refine ⟨h.pass findings, ?_, ?_, hq.highest_le hp (h.exists_severity_le findings), ?_⟩
  · have hlength := (h.map_apply_sublist findings Finding.ruleId fun _ _ => rfl).length_le
    rw [List.length_map, List.length_map] at hlength
    rw [hq.effective, hp.effective]
    exact hlength
  · intro id
    have hcount := h.ruleCount_le findings id
    rw [hq.byRule, hp.byRule]
    by_cases hzero : ruleCount (q.apply findings) id = 0
    · rw [if_pos hzero]
      exact Option.none_le
    · have hpositive : ruleCount (p.apply findings) id ≠ 0 := by omega
      rw [if_neg hzero, if_neg hpositive]
      exact Option.some_le_some.mpr hcount
  · intro severity
    exact h.map_apply_sublist findings _ fun _ _ => rfl

/-- A secret that is overridden passes; it still does when a rule is ignored, findings that are not
certain are dropped and the override goes further down. -/
theorem secret_passes_when_eased :
    let p : Policy := {
      failOn := .critical
      overrides := SortedMap.empty.put PlaintextSecret.info.id .high }
    let q : Policy := {
      failOn := .critical
      ignoreRules := SortedSet.ofList [UnsafeMarkup.info.id]
      overrides := SortedMap.empty.put PlaintextSecret.info.id .low
      minConfidence := some .medium }
    let findings := [bareFinding PlaintextSecret.info .critical,
      bareFinding UnsafeMarkup.info .medium]
    p.EasedBy q ∧ (p.evaluate findings).pass = true ∧ (q.evaluate findings).pass = true ∧
      (q.evaluate findings).highest ≤ (p.evaluate findings).highest := by
  intro p q findings
  have heased : p.EasedBy q := {
    failOn := le_refl _
    ignoreRules := by
      intro id hp
      cases hp
    minConfidence := Option.none_le
    overridden := by
      intro id
      rw [SortedMap.contains, SortedMap.contains, SortedMap.get?_put, SortedMap.get?_put]
      by_cases hid : PlaintextSecret.info.id = id
      · rw [if_pos hid, if_pos hid]
        rfl
      · rw [if_neg hid, if_neg hid]
    overrides := by
      intro id s r hs hr
      rw [SortedMap.get?_put] at hs hr
      by_cases hid : PlaintextSecret.info.id = id
      · rw [if_pos hid, Option.some.injEq] at hs hr
        rw [← hs, ← hr]
        decide
      · rw [if_neg hid] at hs
        cases hs }
  have hpass : (p.evaluate findings).pass = true := by decide +kernel
  obtain ⟨hmono, _, _, hhighest, _⟩ := evaluate_le_of_easedBy findings heased
  exact ⟨heased, hpass, hmono hpass, hhighest⟩

end Policy

end SecurityLint
