import Mathlib.Data.List.Forall2
import Mathlib.Order.MinMax
import SecurityLint.Fingerprint
import SecurityLint.Scanner

/-!
A policy reads the raw findings twice: once to count them into a verdict, once to list those that
count. The two readings agree, as counting one more finding and listing one more finding keep step
with each other. What was listed is kept as it is by listing it again, so a verdict can be
checked against the report that it comes with.
-/
namespace SecurityLint

namespace Severity

theorem rank_injective {a b : Severity} (h : a.rank = b.rank) : a = b := by
  cases a <;> cases b <;> first | rfl | cases h

instance : LinearOrder Severity where
  le_refl a := Nat.le_refl a.rank
  le_trans _ _ _ := Nat.le_trans
  le_antisymm _ _ hab hba := rank_injective (Nat.le_antisymm hab hba)
  le_total a b := Nat.le_total a.rank b.rank
  lt_iff_le_not_ge _ _ := Nat.lt_iff_le_and_not_ge
  toDecidableLE := inferInstance
  max_def _ _ := rfl

end Severity

/-- The number of findings of a rule. -/
def ruleCount (shown : List Finding) (id : String) : Nat :=
  shown.countP (·.ruleId == id)

namespace Verdict

/-- The counts of a verdict are those of the findings that are shown. -/
structure Tallies (v : Verdict) (shown : List Finding) : Prop where
  effective : v.effective = shown.length
  highest_eq_none_iff : v.highest = none ↔ shown = []
  highest_eq_some_iff : ∀ s, v.highest = some s ↔
    (∃ f ∈ shown, f.severity = s) ∧ ∀ f ∈ shown, f.severity ≤ s
  byRule : ∀ id, v.byRule.get? id =
    if ruleCount shown id = 0 then none else some (ruleCount shown id)

/-- The verdict is the one that the findings show: its counts are theirs, and it passes if all of
them are below its threshold. -/
structure Reads (v : Verdict) (shown : List Finding) : Prop extends Tallies v shown where
  pass : v.pass = true ↔ ∀ f ∈ shown, f.severity < v.threshold

end Verdict

namespace Policy

/-- A finding as it counts under the policy. -/
def effective (p : Policy) (f : Finding) : Finding :=
  f.withSeverity (p.severityOf f)

theorem severityOf_effective (p : Policy) (f : Finding) :
    p.severityOf (p.effective f) = p.severityOf f := by
  have hget : p.severityOf (p.effective f) = (p.overrides.get? f.ruleId).getD (p.severityOf f) :=
    rfl
  rw [hget, severityOf]
  cases p.overrides.get? f.ruleId with
  | none => rfl
  | some s => rfl

theorem effective_effective (p : Policy) (f : Finding) :
    p.effective (p.effective f) = p.effective f := by
  rw [effective, severityOf_effective]
  rfl

theorem count_effective (p : Policy) (v : Verdict) (f : Finding) :
    p.count v (p.effective f) = p.count v f := by
  rw [count, severityOf_effective]
  rfl

/-- Listing again finds every finding kept and as severe as before. -/
theorem filter_keeps_apply (p : Policy) (findings : List Finding) :
    (p.apply findings).filter p.keeps = p.apply findings := by
  apply List.filter_eq_self.mpr
  intro g hg
  obtain ⟨f, hf, rfl⟩ := List.mem_map.mp hg
  exact (List.mem_filter.mp hf).2

theorem apply_apply (p : Policy) (findings : List Finding) :
    p.apply (p.apply findings) = p.apply findings := by
  have hmap : ∀ g ∈ p.apply findings, p.effective g = g := by
    intro g hg
    obtain ⟨f, _, rfl⟩ := List.mem_map.mp hg
    exact effective_effective p f
  calc p.apply (p.apply findings)
      = ((p.apply findings).filter p.keeps).map p.effective := rfl
    _ = (p.apply findings).map p.effective := by rw [filter_keeps_apply]
    _ = p.apply findings := (List.map_congr_left hmap).trans (List.map_id _)

end Policy

namespace Verdict

theorem Tallies.highest_count {v : Verdict} {shown : List Finding} (h : v.Tallies shown)
    (p : Policy) (f : Finding) (s : Severity) :
    (p.count v f).highest = some s ↔
      ((∃ g ∈ shown, g.severity = s) ∨ p.severityOf f = s) ∧
        (∀ g ∈ shown, g.severity ≤ s) ∧ p.severityOf f ≤ s := by
  cases hhighest : v.highest with
  | none =>
    have hempty : shown = [] := h.highest_eq_none_iff.mp hhighest
    simp only [Policy.count, hhighest, Policy.higher, hempty, Option.some.injEq, List.not_mem_nil,
      false_and, exists_false, false_or, false_implies, implies_true, true_and]
    exact ⟨fun heq => ⟨heq, le_of_eq heq⟩, And.left⟩
  | some r =>
    obtain ⟨⟨g, hg, hr⟩, hall⟩ := (h.highest_eq_some_iff r).mp hhighest
    simp only [Policy.count, hhighest, Policy.higher, Option.some.injEq]
    constructor
    · rintro rfl
      refine ⟨?_, fun g hg => le_trans (hall g hg) (le_max_left _ _), le_max_right _ _⟩
      rcases max_choice r (p.severityOf f) with hmax | hmax
      · exact .inl ⟨g, hg, hr.trans hmax.symm⟩
      · exact .inr hmax.symm
    · rintro ⟨hreached, habove, hf⟩
      apply le_antisymm
      · exact max_le (hr ▸ habove g hg) hf
      · rcases hreached with ⟨g', hg', rfl⟩ | rfl
        · exact le_trans (hall g' hg') (le_max_left _ _)
        · exact le_max_right _ _

theorem ruleCount_append_effective (p : Policy) (shown : List Finding) (f : Finding)
    (id : String) :
    ruleCount (shown ++ [p.effective f]) id =
      ruleCount shown id + if f.ruleId = id then 1 else 0 := by
  simp [ruleCount, List.countP_append, List.countP_singleton, Policy.effective,
    Finding.withSeverity]

/-- Counting one more finding keeps step with showing one more. -/
theorem Tallies.count {v : Verdict} {shown : List Finding} (h : v.Tallies shown)
    (p : Policy) (f : Finding) : (p.count v f).Tallies (shown ++ [p.effective f]) where
  effective := by simp [Policy.count, h.effective]
  highest_eq_none_iff := by
    cases hhighest : v.highest <;> simp [Policy.count, hhighest, Policy.higher]
  highest_eq_some_iff s := by
    rw [h.highest_count]
    simp [or_imp, forall_and, or_and_right, exists_or, Policy.effective, Finding.withSeverity]
  byRule id := by
    simp only [Policy.count, SortedMap.bump, SortedMap.get?_put, h.byRule,
      ruleCount_append_effective]
    by_cases hid : f.ruleId = id
    · subst hid
      by_cases hzero : ruleCount shown f.ruleId = 0 <;> simp [hzero]
    · simp [hid]

theorem Tallies.foldl_count {v : Verdict} {shown : List Finding} (h : v.Tallies shown)
    (p : Policy) (findings : List Finding) :
    (findings.foldl p.count v).Tallies (shown ++ findings.map p.effective) := by
  induction findings generalizing v shown with
  | nil => simpa using h
  | cons f findings ih => simpa using ih (h.count p f)

end Verdict

namespace Policy

/-- The number of raw findings is carried through the count. -/
theorem foldl_count_total (p : Policy) (findings : List Finding) (v : Verdict) (n : Nat) :
    findings.foldl p.count { v with total := n } =
      { findings.foldl p.count v with total := n } := by
  induction findings generalizing v with
  | nil => rfl
  | cons f findings ih => exact ih (p.count v f)

theorem foldl_count_threshold (p : Policy) (findings : List Finding) (v : Verdict) :
    (findings.foldl p.count v).threshold = v.threshold := by
  induction findings generalizing v with
  | nil => rfl
  | cons f findings ih => exact ih (p.count v f)

/-- The verdict on no findings. -/
def clear (p : Policy) : Verdict where
  pass := true
  total := 0
  effective := 0
  highest := none
  threshold := p.failOn
  byRule := .empty

/-- The count of the findings that the policy keeps, before it is judged. -/
def tally (p : Policy) (findings : List Finding) : Verdict :=
  (findings.filter p.keeps).foldl p.count p.clear

theorem evaluate_eq_tally (p : Policy) (findings : List Finding) :
    p.evaluate findings =
      { p.tally findings with
        pass := (p.tally findings).highest.all (· < p.failOn)
        total := findings.length } := by
  have htotal := foldl_count_total p (findings.filter p.keeps) p.clear findings.length
  simp only [clear] at htotal
  simp only [evaluate, htotal, tally, clear]

theorem tally_tallies (p : Policy) (findings : List Finding) :
    (p.tally findings).Tallies (p.apply findings) := by
  have hclear : p.clear.Tallies [] := {
    effective := rfl
    highest_eq_none_iff := by simp [clear]
    highest_eq_some_iff := by simp [clear]
    byRule := fun _ => rfl }
  exact hclear.foldl_count p (findings.filter p.keeps)

/-- Counting what was listed gives the count again. -/
theorem tally_apply (p : Policy) (findings : List Finding) :
    p.tally (p.apply findings) = p.tally findings := by
  rw [tally, filter_keeps_apply, apply, List.foldl_map]
  have hcount : (fun v f => p.count v (f.withSeverity (p.severityOf f))) = p.count := by
    funext v f
    exact count_effective p v f
  rw [hcount, tally]

end Policy

/-- All findings are below a severity if the highest is. -/
theorem Verdict.Tallies.all_highest_lt_iff {v : Verdict} {shown : List Finding}
    (h : v.Tallies shown) (bound : Severity) :
    v.highest.all (· < bound) = true ↔ ∀ f ∈ shown, f.severity < bound := by
  cases hhighest : v.highest with
  | none =>
    have hempty : shown = [] := h.highest_eq_none_iff.mp hhighest
    simp [hempty]
  | some s =>
    obtain ⟨⟨g, hg, rfl⟩, hall⟩ := (h.highest_eq_some_iff s).mp hhighest
    simp only [Option.all_some, decide_eq_true_eq]
    constructor
    · intro hlt f hf
      exact lt_of_le_of_lt (hall f hf) hlt
    · intro hbelow
      exact hbelow g hg

namespace Policy

theorem evaluate_threshold (p : Policy) (findings : List Finding) :
    (p.evaluate findings).threshold = p.failOn := by
  rw [evaluate_eq_tally]
  exact foldl_count_threshold p (findings.filter p.keeps) p.clear

theorem evaluate_reads (p : Policy) (findings : List Finding) :
    (p.evaluate findings).Reads (p.apply findings) := by
  have htallies := p.tally_tallies findings
  have hpass : (p.evaluate findings).pass = (p.tally findings).highest.all (· < p.failOn) := by
    rw [evaluate_eq_tally]
  refine { toTallies := ?_, pass := ?_ }
  · rw [evaluate_eq_tally]
    exact { htallies with }
  · rw [hpass, evaluate_threshold]
    exact htallies.all_highest_lt_iff p.failOn

theorem evaluate_apply (p : Policy) (findings : List Finding) :
    p.evaluate (p.apply findings) =
      { p.evaluate findings with total := (p.apply findings).length } := by
  rw [evaluate_eq_tally, evaluate_eq_tally, tally_apply]

/-- The view shows a policy all that it reads of a finding. -/
structure BlindTo (view : Finding → Finding) : Prop where
  ruleId : ∀ f, (view f).ruleId = f.ruleId
  severity : ∀ f, (view f).severity = f.severity
  confidence : ∀ f, (view f).confidence = f.confidence
  withSeverity : ∀ f s, view (f.withSeverity s) = (view f).withSeverity s

theorem BlindTo.severityOf_eq {view : Finding → Finding} (h : BlindTo view) (p : Policy)
    (f : Finding) : p.severityOf (view f) = p.severityOf f := by
  rw [severityOf, severityOf, h.ruleId, h.severity]

theorem BlindTo.filter_keeps {view : Finding → Finding} (h : BlindTo view) (p : Policy)
    (findings : List Finding) :
    (findings.map view).filter p.keeps = (findings.filter p.keeps).map view := by
  rw [List.filter_map]
  congr 1
  apply List.filter_congr
  intro f _
  rw [Function.comp_apply, keeps, keeps, h.ruleId, h.confidence]

theorem apply_map (p : Policy) {view : Finding → Finding} (h : BlindTo view)
    (findings : List Finding) : p.apply (findings.map view) = (p.apply findings).map view := by
  rw [apply, apply, h.filter_keeps, List.map_map, List.map_map]
  apply List.map_congr_left
  intro f _
  rw [Function.comp_apply, Function.comp_apply, h.severityOf_eq, h.withSeverity]

theorem evaluate_map (p : Policy) {view : Finding → Finding} (h : BlindTo view)
    (findings : List Finding) : p.evaluate (findings.map view) = p.evaluate findings := by
  have hcount : (fun v f => p.count v (view f)) = p.count := by
    funext v f
    rw [count, count, h.severityOf_eq, h.ruleId]
  have htally : p.tally (findings.map view) = p.tally findings := by
    rw [tally, tally, h.filter_keeps, List.foldl_map, hcount]
  rw [evaluate_eq_tally, evaluate_eq_tally, htally, List.length_map]

/-- A finding counts if its rule is not ignored and its confidence reaches the floor, if any. -/
theorem keeps_iff (p : Policy) (f : Finding) :
    p.keeps f = true ↔
      p.ignoreRules.get? f.ruleId = none ∧
        ∀ floor, p.minConfidence = some floor → floor ≤ f.confidence := by
  cases hfloor : p.minConfidence <;> simp [keeps, SortedMap.contains, hfloor]

theorem fingerprint_effective (p : Policy) (f : Finding) :
    (p.effective f).fingerprint = f.fingerprint := by
  have hidentity : (p.effective f).identity = f.identity := rfl
  rw [Finding.fingerprint, Finding.fingerprint, hidentity]

/-- What does not depend on the severity can be read off the findings that are kept. -/
theorem map_apply {α : Type} (p : Policy) (findings : List Finding) {view : Finding → α}
    (hview : ∀ f severity, view (f.withSeverity severity) = view f) :
    (p.apply findings).map view = (findings.filter p.keeps).map view := by
  rw [apply, List.map_map]
  exact List.map_congr_left fun f _ => hview f _

theorem map_fingerprint_apply (p : Policy) (findings : List Finding) :
    (p.apply findings).map Finding.fingerprint =
      (findings.filter p.keeps).map Finding.fingerprint :=
  p.map_apply findings fun _ _ => rfl

/-- A view that keeps the fingerprints of findings keeps those of the listed ones. -/
theorem map_fingerprint_apply_map (p : Policy) {view : Finding → Finding} (h : BlindTo view)
    {findings : List Finding} (hsame : ∀ f ∈ findings, (view f).fingerprint = f.fingerprint) :
    (p.apply (findings.map view)).map Finding.fingerprint =
      (p.apply findings).map Finding.fingerprint := by
  rw [map_fingerprint_apply, map_fingerprint_apply, h.filter_keeps, List.map_map]
  exact List.map_congr_left fun f hf => hsame f (List.mem_of_mem_filter hf)

/-- The verdict of a policy on raw findings is the one that the listed findings show, with the
number of raw findings beside it. The list is what the policy keeps, in its order and changed in
nothing but the severity; listing it again changes nothing, and judging it gives the same verdict
up to the number of raw findings. So the verdict in a report can be read off the report. -/
theorem evaluate_reads_apply (p : Policy) (findings : List Finding) :
    (p.evaluate findings).Reads (p.apply findings) ∧
    (p.evaluate findings).threshold = p.failOn ∧
    (p.evaluate findings).total = findings.length ∧
    (findings.filter p.keeps).Sublist findings ∧
    (∀ f, p.keeps f = true ↔
      p.ignoreRules.get? f.ruleId = none ∧
        ∀ floor, p.minConfidence = some floor → floor ≤ f.confidence) ∧
    List.Forall₂
      (fun g f =>
        g = { f with severity := (p.overrides.get? f.ruleId).getD f.severity } ∧
          g.fingerprint = f.fingerprint)
      (p.apply findings) (findings.filter p.keeps) ∧
    p.apply (p.apply findings) = p.apply findings ∧
    p.evaluate (p.apply findings) =
      { p.evaluate findings with total := (p.apply findings).length } ∧
    ∀ (engine : Engine) (t : SyntaxTree),
      let report := Scanner.scan { engine, policy := p } t
      report.verdict.Reads report.findings ∧
      report.verdict.threshold = p.failOn ∧
      report.verdict =
        { p.evaluate report.findings with total := (engine.scan t).findings.length } := by
  refine ⟨p.evaluate_reads findings, p.evaluate_threshold findings, ?_,
    List.filter_sublist, p.keeps_iff, ?_, p.apply_apply findings, p.evaluate_apply findings, ?_⟩
  · rw [evaluate_eq_tally]
  · rw [apply, List.forall₂_map_left_iff, List.forall₂_same]
    intro f _
    exact ⟨rfl, p.fingerprint_effective f⟩
  · intro engine t
    refine ⟨p.evaluate_reads _, p.evaluate_threshold _, ?_⟩
    change p.evaluate (engine.scan t).findings =
      { p.evaluate (p.apply (engine.scan t).findings) with
        total := (engine.scan t).findings.length }
    rw [evaluate_apply, evaluate_eq_tally]

end Policy

end SecurityLint
