import Mathlib.Data.List.Perm.Subperm
import SecurityLint.Proofs.SortedEntries
import SecurityLint.Proofs.Verdicts

/-!
Verdicts on parts of the findings put together. What a policy lists of two lists is what it lists
of the first and then of the second, so the verdict on both is told by the verdicts on each: counts
add up, the higher severity stays, and the whole passes if both parts do. Putting verdicts together
is symmetric and leaves no choice; the order of findings is therefore never seen in a verdict,
and one that fails goes on failing whatever is added.
-/
namespace SecurityLint

variable {xs ys : List Finding}

theorem ruleCount_append (xs ys : List Finding) (id : String) :
    ruleCount (xs ++ ys) id = ruleCount xs id + ruleCount ys id :=
  List.countP_append

namespace Verdict

variable {u u' v w : Verdict}

/-- The number of findings that count for a rule. -/
def countOf (v : Verdict) (id : String) : ℕ :=
  (v.byRule.get? id).getD 0

/-- The verdict `u` is `v` and `w` put together. The maximum takes a severity for higher than none,
and a rule is listed only if findings count for it. -/
structure Joins (u v w : Verdict) : Prop where
  pass : u.pass = (v.pass && w.pass)
  total : u.total = v.total + w.total
  effective : u.effective = v.effective + w.effective
  highest : u.highest = max v.highest w.highest
  threshold : u.threshold = v.threshold ∧ u.threshold = w.threshold
  countOf : ∀ id, u.countOf id = v.countOf id + w.countOf id
  listed : ∀ id, u.byRule.get? id ≠ some 0

theorem Tallies.countOf_eq (h : v.Tallies xs) (id : String) :
    v.countOf id = ruleCount xs id := by
  unfold Verdict.countOf
  rw [h.byRule id]
  by_cases hzero : ruleCount xs id = 0
  · simp [hzero]
  · simp [hzero]

theorem Tallies.get?_byRule_ne_zero (h : v.Tallies xs) (id : String) :
    v.byRule.get? id ≠ some 0 := by
  rw [h.byRule id]
  by_cases hzero : ruleCount xs id = 0
  · simp [hzero]
  · simp [hzero]

theorem Tallies.highest_unique (hu : u.Tallies xs) (hv : v.Tallies xs) :
    u.highest = v.highest := by
  apply Option.ext
  intro s
  rw [hu.highest_eq_some_iff, hv.highest_eq_some_iff]

theorem Tallies.highest_append (hu : u.Tallies (xs ++ ys)) (hv : v.Tallies xs)
    (hw : w.Tallies ys) : u.highest = max v.highest w.highest := by
  cases hr : v.highest with
  | none =>
    have hxs : xs = [] := hv.highest_eq_none_iff.mp hr
    subst hxs
    rw [Option.max_none_left]
    exact hu.highest_unique hw
  | some r =>
    cases hs : w.highest with
    | none =>
      have hys : ys = [] := hw.highest_eq_none_iff.mp hs
      subst hys
      rw [List.append_nil] at hu
      rw [Option.max_none_right, ← hr]
      exact hu.highest_unique hv
    | some s =>
      obtain ⟨⟨f, hf, hfr⟩, hxs⟩ := (hv.highest_eq_some_iff r).mp hr
      obtain ⟨⟨g, hg, hgs⟩, hys⟩ := (hw.highest_eq_some_iff s).mp hs
      apply (hu.highest_eq_some_iff (max r s)).mpr
      constructor
      · rcases max_choice r s with hmax | hmax
        · exact ⟨f, List.mem_append_left ys hf, hfr.trans hmax.symm⟩
        · exact ⟨g, List.mem_append_right xs hg, hgs.trans hmax.symm⟩
      · intro k hk
        rcases List.mem_append.mp hk with hk | hk
        · exact le_trans (hxs k hk) (le_max_left r s)
        · exact le_trans (hys k hk) (le_max_right r s)

theorem Joins.symm (h : u.Joins v w) : u.Joins w v where
  pass := h.pass.trans (Bool.and_comm v.pass w.pass)
  total := h.total.trans (Nat.add_comm v.total w.total)
  effective := h.effective.trans (Nat.add_comm v.effective w.effective)
  highest := by
    rw [h.highest]
    cases v.highest with
    | none => rw [Option.max_none_left, Option.max_none_right]
    | some r =>
      cases w.highest with
      | none => rfl
      | some s => exact congrArg some (max_comm r s)
  threshold := h.threshold.symm
  countOf id := (h.countOf id).trans (Nat.add_comm (v.countOf id) (w.countOf id))
  listed := h.listed

theorem get?_byRule_eq {id : String} (h : v.byRule.get? id ≠ some 0) :
    v.byRule.get? id = if v.countOf id = 0 then none else some (v.countOf id) := by
  unfold countOf
  cases hget : v.byRule.get? id with
  | none => rfl
  | some n =>
    have hn : n ≠ 0 := fun hzero => h (by rw [hget, hzero])
    simp [hn]

/-- Putting together leaves no choice: rules that are listed with the same counts, none of them
zero, are listed alike. -/
theorem Joins.unique (hu : u.Joins v w) (hu' : u'.Joins v w) : u = u' := by
  have hbyRule : u.byRule = u'.byRule := by
    apply SortedMap.ext_get?
    intro id
    rw [get?_byRule_eq (hu.listed id), get?_byRule_eq (hu'.listed id), hu.countOf, hu'.countOf]
  have hpass := hu.pass.trans hu'.pass.symm
  have htotal := hu.total.trans hu'.total.symm
  have heffective := hu.effective.trans hu'.effective.symm
  have hhighest := hu.highest.trans hu'.highest.symm
  have hthreshold := hu.threshold.1.trans hu'.threshold.1.symm
  cases u
  cases u'
  simp_all only

end Verdict

namespace Policy

variable (p : Policy)

theorem apply_append (xs ys : List Finding) : p.apply (xs ++ ys) = p.apply xs ++ p.apply ys := by
  rw [apply, List.filter_append, List.map_append]
  rfl

theorem evaluate_total (findings : List Finding) :
    (p.evaluate findings).total = findings.length := by
  rw [evaluate_eq_tally]

theorem evaluate_append (xs ys : List Finding) :
    (p.evaluate (xs ++ ys)).Joins (p.evaluate xs) (p.evaluate ys) := by
  have hxs := p.evaluate_reads xs
  have hys := p.evaluate_reads ys
  have hboth := p.evaluate_reads (xs ++ ys)
  rw [apply_append] at hboth
  have hthreshold := p.evaluate_threshold
  refine ⟨?_, ?_, ?_, hboth.highest_append hxs.toTallies hys.toTallies, ?_, ?_,
    hboth.get?_byRule_ne_zero⟩
  · rw [Bool.eq_iff_iff, Bool.and_eq_true, hboth.pass, hxs.pass, hys.pass, hthreshold, hthreshold,
      hthreshold, List.forall_mem_append]
  · rw [evaluate_total, evaluate_total, evaluate_total, List.length_append]
  · rw [hboth.effective, hxs.effective, hys.effective, List.length_append]
  · rw [hthreshold, hthreshold, hthreshold]
    exact ⟨rfl, rfl⟩
  · intro id
    rw [hboth.countOf_eq, hxs.countOf_eq, hys.countOf_eq, ruleCount_append]

theorem evaluate_append_comm (xs ys : List Finding) :
    p.evaluate (xs ++ ys) = p.evaluate (ys ++ xs) :=
  (p.evaluate_append xs ys).unique (p.evaluate_append ys xs).symm

/-- Parts with the same verdicts give the same verdict together. -/
theorem evaluate_append_congr {xs xs' ys ys' : List Finding}
    (hxs : p.evaluate xs = p.evaluate xs') (hys : p.evaluate ys = p.evaluate ys') :
    p.evaluate (xs ++ ys) = p.evaluate (xs' ++ ys') := by
  have hjoins := p.evaluate_append xs ys
  rw [hxs, hys] at hjoins
  exact hjoins.unique (p.evaluate_append xs' ys')

theorem evaluate_perm (h : xs.Perm ys) : p.evaluate xs = p.evaluate ys := by
  induction h with
  | nil => rfl
  | cons f _ ih => exact p.evaluate_append_congr (Eq.refl (p.evaluate [f])) ih
  | swap f g rest =>
    exact p.evaluate_append_congr (p.evaluate_append_comm [g] [f]) (Eq.refl (p.evaluate rest))
  | trans _ _ ih ih' => exact ih.trans ih'

theorem pass_eq_false_of_subperm (h : xs.Subperm ys) (hfail : (p.evaluate xs).pass = false) :
    (p.evaluate ys).pass = false := by
  obtain ⟨zs, hzs, hsub⟩ := List.subperm_iff.mp h
  obtain ⟨more, hmore⟩ := hsub.exists_perm_append
  rw [← p.evaluate_perm hzs, p.evaluate_perm hmore, (p.evaluate_append xs more).pass, hfail,
    Bool.false_and]

/-- The verdict on two lists of findings is the one verdict that joins those on each list: it passes
if both do, the counts are sums, also for each rule that is listed, and the highest severity is
the higher of the two. So a verdict depends on the findings and not on their order, and one that
fails still fails when there are more findings, wherever they are added. -/
theorem evaluate_of_parts (p : Policy) :
    (∀ (xs ys : List Finding) (u : Verdict),
      u.Joins (p.evaluate xs) (p.evaluate ys) ↔ u = p.evaluate (xs ++ ys)) ∧
    (∀ xs ys : List Finding, xs.Perm ys → p.evaluate xs = p.evaluate ys) ∧
    ∀ xs ys : List Finding, xs.Subperm ys → (p.evaluate xs).pass = false →
      (p.evaluate ys).pass = false := by
  refine ⟨?_, fun xs ys h => p.evaluate_perm h, fun xs ys h => p.pass_eq_false_of_subperm h⟩
  intro xs ys u
  have hjoins := p.evaluate_append xs ys
  constructor
  · intro hu
    exact hu.unique hjoins
  · intro hu
    rw [hu]
    exact hjoins

end Policy

/-- A finding of a rule with a severity, and nothing to show for it. -/
def bareFinding (info : RuleInfo) (severity : Severity) : Finding where
  ruleId := info.id
  ruleName := info.name
  severity := severity
  confidence := .medium
  category := info.category
  message := info.description
  anchor := 0
  location := none
  snippet := none
  evidence := []
  remediation := none
  cwe := info.cwe

/-- A secret fails a scan, also behind findings that are ignored or milder. -/
theorem Policy.secret_fails_among_others :
    let p : Policy := { ignoreRules := SortedSet.ofList [MassAssignment.info.id] }
    let secret := bareFinding PlaintextSecret.info .high
    let others := [bareFinding MassAssignment.info .critical, bareFinding UnsafeMarkup.info .low]
    (p.evaluate others).pass = true ∧ (p.evaluate [secret]).pass = false ∧
      (p.evaluate (others ++ [secret])).pass = false ∧
      p.evaluate (others ++ [secret]) = p.evaluate (secret :: others) ∧
      (p.evaluate (secret :: others)).Joins (p.evaluate [secret]) (p.evaluate others) := by
  intro p secret others
  obtain ⟨hjoins, hperm, hmore⟩ := Policy.evaluate_of_parts p
  have hfail : (p.evaluate [secret]).pass = false := by decide +kernel
  have hsub : [secret].Subperm (others ++ [secret]) :=
    (List.sublist_append_right others [secret]).subperm
  refine ⟨by decide +kernel, hfail, hmore _ _ hsub hfail, hperm _ _ ?_, ?_⟩
  · exact List.perm_append_comm
  · exact (hjoins [secret] others _).mpr rfl

end SecurityLint
