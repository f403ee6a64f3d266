import SecurityLint.Proofs.DisabledRules

/-!
Two configurations that differ in the section of one rule. The other rules report the same in both,
so the raw findings are related as soon as those of the one rule are, node by node, by any relation
that carries over to lists put together from related parts.
-/
namespace SecurityLint

variable {t : SyntaxTree}

/-- The relation carries over to lists put together from related parts. -/
structure Blockwise (P : List Finding → List Finding → Prop) : Prop where
  nil : P [] []
  append : ∀ {found found' more more' : List Finding},
    P found found' → P more more' → P (found ++ more) (found' ++ more')

theorem Blockwise.flatMap {P : List Finding → List Finding → Prop} (h : Blockwise P) {α : Type}
    {parts : List α} {f g : α → List Finding} (hparts : ∀ a ∈ parts, P (f a) (g a)) :
    P (parts.flatMap f) (parts.flatMap g) := by
  induction parts with
  | nil => exact h.nil
  | cons a parts ih =>
    obtain ⟨hfirst, hrest⟩ := List.forall_mem_cons.mp hparts
    rw [List.flatMap_cons, List.flatMap_cons]
    exact h.append hfirst (ih hrest)

theorem blockwise_filter (keep : Finding → Bool) :
    Blockwise fun found found' => found'.filter keep = found.filter keep where
  nil := rfl
  append h h' := by rw [List.filter_append, List.filter_append, h, h']

theorem blockwise_forall₂ (R : Finding → Finding → Prop) : Blockwise (List.Forall₂ R) where
  nil := .nil
  append h h' := List.rel_append h h'

theorem blockwise_forall (Q : Finding → Prop) : Blockwise fun found _ => ∀ f ∈ found, Q f where
  nil _ hf := absurd hf List.not_mem_nil
  append h h' f hf := (List.mem_append.mp hf).elim (h f) (h' f)

/-- Findings that are related and that the policy keeps or drops together are listed as related. -/
theorem Policy.forall₂_apply {p : Policy} {R : Finding → Finding → Prop}
    (hkeeps : ∀ f f', R f f' → p.keeps f' = p.keeps f) {found found' : List Finding}
    (h : List.Forall₂ R found found') :
    List.Forall₂ (fun g g' => ∃ f f', R f f' ∧ g = p.effective f ∧ g' = p.effective f')
      (p.apply found) (p.apply found') := by
  have hkept : List.Forall₂ R (found.filter p.keeps) (found'.filter p.keeps) :=
    List.rel_filter (fun f f' hf => by simp only [hkeeps f f' hf]) h
  rw [apply, apply, List.forall₂_map_left_iff, List.forall₂_map_right_iff]
  exact hkept.imp fun f f' hf => ⟨f, f', hf, rfl, rfl⟩

theorem findingsAt_flatMap (parts : Builtin → List Rule) (c : Cursor t) :
    findingsAt (Builtin.all.flatMap parts) c =
      Builtin.all.flatMap fun b => findingsAt (parts b) c := by
  rw [findingsAt, List.filter_flatMap, List.flatMap_assoc]
  rfl

theorem Builtin.ruleId_of_mem_findingsAt {b : Builtin} {x : b.Section} {part : List Rule}
    (h : ruleIf (b.enabled x) (b.compile x) = .ok part) {c : Cursor t} {f : Finding}
    (hf : f ∈ findingsAt part c) : f.ruleId = b.info.id := by
  obtain ⟨rule, hrule, hfound⟩ := List.mem_flatMap.mp hf
  rcases (ruleIf_eq_ok_iff _ _ _).mp h with ⟨_, rfl⟩ | ⟨_, rule', hcompile, rfl⟩
  · cases hrule
  · obtain rfl := List.mem_singleton.mp (List.mem_of_mem_filter hrule)
    rw [← Builtin.info_of_compile hcompile]
    exact (Builtin.lawful_of_compile hcompile).signed c f hfound

namespace Scanner

variable {config : Config} {s s' : Scanner} {b : Builtin} {x : b.Section}

/-- A rule that a scanner has enabled has its core and compiles. -/
theorem compiles_of_enabled (h : Scanner.ofConfig config = .ok s)
    (henabled : b.enabled (b.get config.rules) = true) :
    b.lacksCore (b.get config.rules) = false ∧
      ∃ rule, b.compile (b.get config.rules) = .ok rule := by
  obtain ⟨hvalid, rules, hrules, _⟩ := (ofConfig_eq_ok_iff config s).mp h
  obtain ⟨parts, hparts, _⟩ := (RuleSettings.rules_eq_ok_iff_parts _ _).mp hrules
  have hcore := (RuleSettings.validate_eq_ok_iff _).mp hvalid b
  rw [henabled, Bool.true_and] at hcore
  refine ⟨hcore, ?_⟩
  rcases (ruleIf_eq_ok_iff _ _ _).mp (hparts b) with ⟨hoff, _⟩ | ⟨_, rule, hrule, _⟩
  · rw [henabled] at hoff
    cases hoff
  · exact ⟨rule, hrule⟩

/-- With another section a scanner can be made if the rule is switched off there, or has its core
and compiles. -/
theorem exists_ofConfig_put (h : Scanner.ofConfig config = .ok s)
    (hx : b.enabled x = true → b.lacksCore x = false ∧ ∃ rule, b.compile x = .ok rule) :
    ∃ s', Scanner.ofConfig { config with rules := b.put x config.rules } = .ok s' ∧
      s'.policy = s.policy := by
  obtain ⟨hvalid, rules, hrules, rfl⟩ := (ofConfig_eq_ok_iff config s).mp h
  obtain ⟨parts, hparts, _⟩ := (RuleSettings.rules_eq_ok_iff_parts _ _).mp hrules
  have hpart : (b.enabled x && b.lacksCore x) = false ∧
      ∃ part, ruleIf (b.enabled x) (b.compile x) = .ok part := by
    cases henabled : b.enabled x with
    | false => exact ⟨rfl, [], rfl⟩
    | true =>
      obtain ⟨hcore, rule, hrule⟩ := hx henabled
      exact ⟨hcore, [rule], by rw [hrule]; rfl⟩
  obtain ⟨hcore, part, hpart⟩ := hpart
  have hvalid' := RuleSettings.validate_put_of_core hcore hvalid
  have hrules' := RuleSettings.rules_put_part hparts hpart
  exact ⟨_, (ofConfig_eq_ok_iff _ _).mpr ⟨hvalid', _, hrules', rfl⟩, rfl⟩

/-- The raw findings with either section are related if those of the rule are on every node, and
those of other rules are related to themselves. -/
theorem blockwise_put {P : List Finding → List Finding → Prop} (hP : Blockwise P)
    (h : Scanner.ofConfig config = .ok s)
    (h' : Scanner.ofConfig { config with rules := b.put x config.rules } = .ok s')
    (hsame : b.enabled x = b.enabled (b.get config.rules)) (t : SyntaxTree)
    (hothers : ∀ found, (∀ f ∈ found, f.ruleId ≠ b.info.id) → P found found)
    (hchanged : ∀ rule rule', b.compile (b.get config.rules) = .ok rule → b.compile x = .ok rule' →
      ∀ c : Cursor t, P (findingsAt [rule] c) (findingsAt [rule'] c)) :
    P (s.engine.scan t).findings (s'.engine.scan t).findings := by
  obtain ⟨_, _, hrules, rfl⟩ := (ofConfig_eq_ok_iff _ _).mp h
  obtain ⟨_, _, hrules', rfl⟩ := (ofConfig_eq_ok_iff _ _).mp h'
  obtain ⟨parts, hparts, rfl⟩ := (RuleSettings.rules_eq_ok_iff_parts _ _).mp hrules
  obtain ⟨parts', hparts', rfl⟩ := (RuleSettings.rules_eq_ok_iff_parts _ _).mp hrules'
  rw [findings_scan h, findings_scan h']
  apply hP.flatMap
  intro c _
  change P (findingsAt (Builtin.all.flatMap parts) c) (findingsAt (Builtin.all.flatMap parts') c)
  rw [findingsAt_flatMap, findingsAt_flatMap]
  apply hP.flatMap
  intro b' _
  have hpart := hparts b'
  have hpart' := hparts' b'
  by_cases hb : b' = b
  · subst hb
    rw [Builtin.get_put, hsame] at hpart'
    rcases (ruleIf_eq_ok_iff _ _ _).mp hpart with ⟨hoff, hnone⟩ | ⟨hon, rule, hrule, hone⟩
    · rw [hoff] at hpart'
      rw [hnone, ← Except.ok.inj hpart']
      exact hP.nil
    · rcases (ruleIf_eq_ok_iff _ _ _).mp hpart' with ⟨hoff, _⟩ | ⟨_, rule', hrule', hone'⟩
      · rw [hon] at hoff
        cases hoff
      · rw [hone, hone']
        exact hchanged rule rule' hrule hrule' c
  · rw [Builtin.get_put_of_ne hb, hpart] at hpart'
    rw [← Except.ok.inj hpart']
    apply hothers
    intro f hf hid
    rw [Builtin.ruleId_of_mem_findingsAt hpart hf] at hid
    exact hb (Builtin.id_injective hid)

/-- Of what is selected, the scanners have the same raw findings and report the same. -/
def AgreeOn (keep : Finding → Bool) (s s' : Scanner) : Prop :=
  ∀ t, (s'.engine.scan t).findings.filter keep = (s.engine.scan t).findings.filter keep ∧
    (s'.scan t).findings.filter keep = (s.scan t).findings.filter keep

theorem agreeOn_of_raw {keep : Finding → Bool} (hpolicy : s'.policy = s.policy)
    (hkeep : ∀ f severity, keep (f.withSeverity severity) = keep f)
    (hraw : ∀ t, (s'.engine.scan t).findings.filter keep =
      (s.engine.scan t).findings.filter keep) : AgreeOn keep s s' := by
  intro t
  refine ⟨hraw t, ?_⟩
  rw [scan, scan, hpolicy, ← Policy.apply_filter _ _ hkeep, ← Policy.apply_filter _ _ hkeep,
    hraw t]

theorem AgreeOn.mem {keep : Finding → Bool} (h : s.AgreeOn keep s') {f : Finding}
    (hf : f ∈ (s.engine.scan t).findings) (hkeep : keep f = true) :
    f ∈ (s'.engine.scan t).findings := by
  have hkept := List.mem_filter.mpr ⟨hf, hkeep⟩
  rw [← (h t).1] at hkept
  exact List.mem_of_mem_filter hkept

end Scanner

end SecurityLint
