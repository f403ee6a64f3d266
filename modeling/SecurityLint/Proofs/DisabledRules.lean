import SecurityLint.Proofs.UniformScan

/-!
Two ways to silence a rule. A rule that is switched off is neither checked nor compiled, so
nothing in its section can be wrong; a rule that is ignored runs, and its findings are dropped.
Each rule signs its findings with its own key and the rules do not meet, so the reports are
the same, and all that differs is the number of raw findings.
-/
namespace SecurityLint

/-- The kinds of rules. -/
inductive Builtin where
  | massAssignment
  | plaintextSecret
  | unsafeMarkup
  | insecureRecovery
  deriving DecidableEq

namespace Builtin

def all : List Builtin := [massAssignment, plaintextSecret, unsafeMarkup, insecureRecovery]

def info : Builtin → RuleInfo
  | massAssignment => MassAssignment.info
  | plaintextSecret => PlaintextSecret.info
  | unsafeMarkup => UnsafeMarkup.info
  | insecureRecovery => InsecureRecovery.info

theorem id_injective {b b' : Builtin} (h : b.info.id = b'.info.id) : b = b' := by
  revert h
  cases b <;> cases b' <;> decide

/-- The settings of a rule. -/
abbrev Section : Builtin → Type
  | massAssignment => MassAssignmentSettings
  | plaintextSecret => PlaintextSecretSettings
  | unsafeMarkup => UnsafeMarkupSettings
  | insecureRecovery => InsecureRecoverySettings

def get : (b : Builtin) → RuleSettings → b.Section
  | massAssignment, s => s.massAssignment
  | plaintextSecret, s => s.plaintextSecret
  | unsafeMarkup, s => s.unsafeMarkup
  | insecureRecovery, s => s.insecureRecovery

/-- Replaces the section of a rule. -/
def put : (b : Builtin) → b.Section → RuleSettings → RuleSettings
  | massAssignment, x, s => { s with massAssignment := x }
  | plaintextSecret, x, s => { s with plaintextSecret := x }
  | unsafeMarkup, x, s => { s with unsafeMarkup := x }
  | insecureRecovery, x, s => { s with insecureRecovery := x }

def enabled : (b : Builtin) → b.Section → Bool
  | massAssignment, x => x.enabled
  | plaintextSecret, x => x.enabled
  | unsafeMarkup, x => x.enabled
  | insecureRecovery, x => x.enabled

/-- Whether the setting at the core of the rule is empty. -/
def lacksCore : (b : Builtin) → b.Section → Bool
  | massAssignment, x => x.persistenceMethods.isEmpty
  | plaintextSecret, x => Text.isBlankText x.secretPattern
  | unsafeMarkup, x => Text.isBlankText x.svgPattern
  | insecureRecovery, x => Text.isBlankText x.recoveryPattern

def compile : (b : Builtin) → b.Section → Except Error Rule
  | massAssignment, x => .ok (MassAssignment.ofSettings x).rule
  | plaintextSecret, x => (PlaintextSecret.ofSettings x).map (·.rule)
  | unsafeMarkup, x => (UnsafeMarkup.ofSettings x).map (·.rule)
  | insecureRecovery, x => (InsecureRecovery.ofSettings x).map (·.rule)

theorem get_put (b : Builtin) (x : b.Section) (s : RuleSettings) : b.get (b.put x s) = x := by
  cases b <;> rfl

theorem get_put_of_ne {b b' : Builtin} (h : b' ≠ b) (x : b.Section) (s : RuleSettings) :
    b'.get (b.put x s) = b'.get s := by
  cases b <;> cases b' <;> first | rfl | exact absurd rfl h

theorem info_of_compile {b : Builtin} {x : b.Section} {rule : Rule}
    (h : b.compile x = .ok rule) : rule.info = b.info := by
  cases b with
  | massAssignment =>
    cases h
    rfl
  | plaintextSecret =>
    obtain ⟨_, _, rfl⟩ := (map_eq_ok_iff _ _ _).mp h
    rfl
  | unsafeMarkup =>
    obtain ⟨_, _, rfl⟩ := (map_eq_ok_iff _ _ _).mp h
    rfl
  | insecureRecovery =>
    obtain ⟨_, _, rfl⟩ := (map_eq_ok_iff _ _ _).mp h
    rfl

theorem lawful_of_compile {b : Builtin} {x : b.Section} {rule : Rule}
    (h : b.compile x = .ok rule) : rule.Lawful := by
  cases b with
  | massAssignment =>
    cases h
    exact MassAssignment.lawful _
  | plaintextSecret =>
    obtain ⟨r, _, rfl⟩ := (map_eq_ok_iff _ _ _).mp h
    exact r.lawful
  | unsafeMarkup =>
    obtain ⟨r, _, rfl⟩ := (map_eq_ok_iff _ _ _).mp h
    exact r.lawful
  | insecureRecovery =>
    obtain ⟨r, _, rfl⟩ := (map_eq_ok_iff _ _ _).mp h
    exact r.lawful

theorem mem_all (b : Builtin) : b ∈ all := by
  cases b <;> decide

/-- The rule in the part of a kind is enabled and is of this kind. -/
theorem of_mem_ruleIf {b : Builtin} {x : b.Section} {part : List Rule} {rule : Rule}
    (h : ruleIf (b.enabled x) (b.compile x) = .ok part) (hrule : rule ∈ part) :
    b.enabled x = true ∧ rule.info = b.info := by
  rcases (ruleIf_eq_ok_iff _ _ _).mp h with ⟨_, hnil⟩ | ⟨henabled, r, hr, hone⟩
  · rw [hnil] at hrule
    cases hrule
  · rw [hone, List.mem_singleton] at hrule
    exact ⟨henabled, hrule ▸ info_of_compile hr⟩

theorem forall_iff {P : Builtin → Prop} :
    (∀ b, P b) ↔ P massAssignment ∧ P plaintextSecret ∧ P unsafeMarkup ∧ P insecureRecovery := by
  constructor
  · intro h
    exact ⟨h _, h _, h _, h _⟩
  · rintro ⟨hm, hp, hu, hi⟩ b
    cases b <;> assumption

end Builtin

namespace RuleSettings

/-- Settings are valid if every rule that is enabled has its core. -/
theorem validate_eq_ok_iff (s : RuleSettings) :
    s.validate = .ok () ↔
      ∀ b : Builtin, (b.enabled (b.get s) && b.lacksCore (b.get s)) = false := by
  have hgaps : s.validate = .ok () ↔ ∀ gap ∈ s.gaps, gap.1 = false := by
    unfold validate
    cases hfind : s.gaps.find? (·.1) with
    | none => simpa using List.find?_eq_none.mp hfind
    | some gap =>
      simp only [reduceCtorEq, false_iff, not_forall]
      exact ⟨gap, List.mem_of_find?_eq_some hfind, by simpa using List.find?_some hfind⟩
  rw [hgaps, Builtin.forall_iff]
  simp only [gaps, List.forall_mem_cons, List.not_mem_nil, false_implies, implies_true, and_true]
  rfl

/-- The rules are those of the kinds that are enabled, in the order of the kinds. -/
theorem rules_eq_ok_iff_parts (s : RuleSettings) (rules : List Rule) :
    s.rules = .ok rules ↔ ∃ parts : Builtin → List Rule,
      (∀ b, ruleIf (b.enabled (b.get s)) (b.compile (b.get s)) = .ok (parts b)) ∧
        Builtin.all.flatMap parts = rules := by
  have hflat (parts : Builtin → List Rule) : Builtin.all.flatMap parts =
      parts .massAssignment ++ parts .plaintextSecret ++ parts .unsafeMarkup ++
        parts .insecureRecovery := by
    simp [Builtin.all]
  rw [rules_eq_ok_iff]
  constructor
  · rintro ⟨m, p, u, i, hm, hp, hu, hi, rfl⟩
    let parts : Builtin → List Rule := Builtin.rec m p u i
    exact ⟨parts, Builtin.forall_iff.mpr ⟨hm, hp, hu, hi⟩, hflat parts⟩
  · rintro ⟨parts, hparts, rfl⟩
    obtain ⟨hm, hp, hu, hi⟩ := Builtin.forall_iff.mp hparts
    exact ⟨_, _, _, _, hm, hp, hu, hi, (hflat parts).symm⟩

variable {b : Builtin} {x : b.Section} {s : RuleSettings}

/-- A rule that is enabled and compiles is one of the rules. -/
theorem mem_rules {rules : List Rule} {rule : Rule} (hrules : s.rules = .ok rules)
    (henabled : b.enabled (b.get s) = true) (h : b.compile (b.get s) = .ok rule) :
    rule ∈ rules := by
  obtain ⟨parts, hparts, rfl⟩ := (rules_eq_ok_iff_parts s rules).mp hrules
  refine List.mem_flatMap.mpr ⟨b, b.mem_all, ?_⟩
  rcases (ruleIf_eq_ok_iff _ _ _).mp (hparts b) with ⟨hoff, _⟩ | ⟨_, rule', hrule', hone⟩
  · rw [henabled] at hoff
    cases hoff
  · rw [hone, Except.ok.inj (h.symm.trans hrule')]
    exact List.mem_singleton.mpr rfl

/-- Another section leaves settings valid if its rule has its core or is switched off. -/
theorem validate_put_of_core (hcore : (b.enabled x && b.lacksCore x) = false)
    (h : s.validate = .ok ()) : (b.put x s).validate = .ok () := by
  rw [validate_eq_ok_iff] at h ⊢
  intro b'
  by_cases hb : b' = b
  · subst hb
    rwa [Builtin.get_put]
  · rw [Builtin.get_put_of_ne hb]
    exact h b'

/-- A rule that is switched off needs no core. -/
theorem validate_put (hoff : b.enabled x = false) (h : s.validate = .ok ()) :
    (b.put x s).validate = .ok () :=
  validate_put_of_core (by rw [hoff, Bool.false_and]) h

/-- Another section changes its own part of the rules. -/
theorem rules_put_part {parts : Builtin → List Rule} {part : List Rule}
    (hparts : ∀ b, ruleIf (b.enabled (b.get s)) (b.compile (b.get s)) = .ok (parts b))
    (hpart : ruleIf (b.enabled x) (b.compile x) = .ok part) :
    (b.put x s).rules = .ok (Builtin.all.flatMap (Function.update parts b part)) := by
  refine (rules_eq_ok_iff_parts _ _).mpr ⟨_, ?_, rfl⟩
  intro b'
  by_cases hb : b' = b
  · subst hb
    rwa [Builtin.get_put, Function.update_self]
  · rw [Builtin.get_put_of_ne hb, Function.update_of_ne hb]
    exact hparts b'

/-- Switching a rule off takes it out and leaves the others as they are. -/
theorem rules_put (hoff : b.enabled x = false) {rules : List Rule} (h : s.rules = .ok rules) :
    (b.put x s).rules = .ok (rules.filter fun rule => rule.info.id ≠ b.info.id) := by
  obtain ⟨parts, hparts, rfl⟩ := (rules_eq_ok_iff_parts s rules).mp h
  have hinfo : ∀ b', ∀ rule ∈ parts b', rule.info = b'.info :=
    fun b' rule hrule => (Builtin.of_mem_ruleIf (hparts b') hrule).2
  rw [rules_put_part hparts ((ruleIf_eq_ok_iff _ _ _).mpr (.inl ⟨hoff, rfl⟩)),
    List.filter_flatMap]
  congr 2
  funext b'
  by_cases hb : b' = b
  · subst hb
    rw [Function.update_self, eq_comm, List.filter_eq_nil_iff]
    intro rule hrule
    simp [hinfo b' rule hrule]
  · rw [Function.update_of_ne hb, eq_comm, List.filter_eq_self]
    intro rule hrule
    rw [hinfo b' rule hrule]
    exact decide_eq_true fun hid => hb (Builtin.id_injective hid)

end RuleSettings

variable {t : SyntaxTree} {rules : List Rule}

theorem Rule.Lawful.filter_findings {rule : Rule} (h : rule.Lawful) (keep : String → Bool)
    (c : Cursor t) :
    ((rule.findings c).filter fun f => keep f.ruleId) =
      if keep rule.info.id then rule.findings c else [] := by
  split
  · next hkeep =>
    rw [List.filter_eq_self]
    intro f hf
    rw [h.signed c f hf, hkeep]
  · next hdrop =>
    rw [List.filter_eq_nil_iff]
    intro f hf
    rwa [h.signed c f hf]

/-- The findings of some of the rules are those with their keys. -/
theorem findingsAt_filter (hlawful : ∀ rule ∈ rules, rule.Lawful) (keep : String → Bool)
    (c : Cursor t) :
    findingsAt (rules.filter fun rule => keep rule.info.id) c =
      (findingsAt rules c).filter fun f => keep f.ruleId := by
  rw [findingsAt, findingsAt, List.filter_comm, List.filter_flatMap]
  have hwanted : ∀ rule ∈ rules.filter fun rule => c.kind ∈ rule.kinds, rule.Lawful :=
    fun rule hrule => hlawful rule (List.mem_of_mem_filter hrule)
  generalize (rules.filter fun rule => c.kind ∈ rule.kinds) = wanted at hwanted
  induction wanted with
  | nil => rfl
  | cons rule wanted ih =>
    obtain ⟨hrule, hrest⟩ := List.forall_mem_cons.mp hwanted
    rw [List.flatMap_cons, hrule.filter_findings, ← ih hrest, List.filter_cons]
    split
    · rw [List.flatMap_cons]
    · rw [List.nil_append]

theorem Scanner.findings_scan_filter {config config' : Config} {s s' : Scanner}
    (h : Scanner.ofConfig config = .ok s) (h' : Scanner.ofConfig config' = .ok s')
    (keep : String → Bool)
    (hrules : s'.engine.rules = s.engine.rules.filter fun rule => keep rule.info.id)
    (t : SyntaxTree) :
    (s'.engine.scan t).findings = (s.engine.scan t).findings.filter fun f => keep f.ruleId := by
  rw [findings_scan h, findings_scan h', hrules, List.filter_flatMap]
  congr 1
  funext c
  exact findingsAt_filter (lawful_of_mem h) keep c

namespace Policy

/-- Ignores one more rule. -/
def ignore (p : Policy) (key : String) : Policy :=
  { p with ignoreRules := SortedSet.insert p.ignoreRules key }

variable (p : Policy) (key : String) (findings : List Finding)

theorem keeps_ignore (f : Finding) :
    (p.ignore key).keeps f = (p.keeps f && decide (f.ruleId ≠ key)) := by
  have hcontains : (p.ignore key).ignoreRules.contains f.ruleId =
      (p.ignoreRules.contains f.ruleId || decide (f.ruleId = key)) := by
    rw [SortedMap.contains, SortedMap.contains, ignore, SortedSet.insert, SortedMap.get?_put]
    by_cases hkey : key = f.ruleId
    · simp [hkey]
    · simp [hkey, Ne.symm hkey]
  rw [keeps, keeps, hcontains, Bool.not_or, Bool.and_right_comm, decide_not]
  rfl

theorem filter_keeps_ignore :
    findings.filter (p.ignore key).keeps =
      (findings.filter fun f => f.ruleId ≠ key).filter p.keeps := by
  rw [List.filter_filter]
  exact List.filter_congr fun f _ => p.keeps_ignore key f

/-- Ignoring a rule lists what is listed without its findings. -/
theorem apply_ignore :
    (p.ignore key).apply findings = p.apply (findings.filter fun f => f.ruleId ≠ key) := by
  rw [apply, apply, filter_keeps_ignore]
  rfl

/-- What is selected whatever the severity is listed as it is listed among all. -/
theorem apply_filter {keep : Finding → Bool}
    (hkeep : ∀ f severity, keep (f.withSeverity severity) = keep f) :
    p.apply (findings.filter keep) = (p.apply findings).filter keep := by
  rw [apply, apply, List.filter_map, List.filter_comm]
  congr 1
  exact List.filter_congr fun f _ => (hkeep f _).symm

theorem apply_filter_ruleId (keep : String → Bool) :
    p.apply (findings.filter fun f => keep f.ruleId) =
      (p.apply findings).filter fun f => keep f.ruleId :=
  p.apply_filter findings fun _ _ => rfl

/-- Findings that are left out are judged like those of a rule that is ignored, which count in the
total alone. -/
theorem evaluate_filter_ruleId :
    p.evaluate (findings.filter fun f => f.ruleId ≠ key) =
      { (p.ignore key).evaluate findings with
        total := (findings.filter fun f => f.ruleId ≠ key).length } := by
  have htally : (p.ignore key).tally findings =
      p.tally (findings.filter fun f => f.ruleId ≠ key) := by
    rw [tally, tally, filter_keeps_ignore]
    rfl
  rw [evaluate_eq_tally, evaluate_eq_tally, htally]
  rfl

end Policy

/-- Ignoring a rule in the policy and switching it off are the same to a host. If a scanner can be
made with the rule ignored, it can be made with the rule switched off, whatever else its section
says, and with neither. The raw findings without the rule are those of the other rules; the two
reports are equal up to the number of raw findings, and list what the full report lists of the
other rules. -/
theorem scan_switched_off (config : Config) (b : Builtin) (x : b.Section)
    (hoff : b.enabled x = false) {ignoring : Scanner}
    (h : Scanner.ofConfig { config with policy := config.policy.ignore b.info.id } =
      .ok ignoring) :
    ∃ without full, Scanner.ofConfig { config with rules := b.put x config.rules } = .ok without ∧
      Scanner.ofConfig config = .ok full ∧
      ∀ t : SyntaxTree,
        (without.engine.scan t).findings =
          (ignoring.engine.scan t).findings.filter (fun f => f.ruleId ≠ b.info.id) ∧
        without.scan t =
          { ignoring.scan t with
            verdict := { (ignoring.scan t).verdict with
              total := (without.engine.scan t).findings.length } } ∧
        (ignoring.scan t).findings =
          (full.scan t).findings.filter fun f => f.ruleId ≠ b.info.id := by
  obtain ⟨hvalid, rules, hrules, rfl⟩ := (Scanner.ofConfig_eq_ok_iff _ _).mp h
  have hwithout := (Scanner.ofConfig_eq_ok_iff { config with rules := b.put x config.rules } _).mpr
    ⟨RuleSettings.validate_put hoff hvalid, _, RuleSettings.rules_put hoff hrules, rfl⟩
  have hfull := (Scanner.ofConfig_eq_ok_iff config _).mpr ⟨hvalid, rules, hrules, rfl⟩
  refine ⟨_, _, hwithout, hfull, ?_⟩
  intro t
  have hraw := Scanner.findings_scan_filter h hwithout (fun id => id ≠ b.info.id) rfl t
  refine ⟨hraw, ?_, ?_⟩
  · simp only [Scanner.scan, hraw, Scanner.diagnostics_scan h, Scanner.diagnostics_scan hwithout,
      Policy.apply_ignore, Policy.evaluate_filter_ruleId]
  · rw [Scanner.scan, Scanner.scan, Policy.apply_ignore]
    exact config.policy.apply_filter_ruleId _ fun id => id ≠ b.info.id

/-- A section whose pattern cannot be read does no harm once its rule is switched off. -/
theorem plaintextSecret_switched_off :
    (NamePattern.compile? "(").isNone = true ∧
    ∃ ignoring without,
      Scanner.ofConfig { wordConfig with
        policy := wordConfig.policy.ignore PlaintextSecret.info.id } = .ok ignoring ∧
      Scanner.ofConfig { wordConfig with
        rules := Builtin.plaintextSecret.put { enabled := false, secretPattern := "(" }
          wordConfig.rules } = .ok without ∧
      (without.scan storageTree).findings = (ignoring.scan storageTree).findings := by
  obtain ⟨s, hs, _⟩ := Scanner.exists_ofConfig_word
  obtain ⟨hvalid, rules, hrules, _⟩ := (Scanner.ofConfig_eq_ok_iff _ _).mp hs
  have hignoring := (Scanner.ofConfig_eq_ok_iff
    { wordConfig with policy := wordConfig.policy.ignore PlaintextSecret.info.id } _).mpr
    ⟨hvalid, rules, hrules, rfl⟩
  obtain ⟨without, _, hwithout, _, hscan⟩ := scan_switched_off wordConfig .plaintextSecret
    { enabled := false, secretPattern := "(" } rfl hignoring
  refine ⟨by decide +kernel, _, without, hignoring, hwithout, ?_⟩
  rw [(hscan storageTree).2.1]

end SecurityLint
