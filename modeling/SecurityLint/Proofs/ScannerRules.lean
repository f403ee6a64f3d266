import SecurityLint.Proofs.Rule.InsecureRecovery
import SecurityLint.Proofs.Rule.MassAssignment
import SecurityLint.Proofs.Rule.PlaintextSecret
import SecurityLint.Proofs.Rule.UnsafeMarkup
import SecurityLint.Scanner

/-!
The rules of a scanner: each of the four at most once, in a fixed order and compiled from its own
settings. All of them are lawful and uniform, and their keys differ.
-/
namespace SecurityLint

theorem bind_eq_ok_iff {α β : Type} (first : Except Error α) (next : α → Except Error β)
    (b : β) : first >>= next = .ok b ↔ ∃ a, first = .ok a ∧ next a = .ok b := by
  cases first with
  | error e => simp [bind, Except.bind]
  | ok a => simp [bind, Except.bind]

theorem map_eq_ok_iff {α β : Type} (first : Except Error α) (f : α → β) (b : β) :
    first.map f = .ok b ↔ ∃ a, first = .ok a ∧ f a = b := by
  cases first with
  | error e => simp [Except.map]
  | ok a => simp [Except.map]

theorem eq_ok_of_toOption {ε α : Type} {result : Except ε α} {a : α}
    (h : result.toOption = some a) : result = .ok a := by
  cases result with
  | error e => cases h
  | ok a' => rw [Option.some.inj h]

/-- A part of a scanner is empty or has the one rule that was compiled. -/
theorem ruleIf_eq_ok_iff (enabled : Bool) (rule : Except Error Rule) (rules : List Rule) :
    ruleIf enabled rule = .ok rules ↔
      (enabled = false ∧ rules = []) ∨ (enabled = true ∧ ∃ r, rule = .ok r ∧ rules = [r]) := by
  cases enabled with
  | false => simp [ruleIf, eq_comm]
  | true =>
    cases rule with
    | error e => simp [ruleIf, Except.map]
    | ok r => simp [ruleIf, Except.map, eq_comm]

/-- A part of a scanner, compiled to `build r` where `compiled` gives `r`. -/
theorem exists_of_mem_ruleIf {α : Type} {enabled : Bool} {compiled : Except Error α}
    {build : α → Rule} {rules : List Rule} {rule : Rule}
    (h : ruleIf enabled (compiled.map build) = .ok rules) (hrule : rule ∈ rules) :
    ∃ r, compiled = .ok r ∧ rule = build r := by
  rcases (ruleIf_eq_ok_iff _ _ _).mp h with ⟨_, rfl⟩ | ⟨_, _, hbuilt, rfl⟩
  · cases hrule
  · obtain ⟨r, hr, rfl⟩ := (map_eq_ok_iff _ _ _).mp hbuilt
    exact ⟨r, hr, List.mem_singleton.mp hrule⟩

theorem ids_ruleIf_sublist {α : Type} {enabled : Bool} {compiled : Except Error α}
    {build : α → Rule} {rules : List Rule} {info : RuleInfo}
    (h : ruleIf enabled (compiled.map build) = .ok rules) (hinfo : ∀ r, (build r).info = info) :
    (rules.map (·.info.id)).Sublist [info.id] := by
  rcases (ruleIf_eq_ok_iff _ _ _).mp h with ⟨_, rfl⟩ | ⟨_, _, hbuilt, rfl⟩
  · exact List.nil_sublist _
  · obtain ⟨r, _, rfl⟩ := (map_eq_ok_iff _ _ _).mp hbuilt
    rw [List.map_singleton, hinfo]

namespace RuleSettings

/-- The rules of a scanner come in four parts, one for each kind of rule. -/
theorem rules_eq_ok_iff (s : RuleSettings) (rules : List Rule) :
    s.rules = .ok rules ↔ ∃ massAssignment plaintextSecret unsafeMarkup insecureRecovery,
      ruleIf s.massAssignment.enabled
        ((Except.ok (MassAssignment.ofSettings s.massAssignment)).map (·.rule)) =
          .ok massAssignment ∧
      ruleIf s.plaintextSecret.enabled
        ((PlaintextSecret.ofSettings s.plaintextSecret).map (·.rule)) = .ok plaintextSecret ∧
      ruleIf s.unsafeMarkup.enabled
        ((UnsafeMarkup.ofSettings s.unsafeMarkup).map (·.rule)) = .ok unsafeMarkup ∧
      ruleIf s.insecureRecovery.enabled
        ((InsecureRecovery.ofSettings s.insecureRecovery).map (·.rule)) = .ok insecureRecovery ∧
      massAssignment ++ plaintextSecret ++ unsafeMarkup ++ insecureRecovery = rules := by
  simp only [RuleSettings.rules, bind_eq_ok_iff, pure, Except.pure, Except.ok.injEq, Except.map,
    exists_and_left]

variable {s : RuleSettings} {rules : List Rule}

/-- What holds of each kind of rule holds of the rules of a scanner. -/
theorem forall_mem_rules {P : Rule → Prop} (h : s.rules = .ok rules)
    (hmassAssignment : ∀ r : MassAssignment, P r.rule)
    (hplaintextSecret : ∀ r : PlaintextSecret, P r.rule)
    (hunsafeMarkup : ∀ r : UnsafeMarkup, P r.rule)
    (hinsecureRecovery : ∀ r : InsecureRecovery, P r.rule) : ∀ rule ∈ rules, P rule := by
  obtain ⟨_, _, _, _, hm, hp, hu, hi, rfl⟩ := (s.rules_eq_ok_iff rules).mp h
  intro rule hrule
  simp only [List.mem_append] at hrule
  rcases hrule with ((hrule | hrule) | hrule) | hrule
  · obtain ⟨r, _, rfl⟩ := exists_of_mem_ruleIf hm hrule
    exact hmassAssignment r
  · obtain ⟨r, _, rfl⟩ := exists_of_mem_ruleIf hp hrule
    exact hplaintextSecret r
  · obtain ⟨r, _, rfl⟩ := exists_of_mem_ruleIf hu hrule
    exact hunsafeMarkup r
  · obtain ⟨r, _, rfl⟩ := exists_of_mem_ruleIf hi hrule
    exact hinsecureRecovery r

theorem lawful_of_mem_rules (h : s.rules = .ok rules) : ∀ rule ∈ rules, rule.Lawful :=
  forall_mem_rules h MassAssignment.lawful PlaintextSecret.lawful UnsafeMarkup.lawful
    InsecureRecovery.lawful

theorem uniform_of_mem_rules (h : s.rules = .ok rules) : ∀ rule ∈ rules, rule.Uniform :=
  forall_mem_rules h MassAssignment.uniform PlaintextSecret.uniform UnsafeMarkup.uniform
    InsecureRecovery.uniform

theorem selective_of_mem_rules (h : s.rules = .ok rules) : ∀ rule ∈ rules, rule.Selective :=
  forall_mem_rules h MassAssignment.selective PlaintextSecret.selective UnsafeMarkup.selective
    InsecureRecovery.selective

/-- No rule wants to see a whole file. -/
theorem file_not_mem_kinds (h : s.rules = .ok rules) : ∀ rule ∈ rules, .file ∉ rule.kinds := by
  have hkinds : .file ∉ MassAssignment.kinds ∧ .file ∉ PlaintextSecret.kinds ∧
      .file ∉ UnsafeMarkup.kinds ∧ .file ∉ InsecureRecovery.kinds := by decide
  obtain ⟨hm, hp, hu, hi⟩ := hkinds
  exact forall_mem_rules h (fun _ => hm) (fun _ => hp) (fun _ => hu) (fun _ => hi)

/-- The keys of all kinds of rules, in the order of the rules. -/
def allIds : List String :=
  [MassAssignment.info.id, PlaintextSecret.info.id, UnsafeMarkup.info.id, InsecureRecovery.info.id]

theorem ids_sublist (h : s.rules = .ok rules) : (rules.map (·.info.id)).Sublist allIds := by
  obtain ⟨_, _, _, _, hm, hp, hu, hi, rfl⟩ := (s.rules_eq_ok_iff rules).mp h
  simp only [List.map_append]
  exact (((ids_ruleIf_sublist hm fun _ => rfl).append (ids_ruleIf_sublist hp fun _ => rfl)).append
    (ids_ruleIf_sublist hu fun _ => rfl)).append (ids_ruleIf_sublist hi fun _ => rfl)

theorem nodup_ids (h : s.rules = .ok rules) : (rules.map (·.info.id)).Nodup := by
  have hall : allIds.Nodup := by decide
  exact hall.sublist (ids_sublist h)

theorem exists_plaintextSecret (h : s.rules = .ok rules)
    (henabled : s.plaintextSecret.enabled = true) :
    ∃ r, PlaintextSecret.ofSettings s.plaintextSecret = .ok r ∧ r.rule ∈ rules := by
  obtain ⟨_, _, _, _, _, hp, _, _, rfl⟩ := (s.rules_eq_ok_iff rules).mp h
  rcases (ruleIf_eq_ok_iff _ _ _).mp hp with ⟨hdisabled, _⟩ | ⟨_, _, hbuilt, rfl⟩
  · rw [henabled] at hdisabled
    cases hdisabled
  · obtain ⟨r, hr, rfl⟩ := (map_eq_ok_iff _ _ _).mp hbuilt
    exact ⟨r, hr, by simp⟩

end RuleSettings

/-- A scanner is made of the rules in valid settings and the policy. -/
theorem Scanner.ofConfig_eq_ok_iff (config : Config) (s : Scanner) :
    Scanner.ofConfig config = .ok s ↔
      config.rules.validate = .ok () ∧ ∃ rules, config.rules.rules = .ok rules ∧
        s = { engine := Engine.ofRules rules, policy := config.policy } := by
  simp only [Scanner.ofConfig, RuleSettings.engine, bind_eq_ok_iff, pure, Except.pure,
    Except.ok.injEq]
  constructor
  · rintro ⟨engine, ⟨_, hvalid, rules, hrules, rfl⟩, rfl⟩
    exact ⟨hvalid, rules, hrules, rfl⟩
  · rintro ⟨hvalid, rules, hrules, rfl⟩
    exact ⟨_, ⟨(), hvalid, rules, hrules, rfl⟩, rfl⟩

theorem Scanner.exists_of_ofConfig {config : Config} {s : Scanner}
    (h : Scanner.ofConfig config = .ok s) :
    ∃ rules, config.rules.rules = .ok rules ∧ s.engine = Engine.ofRules rules ∧
      s.policy = config.policy := by
  obtain ⟨_, rules, hrules, rfl⟩ := (ofConfig_eq_ok_iff config s).mp h
  exact ⟨rules, hrules, rfl, rfl⟩

/-- A call that stores an array with three pairs; the value of the second is hashed. -/
def storageTable : Table where
  path := some "app/User.php"
  language := .php
  root := 15
  nodes := #[
    { kind := .identifier, text := "User", name := some "User" },
    { kind := .identifier, text := "create", name := some "create" },
    { kind := .memberAccess, text := "User::create", children := [0, 1] },
    { kind := .literal, text := "'otp'", literal := some .string },
    { kind := .identifier, text := "$otp", name := some "$otp" },
    { kind := .keyValuePair, text := "'otp' => $otp", children := [3, 4],
      span := some { line := 3, column := 4 } },
    { kind := .literal, text := "'pin'" },
    { kind := .identifier, text := "hash", name := some "hash" },
    { kind := .functionCall, text := "hash()", children := [7] },
    { kind := .keyValuePair, text := "'pin' => hash()", children := [6, 8] },
    { kind := .literal, text := "'code'" },
    { kind := .literal, text := "'1234'", literal := some .string },
    { kind := .keyValuePair, text := "'code' => '1234'", children := [10, 11] },
    { kind := .arrayLiteral, text := "['otp' => $otp, 'pin' => hash(), 'code' => '1234']",
      children := [5, 9, 12] },
    { kind := .functionCall, text := "User::create([...])", children := [2, 13] },
    { kind := .file, text := "User::create([...]);", children := [14] }]

def storageTree : SyntaxTree where
  table := storageTable
  parents := #[some 2, some 2, some 14, some 5, some 5, some 13, some 9, some 8, some 9, some 13,
    some 12, some 12, some 13, some 14, some 15, none]
  linked := by
    unfold storageTable
    generalize some (Path.ofText "app/User.php") = path
    cbv

/-- Settings with all rules, each with patterns of a few words. -/
def wordConfig : Config where
  rules := {
    plaintextSecret := { secretPattern := "(?-i)otp|code" }
    unsafeMarkup := {
      svgPattern := "(?-i)svg"
      dangerousSvgPattern := "(?-i)script"
      sanitizers := [] }
    insecureRecovery := {
      recoveryPattern := "(?-i)reset"
      securityQuestionPattern := "(?-i)question"
      secureMechanismPattern := "(?-i)totp" } }

theorem Scanner.exists_ofConfig_word : ∃ s, Scanner.ofConfig wordConfig = .ok s ∧
    s.engine.rules.map (·.info.id) = RuleSettings.allIds := by
  have hvalid : wordConfig.rules.validate = .ok () := by decide +kernel
  have hcompile : ∀ source ∈ ["(?-i)otp|code", "(?-i)svg", "(?-i)script", "(?-i)reset",
      "(?-i)question", "(?-i)totp"], ∃ p, NamePattern.compile? source = some p := by
    simp only [← Option.isSome_iff_exists]
    decide +kernel
  simp only [List.forall_mem_cons] at hcompile
  obtain ⟨⟨_, hsecret⟩, ⟨_, hsvg⟩, ⟨_, hscript⟩, ⟨_, hreset⟩, ⟨_, hquestion⟩, ⟨_, htotp⟩, _⟩ :=
    hcompile
  have hsanitizers : SanitizerSet.compile? [] = some { names := [] } := rfl
  simp only [wordConfig] at hvalid
  simp [Scanner.ofConfig, RuleSettings.engine, RuleSettings.rules, wordConfig, hvalid, ruleIf,
    PlaintextSecret.ofSettings, UnsafeMarkup.ofSettings, InsecureRecovery.ofSettings, hsecret,
    hsvg, hscript, hreset, hquestion, htotp, hsanitizers, Except.map, bind, Except.bind, pure,
    Except.pure, Engine.ofRules, RuleSettings.allIds, MassAssignment.rule, PlaintextSecret.rule,
    UnsafeMarkup.rule, InsecureRecovery.rule]

end SecurityLint
