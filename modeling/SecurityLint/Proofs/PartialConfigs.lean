import SecurityLint.Config.Fields
import SecurityLint.Proofs.PrunedValues
import SecurityLint.Proofs.SortedEntries

/-!
Configurations of which only a part is given. Whatever members are deleted from a written
configuration, what is left is read, and each deleted field has its default; the other fields are as
they were. The keys of ignored rules, the overrides and the fields of every record may be written
in any order.
-/
namespace SecurityLint

open Data

variable {d : Dialect} {v : Value}

section Slots

variable {gone inside : Paths} {name : String}

theorem withDefault_bool (b default : Bool) :
    (if gone [name] then Slot.unnamed
      else .given ((Value.bool b).prune inside)).withDefault default Value.bool? =
      some (kept gone name b default) :=
  Slot.withDefault_kept rfl

theorem withDefault_text (s default : String) :
    (if gone [name] then Slot.unnamed
      else .given ((Value.text s).prune inside)).withDefault default Value.text? =
      some (kept gone name s default) :=
  Slot.withDefault_kept rfl

theorem withDefault_words (ws default : List String) :
    (if gone [name] then Slot.unnamed
      else .given ((Value.words ws).prune inside)).withDefault default
        (Value.listOf? Value.text?) =
      some (kept gone name ws default) :=
  Slot.withDefault_kept (readsBack_list .text Value.text? ws fun s _ => readsBack_text s).decoded

end Slots

attribute [local congr] bind_congr_left

namespace MassAssignmentSettings

/-- The settings with the fields that are gone at their defaults. -/
def reset (s : MassAssignmentSettings) (gone : Paths) : MassAssignmentSettings :=
  let base : MassAssignmentSettings := {}
  { enabled := kept gone "enabled" s.enabled base.enabled
    persistenceMethods :=
      kept gone "persistence_methods" s.persistenceMethods base.persistenceMethods
    bulkInputMethods := kept gone "bulk_input_methods" s.bulkInputMethods base.bulkInputMethods
    inputVariableHints :=
      kept gone "input_variable_hints" s.inputVariableHints base.inputVariableHints }

theorem ofValue?_prune (s : MassAssignmentSettings) (h : v.Lists s.fields) (gone : Paths) :
    ofValue? d (v.prune gone) = some (s.reset gone) := by
  obtain ⟨row, hrow, hslot⟩ := h.exists_row (by simp [fields]) d fieldNames gone
  simp only [fields, List.forall_mem_cons] at hslot
  rw [ofValue?, hrow]
  simp only [some_bind, hslot, Row.bool, Row.words, withDefault_bool, withDefault_words,
    Option.pure_def]
  rfl

end MassAssignmentSettings

namespace PlaintextSecretSettings

/-- The settings with the fields that are gone at their defaults. -/
def reset (s : PlaintextSecretSettings) (gone : Paths) : PlaintextSecretSettings :=
  let base : PlaintextSecretSettings := {}
  { enabled := kept gone "enabled" s.enabled base.enabled
    secretPattern := kept gone "secret_pattern" s.secretPattern base.secretPattern
    ormMethods := kept gone "orm_methods" s.ormMethods base.ormMethods
    storageMethods := kept gone "storage_methods" s.storageMethods base.storageMethods
    sensitiveReceivers :=
      kept gone "sensitive_receivers" s.sensitiveReceivers base.sensitiveReceivers
    storageFunctions := kept gone "storage_functions" s.storageFunctions base.storageFunctions
    cookieTargets := kept gone "cookie_targets" s.cookieTargets base.cookieTargets
    logMethods := kept gone "log_methods" s.logMethods base.logMethods
    sessionIndicators := kept gone "session_indicators" s.sessionIndicators base.sessionIndicators
    queryCallees := kept gone "query_callees" s.queryCallees base.queryCallees
    sqlWriteMarkers := kept gone "sql_write_markers" s.sqlWriteMarkers base.sqlWriteMarkers
    hashFunctions := kept gone "hash_functions" s.hashFunctions base.hashFunctions
    sqlHashFunctions := kept gone "sql_hash_functions" s.sqlHashFunctions base.sqlHashFunctions
    checkStandaloneArrays :=
      kept gone "check_standalone_arrays" s.checkStandaloneArrays base.checkStandaloneArrays }

theorem ofValue?_prune (s : PlaintextSecretSettings) (h : v.Lists s.fields) (gone : Paths) :
    ofValue? d (v.prune gone) = some (s.reset gone) := by
  obtain ⟨row, hrow, hslot⟩ := h.exists_row (by simp [fields]) d fieldNames gone
  simp only [fields, List.forall_mem_cons] at hslot
  rw [ofValue?, hrow]
  simp only [some_bind, hslot, Row.bool, Row.text, Row.words, withDefault_bool, withDefault_text,
    withDefault_words, Option.pure_def]
  rfl

end PlaintextSecretSettings

namespace UnsafeMarkupSettings

/-- The settings with the fields that are gone at their defaults. -/
def reset (s : UnsafeMarkupSettings) (gone : Paths) : UnsafeMarkupSettings :=
  let base : UnsafeMarkupSettings := {}
  { enabled := kept gone "enabled" s.enabled base.enabled
    svgPattern := kept gone "svg_pattern" s.svgPattern base.svgPattern
    dangerousSvgPattern :=
      kept gone "dangerous_svg_pattern" s.dangerousSvgPattern base.dangerousSvgPattern
    unsafeOutputMethods :=
      kept gone "unsafe_output_methods" s.unsafeOutputMethods base.unsafeOutputMethods
    renderMethods := kept gone "render_methods" s.renderMethods base.renderMethods
    sanitizers := kept gone "sanitizers" s.sanitizers base.sanitizers
    userInputHints := kept gone "user_input_hints" s.userInputHints base.userInputHints
    markupTargets := kept gone "markup_targets" s.markupTargets base.markupTargets
    dynamicContentMarkers :=
      kept gone "dynamic_content_markers" s.dynamicContentMarkers base.dynamicContentMarkers }

theorem ofValue?_prune (s : UnsafeMarkupSettings) (h : v.Lists s.fields) (gone : Paths) :
    ofValue? d (v.prune gone) = some (s.reset gone) := by
  obtain ⟨row, hrow, hslot⟩ := h.exists_row (by simp [fields]) d fieldNames gone
  simp only [fields, List.forall_mem_cons] at hslot
  rw [ofValue?, hrow]
  simp only [some_bind, hslot, Row.bool, Row.text, Row.words, withDefault_bool, withDefault_text,
    withDefault_words, Option.pure_def]
  rfl

end UnsafeMarkupSettings

namespace InsecureRecoverySettings

/-- The settings with the fields that are gone at their defaults. -/
def reset (s : InsecureRecoverySettings) (gone : Paths) : InsecureRecoverySettings :=
  let base : InsecureRecoverySettings := {}
  { enabled := kept gone "enabled" s.enabled base.enabled
    recoveryPattern := kept gone "recovery_pattern" s.recoveryPattern base.recoveryPattern
    recoveryNames := kept gone "recovery_names" s.recoveryNames base.recoveryNames
    recoveryMethodNames :=
      kept gone "recovery_method_names" s.recoveryMethodNames base.recoveryMethodNames
    securityQuestionPattern :=
      kept gone "security_question_pattern" s.securityQuestionPattern base.securityQuestionPattern
    secureMechanismPattern :=
      kept gone "secure_mechanism_pattern" s.secureMechanismPattern base.secureMechanismPattern
    secureLibraries := kept gone "secure_libraries" s.secureLibraries base.secureLibraries
    simpleEmailResetIndicators :=
      kept gone "simple_email_reset_indicators" s.simpleEmailResetIndicators
        base.simpleEmailResetIndicators }

theorem ofValue?_prune (s : InsecureRecoverySettings) (h : v.Lists s.fields) (gone : Paths) :
    ofValue? d (v.prune gone) = some (s.reset gone) := by
  obtain ⟨row, hrow, hslot⟩ := h.exists_row (by simp [fields]) d fieldNames gone
  simp only [fields, List.forall_mem_cons] at hslot
  rw [ofValue?, hrow]
  simp only [some_bind, hslot, Row.bool, Row.text, Row.words, withDefault_bool, withDefault_text,
    withDefault_words, Option.pure_def]
  rfl

end InsecureRecoverySettings

namespace Policy

/-- The fields of a policy whose ignored rules and overrides are written in this order. -/
def fields (p : Policy) (ignored : List String) (overridden : List (String × Severity)) :
    List (String × Value) := [
  ("fail_on", .text p.failOn.name),
  ("ignore_rules", .words ignored),
  ("overrides", .object (overridden.map fun o => (o.1, .text o.2.name))),
  ("min_confidence", .ofOption (fun c => .text c.name) p.minConfidence)]

/-- The value is written for the policy. -/
def Written (p : Policy) (v : Value) : Prop :=
  ∃ ignored overridden, ignored.Perm p.ignoreRules.keys ∧
    overridden.Perm p.overrides.entries ∧ v.Lists (p.fields ignored overridden)

theorem written_toValue (p : Policy) : p.Written p.toValue :=
  ⟨_, _, .refl _, .refl _, Value.lists_object _⟩

/-- The policy with the fields that are gone at their defaults, and without the overrides that
are gone. -/
def reset (p : Policy) (gone : Paths) : Policy :=
  let base : Policy := {}
  { failOn := kept gone "fail_on" p.failOn base.failOn
    ignoreRules := kept gone "ignore_rules" p.ignoreRules base.ignoreRules
    overrides :=
      kept gone "overrides" (p.overrides.prune fun key => gone ["overrides", key]) base.overrides
    minConfidence := kept gone "min_confidence" p.minConfidence base.minConfidence }

theorem ruleKeys?_words {ignored : List String} {s : SortedSet} (h : ignored.Perm s.keys) :
    ruleKeys? (.words ignored) = some s := by
  have hlist := (readsBack_list .text Value.text? ignored fun s _ => readsBack_text s).decoded
  rw [ruleKeys?, Value.words, hlist, Option.map_some, SortedSet.ofList_eq_of_perm h]

theorem overrides?_object (entries : List (String × Severity)) :
    overrides? d (.object (entries.map fun o => (o.1, .text o.2.name))) =
      some (SortedMap.empty.putAll entries) := by
  rw [Value.object, overrides?]
  generalize SortedMap.empty = m
  induction entries generalizing m with
  | nil => rfl
  | cons o entries ih =>
    have hseverity : severity? d (.text o.2.name) = some o.2 :=
      (readsBack_oneOf d Severity.all Severity.name o.2 o.2.find?_name).decoded
    simp only [List.map_cons, List.foldlM_cons, some_bind, hseverity, Option.pure_def]
    exact ih (m.put o.1 o.2)

theorem prune_overrides (entries : List (String × Severity)) (gone : Paths) :
    (Value.object (entries.map fun o => (o.1, .text o.2.name))).prune gone =
      .object ((entries.filter (!gone [·.1])).map fun o => (o.1, .text o.2.name)) := by
  rw [Value.prune_object]
  congr 1
  induction entries with
  | nil => rfl
  | cons o entries ih =>
    by_cases hgone : gone [o.1] = true
    · simp [Value.pruneField, hgone, ih]
    · simp [Value.pruneField, hgone, ih, Value.prune]

/-- Overrides are read in any order, after some of them were deleted. -/
theorem overrides?_prune {entries : List (String × Severity)} {m : SortedMap Severity}
    (h : entries.Perm m.entries) (gone : Paths) :
    overrides? d ((Value.object (entries.map fun o => (o.1, .text o.2.name))).prune gone) =
      some (m.prune fun key => gone [key]) := by
  have hleft : (entries.filter (!gone [·.1])).Perm (m.prune fun key => gone [key]).entries :=
    h.filter _
  rw [prune_overrides, overrides?_object, SortedMap.putAll_eq_of_perm hleft]

theorem ofValue?_prune (p : Policy) (h : p.Written v) (gone : Paths) :
    ofValue? d (v.prune gone) = some (p.reset gone) := by
  obtain ⟨ignored, overridden, hignored, hoverridden, hv⟩ := h
  obtain ⟨row, hrow, hslot⟩ := hv.exists_row (by simp [fields]) d fieldNames gone
  simp only [fields, List.forall_mem_cons] at hslot
  have hfailOn : severity? d ((Value.text p.failOn.name).prune (within gone "fail_on")) =
      some p.failOn :=
    (readsBack_oneOf d Severity.all Severity.name p.failOn p.failOn.find?_name).decoded
  have hignoreRules : ruleKeys? ((Value.words ignored).prune (within gone "ignore_rules")) =
      some p.ignoreRules :=
    ruleKeys?_words hignored
  have hoverrides := overrides?_prune (d := d) hoverridden (within gone "overrides")
  have hnullable := nullable_ofOption (fun c => .text c.name)
    (Value.oneOf? d Confidence.all Confidence.name) p.minConfidence
    fun c _ => readsBack_oneOf d Confidence.all Confidence.name c c.find?_name
  have hminConfidence : ((Value.ofOption (fun c => .text c.name) p.minConfidence).prune
      (within gone "min_confidence")).nullable (Value.oneOf? d Confidence.all Confidence.name) =
        some p.minConfidence := by
    rw [← hnullable]
    cases p.minConfidence with
    | none => rfl
    | some c => rfl
  rw [ofValue?, hrow]
  simp only [some_bind, hslot, Slot.withDefault_kept hfailOn, Slot.withDefault_kept hignoreRules,
    Slot.withDefault_kept hoverrides, Slot.withDefault_kept hminConfidence, Option.pure_def]
  rfl

theorem reset_nothing (p : Policy) : p.reset (fun _ => false) = p := by
  rw [reset, SortedMap.prune_nothing]
  rfl

end Policy

namespace RuleSettings

/-- The value is written for the settings of all rules. -/
def Written (s : RuleSettings) (v : Value) : Prop :=
  ∃ m p u r : Value, m.Lists s.massAssignment.fields ∧ p.Lists s.plaintextSecret.fields ∧
    u.Lists s.unsafeMarkup.fields ∧ r.Lists s.insecureRecovery.fields ∧
    v.Lists [("mass_assignment", m), ("plaintext_secret", p), ("unsafe_markup", u),
      ("insecure_recovery", r)]

theorem written_toValue (s : RuleSettings) : s.Written s.toValue :=
  ⟨_, _, _, _, Value.lists_object _, Value.lists_object _, Value.lists_object _,
    Value.lists_object _, Value.lists_object _⟩

/-- The settings with the fields that are gone at their defaults, in every section. -/
def reset (s : RuleSettings) (gone : Paths) : RuleSettings where
  massAssignment := kept gone "mass_assignment"
    (s.massAssignment.reset (within gone "mass_assignment")) {}
  plaintextSecret := kept gone "plaintext_secret"
    (s.plaintextSecret.reset (within gone "plaintext_secret")) {}
  unsafeMarkup := kept gone "unsafe_markup"
    (s.unsafeMarkup.reset (within gone "unsafe_markup")) {}
  insecureRecovery := kept gone "insecure_recovery"
    (s.insecureRecovery.reset (within gone "insecure_recovery")) {}

theorem ofValue?_prune (s : RuleSettings) (h : s.Written v) (gone : Paths) :
    ofValue? d (v.prune gone) = some (s.reset gone) := by
  obtain ⟨m, p, u, r, hm, hp, hu, hr, hv⟩ := h
  obtain ⟨row, hrow, hslot⟩ := hv.exists_row (by simp) d fieldNames gone
  simp only [List.forall_mem_cons] at hslot
  have hm' := s.massAssignment.ofValue?_prune (d := d) hm (within gone "mass_assignment")
  have hp' := s.plaintextSecret.ofValue?_prune (d := d) hp (within gone "plaintext_secret")
  have hu' := s.unsafeMarkup.ofValue?_prune (d := d) hu (within gone "unsafe_markup")
  have hr' := s.insecureRecovery.ofValue?_prune (d := d) hr (within gone "insecure_recovery")
  rw [ofValue?, hrow]
  simp only [some_bind, hslot, Slot.withDefault_kept hm', Slot.withDefault_kept hp',
    Slot.withDefault_kept hu', Slot.withDefault_kept hr', Option.pure_def]
  rfl

end RuleSettings

namespace Config

/-- The value is written for the configuration: the fields of each record stand in any order, and
so do the keys of ignored rules and the overrides. -/
def Written (c : Config) (v : Value) : Prop :=
  ∃ p r : Value, c.policy.Written p ∧ c.rules.Written r ∧ v.Lists [("policy", p), ("rules", r)]

theorem written_toValue (c : Config) : c.Written c.toValue :=
  ⟨_, _, c.policy.written_toValue, c.rules.written_toValue, Value.lists_object _⟩

/-- The configuration with all that is gone at its default. -/
def reset (c : Config) (gone : Paths) : Config where
  policy := kept gone "policy" (c.policy.reset (within gone "policy")) {}
  rules := kept gone "rules" (c.rules.reset (within gone "rules")) {}

example (c : Config) : c.reset (fun _ => true) = {} := rfl

theorem ofValue?_prune (c : Config) (h : c.Written v) (gone : Paths) :
    ofValue? d (v.prune gone) = some (c.reset gone) := by
  obtain ⟨p, r, hp, hr, hv⟩ := h
  obtain ⟨row, hrow, hslot⟩ := hv.exists_row (by simp) d fieldNames gone
  simp only [List.forall_mem_cons] at hslot
  have hp' := c.policy.ofValue?_prune (d := d) hp (within gone "policy")
  have hr' := c.rules.ofValue?_prune (d := d) hr (within gone "rules")
  rw [ofValue?, hrow]
  simp only [some_bind, hslot, Slot.withDefault_kept hp', Slot.withDefault_kept hr',
    Option.pure_def]
  rfl

theorem reset_nothing (c : Config) : c.reset (fun _ => false) = c := by
  have hpolicy : c.policy.reset (within (fun _ => false) "policy") = c.policy :=
    c.policy.reset_nothing
  rw [reset, hpolicy]
  rfl

/-- A configuration is written in some form. From every form in which it is written any members can
be deleted: what is left reads as the configuration with the deleted fields at their defaults. With
nothing deleted, the configuration itself is read. -/
theorem deleted_fields_default (c : Config) :
    c.Written c.toValue ∧
      ∀ v, c.Written v →
        (∀ gone : Paths, ofValue? d (v.prune gone) = some (c.reset gone)) ∧
          ofValue? d v = some c := by
  refine ⟨c.written_toValue, fun v h => ⟨c.ofValue?_prune h, ?_⟩⟩
  have hnothing := c.ofValue?_prune (d := d) h fun _ => false
  rwa [Value.prune_nothing, c.reset_nothing] at hnothing

def strictConfig : Config where
  policy := {
    failOn := .low
    ignoreRules := SortedSet.ofList ["unsafe-markup"]
    overrides := (SortedMap.empty.put "plaintext-secret" .critical).put "insecure-recovery" .low
    minConfidence := some .medium }
  rules := {
    plaintextSecret := { enabled := false, secretPattern := "key", ormMethods := [] }
    unsafeMarkup := { sanitizers := ["clean"] } }

/-- Two fields, one override and a whole section are deleted, and the rules come first. -/
theorem strictConfig_in_part :
    let v : Value := .object [
      ("rules", strictConfig.rules.toValue), ("policy", strictConfig.policy.toValue)]
    let gone : Paths := fun path => [
      ["policy", "fail_on"],
      ["policy", "overrides", "plaintext-secret"],
      ["rules", "plaintext_secret", "secret_pattern"],
      ["rules", "unsafe_markup"]].contains path
    strictConfig.Written v ∧ ofValue? .json v = some strictConfig ∧
      ofValue? .json (v.prune gone) = some {
        policy := {
          ignoreRules := SortedSet.ofList ["unsafe-markup"]
          overrides := SortedMap.empty.put "insecure-recovery" .low
          minConfidence := some .medium }
        rules := { plaintextSecret := { enabled := false, ormMethods := [] } } } := by
  intro v gone
  have hwritten : strictConfig.Written v :=
    ⟨_, _, strictConfig.policy.written_toValue, strictConfig.rules.written_toValue,
      _, .swap _ _ _, rfl⟩
  obtain ⟨hpart, hall⟩ := (deleted_fields_default (d := .json) strictConfig).2 v hwritten
  refine ⟨hwritten, hall, ?_⟩
  rw [hpart gone]
  rfl

end Config


end SecurityLint
