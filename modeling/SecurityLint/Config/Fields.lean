import SecurityLint.Config.Basic
import SecurityLint.Data.Schema

/-!
Configurations as values. A section or field that is not given has its default.
-/
namespace SecurityLint

open Data (Value Row Dialect)

namespace Data

def Value.words (ws : List String) : Value :=
  .list (ws.map .text)

namespace Row

def bool (row : Row) (name : String) (default : Bool) : Option Bool :=
  (row.slot name).withDefault default Value.bool?

def text (row : Row) (name : String) (default : String) : Option String :=
  (row.slot name).withDefault default Value.text?

def words (row : Row) (name : String) (default : List String) : Option (List String) :=
  (row.slot name).withDefault default (Value.listOf? Value.text?)

end Row

end Data

namespace Policy

def fieldNames : List String := ["fail_on", "ignore_rules", "overrides", "min_confidence"]

def toValue (p : Policy) : Value :=
  .object [
    ("fail_on", .text p.failOn.name),
    ("ignore_rules", .words p.ignoreRules.keys),
    ("overrides", .object (p.overrides.entries.map fun o => (o.1, .text o.2.name))),
    ("min_confidence", .ofOption (fun c => .text c.name) p.minConfidence)]

def severity? (d : Dialect) : Value → Option Severity :=
  Value.oneOf? d Severity.all Severity.name

/-- A list of rule keys, in any order and with repetitions. -/
def ruleKeys? (v : Value) : Option SortedSet :=
  (v.listOf? Value.text?).map SortedSet.ofList

/-- A map from rule keys to severities. -/
def overrides? (d : Dialect) : Value → Option (SortedMap Severity)
  | .record fields =>
    fields.foldlM (fun m (name, v) => return m.put (← name) (← severity? d v)) .empty
  | _ => none

def ofValue? (d : Dialect) (v : Value) : Option Policy := do
  let row ← Row.ofValue? d fieldNames v
  let base : Policy := {}
  return {
    failOn := ← (row.slot "fail_on").withDefault base.failOn (severity? d)
    ignoreRules := ← (row.slot "ignore_rules").withDefault base.ignoreRules ruleKeys?
    overrides := ← (row.slot "overrides").withDefault base.overrides (overrides? d)
    minConfidence := ← (row.slot "min_confidence").withDefault base.minConfidence
      (Value.nullable (Value.oneOf? d Confidence.all Confidence.name)) }

end Policy

namespace MassAssignmentSettings

def fieldNames : List String := [
  "enabled", "persistence_methods", "bulk_input_methods", "input_variable_hints"]

def fields (s : MassAssignmentSettings) : List (String × Value) := [
  ("enabled", .bool s.enabled),
  ("persistence_methods", .words s.persistenceMethods),
  ("bulk_input_methods", .words s.bulkInputMethods),
  ("input_variable_hints", .words s.inputVariableHints)]

def toValue (s : MassAssignmentSettings) : Value :=
  .object s.fields

def ofValue? (d : Dialect) (v : Value) : Option MassAssignmentSettings := do
  let row ← Row.ofValue? d fieldNames v
  let base : MassAssignmentSettings := {}
  return {
    enabled := ← row.bool "enabled" base.enabled
    persistenceMethods := ← row.words "persistence_methods" base.persistenceMethods
    bulkInputMethods := ← row.words "bulk_input_methods" base.bulkInputMethods
    inputVariableHints := ← row.words "input_variable_hints" base.inputVariableHints }

end MassAssignmentSettings

namespace PlaintextSecretSettings

def fieldNames : List String := [
  "enabled", "secret_pattern", "orm_methods", "storage_methods", "sensitive_receivers",
  "storage_functions", "cookie_targets", "log_methods", "session_indicators", "query_callees",
  "sql_write_markers", "hash_functions", "sql_hash_functions", "check_standalone_arrays"]

def fields (s : PlaintextSecretSettings) : List (String × Value) := [
  ("enabled", .bool s.enabled),
  ("secret_pattern", .text s.secretPattern),
  ("orm_methods", .words s.ormMethods),
  ("storage_methods", .words s.storageMethods),
  ("sensitive_receivers", .words s.sensitiveReceivers),
  ("storage_functions", .words s.storageFunctions),
  ("cookie_targets", .words s.cookieTargets),
  ("log_methods", .words s.logMethods),
  ("session_indicators", .words s.sessionIndicators),
  ("query_callees", .words s.queryCallees),
  ("sql_write_markers", .words s.sqlWriteMarkers),
  ("hash_functions", .words s.hashFunctions),
  ("sql_hash_functions", .words s.sqlHashFunctions),
  ("check_standalone_arrays", .bool s.checkStandaloneArrays)]

def toValue (s : PlaintextSecretSettings) : Value :=
  .object s.fields

def ofValue? (d : Dialect) (v : Value) : Option PlaintextSecretSettings := do
  let row ← Row.ofValue? d fieldNames v
  let base : PlaintextSecretSettings := {}
  return {
    enabled := ← row.bool "enabled" base.enabled
    secretPattern := ← row.text "secret_pattern" base.secretPattern
    ormMethods := ← row.words "orm_methods" base.ormMethods
    storageMethods := ← row.words "storage_methods" base.storageMethods
    sensitiveReceivers := ← row.words "sensitive_receivers" base.sensitiveReceivers
    storageFunctions := ← row.words "storage_functions" base.storageFunctions
    cookieTargets := ← row.words "cookie_targets" base.cookieTargets
    logMethods := ← row.words "log_methods" base.logMethods
    sessionIndicators := ← row.words "session_indicators" base.sessionIndicators
    queryCallees := ← row.words "query_callees" base.queryCallees
    sqlWriteMarkers := ← row.words "sql_write_markers" base.sqlWriteMarkers
    hashFunctions := ← row.words "hash_functions" base.hashFunctions
    sqlHashFunctions := ← row.words "sql_hash_functions" base.sqlHashFunctions
    checkStandaloneArrays := ← row.bool "check_standalone_arrays" base.checkStandaloneArrays }

end PlaintextSecretSettings

namespace UnsafeMarkupSettings

def fieldNames : List String := [
  "enabled", "svg_pattern", "dangerous_svg_pattern", "unsafe_output_methods", "render_methods",
  "sanitizers", "user_input_hints", "markup_targets", "dynamic_content_markers"]

def fields (s : UnsafeMarkupSettings) : List (String × Value) := [
  ("enabled", .bool s.enabled),
  ("svg_pattern", .text s.svgPattern),
  ("dangerous_svg_pattern", .text s.dangerousSvgPattern),
  ("unsafe_output_methods", .words s.unsafeOutputMethods),
  ("render_methods", .words s.renderMethods),
  ("sanitizers", .words s.sanitizers),
  ("user_input_hints", .words s.userInputHints),
  ("markup_targets", .words s.markupTargets),
  ("dynamic_content_markers", .words s.dynamicContentMarkers)]

def toValue (s : UnsafeMarkupSettings) : Value :=
  .object s.fields

def ofValue? (d : Dialect) (v : Value) : Option UnsafeMarkupSettings := do
  let row ← Row.ofValue? d fieldNames v
  let base : UnsafeMarkupSettings := {}
  return {
    enabled := ← row.bool "enabled" base.enabled
    svgPattern := ← row.text "svg_pattern" base.svgPattern
    dangerousSvgPattern := ← row.text "dangerous_svg_pattern" base.dangerousSvgPattern
    unsafeOutputMethods := ← row.words "unsafe_output_methods" base.unsafeOutputMethods
    renderMethods := ← row.words "render_methods" base.renderMethods
    sanitizers := ← row.words "sanitizers" base.sanitizers
    userInputHints := ← row.words "user_input_hints" base.userInputHints
    markupTargets := ← row.words "markup_targets" base.markupTargets
    dynamicContentMarkers := ← row.words "dynamic_content_markers" base.dynamicContentMarkers }

end UnsafeMarkupSettings

namespace InsecureRecoverySettings

def fieldNames : List String := [
  "enabled", "recovery_pattern", "recovery_names", "recovery_method_names",
  "security_question_pattern", "secure_mechanism_pattern", "secure_libraries",
  "simple_email_reset_indicators"]

def fields (s : InsecureRecoverySettings) : List (String × Value) := [
  ("enabled", .bool s.enabled),
  ("recovery_pattern", .text s.recoveryPattern),
  ("recovery_names", .words s.recoveryNames),
  ("recovery_method_names", .words s.recoveryMethodNames),
  ("security_question_pattern", .text s.securityQuestionPattern),
  ("secure_mechanism_pattern", .text s.secureMechanismPattern),
  ("secure_libraries", .words s.secureLibraries),
  ("simple_email_reset_indicators", .words s.simpleEmailResetIndicators)]

def toValue (s : InsecureRecoverySettings) : Value :=
  .object s.fields

def ofValue? (d : Dialect) (v : Value) : Option InsecureRecoverySettings := do
  let row ← Row.ofValue? d fieldNames v
  let base : InsecureRecoverySettings := {}
  return {
    enabled := ← row.bool "enabled" base.enabled
    recoveryPattern := ← row.text "recovery_pattern" base.recoveryPattern
    recoveryNames := ← row.words "recovery_names" base.recoveryNames
    recoveryMethodNames := ← row.words "recovery_method_names" base.recoveryMethodNames
    securityQuestionPattern := ← row.text "security_question_pattern" base.securityQuestionPattern
    secureMechanismPattern := ← row.text "secure_mechanism_pattern" base.secureMechanismPattern
    secureLibraries := ← row.words "secure_libraries" base.secureLibraries
    simpleEmailResetIndicators := ← row.words "simple_email_reset_indicators"
      base.simpleEmailResetIndicators }

end InsecureRecoverySettings

namespace RuleSettings

def fieldNames : List String :=
  ["mass_assignment", "plaintext_secret", "unsafe_markup", "insecure_recovery"]

def toValue (s : RuleSettings) : Value :=
  .object [
    ("mass_assignment", s.massAssignment.toValue),
    ("plaintext_secret", s.plaintextSecret.toValue),
    ("unsafe_markup", s.unsafeMarkup.toValue),
    ("insecure_recovery", s.insecureRecovery.toValue)]

def ofValue? (d : Dialect) (v : Value) : Option RuleSettings := do
  let row ← Row.ofValue? d fieldNames v
  return {
    massAssignment := ← (row.slot "mass_assignment").withDefault {}
      (MassAssignmentSettings.ofValue? d)
    plaintextSecret := ← (row.slot "plaintext_secret").withDefault {}
      (PlaintextSecretSettings.ofValue? d)
    unsafeMarkup := ← (row.slot "unsafe_markup").withDefault {}
      (UnsafeMarkupSettings.ofValue? d)
    insecureRecovery := ← (row.slot "insecure_recovery").withDefault {}
      (InsecureRecoverySettings.ofValue? d) }

end RuleSettings

namespace Config

def fieldNames : List String := ["policy", "rules"]

def toValue (c : Config) : Value :=
  .object [("policy", c.policy.toValue), ("rules", c.rules.toValue)]

def ofValue? (d : Dialect) (v : Value) : Option Config := do
  let row ← Row.ofValue? d fieldNames v
  return {
    policy := ← (row.slot "policy").withDefault {} (Policy.ofValue? d)
    rules := ← (row.slot "rules").withDefault {} (RuleSettings.ofValue? d) }

end Config

end SecurityLint
