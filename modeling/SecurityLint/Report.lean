import SecurityLint.Config.Fields
import SecurityLint.Engine
import SecurityLint.Tree.Json

/-!
Findings, verdicts and what belongs to them as values, for hosts that store or show them.
-/
namespace SecurityLint

open Data (Value Row Dialect)

namespace RuleInfo

def fieldNames : List String :=
  ["id", "name", "description", "default_severity", "category", "cwe_id"]

def fields (r : RuleInfo) : List (String × Value) := [
  ("id", .text r.id),
  ("name", .text r.name),
  ("description", .text r.description),
  ("default_severity", .text r.severity.name),
  ("category", .text r.category.name),
  ("cwe_id", .ofOption .text r.cwe)]

def toValue (r : RuleInfo) : Value :=
  .object r.fields

def ofValue? (v : Value) : Option RuleInfo := do
  let row ← Row.ofValue? .json fieldNames v
  return {
    id := ← (row.slot "id").required Value.text?
    name := ← (row.slot "name").required Value.text?
    description := ← (row.slot "description").required Value.text?
    severity := ← (row.slot "default_severity").required
      (Value.oneOf? .json Severity.all Severity.name)
    category := ← (row.slot "category").required (Value.oneOf? .json Category.all Category.name)
    cwe := ← (row.slot "cwe_id").optional Value.text? }

end RuleInfo

namespace Evidence

def fieldNames : List String := ["description", "node", "location", "snippet"]

def toValue (e : Evidence) : Value :=
  .object [
    ("description", .text e.description),
    ("node", .nat e.node),
    ("location", .ofOption Location.toValue e.location),
    ("snippet", .ofOption .text e.snippet)]

def ofValue? (v : Value) : Option Evidence := do
  let row ← Row.ofValue? .json fieldNames v
  return {
    description := ← (row.slot "description").required Value.text?
    node := ← (row.slot "node").required Value.index?
    location := ← (row.slot "location").optional Location.ofValue?
    snippet := ← (row.slot "snippet").optional Value.text? }

end Evidence

namespace Finding

def fieldNames : List String := [
  "rule_id", "rule_name", "severity", "confidence", "category", "message", "anchor", "location",
  "snippet", "evidence", "remediation", "cwe_id"]

def toValue (f : Finding) : Value :=
  .object [
    ("rule_id", .text f.ruleId),
    ("rule_name", .text f.ruleName),
    ("severity", .text f.severity.name),
    ("confidence", .text f.confidence.name),
    ("category", .text f.category.name),
    ("message", .text f.message),
    ("anchor", .nat f.anchor),
    ("location", .ofOption Location.toValue f.location),
    ("snippet", .ofOption .text f.snippet),
    ("evidence", .list (f.evidence.map Evidence.toValue)),
    ("remediation", .ofOption .text f.remediation),
    ("cwe_id", .ofOption .text f.cwe)]

def ofValue? (v : Value) : Option Finding := do
  let row ← Row.ofValue? .json fieldNames v
  return {
    ruleId := ← (row.slot "rule_id").required Value.text?
    ruleName := ← (row.slot "rule_name").required Value.text?
    severity := ← (row.slot "severity").required (Value.oneOf? .json Severity.all Severity.name)
    confidence := ← (row.slot "confidence").required
      (Value.oneOf? .json Confidence.all Confidence.name)
    category := ← (row.slot "category").required (Value.oneOf? .json Category.all Category.name)
    message := ← (row.slot "message").required Value.text?
    anchor := ← (row.slot "anchor").required Value.index?
    location := ← (row.slot "location").optional Location.ofValue?
    snippet := ← (row.slot "snippet").optional Value.text?
    evidence := ← (row.slot "evidence").required (Value.listOf? Evidence.ofValue?)
    remediation := ← (row.slot "remediation").optional Value.text?
    cwe := ← (row.slot "cwe_id").optional Value.text? }

end Finding

namespace Diagnostic

def toValue (d : Diagnostic) : Value :=
  .object [("rule_id", .text d.ruleId), ("node", .nat d.node), ("message", .text d.message)]

end Diagnostic

namespace Verdict

def toValue (v : Verdict) : Value :=
  .object [
    ("pass", .bool v.pass),
    ("total_findings", .nat v.total),
    ("effective_findings", .nat v.effective),
    ("highest_severity", .ofOption (fun s => .text s.name) v.highest),
    ("fail_threshold", .text v.threshold.name),
    ("by_rule", .object (v.byRule.entries.map fun r => (r.1, .nat r.2)))]

end Verdict

end SecurityLint
