import SecurityLint.Config.Toml
import SecurityLint.Report
import SecurityLint.Rule.InsecureRecovery
import SecurityLint.Rule.MassAssignment
import SecurityLint.Rule.PlaintextSecret
import SecurityLint.Rule.UnsafeMarkup

/-!
Scanners: the enabled rules together with the policy that judges their findings.
-/
namespace SecurityLint

/-- A rule that is left out unless it is enabled. -/
def ruleIf (enabled : Bool) (rule : Except Error Rule) : Except Error (List Rule) :=
  if enabled then rule.map ([·]) else .ok []

namespace RuleSettings

/-- The enabled rules in their fixed order. -/
def rules (s : RuleSettings) : Except Error (List Rule) := do
  let massAssignment ← ruleIf s.massAssignment.enabled
    (.ok (MassAssignment.ofSettings s.massAssignment).rule)
  let plaintextSecret ← ruleIf s.plaintextSecret.enabled
    ((PlaintextSecret.ofSettings s.plaintextSecret).map (·.rule))
  let unsafeMarkup ← ruleIf s.unsafeMarkup.enabled
    ((UnsafeMarkup.ofSettings s.unsafeMarkup).map (·.rule))
  let insecureRecovery ← ruleIf s.insecureRecovery.enabled
    ((InsecureRecovery.ofSettings s.insecureRecovery).map (·.rule))
  return massAssignment ++ plaintextSecret ++ unsafeMarkup ++ insecureRecovery

/-- An engine with the enabled rules. -/
def engine (s : RuleSettings) : Except Error Engine := do
  s.validate
  return Engine.ofRules (← s.rules)

end RuleSettings

/-- The result of scanning a tree. -/
structure ScanReport where
  /-- The findings that count under the policy. -/
  findings : List Finding
  diagnostics : List Diagnostic
  verdict : Verdict
  deriving DecidableEq, Repr

def ScanReport.toValue (r : ScanReport) : Data.Value :=
  .object [
    ("findings", .list (r.findings.map Finding.toValue)),
    ("diagnostics", .list (r.diagnostics.map Diagnostic.toValue)),
    ("verdict", r.verdict.toValue)]

structure Scanner where
  engine : Engine
  policy : Policy

namespace Scanner

def ofConfig (c : Config) : Except Error Scanner := do
  return { engine := ← c.rules.engine, policy := c.policy }

/-- The keys in the policy that name none of the rules, in order. A key that is both ignored and
overridden is listed twice. -/
def unknownRules (s : Scanner) : List String :=
  let known := s.engine.ruleInfos.map (·.id)
  let keys := s.policy.ignoreRules.keys ++ s.policy.overrides.keys
  (keys.filter (!known.contains ·)).mergeSort (fun a b => !(b < a))

def scan (s : Scanner) (t : SyntaxTree) : ScanReport :=
  let outcome := s.engine.scan t
  { findings := s.policy.apply outcome.findings
    diagnostics := outcome.diagnostics
    verdict := s.policy.evaluate outcome.findings }

/-- Scans the tree in a file. -/
def scanFile (s : Scanner) (content : Option ByteArray) : Except Error ScanReport := do
  return s.scan (← SyntaxTree.load content)

end Scanner

/-- Scans a tree with all rules and the default policy. -/
def scan (t : SyntaxTree) : Except Error ScanReport := do
  return (← Scanner.ofConfig {}).scan t

end SecurityLint
