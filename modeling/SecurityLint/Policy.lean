import SecurityLint.Finding
import SecurityLint.SortedMap

/-!
The policy of a host: which findings count, how severe they count as, and whether a scan passes.
-/
namespace SecurityLint

structure Policy where
  /-- The least severity that fails a scan. -/
  failOn : Severity := .high
  /-- Keys of rules whose findings do not count. -/
  ignoreRules : SortedSet := .empty
  /-- Severities that replace those of a rule's findings. -/
  overrides : SortedMap Severity := .empty
  /-- Findings below this confidence do not count. -/
  minConfidence : Option Confidence := none
  deriving DecidableEq, Repr

structure Verdict where
  pass : Bool
  total : Nat
  effective : Nat
  highest : Option Severity
  threshold : Severity
  /-- How many findings count for each rule that has some. -/
  byRule : SortedMap Nat
  deriving DecidableEq, Repr

namespace Policy

def keeps (p : Policy) (f : Finding) : Bool :=
  !p.ignoreRules.contains f.ruleId && p.minConfidence.all (· ≤ f.confidence)

def severityOf (p : Policy) (f : Finding) : Severity :=
  (p.overrides.get? f.ruleId).getD f.severity

/-- The higher of two severities, where none is below all. -/
def higher : Option Severity → Severity → Option Severity
  | none, s => some s
  | some r, s => some (max r s)

/-- Counts one more finding. -/
def count (p : Policy) (v : Verdict) (f : Finding) : Verdict :=
  { v with
    effective := v.effective + 1
    highest := higher v.highest (p.severityOf f)
    byRule := v.byRule.bump f.ruleId }

/-- Judges findings; the scan passes if all that count are below the threshold. -/
def evaluate (p : Policy) (findings : List Finding) : Verdict :=
  let start : Verdict := {
    pass := true
    total := findings.length
    effective := 0
    highest := none
    threshold := p.failOn
    byRule := .empty }
  let v := (findings.filter p.keeps).foldl p.count start
  { v with pass := v.highest.all (· < p.failOn) }

/-- The findings that count, with the severities that they count as. -/
def apply (p : Policy) (findings : List Finding) : List Finding :=
  (findings.filter p.keeps).map fun f => f.withSeverity (p.severityOf f)

end Policy

end SecurityLint
