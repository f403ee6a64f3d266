import SecurityLint.RuleInfo
import SecurityLint.Text.Blank
import SecurityLint.Tree.Cursor

/-!
Findings: what a rule reports about a node, with the nodes that support it.
-/
namespace SecurityLint

/-- The longest part of a text that a snippet shows. -/
def snippetLimit : Nat := 160

/-- The trimmed text of a node, cut off where it is too long; a blank text has none. -/
def snippet? (text : String) : Option String :=
  let trimmed := Text.trim text
  if trimmed.isEmpty then none
  else if trimmed.length ≤ snippetLimit then some trimmed
  else some (String.ofList (trimmed.toList.take snippetLimit) ++ "...")

structure Evidence where
  description : String
  node : NodeId
  location : Option Location
  snippet : Option String
  deriving DecidableEq, Repr

structure Finding where
  ruleId : String
  ruleName : String
  severity : Severity
  confidence : Confidence
  category : Category
  message : String
  /-- The node that the finding is about. -/
  anchor : NodeId
  location : Option Location
  snippet : Option String
  evidence : List Evidence
  remediation : Option String
  cwe : Option String
  deriving DecidableEq, Repr

namespace Finding

variable {t : SyntaxTree}

/-- A certain finding about a node, as severe as the rule says. -/
def new (info : RuleInfo) (anchor : Cursor t) (message : String) : Finding where
  ruleId := info.id
  ruleName := info.name
  severity := info.severity
  confidence := .high
  category := info.category
  message := message
  anchor := anchor.id
  location := anchor.location?
  snippet := snippet? anchor.text
  evidence := []
  remediation := none
  cwe := info.cwe

def withSeverity (f : Finding) (severity : Severity) : Finding :=
  { f with severity }

def withConfidence (f : Finding) (confidence : Confidence) : Finding :=
  { f with confidence }

def withRemediation (f : Finding) (remediation : String) : Finding :=
  { f with remediation := some remediation }

def withEvidence (f : Finding) (description : String) (c : Cursor t) : Finding :=
  { f with
    evidence := f.evidence ++ [{
      description
      node := c.id
      location := c.location?
      snippet := snippet? c.text }] }

end Finding

end SecurityLint
