import SecurityLint.Call
import SecurityLint.Config.Sections
import SecurityLint.Engine

/-!
Mass assignment: a model is created or changed from all the input of a request. A call that takes
the input from the request is certain; a variable whose name only suggests it is not. Input that
was filtered by the request is never reported.
-/
namespace SecurityLint

structure MassAssignment where
  persistenceMethods : Keywords
  bulkInputMethods : Keywords
  inputVariableHints : Keywords

namespace MassAssignment

def ofSettings (s : MassAssignmentSettings) : MassAssignment where
  persistenceMethods := .ofList s.persistenceMethods
  bulkInputMethods := .ofList s.bulkInputMethods
  inputVariableHints := .ofList s.inputVariableHints

def info : RuleInfo where
  id := "mass-assignment"
  name := "Unsafe Mass Assignment"
  description := "Binds the whole request input onto a model without an allow-list"
  severity := .high
  category := .massAssignment
  cwe := some "CWE-915"

def kinds : List Kind := [.functionCall]

def remediation : String :=
  "Pass an explicit allow-list ($request->only([...]) or validated data) " ++
  "and make sure $fillable or $guarded is set on the model."

variable {t : SyntaxTree}

/-- The finding for a call of `method` whose first argument is a call. -/
def checkCall (r : MassAssignment) (c : Cursor t) (method : String) (first : Cursor t) :
    Option Finding := do
  let inner ← first.memberCall?
  if !r.bulkInputMethods.containsName inner.method then none
  let message := s!"Unsafe mass assignment via {method}() + {inner.method}(): " ++
    "the whole request input is bound to the model"
  return (Finding.new info c message)
    |>.withEvidence s!"Bulk input extraction '{inner.method}()'" first
    |>.withRemediation remediation

/-- The finding for a call of `method` whose first argument is a variable. -/
def checkVariable (r : MassAssignment) (c : Cursor t) (method : String) (first : Cursor t) :
    Option Finding :=
  let name := first.nameOrText
  if r.inputVariableHints.occursIn name then
    some <| (Finding.new info c s!"Potential unsafe mass assignment via {method}() with {name}")
      |>.withSeverity .medium
      |>.withConfidence .low
      |>.withRemediation remediation
  else none

def visit (r : MassAssignment) (c : Cursor t) : Option Finding := do
  let outer ← c.memberCall?
  if !r.persistenceMethods.containsName outer.method then none
  let first ← c.firstArgument?
  match first.kind with
  | .functionCall => r.checkCall c outer.method first
  | .identifier => r.checkVariable c outer.method first
  | _ => none

def rule (r : MassAssignment) : Rule where
  info := info
  kinds := kinds
  visit _ c := return (r.visit c).toList

end MassAssignment

end SecurityLint
