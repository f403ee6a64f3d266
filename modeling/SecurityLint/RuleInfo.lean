import SecurityLint.Rating

/-!
What a rule says about itself.
-/
namespace SecurityLint

inductive Category where
  | massAssignment
  | sensitiveDataExposure
  | crossSiteScripting
  | weakAuthentication
  deriving DecidableEq, Repr

namespace Category

def all : List Category :=
  [massAssignment, sensitiveDataExposure, crossSiteScripting, weakAuthentication]

def name : Category → String
  | massAssignment => "mass_assignment"
  | sensitiveDataExposure => "sensitive_data_exposure"
  | crossSiteScripting => "cross_site_scripting"
  | weakAuthentication => "weak_authentication"

theorem find?_name (c : Category) : all.find? (name · == c.name) = some c := by
  cases c <;> rfl

/-- The name shown to readers of a report. -/
def title : Category → String
  | massAssignment => "Mass Assignment"
  | sensitiveDataExposure => "Sensitive Data Exposure"
  | crossSiteScripting => "Cross-Site Scripting"
  | weakAuthentication => "Weak Authentication"

end Category

structure RuleInfo where
  id : String
  name : String
  description : String
  severity : Severity
  category : Category
  /-- The entry of the rule in the list of common weaknesses. -/
  cwe : Option String
  deriving DecidableEq, Repr

end SecurityLint
