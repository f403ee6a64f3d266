import SecurityLint.Tree.Link

/-!
Why settings or a tree are not accepted.
-/
namespace SecurityLint

inductive Error where
  /-- A setting that an enabled rule cannot do without is empty. -/
  | emptySetting (key : String)
  /-- The pattern of this name cannot be read. -/
  | badPattern (name : String)
  | flawedTree (flaw : Flaw)
  | badJson
  | badToml
  /-- A file is missing, or is no text. -/
  | unreadable
  deriving DecidableEq, Repr

/-- The text of an error that has a fixed wording. -/
def Error.message? : Error → Option String
  | emptySetting key =>
    some s!"Configuration error: {key} must not be empty while the rule is enabled"
  | flawedTree flaw => some s!"Invalid syntax tree: {flaw.message}"
  | _ => none

end SecurityLint
