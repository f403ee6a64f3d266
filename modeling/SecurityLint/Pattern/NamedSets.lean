import SecurityLint.Pattern.CharSet

/-!
Tables of character sets that are asked for by name.
-/
namespace SecurityLint.Pattern

/-- Sets with their names. -/
abbrev NamedSets := List (List String × CharSet)

/-- The set with a name. -/
def NamedSets.find? (sets : NamedSets) (name : String) : Option CharSet :=
  (List.find? (fun s => s.1.contains name) sets).map Prod.snd

end SecurityLint.Pattern
