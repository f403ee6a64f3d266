import SecurityLint.Pattern.Matching
import SecurityLint.Pattern.Reader

/-!
Patterns over identifiers, keys and rendered text, matched whatever the case.
-/
namespace SecurityLint

structure NamePattern where
  source : String
  regex : Pattern.Regex

namespace NamePattern

/-- A pattern from its text; there is none if the text cannot be read. -/
def compile? (source : String) : Option NamePattern :=
  (Pattern.Regex.parse? source).map fun regex => { source, regex }

/-- Whether the pattern matches somewhere in a text. The empty text never matches, even where the
pattern would accept it. -/
def matchesIn (p : NamePattern) (text : String) : Bool :=
  !text.isEmpty && p.regex.matchesIn text.toList

end NamePattern

end SecurityLint
