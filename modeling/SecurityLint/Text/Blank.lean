import SecurityLint.Text.Ranges

/-!
White space, and texts without it at their ends.
-/
namespace SecurityLint.Text

/-- Code points with the property White_Space. -/
def blankRanges : List (Nat × Nat) := [
  (0x9, 0xd), (0x20, 0x20), (0x85, 0x85), (0xa0, 0xa0), (0x1680, 0x1680), (0x2000, 0x200a),
  (0x2028, 0x2029), (0x202f, 0x202f), (0x205f, 0x205f), (0x3000, 0x3000)]

def isBlank (c : Char) : Bool :=
  inRanges blankRanges c.toNat

/-- Removes the longest stretches of such characters at both ends. -/
def stripEnds (p : Char → Bool) (cs : List Char) : List Char :=
  ((cs.dropWhile p).reverse.dropWhile p).reverse

def strip (p : Char → Bool) (s : String) : String :=
  String.ofList (stripEnds p s.toList)

/-- Removes white space at both ends. -/
def trim (s : String) : String :=
  strip isBlank s

/-- Whether a text has no character that is not white space. -/
def isBlankText (s : String) : Bool :=
  s.toList.all isBlank

end SecurityLint.Text
