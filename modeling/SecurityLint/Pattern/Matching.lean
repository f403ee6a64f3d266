import SecurityLint.Pattern.Class
import SecurityLint.Pattern.Regex

/-!
The search for a match. Only whether there is a match somewhere in a text is asked, so an
expression is read as a map on sets of gaps: from the gaps where a match may begin to the gaps
where it may end. A text of `n` characters has `n + 1` gaps, and a set of gaps is the list of their
marks.
-/
namespace SecurityLint.Pattern

/-- Whether a gap lies at such a place, from whether a word character stands on either side. -/
def WordPlace.holds (before behind : Bool) : WordPlace → Bool
  | boundary => before != behind
  | noBoundary => before == behind
  | start => !before && behind
  | finish => before && !behind
  | startHalf => !before
  | finishHalf => !behind

/-- Whether the condition holds between the two neighbours of a gap. -/
def Look.holds (prev next : Option Char) : Look → Bool
  | textStart => prev.isNone
  | textEnd => next.isNone
  | lineStart => prev.all (· == '\n')
  | lineEnd => next.all (· == '\n')
  | crlfLineStart => prev.all fun c => c == '\n' || (c == '\r' && next != some '\n')
  | crlfLineEnd => next.all fun c => c == '\r' || (c == '\n' && prev != some '\r')
  | word unicode place =>
    let isWord := (Class.word unicode).contains
    place.holds (prev.any isWord) (next.any isWord)

abbrev Marks := List Bool

/-- The neighbours of every gap of a text. -/
def gaps (text : List Char) : List (Option Char × Option Char) :=
  (none :: text.map some).zip (text.map some ++ [none])

/-- Moves the marks over a character that has a property. -/
def Marks.step (text : List Char) (p : Char → Bool) (m : Marks) : Marks :=
  false :: List.zipWith (fun marked c => marked && p c) m text

/-- Applies `f` `n` times, or fewer times once it changes nothing. -/
def iterate (f : Marks → Marks) : Nat → Marks → Marks
  | 0, m => m
  | n + 1, m =>
    let m' := f m
    if m' == m then m else iterate f n m'

/-- Adds what `f` reaches in up to `n` rounds. -/
def saturate (f : Marks → Marks) (n : Nat) (m : Marks) : Marks :=
  iterate (fun m => List.zipWith (· || ·) m (f m)) n m

namespace Regex

mutual

/-- The gaps where a match that begins at one of the marked gaps can end. Each further round of an
unbounded repetition marks a new gap or none at all, so as many rounds as there are gaps suffice. -/
def advance (text : List Char) : Regex → Marks → Marks
  | empty, m => m
  | literal cs, m => cs.foldl (fun m c => m.step text (· == c)) m
  | set _ s, m => m.step text s.contains
  | look l, m => List.zipWith (fun marked g => marked && l.holds g.1 g.2) m (gaps text)
  | capture _ r, m => advance text r m
  | repeats least most _ r, m =>
    saturate (advance text r) (most.elim (text.length + 1) (· - least))
      (iterate (advance text r) least m)
  | sequence rs, m => advanceAll text rs m
  | choice rs, m => advanceAny text rs m

/-- The gaps that are reached by one expression after the other. -/
def advanceAll (text : List Char) : List Regex → Marks → Marks
  | [], m => m
  | r :: rs, m => advanceAll text rs (advance text r m)

/-- The gaps that are reached by one of several expressions. -/
def advanceAny (text : List Char) : List Regex → Marks → Marks
  | [], m => m.map fun _ => false
  | r :: rs, m => List.zipWith (· || ·) (advance text r m) (advanceAny text rs m)

end

/-- Whether the expression matches somewhere in the text. -/
def matchesIn (r : Regex) (text : List Char) : Bool :=
  (r.advance text (List.replicate (text.length + 1) true)).any id

end Regex

end SecurityLint.Pattern
