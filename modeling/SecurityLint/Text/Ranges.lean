/-!
Sets of code points as lists of ranges in increasing order, and maps that move whole ranges.
-/
namespace SecurityLint.Text

/-- Whether `c` lies in one of the ranges. They are listed in increasing order, so the search
stops at the first range that begins after `c`. -/
def inRanges : List (Nat × Nat) → Nat → Bool
  | [], _ => false
  | (first, last) :: rest, c =>
    if c < first then false
    else if c ≤ last then true
    else inRanges rest c

/-- The code points `first`, `first + step`, … up to `last`, moved so that `first` goes to
`image`. -/
structure Shift where
  first : Nat
  last : Nat
  step : Nat
  image : Nat

namespace Shift

def Holds (s : Shift) (c : Nat) : Prop :=
  s.first ≤ c ∧ c ≤ s.last ∧ (c - s.first) % s.step = 0

instance (s : Shift) (c : Nat) : Decidable (s.Holds c) :=
  inferInstanceAs (Decidable (_ ∧ _ ∧ _))

/-- The image of a code point that the shift holds. -/
def move (s : Shift) (c : Nat) : Nat :=
  s.image + (c - s.first)

/-- The code points that the shift holds. -/
def points (s : Shift) : List Nat :=
  List.range' s.first ((s.last - s.first) / s.step + 1) s.step

end Shift

/-- Applies the first shift that holds `c`; every other code point stays where it is. The shifts
are listed in increasing order. -/
def shiftBy : List Shift → Nat → Nat
  | [], c => c
  | s :: rest, c =>
    if c < s.first then c
    else if s.Holds c then s.move c
    else shiftBy rest c

end SecurityLint.Text
