import SecurityLint.Pattern.CharSet

/-!
Ranges of characters as sequences of byte ranges. A range is divided until its characters are all
encoded alike: with as many bytes, and such that each byte runs through a range of its own.
-/
namespace SecurityLint.Pattern.Utf8

abbrev ByteRange := Nat × Nat

def bytesOf (code : Nat) : List Nat :=
  (String.utf8EncodeChar (Char.ofNat code)).map UInt8.toNat

/-- The last code point of the first part, where a range has to be divided for blocks of that
size: a range over several blocks begins where a block begins and ends where one ends. -/
def cutAtBlock? (first last size : Nat) : Option Nat :=
  if first / size == last / size then none
  else if first % size != 0 then some (first - first % size + size - 1)
  else if last % size != size - 1 then some (last - last % size - 1)
  else none

/-- The last code point of the first part, if a range has to be divided. -/
def cut? (first last : Nat) : Option Nat :=
  match [0x7f, 0x7ff, 0xffff].find? fun top => first ≤ top && top < last with
  | some top => some top
  | none =>
    if last ≤ 0x7f then none
    else [0x40, 0x1000, 0x40000].findSome? (cutAtBlock? first last)

/-- The byte sequences of a range, in increasing order. -/
def sequences (first last : Nat) : List (List ByteRange) :=
  match cut? first last with
  | none => [(bytesOf first).zip (bytesOf last)]
  | some m =>
    if _h : first ≤ m ∧ m < last then sequences first m ++ sequences (m + 1) last else []
termination_by last - first

/-- The byte sequences of a set. -/
def sequencesOf (s : CharSet) : List (List ByteRange) :=
  s.toRanges.flatMap fun (first, last) => sequences first last

end SecurityLint.Pattern.Utf8
