import SecurityLint.Pattern.CharSet

/-!
Regular expressions. They are built by functions that keep them in a simple form: sequences and
choices are flat and have at least two parts, neighbouring texts are one text, a set has at least
two members or none, and nothing is repeated that can only match the empty text.
-/
namespace SecurityLint.Pattern

/-- Where a gap can lie with respect to words. -/
inductive WordPlace where
  | boundary
  | noBoundary
  | start
  | finish
  | startHalf
  | finishHalf
deriving DecidableEq

/-- Conditions on a gap. Those on words come in a form for all scripts and one for ASCII. -/
inductive Look where
  | textStart
  | textEnd
  | lineStart
  | lineEnd
  | crlfLineStart
  | crlfLineEnd
  | word (unicode : Bool) (place : WordPlace)
deriving DecidableEq

inductive Regex where
  | empty
  | literal (text : List Char)
  /-- One character of a set, which was given for all scripts or for ASCII. -/
  | set (unicode : Bool) (s : CharSet)
  | look (l : Look)
  | capture (index : Nat) (r : Regex)
  /-- A repetition prefers more rounds or, if it is lazy, fewer. -/
  | repeats (least : Nat) (most : Option Nat) (isLazy : Bool) (r : Regex)
  | sequence (rs : List Regex)
  | choice (rs : List Regex)

namespace Regex

/-- The expression that matches nowhere. -/
def nowhere : Regex := .set false .none

mutual

/-- Whether two expressions are written in the same way. -/
def same : Regex → Regex → Bool
  | empty, empty => true
  | literal a, literal b => a == b
  | set u s, set v t => u == v && s == t
  | look l, look k => l == k
  | capture i a, capture j b => i == j && same a b
  | repeats m n z a, repeats m' n' z' b => m == m' && n == n' && z == z' && same a b
  | sequence as, sequence bs => sameAll as bs
  | choice as, choice bs => sameAll as bs
  | _, _ => false

def sameAll : List Regex → List Regex → Bool
  | [], [] => true
  | a :: as, b :: bs => same a b && sameAll as bs
  | _, _ => false

end

/-- The length of a text in bytes. -/
def byteLength (text : List Char) : Nat :=
  text.foldl (fun n c => n + c.utf8Size) 0

/-- The length of a code point in bytes. -/
def codeLength (code : Nat) : Nat :=
  (Char.ofNat code).utf8Size

mutual

/-- The length in bytes of the shortest match. There is none if nothing matches. -/
def minLength : Regex → Option Nat
  | empty | look _ => some 0
  | literal text => some (byteLength text)
  | set _ s => s.edges.head?.map codeLength
  | capture _ r => minLength r
  | repeats least _ _ r => (minLength r).map (least * ·)
  | sequence rs => minTotal rs
  | choice rs => minOfAll rs

def minTotal : List Regex → Option Nat
  | [] => some 0
  | r :: rs => do return (← minLength r) + (← minTotal rs)

def minOfAll : List Regex → Option Nat
  | [] => none
  | [r] => minLength r
  | r :: rs => do return min (← minLength r) (← minOfAll rs)

end

mutual

/-- The length in bytes of the longest match, if it is bounded and something matches. -/
def maxLength : Regex → Option Nat
  | empty | look _ => some 0
  | literal text => some (byteLength text)
  | set _ s => s.edges.getLast?.map fun e => codeLength (e - 1)
  | capture _ r => maxLength r
  | repeats _ most _ r => do return (← most) * (← maxLength r)
  | sequence rs => maxTotal rs
  | choice rs => maxOfAll rs

def maxTotal : List Regex → Option Nat
  | [] => some 0
  | r :: rs => do return (← maxLength r) + (← maxTotal rs)

def maxOfAll : List Regex → Option Nat
  | [] => none
  | [r] => maxLength r
  | r :: rs => do return max (← maxLength r) (← maxOfAll rs)

end

/-- One character of a set. A set with one member is a text. -/
def ofSet (unicode : Bool) (s : CharSet) : Regex :=
  if s.isEmpty then nowhere
  else
    match s.theOnly? with
    | some c => literal [c]
    | none => set unicode s

/-- The parts of an expression as a sequence. -/
def parts : Regex → List Regex
  | empty => []
  | sequence rs => rs
  | r => [r]

/-- The alternatives of an expression. -/
def alternatives : Regex → List Regex
  | choice rs => rs
  | r => [r]

/-- Joins neighbouring texts. -/
def joinTexts : List Regex → List Regex
  | [] => []
  | literal a :: rest =>
    match joinTexts rest with
    | literal b :: rest => literal (a ++ b) :: rest
    | rest => literal a :: rest
  | r :: rest => r :: joinTexts rest

/-- One expression after the other. -/
def inOrder (rs : List Regex) : Regex :=
  match joinTexts (rs.flatMap parts) with
  | [] => empty
  | [r] => r
  | rs => sequence rs

/-- The characters of expressions that are single characters. -/
def singles? (rs : List Regex) : Option (List Nat) :=
  rs.mapM fun
    | literal [c] => some c.toNat
    | _ => none

/-- The sets of expressions that are sets. -/
def sets? (rs : List Regex) : Option (List CharSet) :=
  rs.mapM fun
    | set _ s => some s
    | _ => none

/-- A choice of single characters or of sets is one set. -/
def anyOf (rs : List Regex) : Regex :=
  match rs.flatMap alternatives with
  | [r] => r
  | rs =>
    match singles? rs, sets? rs with
    | some cs, _ => ofSet true (.ofCodePoints cs)
    | none, some sets => ofSet true (.unions sets)
    | none, none => choice rs

/-- The first parts that two sequences have in common. -/
def commonStart : List Regex → List Regex → List Regex
  | a :: as, b :: bs => if same a b then a :: commonStart as bs else []
  | _, _ => []

/-- The parts of expressions that are sequences. -/
def sequences? (rs : List Regex) : Option (List (List Regex)) :=
  rs.mapM fun
    | sequence parts => some parts
    | _ => none

/-- A choice in which a common beginning of all alternatives is written once. What follows it has no
common beginning again. -/
def oneOf (rs : List Regex) : Regex :=
  match anyOf rs with
  | choice rs =>
    match sequences? rs with
    | some (first :: rest) =>
      let start := rest.foldl commonStart first
      if start.isEmpty then choice rs
      else
        let ends := (first :: rest).map fun parts => inOrder (parts.drop start.length)
        inOrder (start ++ [anyOf ends])
    | _ => choice rs
  | r => r

/-- A repetition. What matches only the empty text is taken at most once. -/
def repeated (least : Nat) (most : Option Nat) (isLazy : Bool) (r : Regex) : Regex :=
  let (least, most) :=
    if maxLength r == some 0 then (min least 1, some (min (most.getD 1) 1)) else (least, most)
  if most == some 0 then empty
  else if least == 1 && most == some 1 then r
  else repeats least most isLazy r

/-- Whether an expression is a text. -/
def isLiteral : Regex → Bool
  | literal _ => true
  | _ => false

end Regex

end SecurityLint.Pattern
