import SecurityLint.Pattern.Regex
import SecurityLint.Pattern.Utf8
import Std.Data.HashMap

/-!
The memory that the automaton of an expression takes. A pattern is served only if the automaton
that reads a text forwards and the one that reads it backwards both stay within a bound. The
automata read bytes, so a set of characters is a small automaton of its own, in which states with
the same edges are shared as long as they are remembered. Only the number of states and the length
of their lists are kept; a state is known by its number.
-/
namespace SecurityLint.Pattern.Automaton

/-- The states made so far, and the bytes taken by their lists of edges. -/
structure Size where
  states : Nat := 0
  lists : Nat := 0

def Size.bytes (s : Size) : Nat :=
  32 * s.states + s.lists

/-- The bound on the memory of an automaton. -/
def limit : Nat := 10 * 1024 * 1024

/-- Steps in making an automaton, which end where it grows too large. -/
abbrev Builder := StateT Size Option

/-- Makes some states with lists of that many bytes in all. -/
def charge (states lists : Nat) : Builder Unit := fun size =>
  let size := { states := size.states + states, lists := size.lists + lists }
  if size.bytes ≤ limit then some ((), size) else none

/-- The bytes of an edge that is chosen by the byte read. -/
def byteEdge : Nat := 8

/-- The bytes of an edge of a branching, which is taken without reading. -/
def branchEdge : Nat := 4

/-- Makes a state and gives its number. -/
def newState (lists : Nat) : Builder Nat := do
  let number := (← get).states
  charge 1 lists
  return number

/-- Leads on from a part. Only a part that ends in a branching needs a new edge for it. -/
def leave (branches : Bool) : Builder Unit :=
  charge 0 (if branches then branchEdge else 0)

/-- The place of some numbers in a table with that many slots. -/
def slot (slots : Nat) (numbers : List Nat) : Nat :=
  let mix (h : UInt64) (n : Nat) : UInt64 := (h ^^^ n.toUInt64) * 1099511628211
  (numbers.foldl mix 14695981039346656037).toNat % slots

/-- States that are remembered by what they were made from. A slot holds the last one only. -/
abbrev Memory := Std.HashMap Nat (List Nat × Nat)

abbrev Remembering := StateT Memory Builder

/-- The state for some numbers: the one that is remembered, or a new one. -/
def remember (slots lists : Nat) (numbers : List Nat) : Remembering Nat := do
  let place := slot slots numbers
  match (← get)[place]? with
  | some (known, state) => if known == numbers then return state
  | none => pure ()
  let state ← newState lists
  modify (·.insert place (numbers, state))
  return state

/-- Gathers neighbouring sequences by their first range. -/
def byFirst : List (List Utf8.ByteRange) → List (Utf8.ByteRange × List (List Utf8.ByteRange))
  | [] => []
  | [] :: rest => byFirst rest
  | (r :: tail) :: rest =>
    match byFirst rest with
    | (first, tails) :: more =>
      if first == r then (r, tail :: tails) :: more else (r, [tail]) :: (first, tails) :: more
    | [] => [(r, [tail])]

/-- The state that reads one of some sequences of at most that many bytes, and goes to `target`. -/
def reading (target : Nat) : (length : Nat) → List (List Utf8.ByteRange) → Remembering Nat
  | 0, _ => return target
  | length + 1, sequences => do
    let edges ← (byFirst sequences).mapM fun ((first, last), tails) => do
      let next ← if tails.all List.isEmpty then pure target else reading target length tails
      return [first, last, next]
    remember 10000 (byteEdge * edges.length) edges.flatten

/-- The state that reads a sequence backwards, before what is read from `target` on. -/
def readingBack (target : Nat) : List Utf8.ByteRange → Remembering Nat
  | [] => return target
  | (first, last) :: rest => do
    let state ← remember 1000 0 [target, first, last]
    readingBack state rest

/-- Makes the part that reads one character of a set. A set of ASCII characters needs one state
that chooses and one behind it. -/
def ofSet (backwards : Bool) (s : CharSet) : Builder Unit := do
  if s.isAscii then
    charge 2 (byteEdge * s.toRanges.length)
  else if backwards then
    charge 1 0
    let target ← newState 0
    let read (memory : Memory) (sequence : List Utf8.ByteRange) : Builder Memory := do
      let (_, memory) ← (readingBack target sequence).run memory
      charge 0 branchEdge
      return memory
    let _ ← (Utf8.sequencesOf s).foldlM read ∅
  else
    let target ← newState 0
    let _ ← (reading target 4 (Utf8.sequencesOf s)).run ∅

/-- Splits a list at its empty members. The first of them count once if they stand in front. -/
def splitAtEmpty (texts : List (List Nat)) : List (List (List Nat)) :=
  let texts :=
    match texts.span List.isEmpty with
    | ([], texts) => texts
    | (_, texts) => [] :: texts
  texts.foldr (fun text parts =>
    match text, parts with
    | [], parts => [] :: parts
    | text, part :: parts => (text :: part) :: parts
    | text, [] => [[text]]) [[]]

/-- Gathers the texts of a list by their first byte. -/
def byFirstByte (texts : List (List Nat)) : List (List (List Nat)) :=
  let firsts := (texts.filterMap List.head?).eraseDups
  firsts.map fun b => (texts.filter (·.head? == some b)).map List.tail

/-- Makes the part that reads one of some texts of at most that many bytes, as a tree. At a place
where a text ends, those listed before it and those listed behind it are kept apart. -/
def ofTexts : (length : Nat) → List (List Nat) → Builder Unit
  | 0, _ => pure ()
  | length + 1, texts => do
    let parts := splitAtEmpty texts
    let mut branches := parts.length - 1
    for part in parts do
      let subtrees := byFirstByte part
      for subtree in subtrees do
        if subtree.any (!·.isEmpty) then ofTexts length subtree
      match subtrees.length with
      | 0 => pure ()
      | 1 => charge 1 0
      | n => charge 1 (byteEdge * n)
      if !subtrees.isEmpty then branches := branches + 1
    charge 1 (branchEdge * branches)

/-- Makes a part a number of times, one after the other, behind a part that ends in a branching or
does not. Each of the steps tells so of the part it made. -/
def copies (part : Builder Bool) : (n : Nat) → (branches : Bool) → Builder Bool
  | 0, branches => return branches
  | n + 1, branches => do
    leave branches
    let branches ← part
    copies part n branches

/-- Makes a part up to a number of times, with a way out before each. -/
def optionalCopies (part : Builder Bool) : (n : Nat) → (branches : Bool) → Builder Bool
  | 0, branches => return branches
  | n + 1, branches => do
    charge 1 (2 * branchEdge)
    leave branches
    let branches ← part
    optionalCopies part n branches

/-- Makes a repetition of a part. -/
def repetition (least : Nat) (most : Option Nat) (canBeEmpty : Bool) (part : Builder Bool) :
    Builder Bool := do
  match least, most with
  | 0, some 1 =>
    charge 1 (2 * branchEdge)
    leave (← part)
    charge 1 0
    return false
  | 0, none =>
    if canBeEmpty then
      leave (← part)
      charge 3 (4 * branchEdge)
      return false
    else
      charge 1 branchEdge
      leave (← part)
      return true
  | n + 1, none =>
    leave (← copies part (n + 1) false)
    charge 1 branchEdge
    return true
  | least, some most =>
    if least == most then
      copies part least false
    else
      if least == 0 then charge 1 0
      let branches ← copies part least false
      charge 1 0
      leave (← optionalCopies part (most - least) branches)
      return false

mutual

/-- Makes the part for an expression, and tells whether it ends in a branching. Groups are marked
by states of their own when the text is read forwards. -/
def ofRegex (backwards : Bool) : Regex → Builder Bool
  | .empty => do
    charge 1 0
    return false
  | .literal text => do
    charge (Regex.byteLength text) 0
    return false
  | .set _ s => do
    ofSet backwards s
    return false
  | .look _ => do
    charge 1 0
    return false
  | .capture _ r =>
    if backwards then ofRegex backwards r
    else do
      charge 1 0
      leave (← ofRegex backwards r)
      charge 1 0
      return false
  | .repeats least most _ r =>
    repetition least most (r.minLength.all (· == 0)) (ofRegex backwards r)
  | .sequence rs => ofSequence backwards false rs
  | .choice rs => do
    if rs.all Regex.isLiteral then
      let texts := rs.map fun
        | .literal text => text.flatMap (Utf8.bytesOf ·.toNat)
        | _ => []
      charge 1 0
      ofTexts (texts.foldl (fun n t => max n t.length) 0)
        (if backwards then texts.map List.reverse else texts)
    else ofChoice backwards 0 rs
    return false

/-- Makes the parts of a sequence behind a part that ends in a branching or does not. Backwards the
last part is the first to be read. -/
def ofSequence (backwards branches : Bool) : List Regex → Builder Bool
  | [] => return branches
  | r :: rs =>
    if backwards then do
      leave (← ofSequence backwards branches rs)
      ofRegex backwards r
    else do
      leave branches
      ofSequence backwards (← ofRegex backwards r) rs

/-- Makes the alternatives of a choice, of which some were made before. The branching and the state
where they meet are made behind the second. -/
def ofChoice (backwards : Bool) : (before : Nat) → List Regex → Builder Unit
  | _, [] => pure ()
  | before, r :: rs => do
    leave (← ofRegex backwards r)
    charge (if before == 1 then 2 else 0) branchEdge
    ofChoice backwards (before + 1) rs

end

mutual

/-- Whether every match begins at the start of the text, or ends at its end. -/
def isAnchored (atEnd : Bool) : Regex → Bool
  | .look l => l == if atEnd then .textEnd else .textStart
  | .capture _ r => isAnchored atEnd r
  | .repeats least _ _ r => 0 < least && isAnchored atEnd r
  | .sequence rs => if atEnd then (endAnchor atEnd rs).1 else startAnchor atEnd rs
  | .choice rs => allAnchored atEnd rs
  | _ => false

/-- Whether a part of a sequence is anchored that has only empty matches before it. -/
def startAnchor (atEnd : Bool) : List Regex → Bool
  | [] => false
  | r :: rs => isAnchored atEnd r || (r.maxLength == some 0 && startAnchor atEnd rs)

/-- Whether a part of a sequence is anchored that has only empty matches behind it, and whether the
whole sequence has only empty matches. -/
def endAnchor (atEnd : Bool) : List Regex → Bool × Bool
  | [] => (false, true)
  | r :: rs =>
    let (found, isEmpty) := endAnchor atEnd rs
    (found || (isEmpty && isAnchored atEnd r), isEmpty && r.maxLength == some 0)

def allAnchored (atEnd : Bool) : List Regex → Bool
  | [] => true
  | r :: rs => isAnchored atEnd r && allAnchored atEnd rs

end

/-- Makes the whole automaton. One that is not anchored begins with a loop over any byte. Forwards,
the match as a whole is a group. -/
def whole (backwards : Bool) (r : Regex) : Builder Unit := do
  if isAnchored backwards r then charge 1 0 else charge 3 (byteEdge + 2 * branchEdge)
  leave (← ofRegex backwards (.capture 0 r))
  charge 1 0

/-- The number of texts from which on they are looked for without an automaton. -/
def manyTexts : Nat := 3000

/-- Whether an expression is a choice of very many texts. -/
def isTextList : Regex → Bool
  | .choice rs => manyTexts ≤ rs.length && rs.all Regex.isLiteral
  | _ => false

/-- Whether the automata of an expression stay within the bound. -/
def fits (r : Regex) : Bool :=
  isTextList r || (((whole false r).run {}).isSome && ((whole true r).run {}).isSome)

end SecurityLint.Pattern.Automaton
