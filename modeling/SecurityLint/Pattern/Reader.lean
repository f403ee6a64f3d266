import SecurityLint.Pattern.Automaton
import SecurityLint.Pattern.Class
import SecurityLint.Pattern.Property
import SecurityLint.Text.Blank
import SecurityLint.Text.Hex
import SecurityLint.Text.Letters
import SecurityLint.Text.Number

/-!
Reading the text of a pattern. Settings such as `(?i)` change how the rest of the group is read,
so expressions are built under the settings in force where they stand. A text that is no pattern
has no reading. Patterns that are nested too deep or need too large an automaton are refused like
any other bad text.
-/
namespace SecurityLint.Pattern

structure Settings where
  ignoreCase : Bool := true
  multiLine : Bool := false
  dotAll : Bool := false
  crlf : Bool := false
  unicode : Bool := true
  /-- Repetitions are lazy unless they are marked. -/
  swapLazy : Bool := false
  /-- Blanks and comments between the parts of a pattern are skipped. -/
  layout : Bool := false

/-- A part of a pattern with its depth of nesting. -/
structure Piece where
  regex : Regex
  height : Nat := 0
  /-- A change of settings matches nothing that could be repeated. -/
  repeatable : Bool := true

namespace Piece

def empty : Piece where
  regex := .empty

def heights (ps : List Piece) : Nat :=
  ps.foldl (fun h p => max h p.height) 0

def sequence : List Piece → Piece
  | [] => empty
  | [p] => { p with repeatable := true }
  | ps => { regex := .inOrder (ps.map regex), height := heights ps + 1 }

def choice : List Piece → Piece
  | [] => empty
  | [p] => p
  | ps => { regex := .oneOf (ps.map regex), height := heights ps + 1 }

def group (p : Piece) : Piece :=
  { p with height := p.height + 1, repeatable := true }

def repeated (least : Nat) (most : Option Nat) (isLazy : Bool) (p : Piece) : Piece where
  regex := .repeated least most isLazy p.regex
  height := p.height + 1

end Piece

namespace Reader

/-- What is left to read, the settings in force, and the number and the names of the groups opened
so far. -/
structure State where
  rest : List Char
  settings : Settings := {}
  groups : Nat := 0
  names : List String := []

end Reader

abbrev Reader := StateT Reader.State Option

namespace Reader

def fail {α : Type} : Reader α := fun _ => none

def ofOption {α : Type} : Option α → Reader α
  | some a => pure a
  | none => fail

def settings : Reader Settings := do return (← get).settings

def setSettings (s : Settings) : Reader Unit := modify fun st => { st with settings := s }

def rest : Reader (List Char) := do return (← get).rest

def setRest (cs : List Char) : Reader Unit := modify fun st => { st with rest := cs }

/-- The text behind blanks and comments. -/
def dropLayout (inComment : Bool) : List Char → List Char
  | [] => []
  | c :: rest =>
    if inComment then dropLayout (c != '\n') rest
    else if Text.isBlank c then dropLayout false rest
    else if c == '#' then dropLayout true rest
    else c :: rest

/-- Skips layout where the settings ask for it. -/
def skipLayout : Reader Unit := modify fun st =>
  if st.settings.layout then { st with rest := dropLayout false st.rest } else st

def peek? : Reader (Option Char) := do return (← rest).head?

/-- Drops a character. -/
def drop : Reader Unit := modify fun st => { st with rest := st.rest.tail }

/-- Drops a character and the layout behind it. -/
def next : Reader Unit := do
  drop
  skipLayout

/-- Drops the given text if it is next. -/
def dropText (text : String) : Reader Bool := do
  let cs ← rest
  let isNext := text.toList.isPrefixOf cs
  if isNext then setRest (cs.drop text.length)
  return isNext

/-- The text up to a closing brace, without layout if that is to be skipped. -/
def upToBrace (layout inComment : Bool) : List Char → Option (List Char × List Char)
  | [] => none
  | c :: rest =>
    if inComment then upToBrace layout (c != '\n') rest
    else if layout && Text.isBlank c then upToBrace layout false rest
    else if layout && c == '#' then upToBrace layout true rest
    else if c == '\x7d' then some ([], rest)
    else (upToBrace layout false rest).map fun (inner, rest) => (c :: inner, rest)

/-- Reads from behind an opening brace to behind the closing one. -/
def braced : Reader (List Char) := do
  let (inner, rest) ← ofOption (upToBrace (← settings).layout false (← rest))
  setRest rest
  return inner

/-- That many digits of an escape. -/
def hexDigits : Nat → Reader (List Char)
  | 0 => return []
  | n + 1 => do
    let c ← ofOption (← peek?)
    next
    return c :: (← hexDigits n)

/-- The character behind `\x`, `\u` or `\U`, and whether it was given by just that many digits and
not by any number of them in braces. -/
def hexEscape (digits : Nat) : Reader (Char × Bool) := do
  next
  if (← peek?) == some '\x7b' then
    drop
    let inner ← braced
    skipLayout
    return (← ofOption (Text.hexChar? inner), false)
  else return (← ofOption (Text.hexChar? (← hexDigits digits)), true)

/-- What an escape or a plain character stands for. An escape of two hexadecimal digits names a byte
where the pattern is not about Unicode. -/
inductive Atom where
  | char (c : Char) (isByte : Bool)
  | set (s : CharSet)
  | look (l : Look)

def foldFor (st : Settings) (s : CharSet) : CharSet :=
  if !st.ignoreCase then s
  else if st.unicode then s.foldCase
  else s.foldAsciiCase

def negateIf (negated : Bool) (s : CharSet) : CharSet :=
  if negated then s.compl else s

/-- A set as part of a pattern. Outside Unicode it may hold ASCII characters only, as any other byte
is no character of its own. -/
def checked (s : CharSet) : Reader CharSet := do
  if (← settings).unicode || s.isAscii then return s else fail

/-- The classes `\d`, `\s` and `\w`, for all scripts or for ASCII. -/
def letterClass (unicode : Bool) (c : Char) : CharSet :=
  match c with
  | 'd' => Class.digit unicode
  | 's' => Class.blank unicode
  | _ => Class.word unicode

/-- A property, by one letter or by its name in braces. -/
def property (negated : Bool) : Reader Atom := do
  next
  let st ← settings
  if !st.unicode then fail
  let (set, isComplement) ←
    match ← peek? with
    | some '\x7b' => do
      drop
      ofOption (Property.set? (← braced))
    | some '\\' | none => fail
    | some c => do
      next
      ofOption ((Property.alone? [c]).map (·, false))
  return .set (negateIf (negated != isComplement) (foldFor st set))

/-- The place of words behind `\b`: one of four kinds named in braces, or a plain boundary. -/
def boundary : Reader WordPlace := do
  let '\x7b' :: inner ← rest | return .boundary
  let inner := if (← settings).layout then dropLayout false inner else inner
  let isKindChar (c : Char) : Bool := c.isAlpha || c == '-'
  match inner with
  | [] => fail
  | c :: _ =>
    if !isKindChar c then return .boundary
    drop
    match String.ofList (← braced) with
    | "start" => return .start
    | "end" => return .finish
    | "start-half" => return .startHalf
    | "end-half" => return .finishHalf
    | _ => fail

/-- An escape, from behind its backslash. Every ASCII character that is no letter or digit can be
escaped. -/
def escape : Reader Atom := do
  let c ← ofOption (← peek?)
  let unicode := (← settings).unicode
  let word (place : WordPlace) : Atom := .look (.word unicode place)
  match c with
  | 'x' => do
    let (c, isByte) ← hexEscape 2
    return .char c isByte
  | 'u' => return .char (← hexEscape 4).1 false
  | 'U' => return .char (← hexEscape 8).1 false
  | 'p' => property false
  | 'P' => property true
  | 'd' | 's' | 'w' => do
    drop
    return .set (letterClass unicode c)
  | 'D' | 'S' | 'W' => do
    drop
    return .set (← checked (letterClass unicode c.toLower).compl)
  | _ =>
    drop
    match c with
    | 'a' => return .char '\x07' false
    | 'f' => return .char '\x0c' false
    | 't' => return .char '\t' false
    | 'n' => return .char '\n' false
    | 'r' => return .char '\r' false
    | 'v' => return .char '\x0b' false
    | 'A' => return .look .textStart
    | 'z' => return .look .textEnd
    | 'b' => return word (← boundary)
    | 'B' => return word .noBoundary
    | '<' => return word .start
    | '>' => return word .finish
    | c => if c.toNat < 0x80 && !c.isAlphanum then return .char c false else fail

/-- A single character, with its variants where case does not matter. Outside Unicode only ASCII
letters have any. -/
def charPiece (c : Char) (isByte : Bool) : Reader Piece := do
  let st ← settings
  if !st.unicode && isByte && 0x80 ≤ c.toNat then fail
  return { regex := .ofSet st.unicode (foldFor st (.single c)) }

def atomPiece : Atom → Reader Piece
  | .char c isByte => charPiece c isByte
  | .look l => return { regex := .look l }
  | .set s => return { regex := .ofSet (← settings).unicode s }

/-- Part of a bracket class: its members, depth and number of items. -/
structure SetPart where
  chars : CharSet := .none
  height : Nat := 0
  items : Nat := 0

def SetPart.add (p : SetPart) (chars : CharSet) (height : Nat := 0) : SetPart where
  chars := p.chars.union chars
  height := max p.height height
  items := p.items + 1

/-- The depth of a list of items, which counts as a level of its own if it has several. -/
def SetPart.depth (p : SetPart) : Nat :=
  if p.items ≤ 1 then p.height else p.height + 1

inductive SetOp where
  | inter
  | diff
  | symmDiff

def SetOp.apply : SetOp → CharSet → CharSet → CharSet
  | inter => .inter
  | diff => .diff
  | symmDiff => .symmDiff

/-- Joins the operand read last to those before it. Both are taken with all their variants where
case does not matter. -/
def applyOp (st : Settings) (before : Option (SetPart × SetOp)) (last : SetPart) : SetPart :=
  match before with
  | none => { last with height := last.depth, items := 1 }
  | some (first, op) => {
      chars := op.apply (foldFor st first.chars) (foldFor st last.chars)
      height := max first.height last.depth + 1
      items := 1 }

/-- A class such as `[:alpha:]`, from its bracket, or nothing if this is another bracket. -/
def namedClass? (cs : List Char) : Option (CharSet × Bool × List Char) := do
  let '[' :: ':' :: rest := cs | none
  let (negated, rest) :=
    match rest with
    | '^' :: rest => (true, rest)
    | rest => (false, rest)
  let name := rest.takeWhile (· != ':')
  let ':' :: ']' :: rest := rest.dropWhile (· != ':') | none
  let set ← Class.named.find? (String.ofList name)
  return (set, negated, rest)

/-- One end of a range in a bracket class, or a whole item. -/
def setAtom : Reader Atom := do
  match ← rest with
  | '\\' :: cs =>
    setRest cs
    escape
  | c :: cs =>
    setRest cs
    return .char c false
  | [] => fail

/-- A character as a member of a bracket class. Outside Unicode it has to be one of ASCII. -/
def memberChar : Atom → Reader Char
  | .char c _ => do
    if (← settings).unicode || c.toNat < 0x80 then return c else fail
  | _ => fail

/-- The character behind the next one, and behind blanks and a mark of a comment if layout is
skipped. -/
def behindNext (layout : Bool) (cs : List Char) : Option Char :=
  if !layout then cs.tail.head?
  else
    match cs.tail.dropWhile Text.isBlank with
    | '#' :: rest => (rest.dropWhile Text.isBlank).head?
    | rest => rest.head?

/-- An item of a bracket class: a character, a class or a range. -/
def setItem (p : SetPart) : Reader SetPart := do
  let first ← setAtom
  skipLayout
  let cs ← rest
  if cs.isEmpty then fail
  let behind := behindNext (← settings).layout cs
  if cs.head? != some '-' || behind == some ']' || behind == some '-' then
    match first with
    | .set s => return p.add s
    | .look _ => fail
    | atom => return p.add (.single (← memberChar atom))
  else
    next
    let last ← setAtom
    let a ← memberChar first
    let b ← memberChar last
    if h : a ≤ b then return p.add (.range a b h) else fail

/-- The hyphens that open a bracket class stand for themselves. -/
def leadingHyphens : Nat → SetPart → Reader SetPart
  | 0, p => return p
  | n + 1, p => do
    if (← peek?) == some '-' then
      next
      leadingHyphens n (p.add (.single '-'))
    else return p

mutual

/-- A bracket class from behind its bracket. -/
def readSet : (fuel : Nat) → Reader SetPart
  | 0 => fail
  | fuel + 1 => do
    skipLayout
    let negated := (← peek?) == some '^'
    if negated then next
    let opening ← leadingHyphens (← rest).length {}
    let opening ←
      if opening.items == 0 && (← peek?) == some ']' then
        next
        pure (opening.add (.single ']'))
      else pure opening
    let inner ← readSetItems fuel none opening
    let chars ← checked (negateIf negated (foldFor (← settings) inner.chars))
    return { inner with chars, height := inner.height + 1 }

/-- The items up to the closing bracket. -/
def readSetItems : (fuel : Nat) → Option (SetPart × SetOp) → SetPart → Reader SetPart
  | 0, _, _ => fail
  | fuel + 1, before, p => do
    skipLayout
    let st ← settings
    let cs ← rest
    match cs with
    | [] => fail
    | '[' :: inner =>
      match namedClass? cs with
      | some (set, negated, rest) =>
        setRest rest
        readSetItems fuel before (p.add (← checked (negateIf negated (foldFor st set))))
      | none =>
        setRest inner
        let nested ← readSet fuel
        readSetItems fuel before (p.add nested.chars nested.height)
    | ']' :: rest =>
      setRest rest
      return applyOp st before p
    | '&' :: '&' :: rest =>
      setRest rest
      readSetItems fuel (some (applyOp st before p, .inter)) {}
    | '-' :: '-' :: rest =>
      setRest rest
      readSetItems fuel (some (applyOp st before p, .diff)) {}
    | '~' :: '~' :: rest =>
      setRest rest
      readSetItems fuel (some (applyOp st before p, .symmDiff)) {}
    | _ => readSetItems fuel before (← setItem p)

end

/-- Changes one setting. -/
def change (st : Settings) (flag : Char) (on : Bool) : Option Settings :=
  match flag with
  | 'i' => some { st with ignoreCase := on }
  | 'm' => some { st with multiLine := on }
  | 's' => some { st with dotAll := on }
  | 'R' => some { st with crlf := on }
  | 'u' => some { st with unicode := on }
  | 'x' => some { st with layout := on }
  | 'U' => some { st with swapLazy := on }
  | _ => none

/-- Reads flags up to `:` or `)`, which is returned. A flag stands at most once, and a hyphen,
which turns the flags behind it off, is followed by one. -/
def changes (seen : List Char) (st : Settings) :
    List Char → Option (Settings × Bool × Char × List Char)
  | [] => none
  | c :: rest =>
    if c == ':' || c == ')' then
      if seen.head? == some '-' then none else some (st, seen.isEmpty, c, rest)
    else if seen.contains c then none
    else if c == '-' then changes (c :: seen) st rest
    else do
      let st ← change st c (!seen.contains '-')
      changes (c :: seen) st rest

/-- A group name begins with a letter or an underscore. -/
def isNameChar (first : Bool) (c : Char) : Bool :=
  if first then c == '_' || Text.isAlphabetic c
  else c == '_' || c == '.' || c == '[' || c == ']' || Text.isAlphabetic c || Text.isNumber c

/-- A group name up to its closing angle bracket. No two groups have the same name. -/
def groupName : Reader Unit := do
  let cs ← rest
  let name := cs.takeWhile (· != '>')
  let '>' :: behind := cs.dropWhile (· != '>') | fail
  let c :: tail := name | fail
  if !isNameChar true c || !tail.all (isNameChar false) then fail
  let name := String.ofList name
  if (← get).names.contains name then fail
  modify fun st => { st with rest := behind, names := name :: st.names }

/-- A decimal number of 32 bits with blanks around it. -/
def count? (cs : List Char) : Option Nat :=
  let ds := Text.stripEnds Text.isBlank cs
  if ds.isEmpty || !ds.all Char.isDigit then none
  else
    let n := Nat.ofDigitChars 10 ds 0
    if n < UInt32.size then some n else none

/-- The bounds of a counted repetition, from the text between its braces. -/
def bounds? (inner : List Char) : Option (Nat × Option Nat) := do
  let least ← count? (inner.takeWhile (· != ','))
  match inner.dropWhile (· != ',') with
  | [] => some (least, some least)
  | [_] => some (least, none)
  | _ :: upper =>
    let most ← count? upper
    if least ≤ most then some (least, some most) else none

/-- Repeats the part read last. The repetition may be marked as lazy. -/
def repeatLast (least : Nat) (most : Option Nat) (items : List Piece) : Reader (List Piece) := do
  let p :: items := items | fail
  if !p.repeatable then fail
  let marked := (← peek?) == some '?'
  if marked then drop
  return p.repeated least most (marked != (← settings).swapLazy) :: items

def dot : Reader Piece := do
  let st ← settings
  if !st.unicode then fail
  let set : CharSet :=
    if st.dotAll then .all
    else if st.crlf then CharSet.compl (.union (.single '\n') (.single '\r'))
    else CharSet.compl (.single '\n')
  return { regex := .ofSet true set }

def lineStart (st : Settings) : Look :=
  if !st.multiLine then .textStart else if st.crlf then .crlfLineStart else .lineStart

def lineEnd (st : Settings) : Look :=
  if !st.multiLine then .textEnd else if st.crlf then .crlfLineEnd else .lineEnd

/-- A part that is no group, bracket class or repetition. -/
def primitive : Reader Piece := do
  match ← rest with
  | [] => fail
  | '\\' :: cs =>
    setRest cs
    atomPiece (← escape)
  | c :: cs =>
    setRest cs
    match c with
    | '.' => dot
    | '^' => return { regex := .look (lineStart (← settings)) }
    | '$' => return { regex := .look (lineEnd (← settings)) }
    | c => charPiece c false

mutual

/-- Alternatives up to the end of a group or of the text. -/
def readChoice : (fuel : Nat) → (done items : List Piece) → Reader Piece
  | 0, _, _ => fail
  | fuel + 1, done, items => do
    skipLayout
    match ← rest with
    | [] | ')' :: _ => return .choice (Piece.sequence items.reverse :: done).reverse
    | '|' :: rest =>
      setRest rest
      readChoice fuel (Piece.sequence items.reverse :: done) []
    | '(' :: rest =>
      setRest rest
      let p ← readGroup fuel
      readChoice fuel done (p :: items)
    | '[' :: rest =>
      setRest rest
      let p ← readSet fuel
      let regex := .ofSet (← settings).unicode p.chars
      readChoice fuel done ({ regex, height := p.height } :: items)
    | '?' :: rest =>
      setRest rest
      readChoice fuel done (← repeatLast 0 (some 1) items)
    | '*' :: rest =>
      setRest rest
      readChoice fuel done (← repeatLast 0 none items)
    | '+' :: rest =>
      setRest rest
      readChoice fuel done (← repeatLast 1 none items)
    | '\x7b' :: rest =>
      setRest rest
      let (least, most) ← ofOption (bounds? (← braced))
      skipLayout
      readChoice fuel done (← repeatLast least most items)
    | _ =>
      let p ← primitive
      readChoice fuel done (p :: items)

/-- A group or a change of settings, from behind the parenthesis. -/
def readGroup : (fuel : Nat) → Reader Piece
  | 0 => fail
  | fuel + 1 => do
    skipLayout
    let outer ← settings
    let cs ← rest
    if ["?=", "?!", "?<=", "?<!"].any (fun t => t.toList.isPrefixOf cs) then fail
    if (← dropText "?P<") || (← dropText "?<") then
      groupName
      numberedGroup fuel outer
    else if ← dropText "?" then
      let (inner, unchanged, mark, rest) ← ofOption (changes [] outer (← rest))
      setRest rest
      setSettings inner
      if mark == ')' then
        if unchanged then fail else return { Piece.empty with repeatable := false }
      else closeGroup fuel outer
    else numberedGroup fuel outer

/-- The inside of a group that takes the next number. -/
def numberedGroup : (fuel : Nat) → (outer : Settings) → Reader Piece
  | 0, _ => fail
  | fuel + 1, outer => do
    let index := (← get).groups + 1
    modify fun st => { st with groups := index }
    let p ← closeGroup fuel outer
    return { p with regex := .capture index p.regex }

/-- The inside of a group up to its parenthesis. The settings from before it hold again behind. -/
def closeGroup : (fuel : Nat) → (outer : Settings) → Reader Piece
  | 0, _ => fail
  | fuel + 1, outer => do
    let p ← readChoice fuel [] []
    let ')' :: rest ← rest | fail
    setRest rest
    setSettings outer
    return p.group

end

/-- The deepest nesting of a pattern. -/
def maxHeight : Nat := 250

end Reader

/-- Reads a pattern that ignores case unless it says otherwise. Every step takes a character or
goes down one of four levels, so the fuel is never used up. -/
def Regex.parse? (pattern : String) : Option Regex := do
  let cs := pattern.toList
  let (p, st) ← Reader.readChoice (5 * cs.length + 5) [] [] |>.run { rest := cs }
  if st.rest.isEmpty && p.height ≤ Reader.maxHeight && Automaton.fits p.regex then
    some p.regex
  else none

end SecurityLint.Pattern
