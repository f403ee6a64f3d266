import SecurityLint.Data.Value
import SecurityLint.Text.Hex

/-!
JSON text: a strict reader and a compact printer. The reader takes exactly the texts of the
grammar; escapes may name halves of surrogate pairs, and a string in which they do not pair up
is `broken`. The printer escapes the quote, the backslash and the control characters only.
-/
namespace SecurityLint.Data.Json

def isSpace (c : Char) : Bool :=
  c == ' ' || c == '\n' || c == '\r' || c == '\t'

def skipSpace (s : List Char) : List Char :=
  s.dropWhile isSpace

/-- The character that a backslash before `c` stands for. -/
def unescape? (c : Char) : Option Char :=
  match c with
  | '"' => some '"'
  | '\\' => some '\\'
  | '/' => some '/'
  | 'b' => some '\x08'
  | 'f' => some '\x0c'
  | 'n' => some '\n'
  | 'r' => some '\r'
  | 't' => some '\t'
  | _ => none

/-- The code units of a string up to its closing quote, and what follows the quote. -/
def readUnits : List Char → Option (List Nat × List Char)
  | [] => none
  | '"' :: rest => some ([], rest)
  | '\\' :: 'u' :: a :: b :: c :: d :: rest => do
    let unit ← Text.hexNumber? [a, b, c, d]
    let (units, rest) ← readUnits rest
    return (unit :: units, rest)
  | '\\' :: c :: rest => do
    let c ← unescape? c
    let (units, rest) ← readUnits rest
    return (c.toNat :: units, rest)
  | c :: rest =>
    if c.toNat < 0x20 ∨ c = '\\' then none
    else do
      let (units, rest) ← readUnits rest
      return (c.toNat :: units, rest)

def isHighSurrogate (u : Nat) : Bool :=
  0xd800 ≤ u && u ≤ 0xdbff

def isLowSurrogate (u : Nat) : Bool :=
  0xdc00 ≤ u && u ≤ 0xdfff

/-- Joins surrogate pairs; there is no text if one half stands alone. -/
def pairUp : List Nat → Option (List Char)
  | [] => some []
  | [u] => if isHighSurrogate u || isLowSurrogate u then none else some [Char.ofNat u]
  | u :: v :: rest =>
    if isHighSurrogate u && isLowSurrogate v then do
      let cs ← pairUp rest
      return Char.ofNat (0x10000 + (u - 0xd800) * 0x400 + (v - 0xdc00)) :: cs
    else if isHighSurrogate u || isLowSurrogate u then none
    else do
      let cs ← pairUp (v :: rest)
      return Char.ofNat u :: cs

/-- A string behind its opening quote: its text, if it has one, and the rest. -/
def readString (s : List Char) : Option (Option String × List Char) := do
  let (units, rest) ← readUnits s
  return ((pairUp units).map String.ofList, rest)

/-- The whole part of a number: a zero alone, or digits that begin with another one. -/
def readWhole : List Char → Option (List Char × List Char)
  | '0' :: rest => some (['0'], rest)
  | s =>
    let ds := s.takeWhile Char.isDigit
    if ds.isEmpty then none else some (ds, s.dropWhile Char.isDigit)

/-- Drops at least one digit. -/
def dropDigits? (s : List Char) : Option (List Char) :=
  if s.head?.any Char.isDigit then some (s.dropWhile Char.isDigit) else none

def dropFraction? : List Char → Option (List Char)
  | '.' :: rest => dropDigits? rest
  | s => some s

def dropExponent? : List Char → Option (List Char)
  | 'e' :: '+' :: rest | 'e' :: '-' :: rest | 'E' :: '+' :: rest | 'E' :: '-' :: rest =>
    dropDigits? rest
  | 'e' :: rest | 'E' :: rest => dropDigits? rest
  | s => some s

/-- A number without sign, fraction or exponent is a natural, every other one just a number. -/
def readNumber (s : List Char) : Option (Value × List Char) :=
  match s with
  | '-' :: rest => do
    let (_, rest) ← readWhole rest
    let rest ← dropFraction? rest
    let rest ← dropExponent? rest
    return (.number, rest)
  | s => do
    let (ds, rest) ← readWhole s
    match rest with
    | '.' :: _ | 'e' :: _ | 'E' :: _ =>
      let rest ← dropFraction? rest
      let rest ← dropExponent? rest
      return (.number, rest)
    | rest => return (.nat (Nat.ofDigitChars 10 ds 0), rest)

def textValue : Option String → Value
  | some s => .text s
  | none => .broken

mutual

def readValue : (fuel : Nat) → List Char → Option (Value × List Char)
  | 0, _ => none
  | fuel + 1, s =>
    match skipSpace s with
    | '"' :: rest => do
      let (s, rest) ← readString rest
      return (textValue s, rest)
    | '[' :: rest =>
      match skipSpace rest with
      | ']' :: rest => some (.list [], rest)
      | rest => do
        let (items, rest) ← readItems fuel rest
        return (.list items, rest)
    | '\x7b' :: rest =>
      match skipSpace rest with
      | '\x7d' :: rest => some (.record [], rest)
      | rest => do
        let (fields, rest) ← readFields fuel rest
        return (.record fields, rest)
    | 'n' :: 'u' :: 'l' :: 'l' :: rest => some (.null, rest)
    | 't' :: 'r' :: 'u' :: 'e' :: rest => some (.bool true, rest)
    | 'f' :: 'a' :: 'l' :: 's' :: 'e' :: rest => some (.bool false, rest)
    | rest => readNumber rest

/-- At least one item, up to the closing bracket. -/
def readItems : (fuel : Nat) → List Char → Option (List Value × List Char)
  | 0, _ => none
  | fuel + 1, s => do
    let (v, rest) ← readValue fuel s
    match skipSpace rest with
    | ']' :: rest => return ([v], rest)
    | ',' :: rest =>
      let (items, rest) ← readItems fuel rest
      return (v :: items, rest)
    | _ => none

/-- At least one field, up to the closing brace. -/
def readFields : (fuel : Nat) → List Char → Option (Fields × List Char)
  | 0, _ => none
  | fuel + 1, s => do
    let '"' :: rest := skipSpace s | none
    let (name, rest) ← readString rest
    let ':' :: rest := skipSpace rest | none
    let (v, rest) ← readValue fuel rest
    match skipSpace rest with
    | '\x7d' :: rest => return ([(name, v)], rest)
    | ',' :: rest =>
      let (fields, rest) ← readFields fuel rest
      return ((name, v) :: fields, rest)
    | _ => none

end

/-- Reads a whole text as one value. Each level of nesting takes a character and two steps, so
the fuel is never used up. -/
def parse? (s : String) : Option Value := do
  let cs := s.toList
  let (v, rest) ← readValue (2 * cs.length + 2) cs
  if (skipSpace rest).isEmpty then some v else none

def escapeChar (c : Char) : List Char :=
  match c with
  | '"' => ['\\', '"']
  | '\\' => ['\\', '\\']
  | '\x08' => ['\\', 'b']
  | '\x0c' => ['\\', 'f']
  | '\n' => ['\\', 'n']
  | '\r' => ['\\', 'r']
  | '\t' => ['\\', 't']
  | c =>
    if c.toNat < 0x20 then
      ['\\', 'u', '0', '0', (c.toNat / 16).digitChar, (c.toNat % 16).digitChar]
    else [c]

def quote (s : String) : List Char :=
  '"' :: (s.toList.flatMap escapeChar ++ ['"'])

/-- A broken string is written as half of a pair, which reads as broken again. -/
def brokenText : List Char :=
  "\"\\ud800\"".toList

def nameText : Option String → List Char
  | some s => quote s
  | none => brokenText

mutual

/-- The compact text of a value. A number that is no natural has lost its size and is written as
some number that reads as one. -/
def print : Value → List Char
  | .null => "null".toList
  | .bool true => "true".toList
  | .bool false => "false".toList
  | .nat n => Nat.toDigits 10 n
  | .number => "0.0".toList
  | .text s => quote s
  | .broken => brokenText
  | .list [] => ['[', ']']
  | .list (v :: rest) => '[' :: (print v ++ printItems rest)
  | .record [] => ['\x7b', '\x7d']
  | .record ((name, v) :: rest) =>
    '\x7b' :: (nameText name ++ ':' :: (print v ++ printFields rest))

/-- The items behind the first, with the closing bracket. -/
def printItems : List Value → List Char
  | [] => [']']
  | v :: rest => ',' :: (print v ++ printItems rest)

/-- The fields behind the first, with the closing brace. -/
def printFields : Fields → List Char
  | [] => ['\x7d']
  | (name, v) :: rest => ',' :: (nameText name ++ ':' :: (print v ++ printFields rest))

end

def render (v : Value) : String :=
  String.ofList (print v)

/-- The text of a value for a reader of its own; a string without text cannot be written. -/
def write? (v : Value) : Option String :=
  if v.isWhole then some (render v) else none

end SecurityLint.Data.Json
