import SecurityLint.Data.Toml.Quoted
import SecurityLint.Data.Toml.Scalar
import SecurityLint.Data.Toml.Table

/-!
TOML documents. The text is read into the parts behind its headers, and these are put together
to one record.
-/
namespace SecurityLint.Data.Toml

/-- Arrays, inline tables and dotted keys are nested less deep than this. -/
def maxDepth : Nat := 80

def skipBlanks (cs : List Char) : List Char :=
  cs.dropWhile isBlank

def isBareKeyChar (c : Char) : Bool :=
  c.isAlphanum || c == '_' || c == '-'

/-- What follows a comment, from behind its sign up to the line break. -/
def dropComment? (cs : List Char) : Option (List Char) :=
  let rest := cs.dropWhile isPlain
  if rest.isEmpty || (lineBreak? rest).isSome then some rest else none

/-- Skips blanks, line breaks and comments. -/
def skipLines : (fuel : Nat) → List Char → Option (List Char)
  | 0, _ => none
  | fuel + 1, cs =>
    match dropBlankLines cs with
    | '#' :: rest => do skipLines fuel (← dropComment? rest)
    | rest => some rest

/-- The end of a line: blanks, a comment and a line break or the end of the text. -/
def endLine? (cs : List Char) : Option (List Char) := do
  let rest ←
    match skipBlanks cs with
    | '#' :: rest => dropComment? rest
    | rest => some rest
  if rest.isEmpty then some [] else lineBreak? rest

/-- One part of a key. -/
def readKeyPart (cs : List Char) : Option (String × List Char) :=
  match cs with
  | '"' :: _ | '\'' :: _ => readShort cs
  | cs =>
    let name := cs.takeWhile isBareKeyChar
    if name.isEmpty then none else some (String.ofList name, cs.dropWhile isBareKeyChar)

/-- The parts of a key with dots, with blanks around each. -/
def readKeyParts : (fuel : Nat) → List Char → Option (List String × List Char)
  | 0, _ => none
  | fuel + 1, cs => do
    let (part, rest) ← readKeyPart (skipBlanks cs)
    match skipBlanks rest with
    | '.' :: rest =>
      let (parts, rest) ← readKeyParts fuel rest
      return (part :: parts, rest)
    | rest => return ([part], rest)

/-- A key, its last part apart. -/
def readKey (cs : List Char) : Option (List String × String × List Char) := do
  let (parts, rest) ← readKeyParts (cs.length + 1) cs
  if parts.length ≥ maxDepth then none
  return (parts.dropLast, ← parts.getLast?, rest)

mutual

/-- A value inside `depth` others. -/
def readValue : (fuel : Nat) → (depth : Nat) → List Char → Option (Value × List Char)
  | 0, _, _ => none
  | fuel + 1, depth, cs =>
    match cs with
    | '"' :: _ | '\'' :: _ => (readString cs).map fun (s, rest) => (.text s, rest)
    | '[' :: rest => do
      if depth + 1 ≥ maxDepth then none
      let (items, rest) ← readItems fuel (depth + 1) rest
      return (.list items, rest)
    | '\x7b' :: rest => do
      if depth + 1 ≥ maxDepth then none
      match skipBlanks rest with
      | '\x7d' :: rest => return (.record [], rest)
      | rest =>
        let (kvs, rest) ← readPairs fuel (depth + 1) rest
        return (.record (entryFields (← Entries.addAll [] kvs)), rest)
    | cs => readScalar cs

/-- The items of an array up to its bracket; a comma may stand behind the last. -/
def readItems : (fuel : Nat) → (depth : Nat) → List Char → Option (List Value × List Char)
  | 0, _, _ => none
  | fuel + 1, depth, cs => do
    match ← skipLines (cs.length + 1) cs with
    | ']' :: rest => return ([], rest)
    | cs =>
      let (v, rest) ← readValue fuel depth cs
      match ← skipLines (rest.length + 1) rest with
      | ']' :: rest => return ([v], rest)
      | ',' :: rest =>
        let (items, rest) ← readItems fuel depth rest
        return (v :: items, rest)
      | _ => none

/-- The pairs of an inline table up to its brace, at least one. -/
def readPairs : (fuel : Nat) → (depth : Nat) → List Char → Option (List KeyValue × List Char)
  | 0, _, _ => none
  | fuel + 1, depth, cs => do
    let (path, key, rest) ← readKey cs
    let '=' :: rest := rest | none
    let (value, rest) ← readValue fuel depth (skipBlanks rest)
    match skipBlanks rest with
    | '\x7d' :: rest => return ([{ path, key, value }], rest)
    | ',' :: rest =>
      let (kvs, rest) ← readPairs fuel depth rest
      return ({ path, key, value } :: kvs, rest)
    | _ => none

end

/-- A key and its value on a line. -/
def readLine (cs : List Char) : Option (KeyValue × List Char) := do
  let (path, key, rest) ← readKey cs
  let '=' :: rest := rest | none
  let rest := skipBlanks rest
  let (value, rest) ← readValue (2 * rest.length + 2) 0 rest
  return ({ path, key, value }, ← endLine? rest)

/-- The keys up to the next header. -/
def readLinesOfPart : (fuel : Nat) → List Char → Option (List KeyValue × List Char)
  | 0, _ => none
  | fuel + 1, cs => do
    match ← skipLines (cs.length + 1) cs with
    | [] => return ([], [])
    | '[' :: rest => return ([], '[' :: rest)
    | cs =>
      let (kv, rest) ← readLine cs
      let (kvs, rest) ← readLinesOfPart fuel rest
      return (kv :: kvs, rest)

/-- The parts of a document from a header on. -/
def readParts : (fuel : Nat) → List Char → Option (List Part)
  | 0, _ => none
  | _ + 1, [] => some []
  | fuel + 1, '[' :: '[' :: rest => do
    let (path, key, rest) ← readKey rest
    let ']' :: ']' :: rest := rest | none
    let (content, rest) ← readLinesOfPart (rest.length + 1) (← endLine? rest)
    return .element path key content :: (← readParts fuel rest)
  | fuel + 1, '[' :: rest => do
    let (path, key, rest) ← readKey rest
    let ']' :: rest := rest | none
    let (content, rest) ← readLinesOfPart (rest.length + 1) (← endLine? rest)
    return .table path key content :: (← readParts fuel rest)
  | _ + 1, _ => none

/-- Reads a document, which may begin with a byte order mark. -/
def parse? (s : String) : Option Value := do
  let cs :=
    match s.toList with
    | '\ufeff' :: rest => rest
    | cs => cs
  let (content, rest) ← readLinesOfPart (cs.length + 1) cs
  let parts ← readParts (rest.length + 1) rest
  let document ← parts.foldlM Part.addTo (← Entries.addAll [] content)
  return .record (entryFields document)

end SecurityLint.Data.Toml
