import SecurityLint.Text.Hex

/-!
TOML strings: on one line or several, with escapes or as they stand.
-/
namespace SecurityLint.Data.Toml

/-- Whether a character may stand for itself: no control character but the tab. -/
def isPlain (c : Char) : Bool :=
  c == '\t' || (c.toNat ≥ 0x20 && c.toNat != 0x7f)

def isBlank (c : Char) : Bool :=
  c == ' ' || c == '\t'

/-- What follows a line break, if one is next. -/
def lineBreak? : List Char → Option (List Char)
  | '\n' :: rest => some rest
  | '\r' :: '\n' :: rest => some rest
  | _ => none

def simpleEscape? (c : Char) : Option Char :=
  match c with
  | 'b' => some '\x08'
  | 't' => some '\t'
  | 'n' => some '\n'
  | 'f' => some '\x0c'
  | 'r' => some '\r'
  | '"' => some '"'
  | '\\' => some '\\'
  | _ => none

/-- The character of an escape from behind its backslash, and the rest. -/
def escape? : List Char → Option (Char × List Char)
  | 'u' :: rest => do
    if rest.length < 4 then none
    return (← Text.hexChar? (rest.take 4), rest.drop 4)
  | 'U' :: rest => do
    if rest.length < 8 then none
    return (← Text.hexChar? (rest.take 8), rest.drop 8)
  | c :: rest => do return (← simpleEscape? c, rest)
  | [] => none

/-- A string with escapes on one line, from behind its quote. -/
def readBasic : (fuel : Nat) → List Char → Option (List Char × List Char)
  | 0, _ | _ + 1, [] => none
  | _ + 1, '"' :: rest => some ([], rest)
  | fuel + 1, '\\' :: rest => do
    let (c, rest) ← escape? rest
    let (cs, rest) ← readBasic fuel rest
    return (c :: cs, rest)
  | fuel + 1, c :: rest => do
    if !isPlain c then none
    let (cs, rest) ← readBasic fuel rest
    return (c :: cs, rest)

/-- A string without escapes on one line, from behind its quote. -/
def readLiteral : List Char → Option (List Char × List Char)
  | [] => none
  | '\'' :: rest => some ([], rest)
  | c :: rest => do
    if !isPlain c then none
    let (cs, rest) ← readLiteral rest
    return (c :: cs, rest)

/-- Skips blanks and line breaks. -/
def dropBlankLines : List Char → List Char
  | ' ' :: rest | '\t' :: rest | '\n' :: rest | '\r' :: '\n' :: rest => dropBlankLines rest
  | cs => cs

/-- Three quotes end a string on several lines; up to two more before them belong to it. -/
def closing? (quote : Char) (cs : List Char) : Option (List Char × List Char) :=
  let n := (cs.takeWhile (· == quote)).length
  if n < 3 then none
  else
    let extra := min (n - 3) 2
    some (List.replicate extra quote, cs.drop (extra + 3))

/-- A string on several lines, from behind its opening quotes. With escapes, a backslash at the end
of a line joins it to the next line that is not blank. -/
def readLines (quote : Char) (hasEscapes : Bool) :
    (fuel : Nat) → List Char → Option (List Char × List Char)
  | 0, _ | _ + 1, [] => none
  | fuel + 1, c :: rest =>
    match closing? quote (c :: rest) with
    | some closed => some closed
    | none => do
      if c == '\\' && hasEscapes then
        match lineBreak? (rest.dropWhile isBlank) with
        | some behind => readLines quote hasEscapes fuel (dropBlankLines behind)
        | none =>
          let (c, rest) ← escape? rest
          let (cs, rest) ← readLines quote hasEscapes fuel rest
          return (c :: cs, rest)
      else
        match lineBreak? (c :: rest) with
        | some behind =>
          let (cs, rest) ← readLines quote hasEscapes fuel behind
          return ('\n' :: cs, rest)
        | none =>
          if !isPlain c then none
          let (cs, rest) ← readLines quote hasEscapes fuel rest
          return (c :: cs, rest)

/-- A line break right behind the opening quotes does not count. -/
def dropFirstBreak (cs : List Char) : List Char :=
  (lineBreak? cs).getD cs

/-- A string on one line, from its quote. -/
def readShort : List Char → Option (String × List Char)
  | '"' :: rest => (readBasic (rest.length + 1) rest).map fun (cs, r) => (String.ofList cs, r)
  | '\'' :: rest => (readLiteral rest).map fun (cs, r) => (String.ofList cs, r)
  | _ => none

/-- A string of any kind, from its quote. -/
def readString (cs : List Char) : Option (String × List Char) :=
  let long (quote : Char) (hasEscapes : Bool) (rest : List Char) : Option (String × List Char) :=
    (readLines quote hasEscapes (rest.length + 1) (dropFirstBreak rest)).map fun (cs, r) =>
      (String.ofList cs, r)
  match cs with
  | '"' :: '"' :: '"' :: rest => long '"' true rest
  | '\'' :: '\'' :: '\'' :: rest => long '\'' false rest
  | cs => readShort cs

end SecurityLint.Data.Toml
