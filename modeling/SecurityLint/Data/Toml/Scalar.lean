import SecurityLint.Data.Value
import SecurityLint.Text.Hex

/-!
TOML numbers, truth values, dates and times. Each is one word of letters, digits and a few signs,
except that a date and its time may have a blank between them.
-/
namespace SecurityLint.Data.Toml

def isWordChar (c : Char) : Bool :=
  c.isAlphanum || c == '+' || c == '-' || c == '_' || c == '.' || c == ':'

/-- Digits of which any two may have an underscore between them; there is at least one. -/
def digits? (isDigit : Char → Bool) : List Char → Option (List Char)
  | [] => none
  | [c] => if isDigit c then some [c] else none
  | c :: '_' :: rest =>
    if isDigit c then (digits? isDigit rest).map (c :: ·) else none
  | c :: rest =>
    if isDigit c then (digits? isDigit rest).map (c :: ·) else none

def dropSign : List Char → List Char
  | '+' :: rest | '-' :: rest => rest
  | cs => cs

/-- The number with these digits, in a base up to ten. -/
def number (base : Nat) (ds : List Char) : Nat :=
  Nat.ofDigitChars base ds 0

def isHexDigit (c : Char) : Bool :=
  (Text.hexValue? c).isSome

/-- Decimal digits without a leading zero. -/
def wholePart? (cs : List Char) : Option Nat := do
  let ds ← digits? Char.isDigit cs
  if ds.length > 1 && ds.head? == some '0' then none
  return number 10 ds

/-- Half of what a word of 64 bits can hold. -/
def wordLimit : Nat := UInt64.size / 2

/-- An integer of 64 bits with a sign. -/
def isInteger (cs : List Char) : Bool :=
  let bounded (n : Option Nat) (bound : Nat) : Bool := n.any (· < bound)
  match cs with
  | '0' :: 'x' :: rest => bounded ((digits? isHexDigit rest).bind Text.hexNumber?) wordLimit
  | '0' :: 'o' :: rest =>
    bounded ((digits? (fun c => '0' ≤ c && c ≤ '7') rest).map (number 8)) wordLimit
  | '0' :: 'b' :: rest =>
    bounded ((digits? (fun c => c == '0' || c == '1') rest).map (number 2)) wordLimit
  | '-' :: rest => bounded (wholePart? rest) (wordLimit + 1)
  | cs => bounded (wholePart? (dropSign cs)) wordLimit

/-- An exponent with its sign: whether it is negative, and its size. -/
def exponent? (cs : List Char) : Option (Bool × Nat) :=
  (digits? Char.isDigit (dropSign cs)).map fun ds => (cs.head? == some '-', number 10 ds)

/-- Half a step above the largest number of 64 bits with a binary point. -/
def floatLimit : Nat := Nat.pow 2 1024 - Nat.pow 2 970

/-- Whether `mantissa`, with `places` digits behind the point, is too large with an exponent. Very
large exponents are settled without writing the power out. -/
def overflows (mantissa places : Nat) (negative : Bool) (exponent : Nat) : Bool :=
  if mantissa == 0 then false
  else if negative then
    exponent ≤ mantissa.log2 && mantissa ≥ floatLimit * Nat.pow 10 (places + exponent)
  else exponent > 400 + places || mantissa * Nat.pow 10 exponent ≥ floatLimit * Nat.pow 10 places

/-- A number with a fraction or an exponent. It has to be within range. -/
def isFloat (cs : List Char) : Bool :=
  let isPoint (c : Char) : Bool := c == '.'
  let isMark (c : Char) : Bool := c == 'e' || c == 'E'
  let unsigned := dropSign cs
  let isNegative := cs.head? == some '-'
  if unsigned == ['i', 'n', 'f'] || unsigned == ['n', 'a', 'n'] then true
  else
    let base := unsigned.takeWhile (!isMark ·)
    let power := unsigned.dropWhile (!isMark ·)
    let whole := base.takeWhile (!isPoint ·)
    let fraction := base.dropWhile (!isPoint ·)
    let parts : Option (Nat × Nat) := do
      let n ← wholePart? whole
      match fraction with
      | [] => some (n, 0)
      | _ :: ds =>
        let ds ← digits? Char.isDigit ds
        some (Nat.ofDigitChars 10 ds n, ds.length)
    let scale : Option (Bool × Nat) :=
      match power with
      | [] => some (false, 0)
      | _ :: e => exponent? e
    match parts, scale with
    | some (mantissa, places), some (negative, exponent) =>
      !(fraction.isEmpty && power.isEmpty)
        && (isNegative || !overflows mantissa places negative exponent)
    | _, _ => false

/-- Two digits with a value in the given range. -/
def isPart (least most : Nat) (a b : Char) : Bool :=
  a.isDigit && b.isDigit && least ≤ number 10 [a, b] && number 10 [a, b] ≤ most

def isLeapYear (y : Nat) : Bool :=
  y % 4 == 0 && (y % 100 != 0 || y % 400 == 0)

def daysIn (year month : Nat) : Nat :=
  if month == 2 then (if isLeapYear year then 29 else 28)
  else if [4, 6, 9, 11].contains month then 30
  else 31

def isDate : List Char → Bool
  | [y1, y2, y3, y4, '-', m1, m2, '-', d1, d2] =>
    [y1, y2, y3, y4].all Char.isDigit
      && isPart 1 12 m1 m2
      && isPart 1 (daysIn (number 10 [y1, y2, y3, y4]) (number 10 [m1, m2])) d1 d2
  | _ => false

/-- An offset from universal time; none at all is the offset of a local time. -/
def isOffset : List Char → Bool
  | [] | ['Z'] | ['z'] => true
  | ['+', h1, h2, ':', m1, m2] | ['-', h1, h2, ':', m1, m2] =>
    isPart 0 23 h1 h2 && isPart 0 59 m1 m2
  | _ => false

/-- A time of the day. A leap second may end a minute. -/
def isTimeThen (isEnd : List Char → Bool) : List Char → Bool
  | h1 :: h2 :: ':' :: m1 :: m2 :: ':' :: s1 :: s2 :: rest =>
    isPart 0 23 h1 h2 && isPart 0 59 m1 m2 && isPart 0 60 s1 s2
      && match rest with
        | '.' :: fraction =>
          fraction.head?.any Char.isDigit && isEnd (fraction.dropWhile Char.isDigit)
        | rest => isEnd rest
  | _ => false

def isDateTime (cs : List Char) : Bool :=
  isDate (cs.take 10)
    && match cs.drop 10 with
      | [] => true
      | 'T' :: time | 't' :: time => isTimeThen isOffset time
      | _ => false

/-- A date or time is a record with one field, which no settings have. -/
def moment : Value :=
  .record [(some "$moment", .text "")]

/-- The value of a word. -/
def word? (cs : List Char) : Option Value :=
  if cs == "true".toList then some (.bool true)
  else if cs == "false".toList then some (.bool false)
  else if isDateTime cs || isTimeThen List.isEmpty cs then some moment
  else if isFloat cs || isInteger cs then some .number
  else none

/-- Reads a word, or a date and a time with a blank between them. -/
def readScalar (cs : List Char) : Option (Value × List Char) := do
  let word := cs.takeWhile isWordChar
  let rest := cs.dropWhile isWordChar
  let v ← word? word
  match rest with
  | ' ' :: behind =>
    if isDate word && behind.head?.any Char.isDigit then
      let time := behind.takeWhile isWordChar
      if isTimeThen isOffset time then some (v, behind.dropWhile isWordChar) else none
    else some (v, rest)
  | _ => some (v, rest)

end SecurityLint.Data.Toml
