import SecurityLint.Text.Letters

/-!
Words of an identifier. Camel case, separators and letter/digit runs are broken apart with
blanks, so that a pattern anchored at a word boundary sees each word: `generateTOTP` reads as
`generate TOTP` and `user_otp` as `user otp`.
-/
namespace SecurityLint.Text

def isSeparator (c : Char) : Bool :=
  c == '_' || c == '-'

/-- Whether a word begins at `c`, which stands between `prev` and `next?`: a capital after a small
letter or a digit, the last of several capitals if a small letter follows, a digit after a
letter. -/
def beginsWord (prev c : Char) (next? : Option Char) : Bool :=
  (isUppercase c &&
    (isLowercase prev || prev.isDigit || (isUppercase prev && next?.any isLowercase)))
  || (c.isDigit && isAlphabetic prev)

/-- The words of a text that follows `prev?`. -/
def splitAfter (prev? : Option Char) : List Char → List Char
  | [] => []
  | c :: rest =>
    if isSeparator c then ' ' :: splitAfter (some c) rest
    else if prev?.any (beginsWord · c rest.head?) then ' ' :: c :: splitAfter (some c) rest
    else c :: splitAfter (some c) rest

/-- A text with its identifier words set apart by blanks. -/
def splitWords (s : String) : String :=
  String.ofList (splitAfter none s.toList)

end SecurityLint.Text
