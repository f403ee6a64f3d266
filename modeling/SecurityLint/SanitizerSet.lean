import SecurityLint.Pattern.Automaton
import SecurityLint.Text.Blank

/-!
Names of sanitizers, looked for anywhere in a text whatever their case. A text is read from left
to right: where a name stands, the first such name of the list is taken and reading goes on behind
it. A name directly behind a negating `un` does not count, so `unescape` is no sanitizer.
-/
namespace SecurityLint

structure SanitizerSet where
  names : List (List Char)

namespace SanitizerSet

/-- Names are trimmed and blank ones dropped. -/
def ofList (names : List String) : SanitizerSet where
  names := (names.map fun n => (Text.trim n).toList).filter (!·.isEmpty)

/-- The names as one expression. -/
def toRegex (s : SanitizerSet) : Pattern.Regex :=
  .oneOf (s.names.map fun n => .inOrder (n.map fun c => .ofSet true (.foldCase (.single c))))

/-- A set of names. There is none if the names together need too large an automaton. -/
def compile? (names : List String) : Option SanitizerSet :=
  let s := ofList names
  if s.names.isEmpty || Pattern.Automaton.fits s.toRegex then some s else none

/-- Whether the text begins with `name`, up to case. -/
def beginsWith : (name text : List Char) → Bool
  | [], _ => true
  | _ :: _, [] => false
  | n :: name, c :: text => Text.sameFold n c && beginsWith name text

/-- Whether the text before a name, read backwards, ends in an `un` that starts a word: at the
beginning, behind something that is no letter, or with a capital. -/
def negates : (before : List Char) → Bool
  | n :: u :: rest =>
    n.toLower == 'n' && u.toLower == 'u' && (u.isUpper || rest.head?.all (!·.isAlpha))
  | _ => false

/-- Looks for a name that counts. `skip` characters still belong to the name taken last, and
`before` is the text already read, backwards. -/
def findFrom (names : List (List Char)) (skip : Nat) (before : List Char) : List Char → Bool
  | [] => false
  | c :: rest =>
    match skip with
    | skip + 1 => findFrom names skip (c :: before) rest
    | 0 =>
      match names.find? (beginsWith · (c :: rest)) with
      | some name => !negates before || findFrom names (name.length - 1) (c :: before) rest
      | none => findFrom names 0 (c :: before) rest

/-- Whether a text calls on one of the sanitizers. -/
def isCalledIn (s : SanitizerSet) (text : String) : Bool :=
  findFrom s.names 0 [] text.toList

end SanitizerSet

end SecurityLint
