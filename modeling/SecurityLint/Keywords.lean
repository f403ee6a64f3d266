import SecurityLint.Text.Blank
import SecurityLint.Text.LowerCase
import SecurityLint.Text.Search

/-!
Word lists from the configuration. A word is kept trimmed and in lower case; blank words are
dropped. A list answers whether a name is one of its words and which of its words a text mentions.
-/
namespace SecurityLint

structure Keywords where
  words : List String

namespace Keywords

def ofList (words : List String) : Keywords where
  words := (words.map fun w => Text.lower (Text.trim w)).filter (!·.isEmpty)

def isEmpty (k : Keywords) : Bool :=
  k.words.isEmpty

/-- Whether `name` is one of the words, up to the case of ASCII letters. -/
def containsName (k : Keywords) (name : String) : Bool :=
  k.words.any (Text.sameAsciiName · name)

/-- The first word of the list that stands somewhere in `text`, whatever the case. -/
def findIn? (k : Keywords) (text : String) : Option String :=
  if text.isEmpty then none
  else
    let folded := Text.lower text
    k.words.find? (Text.contains folded ·)

def occursIn (k : Keywords) (text : String) : Bool :=
  (k.findIn? text).isSome

end Keywords

end SecurityLint
