import SecurityLint.Text.Utf8

/-!
Paths of files. A path is a string of bytes, as systems keep it; it need not be a text. What is
hashed or shown of it is the text that its bytes are read as where they are none.
-/
namespace SecurityLint

structure Path where
  bytes : List UInt8
  deriving DecidableEq, Repr

namespace Path

def empty : Path where
  bytes := []

def ofText (s : String) : Path where
  bytes := Text.utf8 s

instance : Coe String Path where
  coe := ofText

/-- The path as a text, if its bytes are UTF-8. -/
def text? (p : Path) : Option String :=
  String.fromUTF8? p.bytes.toByteArray

/-- The path as a text, with replacement characters for what is not UTF-8. -/
def lossy (p : Path) : String :=
  Text.lossy p.bytes

end Path

end SecurityLint
