import SecurityLint.Pattern.Property.Derived

/-!
The classes of characters that a pattern names by an escape or between colons. The escapes stand
for all scripts or for ASCII only.
-/
namespace SecurityLint.Pattern.Class

open GeneralCategory Property

def asciiDigit : CharSet := .ofRanges [(0x30, 0x39)]

def asciiBlank : CharSet := .ofRanges [(0x9, 0xd), (0x20, 0x20)]

def asciiWord : CharSet := .ofRanges [(0x30, 0x39), (0x41, 0x5a), (0x5f, 0x5f), (0x61, 0x7a)]

/-- Letters, marks, decimal digits, connecting punctuation and joiners. -/
def anyWord : CharSet := .unions [
  alphabetic, mark, decimalNumber, connectorPunctuation, joinControl]

def digit (unicode : Bool) : CharSet := if unicode then decimalNumber else asciiDigit

def blank (unicode : Bool) : CharSet := if unicode then whiteSpace else asciiBlank

def word (unicode : Bool) : CharSet := if unicode then anyWord else asciiWord

/-- The bracket classes with a name between colons. -/
def named : NamedSets := [
  (["alnum"], .ofRanges [(0x30, 0x39), (0x41, 0x5a), (0x61, 0x7a)]),
  (["alpha"], .ofRanges [(0x41, 0x5a), (0x61, 0x7a)]),
  (["ascii"], .ascii),
  (["blank"], .ofRanges [(0x9, 0x9), (0x20, 0x20)]),
  (["cntrl"], .ofRanges [(0x0, 0x1f), (0x7f, 0x7f)]),
  (["digit"], asciiDigit),
  (["graph"], .ofRanges [(0x21, 0x7e)]),
  (["lower"], .asciiLower),
  (["print"], .ofRanges [(0x20, 0x7e)]),
  (["punct"], .ofRanges [(0x21, 0x2f), (0x3a, 0x40), (0x5b, 0x60), (0x7b, 0x7e)]),
  (["space"], asciiBlank),
  (["upper"], .asciiUpper),
  (["word"], asciiWord),
  (["xdigit"], asciiHexDigit)]

end SecurityLint.Pattern.Class
