/-!
UTF-8. A text is written as the bytes of its characters. Bytes that are no text are still read as
one: the beginning of a character that does not end, and every byte at which none begins, shows as
one replacement character.
-/
namespace SecurityLint.Text

def utf8 (s : String) : List UInt8 :=
  s.toUTF8.data.toList

def isContinuation (b : UInt8) : Bool :=
  0x80 ≤ b && b ≤ 0xbf

/-- Whether `c` may be the second byte of a character of three or four bytes that begins with
`lead`. The narrower ranges leave out what has a shorter form, surrogates, and what lies above
the last code point. -/
def maySecond (lead c : UInt8) : Bool :=
  if lead == 0xe0 then 0xa0 ≤ c && c ≤ 0xbf
  else if lead == 0xed then 0x80 ≤ c && c ≤ 0x9f
  else if lead == 0xf0 then 0x90 ≤ c && c ≤ 0xbf
  else if lead == 0xf4 then 0x80 ≤ c && c ≤ 0x8f
  else 0xe1 ≤ lead && lead ≤ 0xf3 && isContinuation c

/-- How many of the bytes behind `lead` go on with a character that is then broken off. -/
def torn (lead : UInt8) : List UInt8 → Nat
  | [] => 0
  | [c] => if maySecond lead c then 1 else 0
  | c :: d :: _ =>
    if maySecond lead c then
      if 0xf0 ≤ lead && isContinuation d then 2 else 1
    else 0

/-- The characters of the bytes behind the first `skip`, which belong to what was read before. -/
def lossyChars : (skip : Nat) → List UInt8 → List Char
  | _, [] => []
  | skip + 1, _ :: rest => lossyChars skip rest
  | 0, lead :: rest =>
    match (lead :: rest).toByteArray.utf8DecodeChar? 0 with
    | some c => c :: lossyChars (c.utf8Size - 1) rest
    | none => '\uFFFD' :: lossyChars (torn lead rest) rest

/-- The text that any bytes are shown as. -/
def lossy (bytes : List UInt8) : String :=
  String.ofList (lossyChars 0 bytes)

end SecurityLint.Text
