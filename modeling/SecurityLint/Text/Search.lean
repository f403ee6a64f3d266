/-!
Finding one text inside another, and equality of names up to the case of ASCII letters.
-/
namespace SecurityLint.Text

/-- Whether `word` stands somewhere in the list. -/
def occursIn (word : List Char) : List Char → Bool
  | [] => word.isEmpty
  | c :: cs => word.isPrefixOf (c :: cs) || occursIn word cs

/-- Whether `word` stands somewhere in `text`. -/
def contains (text word : String) : Bool :=
  occursIn word.toList text.toList

/-- Equality up to the case of ASCII letters; all other letters have to be the same. -/
def sameAsciiName (a b : String) : Bool :=
  a.toList.map Char.toLower == b.toList.map Char.toLower

/-- What holds of the 128 characters of ASCII, one by one. -/
theorem forall_ascii {P : Char → Prop} (h : ∀ i < 128, P (Char.ofNat i)) (c : Char)
    (hc : c.toNat < 128) : P c := by
  rw [← Char.ofNat_toNat c]
  exact h c.toNat hc

end SecurityLint.Text
