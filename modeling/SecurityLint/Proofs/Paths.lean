import SecurityLint.Proofs.LossyTexts
import SecurityLint.Tree.Path

/-!
The text of a path. A path that is the bytes of a text shows as that text. Of any other path the
malformed bytes are lost, and a replacement character stands where they were; a path whose
text has no replacement character is thus known from it.
-/
namespace SecurityLint

namespace Path

/-- The path is written in UTF-8. -/
def IsText (p : Path) : Prop :=
  ∃ s, p = ofText s

theorem text?_ofText (s : String) : (ofText s).text? = some s := by
  have hbytes : (ofText s).bytes.toByteArray = s.toUTF8 := by
    apply ByteArray.ext
    simp [ofText, Text.utf8]
  rw [text?, hbytes, Text.fromUTF8?_toUTF8]

theorem text?_eq_some_iff {p : Path} {s : String} : p.text? = some s ↔ p = ofText s := by
  constructor
  · intro h
    simp only [text?, String.fromUTF8?, Option.dite_none_right_eq_some, Option.some.injEq] at h
    obtain ⟨hvalid, rfl⟩ := h
    cases p
    simp [ofText, Text.utf8, String.fromUTF8]
  · intro h
    rw [h]
    exact text?_ofText s

theorem isText_iff {p : Path} : p.IsText ↔ p.text?.isSome := by
  rw [Option.isSome_iff_exists]
  exact exists_congr fun s => text?_eq_some_iff.symm

theorem lossy_ofText (s : String) : (ofText s).lossy = s :=
  Text.lossy_utf8 s

theorem lossy_eq_iff_shows {p : Path} {s : String} :
    p.lossy = s ↔ Text.Shows p.bytes s.toList := by
  rw [lossy, Text.lossy, Text.shows_iff]
  constructor
  · intro h
    rw [← h, String.toList_ofList]
  · intro h
    rw [h, String.ofList_toList]

theorem lossy_inj {p q : Path} (hp : p.IsText) (hq : q.IsText) : p.lossy = q.lossy ↔ p = q := by
  obtain ⟨s, rfl⟩ := hp
  obtain ⟨r, rfl⟩ := hq
  constructor
  · intro h
    rw [lossy_ofText, lossy_ofText] at h
    rw [h]
  · intro h
    rw [h]

theorem eq_ofText_of_lossy {p : Path} (h : '\uFFFD' ∉ p.lossy.toList) : p = ofText p.lossy := by
  have hbytes : Text.utf8 p.lossy = p.bytes := Text.utf8_lossy h
  rw [ofText, hbytes]

/-- A path whose text has no replacement character is the only one with that text. -/
theorem eq_of_lossy_eq {p q : Path} (h : '\uFFFD' ∉ p.lossy.toList) (heq : p.lossy = q.lossy) :
    p = q := by
  have hp := eq_ofText_of_lossy h
  rw [heq] at h hp
  rw [hp]
  exact (eq_ofText_of_lossy h).symm

theorem nul_not_mem_lossy {p : Path} (h : 0 ∉ p.bytes) : '\x00' ∉ p.lossy.toList := by
  rw [lossy, Text.lossy, String.toList_ofList]
  exact (Text.shows_lossyChars p.bytes).nul_not_mem h

end Path

end SecurityLint
