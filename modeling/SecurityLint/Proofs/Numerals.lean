import Mathlib.Data.List.Basic

/-!
Numbers in texts. The decimal digits of a number tell the number, and they end where something
other than a digit follows. So a text that was filled from a template with numbers between pieces
free of digits tells the pieces and the numbers.
-/
namespace SecurityLint.Text

theorem isDigit_of_mem_digits {n : ℕ} {c : Char} (h : c ∈ Nat.toDigits 10 n) : c.isDigit = true :=
  Nat.isDigit_of_mem_toDigits (by decide) (by decide) h

theorem digits_inj {m n : ℕ} (h : Nat.toDigits 10 m = Nat.toDigits 10 n) : m = n := by
  rw [← Nat.ofDigitChars_toDigits (b := 10) (n := m) (by decide) (by decide), h,
    Nat.ofDigitChars_toDigits (by decide) (by decide)]

/-- A stretch of characters with a property ends where one without it follows. -/
theorem span_append {p : Char → Bool} {chars rest : List Char} (hchars : ∀ c ∈ chars, p c = true)
    (hrest : ∀ c ∈ rest.head?, p c = false) :
    (chars ++ rest).takeWhile p = chars ∧ (chars ++ rest).dropWhile p = rest := by
  have hstop : rest.takeWhile p = [] ∧ rest.dropWhile p = rest := by
    cases rest with
    | nil => exact ⟨rfl, rfl⟩
    | cons c rest =>
      have hc : p c = false := hrest c (by simp)
      simp [hc]
  rw [List.takeWhile_append_of_pos hchars, List.dropWhile_append_of_pos hchars, hstop.1, hstop.2]
  simp

/-- Two texts that begin with a stretch of such characters are the same only if the stretches are
the same, and what follows is. -/
theorem span_append_inj {p : Char → Bool} {chars chars' rest rest' : List Char}
    (hchars : ∀ c ∈ chars, p c = true) (hrest : ∀ c ∈ rest.head?, p c = false)
    (hchars' : ∀ c ∈ chars', p c = true) (hrest' : ∀ c ∈ rest'.head?, p c = false)
    (h : chars ++ rest = chars' ++ rest') : chars = chars' ∧ rest = rest' := by
  obtain ⟨htake, hdrop⟩ := span_append hchars hrest
  obtain ⟨htake', hdrop'⟩ := span_append hchars' hrest'
  rw [h] at htake hdrop
  exact ⟨htake.symm.trans htake', hdrop.symm.trans hdrop'⟩

/-- Numbers, each with a piece of text behind it. -/
def numbered (parts : List (ℕ × String)) : List Char :=
  parts.flatMap fun part => Nat.toDigits 10 part.1 ++ part.2.toList

theorem numbered_cons (n : ℕ) (piece : String) (rest : List (ℕ × String)) :
    numbered ((n, piece) :: rest) = Nat.toDigits 10 n ++ (piece.toList ++ numbered rest) := by
  rw [numbered, List.flatMap_cons, List.append_assoc]
  rfl

def HasNoDigit (text : String) : Prop :=
  ∀ c ∈ text.toList, (!c.isDigit) = true

/-- No piece has digits, and the numbers are kept apart: only the last piece may be empty. -/
def Spaced : List (ℕ × String) → Prop
  | [] => True
  | (_, piece) :: rest => HasNoDigit piece ∧ (piece = "" → rest = []) ∧ Spaced rest

theorem HasNoDigit.head? {piece : String} {rest : List (ℕ × String)} (h : HasNoDigit piece)
    (hrest : piece = "" → rest = []) :
    ∀ c ∈ (piece.toList ++ numbered rest).head?, c.isDigit = false := by
  intro c hc
  by_cases hempty : piece = ""
  · rw [hempty, hrest hempty] at hc
    simp [numbered] at hc
  · rw [List.head?_append_of_ne_nil _ (by simpa using hempty)] at hc
    simpa using h c (List.mem_of_head? hc)

theorem head?_numbered (parts : List (ℕ × String)) :
    ∀ c ∈ (numbered parts).head?, (!c.isDigit) = false := by
  cases parts with
  | nil => simp [numbered]
  | cons part rest =>
    intro c hc
    rw [numbered_cons, List.head?_append_of_ne_nil _ Nat.toDigits_ne_nil] at hc
    simp [isDigit_of_mem_digits (List.mem_of_head? hc)]

theorem numbered_inj {parts parts' : List (ℕ × String)} (hparts : Spaced parts)
    (hparts' : Spaced parts') (h : numbered parts = numbered parts') : parts = parts' := by
  induction parts generalizing parts' with
  | nil =>
    cases parts' with
    | nil => rfl
    | cons part' rest' =>
      rw [numbered_cons] at h
      exact absurd (List.append_eq_nil_iff.mp h.symm).1 Nat.toDigits_ne_nil
  | cons part rest ih =>
    cases parts' with
    | nil =>
      rw [numbered_cons] at h
      exact absurd (List.append_eq_nil_iff.mp h).1 Nat.toDigits_ne_nil
    | cons part' rest' =>
      obtain ⟨hpiece, hlast, hrest⟩ := hparts
      obtain ⟨hpiece', hlast', hrest'⟩ := hparts'
      rw [numbered_cons, numbered_cons] at h
      obtain ⟨hdigits, h⟩ := span_append_inj (fun _ => isDigit_of_mem_digits)
        (hpiece.head? hlast) (fun _ => isDigit_of_mem_digits) (hpiece'.head? hlast') h
      obtain ⟨hsame, h⟩ := span_append_inj hpiece (head?_numbered rest) hpiece'
        (head?_numbered rest') h
      rw [ih hrest hrest' h, Prod.ext (digits_inj hdigits) (String.toList_injective hsame)]

end SecurityLint.Text
