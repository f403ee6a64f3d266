import Mathlib.Data.List.Chain
import Mathlib.Data.List.TakeWhile
import SecurityLint.Proofs.BetweenBlanks

/-!
Characters between identifier words. The letters that have a case are alphabetic, as each of their
ranges lies in one of the alphabetic ranges. So a character that is neither alphabetic nor a digit
is a gap, and the words on its two sides are those of the texts that stand there.
-/
namespace SecurityLint.Text

section Ranges

variable {ranges inner outer : List (ℕ × ℕ)} {r : ℕ × ℕ} {c : ℕ}

theorem exists_range_of_inRanges (h : inRanges ranges c = true) :
    ∃ r ∈ ranges, r.1 ≤ c ∧ c ≤ r.2 := by
  induction ranges with
  | nil => cases h
  | cons s rest ih =>
    rw [inRanges] at h
    split at h
    · cases h
    · next hfirst =>
      split at h
      · next hlast => exact ⟨s, List.mem_cons_self, Nat.le_of_not_lt hfirst, hlast⟩
      · obtain ⟨r, hr, hc⟩ := ih h
        exact ⟨r, List.mem_cons_of_mem s hr, hc⟩

/-- A range that is not empty, and another that begins behind it. -/
structure Precedes (r s : ℕ × ℕ) : Prop where
  first_le_last : r.1 ≤ r.2
  last_lt_first : r.2 < s.1

instance : DecidableRel Precedes := fun r s =>
  decidable_of_iff (r.1 ≤ r.2 ∧ r.2 < s.1) ⟨fun h => ⟨h.1, h.2⟩, fun h => ⟨h.1, h.2⟩⟩

instance : IsTrans (ℕ × ℕ) Precedes where
  trans _ _ _ h h' :=
    ⟨h.first_le_last, h.last_lt_first.trans (h'.first_le_last.trans_lt h'.last_lt_first)⟩

/-- Where the ranges increase, the search does not stop before a range that holds the number. -/
theorem inRanges_of_mem (h : ranges.Pairwise Precedes) (hr : r ∈ ranges) (hfirst : r.1 ≤ c)
    (hlast : c ≤ r.2) : inRanges ranges c = true := by
  induction ranges with
  | nil => cases hr
  | cons s rest ih =>
    obtain ⟨hbefore, hrest⟩ := List.pairwise_cons.mp h
    rw [inRanges]
    rcases List.mem_cons.mp hr with rfl | hr
    · rw [if_neg (Nat.not_lt.mpr hfirst), if_pos hlast]
    · have hs := hbefore r hr
      have hbehind : s.2 < c := hs.last_lt_first.trans_le hfirst
      rw [if_neg (Nat.not_lt.mpr (hs.first_le_last.trans hbehind.le)),
        if_neg (Nat.not_le.mpr hbehind), ih hrest hr]

/-- What is left of `inner` when each of the outer ranges takes from the front those that lie in
it. Both lists are gone through once, as they increase. -/
def uncovered (outer inner : List (ℕ × ℕ)) : List (ℕ × ℕ) :=
  outer.foldl (fun left s => left.dropWhile fun r => decide (s.1 ≤ r.1 ∧ r.2 ≤ s.2)) inner

theorem mem_uncovered_or (outer : List (ℕ × ℕ)) (hr : r ∈ inner) :
    r ∈ uncovered outer inner ∨ ∃ s ∈ outer, s.1 ≤ r.1 ∧ r.2 ≤ s.2 := by
  induction outer generalizing inner with
  | nil => exact .inl hr
  | cons s rest ih =>
    rw [← List.takeWhile_append_dropWhile
      (p := fun r : ℕ × ℕ => decide (s.1 ≤ r.1 ∧ r.2 ≤ s.2)) (l := inner)] at hr
    rcases List.mem_append.mp hr with hr | hr
    · exact .inr ⟨s, List.mem_cons_self, by simpa using List.mem_takeWhile_imp hr⟩
    · refine (ih hr).imp_right ?_
      rintro ⟨t, ht, hin⟩
      exact ⟨t, List.mem_cons_of_mem s ht, hin⟩

theorem inRanges_of_uncovered (houter : outer.Pairwise Precedes)
    (h : uncovered outer inner = []) (hc : inRanges inner c = true) :
    inRanges outer c = true := by
  obtain ⟨r, hr, hfirst, hlast⟩ := exists_range_of_inRanges hc
  rcases mem_uncovered_or outer hr with hr | ⟨s, hs, hsr, hrs⟩
  · rw [h] at hr
    cases hr
  · exact inRanges_of_mem houter hs (hsr.trans hfirst) (hlast.trans hrs)

end Ranges

theorem pairwise_alphabeticRanges : alphabeticRanges.Pairwise Precedes := by
  rw [← List.isChain_iff_pairwise]
  decide +kernel

theorem isAlphabetic_of_isUppercase {c : Char} (h : isUppercase c = true) :
    isAlphabetic c = true :=
  inRanges_of_uncovered pairwise_alphabeticRanges
    (show uncovered alphabeticRanges uppercaseRanges = [] by decide +kernel) h

theorem isAlphabetic_of_isLowercase {c : Char} (h : isLowercase c = true) :
    isAlphabetic c = true :=
  inRanges_of_uncovered pairwise_alphabeticRanges
    (show uncovered alphabeticRanges lowercaseRanges = [] by decide +kernel) h

theorem isGap_iff (g : Char) : IsGap g ↔ isAlphabetic g = false ∧ g.isDigit = false := by
  constructor
  · intro h
    exact ⟨h.not_alphabetic, h.not_digit⟩
  · rintro ⟨halphabetic, hdigit⟩
    have hletter : ¬ isAlphabetic g = true := by simp [halphabetic]
    exact {
      not_uppercase := Bool.eq_false_iff.mpr (mt isAlphabetic_of_isUppercase hletter)
      not_lowercase := Bool.eq_false_iff.mpr (mt isAlphabetic_of_isLowercase hletter)
      not_alphabetic := halphabetic
      not_digit := hdigit }

/-- A character that is neither alphabetic nor a digit splits a text: its words are those of the
text before it and of the text behind it, each split alone. The character itself stays between
them, or is a blank there if it was a separator. -/
theorem splitWords_append_gap (before after : String) (g : Char)
    (hletter : isAlphabetic g = false) (hdigit : g.isDigit = false) :
    splitWords (before ++ String.singleton g ++ after) =
      splitWords before ++ String.singleton (if g = '_' ∨ g = '-' then ' ' else g) ++
        splitWords after := by
  have hgap : IsGap g := (isGap_iff g).mpr ⟨hletter, hdigit⟩
  have hsplit := hgap.splitAfter_append none before.toList after.toList
  apply String.toList_injective
  simpa [splitWords, isSeparator] using hsplit

/-- A digit of another script is no letter, and no digit to the words. -/
theorem splitWords_arabic_digit :
    isAlphabetic '٣' = false ∧ '٣'.isDigit = false ∧
      splitWords "generateTOTP٣use2FA" = "generate TOTP٣use 2 FA" := by
  have hletter : isAlphabetic '٣' = false := by decide +kernel
  have hdigit : '٣'.isDigit = false := by decide
  have hbefore : splitWords "generateTOTP" = "generate TOTP" := by decide +kernel
  have hafter : splitWords "use2FA" = "use 2 FA" := by decide +kernel
  refine ⟨hletter, hdigit, ?_⟩
  have hsplit := splitWords_append_gap "generateTOTP" "use2FA" '٣' hletter hdigit
  rw [hbefore, hafter] at hsplit
  exact hsplit

end SecurityLint.Text
