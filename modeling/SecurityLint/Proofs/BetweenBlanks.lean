import Mathlib.Data.List.Infix
import SecurityLint.Keywords
import SecurityLint.Text.IdentifierWords

/-!
Texts between blanks. A character that is no letter and no digit keeps the words on its two sides
apart, and one that has no case and is not passed over in the search for one keeps their cases
apart. Blanks do both, so splitting a text into words and putting it in lower case give the same
between blanks as alone, and a keyword in a text is found in whatever the text stands in.
-/
namespace SecurityLint

namespace Text

/-- A character at which no word can begin, and behind which none does. -/
structure IsGap (g : Char) : Prop where
  not_uppercase : isUppercase g = false
  not_lowercase : isLowercase g = false
  not_alphabetic : isAlphabetic g = false
  not_digit : g.isDigit = false

theorem isGap_blank : IsGap ' ' where
  not_uppercase := by decide +kernel
  not_lowercase := by decide +kernel
  not_alphabetic := by decide +kernel
  not_digit := by decide

section Words

variable {g : Char}

theorem IsGap.beginsWord_left (h : IsGap g) (c : Char) (next? : Option Char) :
    beginsWord g c next? = false := by
  simp [beginsWord, h.not_uppercase, h.not_lowercase, h.not_alphabetic, h.not_digit]

theorem IsGap.beginsWord_self (h : IsGap g) (prev : Char) (next? : Option Char) :
    beginsWord prev g next? = false := by
  simp [beginsWord, h.not_uppercase, h.not_digit]

theorem IsGap.beginsWord_right (h : IsGap g) (prev c : Char) :
    beginsWord prev c (some g) = beginsWord prev c none := by
  simp [beginsWord, h.not_lowercase]

/-- Words are split behind a gap as at the beginning of a text. -/
theorem IsGap.splitAfter_some (h : IsGap g) (text : List Char) :
    splitAfter (some g) text = splitAfter none text := by
  cases text with
  | nil => rfl
  | cons c rest => simp [splitAfter, h.beginsWord_left]

theorem IsGap.splitAfter_append (h : IsGap g) (prev? : Option Char) (before after : List Char) :
    splitAfter prev? (before ++ g :: after) =
      splitAfter prev? before ++ (if isSeparator g then ' ' else g) :: splitAfter none after := by
  induction before generalizing prev? with
  | nil =>
    have hword : prev?.any (beginsWord · g after.head?) = false := by
      cases prev? with
      | none => rfl
      | some prev => exact h.beginsWord_self prev _
    simp only [List.nil_append, splitAfter, hword, h.splitAfter_some]
    split <;> rfl
  | cons c before ih =>
    have hnext (prev : Char) :
        beginsWord prev c (before ++ g :: after).head? = beginsWord prev c before.head? := by
      cases before with
      | nil => exact h.beginsWord_right prev c
      | cons d before => rfl
    simp only [List.cons_append, splitAfter, hnext, ih]
    split
    · rfl
    · split <;> rfl

theorem splitWords_append_blank (before after : String) :
    splitWords (before ++ " " ++ after) = splitWords before ++ " " ++ splitWords after := by
  have hsplit := isGap_blank.splitAfter_append none before.toList after.toList
  apply String.toList_injective
  simpa [splitWords] using hsplit

end Words

section Case

variable {g : Char} (hcased : isCased g = false) (hignorable : isCaseIgnorable g = false)

include hcased hignorable

theorem meetsCased_append (text after : List Char) :
    meetsCased (text ++ g :: after) = meetsCased text := by
  rw [meetsCased, meetsCased, List.dropWhile_append]
  split
  · next hall =>
    rw [List.dropWhile_cons_of_neg (by simp [hignorable]), List.isEmpty_iff.mp hall]
    simp [hcased]
  · next hrest =>
    rw [List.head?_append_of_ne_nil]
    simpa using hrest

theorem lowerFrom_behind (before outer text : List Char) :
    lowerFrom (before ++ g :: outer) text = lowerFrom before text := by
  induction text generalizing before with
  | nil => rfl
  | cons c rest ih =>
    rw [lowerFrom, lowerFrom, lowerSigma, lowerSigma, meetsCased_append hcased hignorable,
      ← List.cons_append, ih]

theorem lowerFrom_append (hsigma : g ≠ 'Σ') (before text after : List Char) :
    lowerFrom before (text ++ g :: after) =
      lowerFrom before text ++ lowerChar g ++ lowerFrom [] after := by
  induction text generalizing before with
  | nil =>
    have hbehind := lowerFrom_behind hcased hignorable [] before after
    simp only [List.nil_append] at hbehind
    simp only [List.nil_append, lowerFrom, if_neg hsigma, hbehind]
  | cons c text ih =>
    rw [List.cons_append, lowerFrom, lowerFrom, lowerSigma, lowerSigma,
      meetsCased_append hcased hignorable, ih]
    simp only [List.append_assoc]

end Case

theorem lower_append_blank (before after : String) :
    lower (before ++ " " ++ after) = lower before ++ " " ++ lower after := by
  have hlower := lowerFrom_append (g := ' ') (by decide +kernel) (by decide +kernel)
    (by decide) [] before.toList after.toList
  have hblank : lowerChar ' ' = [' '] := by decide +kernel
  apply String.toList_injective
  simpa [lower, hblank] using hlower

theorem occursIn_iff (word text : List Char) : occursIn word text = true ↔ word <:+: text := by
  induction text with
  | nil => simp [occursIn]
  | cons c text ih =>
    rw [occursIn, Bool.or_eq_true, ih, List.infix_cons_iff, List.isPrefixOf_iff_prefix]

theorem contains_append {text word : String} (h : contains text word = true)
    (before after : String) : contains (before ++ text ++ after) word = true := by
  rw [contains, occursIn_iff] at h ⊢
  rw [String.toList_append, String.toList_append]
  exact h.trans (List.infix_append _ _ _)

end Text

theorem Keywords.occursIn_iff (k : Keywords) (text : String) :
    k.occursIn text = true ↔
      text ≠ "" ∧ ∃ word ∈ k.words, Text.contains (Text.lower text) word = true := by
  unfold occursIn findIn?
  split
  · next hempty => simp_all
  · next hne => simp_all [List.find?_isSome]

/-- A keyword in a text is found in whatever the text stands in between blanks. -/
theorem Keywords.occursIn_between {k : Keywords} {text : String} (h : k.occursIn text = true)
    (before after : String) : k.occursIn (before ++ " " ++ text ++ " " ++ after) = true := by
  obtain ⟨_, word, hword, hcontains⟩ := (k.occursIn_iff text).mp h
  refine (k.occursIn_iff _).mpr ⟨?_, word, hword, ?_⟩
  · intro hempty
    have hlist := congrArg String.toList hempty
    simp at hlist
  · have hlower : Text.lower (before ++ " " ++ text ++ " " ++ after) =
        (Text.lower before ++ " ") ++ Text.lower text ++ (" " ++ Text.lower after) := by
      rw [Text.lower_append_blank, Text.lower_append_blank]
      simp only [String.append_assoc]
    rw [hlower]
    exact Text.contains_append hcontains _ _

end SecurityLint
