import SecurityLint.Proofs.BetweenBlanks
import SecurityLint.Proofs.EmbeddedMatches

/-!
Identifier words are set apart by blanks and by nothing else. A text in which no word begins is left
as it is, and what splitting gives is such a text, so splitting it again changes nothing. No letter
is lost or added. All pairs of neighbours that the rules name are taken apart but one: a letter that
is no capital stays directly behind a digit, as in `2fa`.
-/
namespace SecurityLint

namespace Text

/-- No word begins inside a text that follows `prev?`, and no separator is left in it. -/
inductive IsSplit : Option Char → List Char → Prop
  | nil (prev? : Option Char) : IsSplit prev? []
  | cons {prev? : Option Char} {c : Char} {rest : List Char} (hkept : isSeparator c = false)
      (hinside : prev?.any (beginsWord · c rest.head?) = false) (hrest : IsSplit (some c) rest) :
      IsSplit prev? (c :: rest)

/-- What is written for a character. -/
def written (prev? : Option Char) (c : Char) (next? : Option Char) : List Char :=
  if isSeparator c then [' ']
  else if prev?.any (beginsWord · c next?) then [' ', c]
  else [c]

variable {prev? before? next? : Option Char} {a b c : Char} {text : List Char}

theorem splitAfter_cons (prev? : Option Char) (c : Char) (rest : List Char) :
    splitAfter prev? (c :: rest) = written prev? c rest.head? ++ splitAfter (some c) rest := by
  rw [splitAfter, written]
  split
  · rfl
  · split <;> rfl

theorem isGap_of_isSeparator (h : isSeparator c = true) : IsGap c := by
  rw [isSeparator, Bool.or_eq_true, beq_iff_eq, beq_iff_eq] at h
  rcases h with rfl | rfl
  · exact ⟨by decide +kernel, by decide +kernel, by decide +kernel, by decide⟩
  · exact ⟨by decide +kernel, by decide +kernel, by decide +kernel, by decide⟩

theorem isSeparator_blank : isSeparator ' ' = false := by
  decide

section Fixed

theorem IsSplit.splitAfter_eq (h : IsSplit prev? text) : splitAfter prev? text = text := by
  induction h with
  | nil => rfl
  | cons hkept hinside _ ih =>
    rw [splitAfter_cons, written, hkept, hinside, ih]
    rfl

theorem head?_splitAfter (prev? : Option Char) (text : List Char) :
    (splitAfter prev? text).head? = some ' ' ∨ (splitAfter prev? text).head? = text.head? := by
  cases text with
  | nil => exact .inr rfl
  | cons c rest =>
    rw [splitAfter_cons, written]
    split
    · exact .inl rfl
    · split
      · exact .inl rfl
      · exact .inr rfl

/-- A word that begins at the end of a text begins there whatever follows. -/
theorem beginsWord_of_none (h : beginsWord a c none = true) (next? : Option Char) :
    beginsWord a c next? = true := by
  simp only [beginsWord, Option.any_none, Bool.and_false, Bool.or_false, Bool.or_eq_true,
    Bool.and_eq_true] at h ⊢
  rcases h with ⟨hcapital, hsmall⟩ | hnumber
  · exact .inl ⟨hcapital, .inl hsmall⟩
  · exact .inr hnumber

/-- Where no word begins, none begins once the rest of the text is split: what follows is the same
or a blank. -/
theorem beginsWord_splitAfter (h : beginsWord a c text.head? = false) :
    beginsWord a c (splitAfter (some c) text).head? = false := by
  rcases head?_splitAfter (some c) text with hblank | hsame
  · rw [hblank, isGap_blank.beginsWord_right, ← Bool.not_eq_true]
    intro hnone
    rw [beginsWord_of_none hnone] at h
    cases h
  · rwa [hsame]

theorem any_beginsWord_blank (prev? next? : Option Char) :
    prev?.any (beginsWord · ' ' next?) = false := by
  cases prev? with
  | none => rfl
  | some prev => exact isGap_blank.beginsWord_self prev next?

/-- No word begins inside of what a text is split into, be it read behind the same character as the
text or behind a blank. -/
theorem isSplit_splitAfter (h : before? = prev? ∨ before? = some ' ') (text : List Char) :
    IsSplit before? (splitAfter prev? text) := by
  induction text generalizing before? prev? with
  | nil => exact .nil before?
  | cons c rest ih =>
    rw [splitAfter]
    by_cases hseparator : isSeparator c = true
    · rw [if_pos hseparator]
      exact .cons isSeparator_blank (any_beginsWord_blank _ _) (ih (.inr rfl))
    · rw [if_neg hseparator]
      rw [Bool.not_eq_true] at hseparator
      by_cases hbegins : prev?.any (beginsWord · c rest.head?) = true
      · rw [if_pos hbegins]
        refine .cons isSeparator_blank (any_beginsWord_blank _ _) ?_
        exact .cons hseparator (isGap_blank.beginsWord_left c _) (ih (.inl rfl))
      · rw [if_neg hbegins]
        refine .cons hseparator ?_ (ih (.inl rfl))
        rcases h with rfl | rfl
        · cases before? with
          | none => rfl
          | some prev => exact beginsWord_splitAfter (by simpa using hbegins)
        · exact isGap_blank.beginsWord_left c _

end Fixed

section Letters

theorem filter_written (prev? : Option Char) (c : Char) (next? : Option Char) :
    (written prev? c next?).filter (· ≠ ' ') =
      [c].filter fun c => c ≠ ' ' ∧ c ≠ '_' ∧ c ≠ '-' := by
  have hseparator : isSeparator c = false ↔ c ≠ '_' ∧ c ≠ '-' := by
    simp [isSeparator]
  rw [written]
  by_cases h : isSeparator c = true
  · rw [if_pos h]
    simp [← hseparator, h]
  · rw [if_neg h]
    rw [Bool.not_eq_true] at h
    split <;> simp [← hseparator, h, List.filter_cons]

theorem filter_splitAfter (prev? : Option Char) (text : List Char) :
    (splitAfter prev? text).filter (· ≠ ' ') =
      text.filter fun c => c ≠ ' ' ∧ c ≠ '_' ∧ c ≠ '-' := by
  induction text generalizing prev? with
  | nil => rfl
  | cons c rest ih =>
    rw [splitAfter_cons, List.filter_append, filter_written, ih, ← List.filter_append,
      List.singleton_append]

/-- Splitting a text loses nothing and adds nothing but blanks, and splitting it again changes
nothing. -/
theorem splitWords_keeps_letters (text : String) :
    (splitWords text).toList.filter (· ≠ ' ') =
        text.toList.filter (fun c => c ≠ ' ' ∧ c ≠ '_' ∧ c ≠ '-') ∧
      splitWords (splitWords text) = splitWords text := by
  have hsplit : IsSplit none (splitAfter none text.toList) :=
    isSplit_splitAfter (.inl rfl) text.toList
  refine ⟨?_, ?_⟩
  · rw [splitWords, String.toList_ofList, filter_splitAfter]
  · rw [splitWords, splitWords, String.toList_ofList, hsplit.splitAfter_eq]

end Letters

section Neighbours

theorem pair_infix_cons_iff (a b c : Char) (rest : List Char) :
    [a, b] <:+: c :: rest ↔ (a = c ∧ rest.head? = some b) ∨ [a, b] <:+: rest := by
  rw [List.infix_cons_iff, List.cons_prefix_cons]
  cases rest with
  | nil => simp
  | cons d rest => simp [List.cons_prefix_cons, eq_comm]

theorem IsSplit.exists_not_beginsWord (h : IsSplit prev? text) (hpair : [a, b] <:+: text) :
    ∃ next?, beginsWord a b next? = false := by
  induction h with
  | nil => simp at hpair
  | cons _ _ hrest ih =>
    rcases (pair_infix_cons_iff _ _ _ _).mp hpair with ⟨rfl, hhead⟩ | hlater
    · cases hrest with
      | nil => cases hhead
      | cons _ hinside _ =>
        obtain rfl := Option.some.inj hhead
        exact ⟨_, hinside⟩
    · exact ih hlater

theorem IsSplit.isSeparator_eq_false (h : IsSplit prev? text) (hc : c ∈ text) :
    isSeparator c = false := by
  induction h with
  | nil => cases hc
  | cons hkept _ _ ih =>
    rcases List.mem_cons.mp hc with rfl | hlater
    · exact hkept
    · exact ih hlater

/-- Neighbours in the words are neighbours in the text, blanks apart. -/
theorem pair_infix_of_splitAfter (ha : a ≠ ' ') (hb : b ≠ ' ')
    (h : [a, b] <:+: splitAfter prev? text) : [a, b] <:+: text := by
  induction text generalizing prev? with
  | nil => exact h
  | cons c rest ih =>
    rw [pair_infix_cons_iff]
    have hfirst (h : [a, b] <:+: c :: splitAfter (some c) rest) :
        a = c ∧ rest.head? = some b ∨ [a, b] <:+: rest := by
      rcases (pair_infix_cons_iff _ _ _ _).mp h with ⟨hac, hhead⟩ | hlater
      · rcases head?_splitAfter (some c) rest with hblank | hsame
        · exact absurd (Option.some.inj (hhead.symm.trans hblank)) hb
        · exact .inl ⟨hac, hsame ▸ hhead⟩
      · exact .inr (ih hlater)
    rw [splitAfter] at h
    split at h
    · rcases (pair_infix_cons_iff _ _ _ _).mp h with ⟨hblank, _⟩ | hlater
      · exact absurd hblank ha
      · exact .inr (ih hlater)
    · split at h
      · rcases (pair_infix_cons_iff _ _ _ _).mp h with ⟨hblank, _⟩ | hlater
        · exact absurd hblank ha
        · exact hfirst hlater
      · exact hfirst h

theorem exists_written_eq (hc : isSeparator c = false) (prev? next? : Option Char) :
    ∃ lead, written prev? c next? = lead ++ [c] := by
  rw [written, hc]
  split
  · next hfalse => cases hfalse
  · split
    · exact ⟨[' '], rfl⟩
    · exact ⟨[], rfl⟩

/-- Neighbours of which the second never begins a word stay neighbours. -/
theorem pair_infix_splitAfter (ha : isSeparator a = false) (hb : isSeparator b = false)
    (hinside : ∀ next?, beginsWord a b next? = false) (h : [a, b] <:+: text) :
    [a, b] <:+: splitAfter prev? text := by
  induction text generalizing prev? with
  | nil => exact h
  | cons c rest ih =>
    rw [splitAfter_cons]
    rcases (pair_infix_cons_iff _ _ _ _).mp h with ⟨rfl, hhead⟩ | hlater
    · obtain ⟨lead, hlead⟩ := exists_written_eq ha prev? rest.head?
      cases rest with
      | nil => cases hhead
      | cons d rest =>
        obtain rfl := Option.some.inj hhead
        have hkept : written (some a) d rest.head? = [d] := by simp [written, hb, hinside]
        rw [hlead, splitAfter_cons, hkept]
        exact ⟨lead, splitAfter (some d) rest, by simp⟩
    · exact (ih hlater).trans (List.suffix_append _ _).isInfix

theorem classes_digit (h : a.isDigit = true) :
    isAlphabetic a = false ∧ isSeparator a = false ∧ a ≠ ' ' := by
  have hascii : a.toNat < 128 := by
    rw [Char.isDigit, Bool.and_eq_true] at h
    have hle : a.val ≤ '9'.val := of_decide_eq_true h.2
    exact Nat.lt_of_le_of_lt (UInt32.le_iff_toNat_le.mp hle) (by decide)
  exact forall_ascii (P := fun a => a.isDigit = true →
    isAlphabetic a = false ∧ isSeparator a = false ∧ a ≠ ' ') (by decide +kernel) a hascii h

theorem not_isGap_alphabetic (h : isAlphabetic b = true) : isSeparator b = false ∧ b ≠ ' ' := by
  refine ⟨?_, ?_⟩
  · rw [← Bool.not_eq_true]
    intro hseparator
    rw [(isGap_of_isSeparator hseparator).not_alphabetic] at h
    cases h
  · rintro rfl
    rw [isGap_blank.not_alphabetic] at h
    cases h

theorem beginsWord_digit_letter (ha : a.isDigit = true) (next? : Option Char) :
    beginsWord a b next? = isUppercase b := by
  simp [beginsWord, ha, (classes_digit ha).1]

/-- A letter stays directly behind a digit exactly if it is no capital. -/
theorem digit_letter_infix_iff (ha : a.isDigit = true) (hb : isAlphabetic b = true) :
    [a, b] <:+: splitAfter prev? text ↔ [a, b] <:+: text ∧ isUppercase b = false := by
  obtain ⟨_, hkept, hblank⟩ := classes_digit ha
  obtain ⟨hkept', hblank'⟩ := not_isGap_alphabetic hb
  constructor
  · intro h
    obtain ⟨next?, hnext⟩ := (isSplit_splitAfter (.inl rfl) text).exists_not_beginsWord h
    rw [beginsWord_digit_letter ha] at hnext
    exact ⟨pair_infix_of_splitAfter hblank hblank' h, hnext⟩
  · rintro ⟨h, hsmall⟩
    exact pair_infix_splitAfter hkept hkept'
      (fun next? => (beginsWord_digit_letter ha next?).trans hsmall) h

end Neighbours

section Starts

/-- A word begins at the second of two neighbours, before `next?`: in camel case at a capital behind
a small letter and at the last of several capitals, behind a separator, and where a number begins
or a capital stands behind one. -/
inductive WordStart (next? : Option Char) (a b : Char) : Prop
  | hump (ha : isLowercase a = true) (hb : isUppercase b = true)
  | lastCapital (ha : isUppercase a = true) (hb : isUppercase b = true)
      (hnext : next?.any isLowercase = true)
  | separated (ha : isSeparator a = true) (hb : isSeparator b = false)
  | number (ha : isAlphabetic a = true) (hb : b.isDigit = true)
  | behindNumber (ha : a.isDigit = true) (hb : isUppercase b = true)

theorem isSeparator_eq_false_of_beginsWord (h : beginsWord a b next? = true) :
    isSeparator a = false ∧ isSeparator b = false := by
  refine ⟨?_, ?_⟩
  · rw [← Bool.not_eq_true]
    intro hseparator
    rw [(isGap_of_isSeparator hseparator).beginsWord_left] at h
    cases h
  · rw [← Bool.not_eq_true]
    intro hseparator
    rw [(isGap_of_isSeparator hseparator).beginsWord_self] at h
    cases h

theorem wordStart_iff (next? : Option Char) (a b : Char) :
    WordStart next? a b ↔
      (isSeparator a = true ∧ isSeparator b = false) ∨ beginsWord a b next? = true := by
  simp only [beginsWord, Bool.or_eq_true, Bool.and_eq_true]
  constructor
  · intro h
    cases h with
    | hump ha hb => exact .inr (.inl ⟨hb, .inl (.inl ha)⟩)
    | lastCapital ha hb hnext => exact .inr (.inl ⟨hb, .inr ⟨ha, hnext⟩⟩)
    | separated ha hb => exact .inl ⟨ha, hb⟩
    | number ha hb => exact .inr (.inr ⟨hb, ha⟩)
    | behindNumber ha hb => exact .inr (.inl ⟨hb, .inl (.inr ha)⟩)
  · rintro (⟨ha, hb⟩ | ⟨hb, (ha | ha) | ⟨ha, hnext⟩⟩ | ⟨hb, ha⟩)
    · exact .separated ha hb
    · exact .hump ha hb
    · exact .behindNumber ha hb
    · exact .lastCapital ha hb hnext
    · exact .number ha hb

/-- A blank is written before the character at which a word begins, right behind what was written
for the text up to there. -/
theorem splitAfter_at_start {after : List Char} (h : WordStart after.head? a b)
    (prev? : Option Char) (before : List Char) :
    ∃ read rest, splitAfter prev? (before ++ a :: b :: after) = read ++ ' ' :: b :: rest ∧
      read.filter (· ≠ ' ') = (before ++ [a]).filter fun c => c ≠ ' ' ∧ c ≠ '_' ∧ c ≠ '-' := by
  induction before generalizing prev? with
  | nil =>
    rw [List.nil_append, List.nil_append, splitAfter_cons, splitAfter_cons,
      ← filter_written prev? a (some b)]
    rcases (wordStart_iff _ a b).mp h with ⟨ha, hb⟩ | hbegins
    · have hbehind := (isGap_of_isSeparator ha).beginsWord_left b after.head?
      refine ⟨[], splitAfter (some b) after, ?_, by simp [written, ha]⟩
      simp [written, ha, hb, hbehind]
    · obtain ⟨_, hb⟩ := isSeparator_eq_false_of_beginsWord hbegins
      have hnext : written (some a) b after.head? = [' ', b] := by simp [written, hb, hbegins]
      refine ⟨written prev? a (some b), splitAfter (some b) after, ?_, rfl⟩
      rw [hnext]
      rfl
  | cons c before ih =>
    obtain ⟨read, rest, hread, hletters⟩ := ih (some c)
    rw [List.cons_append, splitAfter_cons, hread]
    refine ⟨written prev? c (before ++ a :: b :: after).head? ++ read, rest, by simp, ?_⟩
    rw [List.filter_append, filter_written, hletters, ← List.filter_append]
    rfl

/-- Behind a blank, a pattern finds the boundary of a word before every character of words. -/
theorem holds_boundary_blank (unicode : Bool) (b : Char) :
    (Pattern.Look.word unicode .boundary).holds (some ' ') (some b) =
      (Pattern.Class.word unicode).contains b := by
  simp [Pattern.Look.holds, Pattern.WordPlace.holds, Pattern.Class.word_contains_blank]

end Starts

/-- No separator is left in the words, no capital stands directly behind a small letter, and no
number directly behind a letter. -/
structure HumpsApart (words : List Char) : Prop where
  no_separator : '_' ∉ words ∧ '-' ∉ words
  hump : ∀ a b, [a, b] <:+: words → isLowercase a = true → isUppercase b = false
  number : ∀ a b, [a, b] <:+: words → isAlphabetic a = true → b.isDigit = false

/-- The words as they should be set apart: no letter stands directly behind a number either. -/
structure WordsApart (words : List Char) : Prop extends HumpsApart words where
  behind_number : ∀ a b, [a, b] <:+: words → a.isDigit = true → isAlphabetic b = false

/-- How the words of a text are set apart. A letter behind a number stays there if it is no capital.
Where a word begins by the rules, a blank stands before it, at which a pattern finds the
boundary of the word. -/
structure SetsApart (text words : List Char) : Prop extends HumpsApart words where
  behind_number : ∀ a b, a.isDigit = true → isAlphabetic b = true →
    ([a, b] <:+: words ↔ [a, b] <:+: text ∧ isUppercase b = false)
  start : ∀ before a b after, text = before ++ a :: b :: after → WordStart after.head? a b →
    ∃ read rest, words = read ++ ' ' :: b :: rest ∧
      read.filter (· ≠ ' ') = (before ++ [a]).filter (fun c => c ≠ ' ' ∧ c ≠ '_' ∧ c ≠ '-') ∧
      ∀ unicode, (Pattern.Look.word unicode .boundary).holds (some ' ') (some b) =
        (Pattern.Class.word unicode).contains b

theorem setsApart_splitAfter (text : List Char) : SetsApart text (splitAfter none text) := by
  have hsplit : IsSplit none (splitAfter none text) := isSplit_splitAfter (.inl rfl) text
  refine {
    no_separator := ⟨?_, ?_⟩
    hump := ?_
    number := ?_
    behind_number := fun a b ha hb => digit_letter_infix_iff ha hb
    start := ?_ }
  · intro hmem
    cases hsplit.isSeparator_eq_false hmem
  · intro hmem
    cases hsplit.isSeparator_eq_false hmem
  · intro a b hpair ha
    obtain ⟨next?, hnext⟩ := hsplit.exists_not_beginsWord hpair
    simp only [beginsWord, ha, Bool.true_or, Bool.and_true, Bool.or_eq_false_iff] at hnext
    exact hnext.1
  · intro a b hpair ha
    obtain ⟨next?, hnext⟩ := hsplit.exists_not_beginsWord hpair
    simp only [beginsWord, ha, Bool.and_true, Bool.or_eq_false_iff] at hnext
    exact hnext.2
  · rintro before a b after rfl hstart
    obtain ⟨read, rest, hwords, hletters⟩ := splitAfter_at_start hstart none before
    exact ⟨read, rest, hwords, hletters, fun unicode => holds_boundary_blank unicode b⟩

/-- The words of every text are set apart up to letters behind digits. They are set apart altogether
exactly if each letter that stands directly behind a digit in the text is a capital. -/
theorem wordsApart_splitWords_iff (text : String) :
    SetsApart text.toList (splitWords text).toList ∧
      (WordsApart (splitWords text).toList ↔
        ∀ a b, [a, b] <:+: text.toList → a.isDigit = true → isAlphabetic b = true →
          isUppercase b = true) := by
  rw [splitWords, String.toList_ofList]
  have hsets := setsApart_splitAfter text.toList
  refine ⟨hsets, ?_, ?_⟩
  · intro h a b hpair ha hb
    rw [← Bool.not_eq_false]
    intro hsmall
    have hkept := (hsets.behind_number a b ha hb).mpr ⟨hpair, hsmall⟩
    rw [h.behind_number a b hkept ha] at hb
    cases hb
  · intro h
    refine { hsets.toHumpsApart with behind_number := ?_ }
    intro a b hpair ha
    rw [← Bool.not_eq_true]
    intro hb
    obtain ⟨htext, hsmall⟩ := (hsets.behind_number a b ha hb).mp hpair
    rw [h a b htext ha hb] at hsmall
    cases hsmall

/-- A small letter is left at its number. -/
theorem small_letter_not_apart : ¬ WordsApart (splitWords "use2fa").toList := by
  intro h
  have hkept : ['2', 'f'] <:+: (splitWords "use2fa").toList :=
    ⟨"use ".toList, ['a'], by decide +kernel⟩
  have hletter : isAlphabetic 'f' = true := by decide +kernel
  rw [h.behind_number '2' 'f' hkept rfl] at hletter
  cases hletter

end Text

end SecurityLint
