import Mathlib.Data.List.TakeWhile
import SecurityLint.Proofs.BetweenBlanks

/-!
Texts in lower case. No capital is the lower case of a character, so putting a text in lower case
again changes nothing. A capital sigma is the one character that looks at its neighbours; its
form is settled inside a text unless the search for a cased letter, on a side that matters, runs
over the end of the text. A text whose sigmas are all settled is found in lower case wherever it
stands, and one with a sigma that is not settled can be put between letters where it is not found.
-/
namespace SecurityLint

namespace Text

theorem stripEnds_eq_nil_iff (p : Char → Bool) (cs : List Char) :
    stripEnds p cs = [] ↔ ∀ c ∈ cs, p c = true := by
  rw [stripEnds, List.reverse_eq_nil_iff, List.dropWhile_eq_nil_iff]
  simp only [List.mem_reverse]
  constructor
  · intro h
    rw [← List.dropWhile_eq_nil_iff]
    by_contra hne
    obtain ⟨c, rest, hrest⟩ := List.exists_cons_of_ne_nil hne
    have hhead := List.head?_dropWhile_not p cs
    rw [hrest] at hhead h
    simp [h c List.mem_cons_self] at hhead
  · intro h c hc
    exact h c (List.dropWhile_subset p hc)

theorem trim_eq_empty_iff (s : String) : trim s = "" ↔ isBlankText s = true := by
  rw [trim, strip, String.ofList_eq_empty_iff, stripEnds_eq_nil_iff, isBlankText,
    List.all_eq_true]

section Shifts

/-- The set of some numbers, as the bits of one number. -/
def bits : List ℕ → ℕ
  | [] => 0
  | n :: rest => 1 <<< n ||| bits rest

theorem testBit_bits (numbers : List ℕ) (n : ℕ) :
    (bits numbers).testBit n = true ↔ n ∈ numbers := by
  induction numbers with
  | nil => simp [bits]
  | cons m rest ih =>
    rw [bits, Nat.testBit_or, Bool.or_eq_true, ih, List.mem_cons, Nat.one_shiftLeft,
      Nat.testBit_two_pow, decide_eq_true_iff, eq_comm]

theorem not_mem_of_bits {left right : List ℕ} (h : bits left &&& bits right = 0) {n : ℕ}
    (hright : n ∈ right) : n ∉ left := by
  intro hleft
  have hbit : (bits left &&& bits right).testBit n = true := by
    rw [Nat.testBit_and, (testBit_bits left n).mpr hleft, (testBit_bits right n).mpr hright]
    rfl
  rw [h, Nat.zero_testBit] at hbit
  cases hbit

/-- Where the code points go that a shift holds. -/
def Shift.images (s : Shift) : List ℕ :=
  s.points.map s.move

theorem Shift.Holds.mem_points {s : Shift} {c : ℕ} (h : s.Holds c) : c ∈ s.points := by
  obtain ⟨hfirst, hlast, hstep⟩ := h
  rw [points, List.mem_range']
  refine ⟨(c - s.first) / s.step, ?_, ?_⟩
  · have hle : (c - s.first) / s.step ≤ (s.last - s.first) / s.step :=
      Nat.div_le_div_right (by omega)
    omega
  · have hdiv := Nat.div_add_mod (c - s.first) s.step
    omega

theorem shiftBy_cases (shifts : List Shift) (c : ℕ) :
    shiftBy shifts c = c ∨ ∃ s ∈ shifts, s.Holds c ∧ shiftBy shifts c = s.move c := by
  induction shifts with
  | nil => exact .inl rfl
  | cons s rest ih =>
    rw [shiftBy]
    split
    · exact .inl rfl
    · split
      · next hholds => exact .inr ⟨s, List.mem_cons_self, hholds, rfl⟩
      · rcases ih with hsame | ⟨s', hs', hholds, hmove⟩
        · exact .inl hsame
        · exact .inr ⟨s', List.mem_cons_of_mem _ hs', hholds, hmove⟩

theorem shiftBy_eq_self {shifts : List Shift} {c : ℕ} (h : c ∉ shifts.flatMap Shift.points) :
    shiftBy shifts c = c := by
  rcases shiftBy_cases shifts c with hsame | ⟨s, hs, hholds, _⟩
  · exact hsame
  · exact absurd (List.mem_flatMap.mpr ⟨s, hs, hholds.mem_points⟩) h

/-- No capital is the lower case of a character: neither one that is shifted nor the dotted I. -/
theorem lowerShifts_apart :
    bits ('İ'.toNat :: lowerShifts.flatMap Shift.points) &&&
      bits (lowerShifts.flatMap Shift.images) = 0 := by
  decide +kernel

theorem lowerShifts_valid :
    (lowerShifts.flatMap Shift.images).all (fun n => decide n.isValidChar) = true := by
  decide +kernel

end Shifts

/-- A character that is its own lower-case form. -/
def IsLowered (c : Char) : Prop :=
  lowerChar c = [c]

instance (c : Char) : Decidable (IsLowered c) :=
  inferInstanceAs (Decidable (_ = _))

theorem isLowered_of_mem_lowerChar {c d : Char} (h : d ∈ lowerChar c) : IsLowered d := by
  unfold lowerChar at h
  split at h
  · have hboth : ['i', '\u0307'].all (fun d => decide (IsLowered d)) = true := by decide +kernel
    exact of_decide_eq_true (List.all_eq_true.mp hboth d h)
  · next hdotted =>
    rw [List.mem_singleton] at h
    subst h
    rcases shiftBy_cases lowerShifts c.toNat with hsame | ⟨s, hs, hholds, hmove⟩
    · rw [hsame, Char.ofNat_toNat, IsLowered, lowerChar, if_neg hdotted, hsame, Char.ofNat_toNat]
    · have himage : s.move c.toNat ∈ lowerShifts.flatMap Shift.images :=
        List.mem_flatMap.mpr ⟨s, hs, List.mem_map.mpr ⟨_, hholds.mem_points, rfl⟩⟩
      have hvalid := of_decide_eq_true (List.all_eq_true.mp lowerShifts_valid _ himage)
      have hapart := not_mem_of_bits lowerShifts_apart himage
      rw [List.mem_cons, not_or] at hapart
      have htoNat : (Char.ofNat (s.move c.toNat)).toNat = s.move c.toNat := by
        rw [Char.ofNat, dif_pos hvalid]
        rfl
      have hne : Char.ofNat (s.move c.toNat) ≠ 'İ' := by
        intro heq
        exact hapart.1 (by rw [← htoNat, heq])
      rw [hmove, IsLowered, lowerChar, if_neg hne, htoNat, shiftBy_eq_self hapart.2]

/-- All that stands in a text in lower case is in lower case. -/
theorem isLowered_of_mem_lowerFrom {before text : List Char} {d : Char}
    (h : d ∈ lowerFrom before text) : IsLowered d := by
  induction text generalizing before with
  | nil => cases h
  | cons c rest ih =>
    rw [lowerFrom, List.mem_append] at h
    rcases h with hfirst | hrest
    · split at hfirst
      · have hboth : ['ς', 'σ'].all (fun d => decide (IsLowered d)) = true := by decide +kernel
        apply of_decide_eq_true (List.all_eq_true.mp hboth d ?_)
        rw [List.mem_singleton, lowerSigma] at hfirst
        split at hfirst
        · simp [hfirst]
        · simp [hfirst]
      · exact isLowered_of_mem_lowerChar hfirst
    · exact ih hrest

theorem lowerChar_ne_nil (c : Char) : lowerChar c ≠ [] := by
  unfold lowerChar
  split <;> nofun

theorem lowerFrom_eq_nil_iff (before text : List Char) :
    lowerFrom before text = [] ↔ text = [] := by
  cases text with
  | nil => simp [lowerFrom]
  | cons c rest =>
    rw [lowerFrom, List.append_eq_nil_iff]
    constructor
    · intro h
      by_cases hsigma : c = 'Σ'
      · rw [if_pos hsigma] at h
        cases h.1
      · rw [if_neg hsigma] at h
        exact absurd h.1 (lowerChar_ne_nil c)
    · intro h
      cases h

theorem lower_eq_empty_iff (s : String) : lower s = "" ↔ s = "" := by
  rw [lower, String.ofList_eq_empty_iff, lowerFrom_eq_nil_iff, String.toList_eq_nil_iff]

section Contexts

/-- Lower case of a text between `before`, which is read backwards, and `after`. -/
def lowerBetween (before : List Char) : List Char → List Char → List Char
  | [], _ => []
  | c :: rest, after =>
    (if c = 'Σ' then [lowerSigma before (rest ++ after)] else lowerChar c) ++
      lowerBetween (c :: before) rest after

theorem lowerFrom_append_eq (before text after : List Char) :
    lowerFrom before (text ++ after) =
      lowerBetween before text after ++ lowerFrom (text.reverse ++ before) after := by
  induction text generalizing before with
  | nil => rfl
  | cons c rest ih =>
    rw [List.cons_append, lowerFrom, ih, lowerBetween, List.reverse_cons]
    simp only [List.append_assoc, List.singleton_append]

theorem lowerFrom_eq_lowerBetween (before text : List Char) :
    lowerFrom before text = lowerBetween before text [] := by
  have happend := lowerFrom_append_eq before text []
  rwa [List.append_nil, lowerFrom, List.append_nil] at happend

theorem lowerBetween_append (before left right after : List Char) :
    lowerBetween before (left ++ right) after =
      lowerBetween before left (right ++ after) ++
        lowerBetween (left.reverse ++ before) right after := by
  induction left generalizing before with
  | nil => rfl
  | cons c left ih =>
    rw [List.cons_append, lowerBetween, ih, lowerBetween, List.reverse_cons]
    simp only [List.append_assoc, List.singleton_append]

/-- What a text stands in does not change how long it is in lower case. -/
theorem length_lowerBetween (text : List Char) (before before' after after' : List Char) :
    (lowerBetween before text after).length = (lowerBetween before' text after').length := by
  induction text generalizing before before' with
  | nil => rfl
  | cons c rest ih =>
    rw [lowerBetween, lowerBetween, List.length_append, List.length_append,
      ih (c :: before) (c :: before')]
    split <;> rfl

/-- The search for a cased letter ends inside the text. -/
def StopsIn (text : List Char) : Prop :=
  ∃ c ∈ text, isCaseIgnorable c = false

theorem StopsIn.meetsCased_append {text : List Char} (h : StopsIn text) (outer : List Char) :
    meetsCased (text ++ outer) = meetsCased text := by
  obtain ⟨c, hc, hstop⟩ := h
  have hne : text.dropWhile isCaseIgnorable ≠ [] := by
    intro hnil
    have hall := List.dropWhile_eq_nil_iff.mp hnil c hc
    rw [hstop] at hall
    cases hall
  rw [meetsCased, meetsCased, List.dropWhile_append, if_neg (by simpa using hne),
    List.head?_append_of_ne_nil _ hne]

theorem meetsCased_append_of_not_stopsIn {text : List Char} (h : ¬ StopsIn text)
    (outer : List Char) : meetsCased (text ++ outer) = meetsCased outer := by
  have hall : ∀ c ∈ text, isCaseIgnorable c = true := by
    intro c hc
    by_contra hstop
    exact h ⟨c, hc, by simpa using hstop⟩
  rw [meetsCased, List.dropWhile_append_of_pos hall, meetsCased]

theorem meetsCased_eq_false_of_not_stopsIn {text : List Char} (h : ¬ StopsIn text) :
    meetsCased text = false := by
  have hnil := meetsCased_append_of_not_stopsIn h []
  rwa [List.append_nil] at hnil

theorem stopsIn_of_meetsCased {text : List Char} (h : meetsCased text = true) : StopsIn text := by
  by_contra hstop
  rw [meetsCased_eq_false_of_not_stopsIn hstop] at h
  cases h

/-- A capital sigma between `before`, which is read backwards, and `after` has a form that nothing
further out can change: a cased letter follows, or what stands before tells, and so does
what follows unless it is no matter. -/
def Settled (before after : List Char) : Prop :=
  meetsCased after = true ∨ StopsIn before ∧ (meetsCased before = true → StopsIn after)

theorem Settled.lowerSigma_append {before after : List Char} (h : Settled before after)
    (outer further : List Char) :
    lowerSigma (before ++ outer) (after ++ further) = lowerSigma before after := by
  rcases h with hafter | ⟨hbefore, hmatters⟩
  · have hfurther := (stopsIn_of_meetsCased hafter).meetsCased_append further
    simp [lowerSigma, hfurther, hafter]
  · rw [lowerSigma, lowerSigma, hbefore.meetsCased_append]
    by_cases hcased : meetsCased before = true
    · rw [(hmatters hcased).meetsCased_append]
    · simp [hcased]

/-- All capital sigmas in a text are settled. -/
def SigmasSettled (text : List Char) : Prop :=
  ∀ before after, text = before ++ 'Σ' :: after → Settled before.reverse after

theorem sigmasSettled_of_not_mem {text : List Char} (h : 'Σ' ∉ text) : SigmasSettled text := by
  intro before after htext
  exact absurd (by simp [htext]) h

theorem SigmasSettled.lowerBetween_eq {text : List Char} (h : SigmasSettled text)
    (outer further : List Char) : lowerBetween outer text further = lowerBetween [] text [] := by
  -- along the text, with what was read of it put back in front
  have hrest : ∀ rest done, text = done ++ rest →
      lowerBetween (done.reverse ++ outer) rest further = lowerBetween done.reverse rest [] := by
    intro rest
    induction rest with
    | nil =>
      intro done _
      rfl
    | cons c rest ih =>
      intro done hparts
      have hnext := ih (done ++ [c]) (by rw [hparts, List.append_assoc, List.singleton_append])
      rw [List.reverse_append, List.reverse_singleton, List.singleton_append,
        List.cons_append] at hnext
      rw [lowerBetween, lowerBetween, hnext]
      by_cases hsigma : c = 'Σ'
      · rw [if_pos hsigma, if_pos hsigma, List.append_nil]
        subst hsigma
        rw [(h done rest hparts).lowerSigma_append]
      · rw [if_neg hsigma, if_neg hsigma]
  exact hrest text [] rfl

/-- A text whose sigmas are settled is found in lower case wherever it stands. -/
theorem SigmasSettled.lowerFrom_infix {text : List Char} (h : SigmasSettled text)
    (before after : List Char) :
    lowerFrom [] text <:+: lowerFrom [] (before ++ text ++ after) := by
  rw [List.append_assoc, lowerFrom_append_eq, lowerFrom_append_eq, h.lowerBetween_eq,
    ← lowerFrom_eq_lowerBetween]
  exact ⟨_, _, by rw [List.append_assoc]⟩

/-- Where a sigma has another form, the text is another one in lower case. -/
theorem lowerBetween_ne {left right outer further : List Char}
    (h : lowerSigma (left.reverse ++ outer) (right ++ further) ≠ lowerSigma left.reverse right) :
    lowerBetween [] (left ++ 'Σ' :: right) [] ≠
      lowerBetween outer (left ++ 'Σ' :: right) further := by
  intro heq
  rw [lowerBetween_append, lowerBetween_append] at heq
  obtain ⟨_, hsame⟩ := List.append_inj heq (length_lowerBetween _ _ _ _ _)
  rw [lowerBetween, lowerBetween, if_pos rfl, if_pos rfl, List.append_nil,
    List.append_nil] at hsame
  exact h (List.cons.inj hsame).1.symm

theorem lowerFrom_sigma_ne_nil (left right : List Char) :
    lowerFrom [] (left ++ 'Σ' :: right) ≠ [] := by
  rw [ne_eq, lowerFrom_eq_nil_iff]
  simp

theorem exists_letter_ne (d : Option Char) :
    ∃ c, isCased c = true ∧ isCaseIgnorable c = false ∧ lowerChar c = [c] ∧ c ≠ 'Σ' ∧
      d ≠ some c := by
  by_cases hd : d = some 'a'
  · refine ⟨'b', by decide +kernel, by decide +kernel, by decide +kernel, by decide, ?_⟩
    simp [hd]
  · exact ⟨'a', by decide +kernel, by decide +kernel, by decide +kernel, by decide, hd⟩

theorem eq_of_infix_cons {c : Char} {found text : List Char} (h : found <:+: c :: text)
    (hlength : found.length = text.length) (hne : found ≠ []) (hhead : found.head? ≠ some c) :
    found = text := by
  rcases List.infix_cons_iff.mp h with hprefix | hinside
  · rcases List.prefix_cons_iff.mp hprefix with hnil | ⟨rest, hrest, _⟩
    · exact absurd hnil hne
    · exact absurd (by rw [hrest]; rfl) hhead
  · exact hinside.eq_of_length hlength

theorem eq_of_infix_concat {c : Char} {found text : List Char} (h : found <:+: text ++ [c])
    (hlength : found.length = text.length) (hne : found ≠ []) (hlast : found.getLast? ≠ some c) :
    found = text := by
  rcases List.infix_concat_iff.mp h with hsuffix | hinside
  · rcases List.suffix_concat_iff.mp hsuffix with hnil | ⟨rest, hrest, _⟩
    · exact absurd hnil hne
    · exact absurd (by rw [hrest]; simp) hlast
  · exact hinside.eq_of_length hlength

/-- A text in which what stands before a sigma cannot tell is not found behind some letter. -/
theorem exists_letter_before {left right : List Char} (hright : meetsCased right = false)
    (hleft : ¬ StopsIn left.reverse) :
    ∃ c, ¬ lowerFrom [] (left ++ 'Σ' :: right) <:+:
      lowerFrom [] (c :: (left ++ 'Σ' :: right)) := by
  obtain ⟨c, hcased, hignorable, hlower, hsigma, hhead⟩ :=
    exists_letter_ne (lowerFrom [] (left ++ 'Σ' :: right)).head?
  refine ⟨c, fun hinfix => ?_⟩
  have hmeets : meetsCased (left.reverse ++ [c]) = true := by
    rw [meetsCased_append_of_not_stopsIn hleft]
    simp [meetsCased, hignorable, hcased]
  have hform : lowerSigma (left.reverse ++ [c]) (right ++ []) ≠ lowerSigma left.reverse right := by
    rw [List.append_nil, lowerSigma, lowerSigma, hmeets, hright,
      meetsCased_eq_false_of_not_stopsIn hleft]
    decide
  have hbehind : lowerFrom [] (c :: (left ++ 'Σ' :: right)) =
      c :: lowerFrom [c] (left ++ 'Σ' :: right) := by
    rw [lowerFrom, if_neg hsigma, hlower, List.singleton_append]
  have hne := lowerFrom_sigma_ne_nil left right
  rw [hbehind] at hinfix
  rw [lowerFrom_eq_lowerBetween] at hinfix hne hhead
  rw [lowerFrom_eq_lowerBetween] at hinfix
  exact lowerBetween_ne hform
    (eq_of_infix_cons hinfix (length_lowerBetween _ _ _ _ _) hne hhead)

/-- A text in which what follows a sigma matters and cannot tell is not found before some
letter. -/
theorem exists_letter_after {left right : List Char} (hleft : meetsCased left.reverse = true)
    (hright : ¬ StopsIn right) :
    ∃ c, ¬ lowerFrom [] (left ++ 'Σ' :: right) <:+:
      lowerFrom [] ((left ++ 'Σ' :: right) ++ [c]) := by
  obtain ⟨c, hcased, hignorable, hlower, hsigma, hlast⟩ :=
    exists_letter_ne (lowerFrom [] (left ++ 'Σ' :: right)).getLast?
  refine ⟨c, fun hinfix => ?_⟩
  have hmeets : meetsCased (right ++ [c]) = true := by
    rw [meetsCased_append_of_not_stopsIn hright]
    simp [meetsCased, hignorable, hcased]
  have hform : lowerSigma (left.reverse ++ []) (right ++ [c]) ≠ lowerSigma left.reverse right := by
    rw [List.append_nil, lowerSigma, lowerSigma, hmeets, hleft,
      meetsCased_eq_false_of_not_stopsIn hright]
    decide
  have hbefore : lowerFrom [] ((left ++ 'Σ' :: right) ++ [c]) =
      lowerBetween [] (left ++ 'Σ' :: right) [c] ++ [c] := by
    rw [lowerFrom_append_eq, lowerFrom, if_neg hsigma, hlower, lowerFrom, List.append_nil]
  have hne := lowerFrom_sigma_ne_nil left right
  rw [hbefore] at hinfix
  rw [lowerFrom_eq_lowerBetween] at hinfix hne hlast
  exact lowerBetween_ne hform
    (eq_of_infix_concat hinfix (length_lowerBetween _ _ _ _ _) hne hlast)

/-- A text is found in lower case wherever it stands exactly if its sigmas are settled. -/
theorem sigmasSettled_iff (text : List Char) :
    SigmasSettled text ↔
      ∀ before after, lowerFrom [] text <:+: lowerFrom [] (before ++ text ++ after) := by
  constructor
  · intro h before after
    exact h.lowerFrom_infix before after
  · intro h before after htext
    subst htext
    by_contra hopen
    rw [Settled, not_or, Bool.not_eq_true, not_and] at hopen
    obtain ⟨hafter, hbefore⟩ := hopen
    by_cases hstops : StopsIn before.reverse
    · obtain ⟨hcased, hends⟩ := Classical.not_imp.mp (hbefore hstops)
      obtain ⟨c, hc⟩ := exists_letter_after hcased hends
      exact hc (h [] [c])
    · obtain ⟨c, hc⟩ := exists_letter_before hafter hstops
      have hbehind := h [c] []
      rw [List.append_nil] at hbehind
      exact hc hbehind

end Contexts

end Text

/-- The words of a list are the given words that are not blank, trimmed and in lower case. -/
theorem Keywords.mem_words_ofList_iff (words : List String) (word : String) :
    word ∈ (ofList words).words ↔
      ∃ w ∈ words, Text.isBlankText w = false ∧ Text.lower (Text.trim w) = word := by
  have hkept (w : String) :
      (Text.lower (Text.trim w)).isEmpty = false ↔ Text.isBlankText w = false := by
    rw [← Bool.not_eq_true, ← Bool.not_eq_true, String.isEmpty_iff, Text.lower_eq_empty_iff,
      Text.trim_eq_empty_iff]
  simp only [ofList, List.mem_filter, List.mem_map, Bool.not_eq_true']
  constructor
  · intro h
    obtain ⟨⟨w, hw, rfl⟩, hne⟩ := h
    exact ⟨w, hw, (hkept w).mp hne, rfl⟩
  · intro h
    obtain ⟨w, hw, hblank, rfl⟩ := h
    exact ⟨⟨w, hw, rfl⟩, (hkept w).mpr hblank⟩

end SecurityLint
