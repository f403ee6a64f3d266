import Mathlib.Data.List.Basic
import Mathlib.Logic.Function.Iterate
import SecurityLint.NamePattern

/-!
Matches in a text that stands in another one. A pattern that never looks for the end of a text or
a line reads a text between characters of no word as it reads the text alone: what stands around
it can add matches, but takes none away. The proof follows the marks of the gaps. Those of the
text are carried over to the gaps of the whole, and each part of the pattern keeps them so.
-/
namespace SecurityLint.Pattern

namespace Regex

/-- Induction over an expression and the expressions in its lists. -/
@[elab_as_elim]
theorem inductionOn {motive : Regex → Prop} (r : Regex) (empty : motive .empty)
    (literal : ∀ text, motive (.literal text)) (set : ∀ unicode s, motive (.set unicode s))
    (look : ∀ l, motive (.look l)) (capture : ∀ index r, motive r → motive (.capture index r))
    (repeats : ∀ least most isLazy r, motive r → motive (.repeats least most isLazy r))
    (sequence : ∀ rs, (∀ r ∈ rs, motive r) → motive (.sequence rs))
    (choice : ∀ rs, (∀ r ∈ rs, motive r) → motive (.choice rs)) : motive r :=
  @Regex.rec motive (fun rs => ∀ r ∈ rs, motive r) empty literal set look capture repeats sequence
    choice (by simp) (fun _ _ hr hrs => List.forall_mem_cons.mpr ⟨hr, hrs⟩) r

mutual

/-- Whether an expression looks at its neighbours for words only, and so not for the ends of a text
or a line. -/
def edgeFree : Regex → Bool
  | look (.word _ _) => true
  | look _ => false
  | capture _ r => edgeFree r
  | repeats _ _ _ r => edgeFree r
  | sequence rs => allEdgeFree rs
  | choice rs => allEdgeFree rs
  | _ => true

def allEdgeFree : List Regex → Bool
  | [] => true
  | r :: rs => edgeFree r && allEdgeFree rs

end

theorem allEdgeFree_iff (rs : List Regex) :
    allEdgeFree rs = true ↔ ∀ r ∈ rs, r.edgeFree = true := by
  induction rs with
  | nil => simp [allEdgeFree]
  | cons r rs ih => rw [allEdgeFree, Bool.and_eq_true, ih, List.forall_mem_cons]

end Regex

namespace Marks

/-- The gap behind `i` characters is marked. -/
def At (m : Marks) (i : ℕ) : Prop :=
  m[i]? = some true

variable {m m' : Marks} {text : List Char} {p : Char → Bool} {i : ℕ}

theorem not_at_step_zero : ¬ (m.step text p).At 0 := by
  simp [At, step]

theorem at_step_succ_iff :
    (m.step text p).At (i + 1) ↔ m.At i ∧ ∃ c, text[i]? = some c ∧ p c = true := by
  simp only [At, step, List.getElem?_cons_succ, List.getElem?_zipWith_eq_some, Bool.and_eq_true]
  constructor
  · rintro ⟨_, c, hm, hc, rfl, hp⟩
    exact ⟨hm, c, hc, hp⟩
  · rintro ⟨hm, c, hc, hp⟩
    exact ⟨true, c, hm, hc, rfl, hp⟩

theorem length_step (h : m.length = text.length + 1) :
    (m.step text p).length = text.length + 1 := by
  simp [step, h]

theorem at_or_iff (h : m.length = m'.length) :
    At (List.zipWith (· || ·) m m') i ↔ m.At i ∨ m'.At i := by
  simp only [At, List.getElem?_zipWith_eq_some, Bool.or_eq_true]
  constructor
  · rintro ⟨a, b, ha, hb, rfl | rfl⟩
    · exact .inl ha
    · exact .inr hb
  · rintro (ha | hb)
    · have hlt := (List.getElem?_eq_some_iff.mp ha).1
      exact ⟨true, _, ha, List.getElem?_eq_getElem (h ▸ hlt), .inl rfl⟩
    · have hlt := (List.getElem?_eq_some_iff.mp hb).1
      exact ⟨_, true, List.getElem?_eq_getElem (h ▸ hlt), hb, .inr rfl⟩

theorem any_iff : m.any id = true ↔ ∃ i, m.At i := by
  rw [List.any_eq_true]
  constructor
  · rintro ⟨_, hmem, rfl⟩
    exact List.getElem?_of_mem hmem
  · rintro ⟨i, hi⟩
    exact ⟨true, List.mem_of_getElem? hi, rfl⟩

end Marks

theorem iterate_eq (f : Marks → Marks) (n : ℕ) (m : Marks) : iterate f n m = f^[n] m := by
  induction n generalizing m with
  | zero => rfl
  | succ n ih =>
    rw [iterate, Function.iterate_succ_apply]
    split
    · next hsame =>
      rw [beq_iff_eq] at hsame
      rw [hsame, Function.iterate_fixed hsame]
    · exact ih _

/-- The text stands in another one behind `n` characters, and what is next to it there belongs to no
word. -/
structure Embedded (n : ℕ) (text whole : List Char) : Prop where
  inside : ∀ i < text.length, whole[n + i]? = text[i]?
  length_le : n + text.length ≤ whole.length
  before : ∀ c, 0 < n → whole[n - 1]? = some c → ∀ unicode, (Class.word unicode).contains c = false
  after : ∀ c, whole[n + text.length]? = some c →
    ∀ unicode, (Class.word unicode).contains c = false

/-- What is marked in the text is marked in the other one. -/
structure Carried (n : ℕ) (text whole : List Char) (m m' : Marks) : Prop where
  length : m.length = text.length + 1
  length' : m'.length = whole.length + 1
  marks : ∀ i, m.At i → m'.At (n + i)

/-- The map keeps the number of marks of a text. -/
def Sized (text : List Char) (f : Marks → Marks) : Prop :=
  ∀ m, m.length = text.length + 1 → (f m).length = text.length + 1

/-- The second map carries over at least what the first one marks. -/
def Carries (n : ℕ) (text whole : List Char) (f f' : Marks → Marks) : Prop :=
  ∀ m m', Carried n text whole m m' → Carried n text whole (f m) (f' m')

variable {n : ℕ} {text whole : List Char} {f f' g g' : Marks → Marks}

theorem Sized.iterate (h : Sized text f) (k : ℕ) : Sized text (f^[k]) := by
  induction k with
  | zero => exact fun m hm => hm
  | succ k ih =>
    intro m hm
    rw [Function.iterate_succ_apply]
    exact ih _ (h m hm)

theorem Carries.iterate (h : Carries n text whole f f') (k : ℕ) :
    Carries n text whole (f^[k]) (f'^[k]) := by
  induction k with
  | zero => exact fun m m' hm => hm
  | succ k ih =>
    intro m m' hm
    rw [Function.iterate_succ_apply, Function.iterate_succ_apply]
    exact ih _ _ (h m m' hm)

theorem sized_or (hf : Sized text f) (hg : Sized text g) :
    Sized text fun m => List.zipWith (· || ·) (f m) (g m) := by
  intro m hm
  rw [List.length_zipWith, hf m hm, hg m hm, Nat.min_self]

theorem carries_or (hf : Carries n text whole f f') (hg : Carries n text whole g g') :
    Carries n text whole (fun m => List.zipWith (· || ·) (f m) (g m))
      (fun m => List.zipWith (· || ·) (f' m) (g' m)) := by
  intro m m' hm
  have hf := hf m m' hm
  have hg := hg m m' hm
  refine ⟨?_, ?_, ?_⟩
  · rw [List.length_zipWith, hf.length, hg.length, Nat.min_self]
  · rw [List.length_zipWith, hf.length', hg.length', Nat.min_self]
  · intro i hi
    rw [Marks.at_or_iff (hf.length.trans hg.length.symm)] at hi
    rw [Marks.at_or_iff (hf.length'.trans hg.length'.symm)]
    exact hi.imp (hf.marks i) (hg.marks i)

/-- Adds what a map marks. -/
def adding (f : Marks → Marks) (m : Marks) : Marks :=
  List.zipWith (· || ·) m (f m)

theorem saturate_eq (f : Marks → Marks) (k : ℕ) (m : Marks) :
    saturate f k m = (adding f)^[k] m :=
  iterate_eq _ k m

theorem sized_adding (h : Sized text f) : Sized text (adding f) :=
  sized_or (fun _ hm => hm) h

theorem carries_adding (h : Carries n text whole f f') :
    Carries n text whole (adding f) (adding f') :=
  carries_or (fun _ _ hm => hm) h

/-- Further rounds keep what is marked. -/
theorem at_adding_iterate (h : Sized text f) (k : ℕ) {m : Marks} (hm : m.length = text.length + 1)
    {i : ℕ} (hi : m.At i) : ((adding f)^[k] m).At i := by
  induction k generalizing m with
  | zero => exact hi
  | succ k ih =>
    rw [Function.iterate_succ_apply]
    exact ih (sized_adding h m hm) ((Marks.at_or_iff (hm.trans (h m hm).symm)).mpr (.inl hi))

theorem carries_saturate (h : Carries n text whole f f') (hsized : Sized whole f') {k k' : ℕ}
    (hk : k ≤ k') : Carries n text whole (saturate f k) (saturate f' k') := by
  intro m m' hm
  obtain ⟨j, rfl⟩ := Nat.exists_eq_add_of_le hk
  have hrounds := (carries_adding h).iterate k m m' hm
  rw [saturate_eq, saturate_eq, Nat.add_comm, Function.iterate_add_apply]
  exact {
    length := hrounds.length
    length' := (sized_adding hsized).iterate j _ hrounds.length'
    marks := fun i hi => at_adding_iterate hsized j hrounds.length' (hrounds.marks i hi) }

theorem carries_step (h : Embedded n text whole) (p : Char → Bool) :
    Carries n text whole (·.step text p) (·.step whole p) := by
  intro m m' hm
  refine ⟨Marks.length_step hm.length, Marks.length_step hm.length', ?_⟩
  intro i hi
  cases i with
  | zero => exact absurd hi Marks.not_at_step_zero
  | succ i =>
    obtain ⟨hi, c, hc, hp⟩ := Marks.at_step_succ_iff.mp hi
    have hlt := (List.getElem?_eq_some_iff.mp hc).1
    exact Marks.at_step_succ_iff.mpr ⟨hm.marks i hi, c, (h.inside i hlt).trans hc, hp⟩

/-- The character before a gap. -/
def before? (text : List Char) (i : ℕ) : Option Char :=
  if i = 0 then none else text[i - 1]?

theorem length_gaps (text : List Char) : (gaps text).length = text.length + 1 := by
  simp [gaps]

theorem getElem?_gaps {i : ℕ} (hi : i ≤ text.length) :
    (gaps text)[i]? = some (before? text i, text[i]?) := by
  rw [gaps, List.getElem?_zip_eq_some]
  constructor
  · cases i with
    | zero => rfl
    | succ i => simp [before?, List.getElem?_eq_getElem (show i < text.length by omega)]
  · rcases Nat.lt_or_eq_of_le hi with hlt | rfl
    · simp [List.getElem?_append_left, hlt]
    · simp

/-- Whether a word character stands before or behind a gap of the text is the same in the whole. -/
theorem Embedded.words_eq (h : Embedded n text whole) (unicode : Bool) {i : ℕ}
    (hi : i ≤ text.length) :
    (before? whole (n + i)).any (Class.word unicode).contains =
        (before? text i).any (Class.word unicode).contains ∧
      whole[n + i]?.any (Class.word unicode).contains =
        text[i]?.any (Class.word unicode).contains := by
  constructor
  · cases i with
    | zero =>
      rw [before?, before?, if_pos rfl, Option.any_none, Nat.add_zero]
      split
      · rfl
      · next hn =>
        rw [Option.any_eq_false]
        intro c hc
        simpa using h.before c (by omega) hc unicode
    | succ i =>
      rw [before?, before?, if_neg (by omega), if_neg (by omega)]
      exact congrArg (Option.any _) (h.inside i hi)
  · rcases Nat.lt_or_eq_of_le hi with hlt | rfl
    · rw [h.inside i hlt]
    · rw [List.getElem?_eq_none (Nat.le_refl _), Option.any_none, Option.any_eq_false]
      intro c hc
      simpa using h.after c hc unicode

theorem carries_look (h : Embedded n text whole) (unicode : Bool) (place : WordPlace) :
    Carries n text whole ((Regex.look (.word unicode place)).advance text)
      ((Regex.look (.word unicode place)).advance whole) := by
  have hat {text : List Char} {m : Marks} (hm : m.length = text.length + 1) (i : ℕ) :
      ((Regex.look (.word unicode place)).advance text m).At i ↔ m.At i ∧
        place.holds ((before? text i).any (Class.word unicode).contains)
          (text[i]?.any (Class.word unicode).contains) = true := by
    simp only [Regex.advance, Marks.At, List.getElem?_zipWith_eq_some, Bool.and_eq_true]
    constructor
    · rintro ⟨_, gap, hi, hgap, rfl, hholds⟩
      have hlt := (List.getElem?_eq_some_iff.mp hi).1
      rw [getElem?_gaps (by omega)] at hgap
      obtain rfl := Option.some.inj hgap
      exact ⟨hi, hholds⟩
    · rintro ⟨hi, hholds⟩
      have hlt := (List.getElem?_eq_some_iff.mp hi).1
      exact ⟨true, _, hi, getElem?_gaps (by omega), rfl, hholds⟩
  intro m m' hm
  refine ⟨?_, ?_, ?_⟩
  · rw [Regex.advance, List.length_zipWith, length_gaps, hm.length, Nat.min_self]
  · rw [Regex.advance, List.length_zipWith, length_gaps, hm.length', Nat.min_self]
  · intro i hi
    obtain ⟨hi, hholds⟩ := (hat hm.length i).mp hi
    have hlt := (List.getElem?_eq_some_iff.mp hi).1
    obtain ⟨hbefore, hafter⟩ := h.words_eq unicode (show i ≤ text.length by
      rw [hm.length] at hlt
      omega)
    refine (hat hm.length' (n + i)).mpr ⟨hm.marks i hi, ?_⟩
    rwa [hbefore, hafter]

namespace Regex

theorem sized_advanceAll {rs : List Regex} (h : ∀ r ∈ rs, Sized text (r.advance text)) :
    Sized text (advanceAll text rs) := by
  induction rs with
  | nil =>
    intro m hm
    rwa [advanceAll]
  | cons r rs ih =>
    obtain ⟨hr, hrs⟩ := List.forall_mem_cons.mp h
    intro m hm
    rw [advanceAll]
    exact ih hrs _ (hr m hm)

theorem sized_advanceAny {rs : List Regex} (h : ∀ r ∈ rs, Sized text (r.advance text)) :
    Sized text (advanceAny text rs) := by
  induction rs with
  | nil =>
    intro m hm
    rwa [advanceAny, List.length_map]
  | cons r rs ih =>
    obtain ⟨hr, hrs⟩ := List.forall_mem_cons.mp h
    intro m hm
    rw [advanceAny]
    exact sized_or hr (ih hrs) m hm

/-- Every expression keeps the number of marks. -/
theorem sized_advance (text : List Char) (r : Regex) : Sized text (r.advance text) := by
  induction r using inductionOn with
  | empty => exact fun m hm => by rwa [advance]
  | literal cs =>
    intro m hm
    rw [advance]
    induction cs generalizing m with
    | nil => exact hm
    | cons c cs ih => exact ih _ (Marks.length_step hm)
  | set unicode s =>
    intro m hm
    rw [advance]
    exact Marks.length_step hm
  | look l =>
    intro m hm
    rw [advance, List.length_zipWith, length_gaps, hm, Nat.min_self]
  | capture index r ih =>
    intro m hm
    rw [advance]
    exact ih m hm
  | repeats least most isLazy r ih =>
    intro m hm
    rw [advance, saturate_eq, iterate_eq]
    exact (sized_adding ih).iterate _ _ (ih.iterate least m hm)
  | sequence rs ih =>
    intro m hm
    rw [advance]
    exact sized_advanceAll ih m hm
  | choice rs ih =>
    intro m hm
    rw [advance]
    exact sized_advanceAny ih m hm

theorem carries_advanceAll {rs : List Regex}
    (h : ∀ r ∈ rs, Carries n text whole (r.advance text) (r.advance whole)) :
    Carries n text whole (advanceAll text rs) (advanceAll whole rs) := by
  induction rs with
  | nil =>
    intro m m' hm
    rwa [advanceAll, advanceAll]
  | cons r rs ih =>
    obtain ⟨hr, hrs⟩ := List.forall_mem_cons.mp h
    intro m m' hm
    rw [advanceAll, advanceAll]
    exact ih hrs _ _ (hr m m' hm)

theorem carries_advanceAny {rs : List Regex}
    (h : ∀ r ∈ rs, Carries n text whole (r.advance text) (r.advance whole)) :
    Carries n text whole (advanceAny text rs) (advanceAny whole rs) := by
  induction rs with
  | nil =>
    intro m m' hm
    rw [advanceAny, advanceAny]
    refine ⟨by rw [List.length_map, hm.length], by rw [List.length_map, hm.length'], ?_⟩
    intro i hi
    rw [Marks.At, List.getElem?_map] at hi
    obtain ⟨_, _, hmarked⟩ := Option.map_eq_some_iff.mp hi
    cases hmarked
  | cons r rs ih =>
    obtain ⟨hr, hrs⟩ := List.forall_mem_cons.mp h
    intro m m' hm
    rw [advanceAny, advanceAny]
    exact carries_or hr (ih hrs) m m' hm

/-- An expression that is free of edges marks at least the same gaps of a text where it stands in
another one. -/
theorem carries_advance (h : Embedded n text whole) (r : Regex) (hfree : r.edgeFree = true) :
    Carries n text whole (r.advance text) (r.advance whole) := by
  induction r using inductionOn with
  | empty =>
    intro m m' hm
    rwa [advance, advance]
  | literal cs =>
    intro m m' hm
    rw [advance, advance]
    induction cs generalizing m m' with
    | nil => exact hm
    | cons c cs ih => exact ih rfl _ _ (carries_step h _ m m' hm)
  | set unicode s =>
    intro m m' hm
    rw [advance, advance]
    exact carries_step h _ m m' hm
  | look l =>
    cases l with
    | word unicode place => exact carries_look h unicode place
    | _ => cases hfree
  | capture index r ih =>
    intro m m' hm
    rw [advance, advance]
    exact ih hfree m m' hm
  | repeats least most isLazy r ih =>
    intro m m' hm
    have hr := ih hfree
    -- an unbounded repetition has more rounds in the longer text, and these only add marks
    have hrounds : most.elim (text.length + 1) (· - least) ≤
        most.elim (whole.length + 1) (· - least) := by
      cases most with
      | none => exact Nat.succ_le_succ (Nat.le_trans (Nat.le_add_left _ n) h.length_le)
      | some most => exact Nat.le_refl _
    rw [advance, advance, iterate_eq, iterate_eq]
    exact carries_saturate hr (sized_advance whole r) hrounds _ _ (hr.iterate least m m' hm)
  | sequence rs ih =>
    intro m m' hm
    have hrs := (allEdgeFree_iff rs).mp hfree
    rw [advance, advance]
    exact carries_advanceAll (fun r hr => ih r hr (hrs r hr)) m m' hm
  | choice rs ih =>
    intro m m' hm
    have hrs := (allEdgeFree_iff rs).mp hfree
    rw [advance, advance]
    exact carries_advanceAny (fun r hr => ih r hr (hrs r hr)) m m' hm

theorem matchesIn_of_embedded (h : Embedded n text whole) {r : Regex} (hfree : r.edgeFree = true)
    (hmatches : r.matchesIn text = true) : r.matchesIn whole = true := by
  have hall : Carried n text whole (List.replicate (text.length + 1) true)
      (List.replicate (whole.length + 1) true) := by
    refine ⟨List.length_replicate, List.length_replicate, ?_⟩
    intro i hi
    have hlt := (List.getElem?_eq_some_iff.mp hi).1
    have hle := h.length_le
    rw [List.length_replicate] at hlt
    exact List.getElem?_replicate_of_lt (by omega)
  have hcarried := r.carries_advance h hfree _ _ hall
  obtain ⟨i, hi⟩ := Marks.any_iff.mp hmatches
  exact Marks.any_iff.mpr ⟨n + i, hcarried.marks i hi⟩

end Regex

namespace CharSet

variable {c : Char}

theorem not_contains_union {s t : CharSet} (hs : s.contains c = false)
    (ht : t.contains c = false) : (s.union t).contains c = false := by
  rw [contains_union, hs, ht, Bool.or_false]

theorem not_contains_unions {sets : List CharSet} (h : sets.Forall (·.contains c = false)) :
    (unions sets).contains c = false := by
  rw [List.forall_iff_forall_mem] at h
  rw [contains_unions, List.any_eq_false]
  intro s hs
  exact ne_true_of_eq_false (h s hs)

end CharSet

open CharSet GeneralCategory Property in
/-- A blank belongs to no word, for all scripts and for ASCII: it is in none of the tables that word
characters are put together from. -/
theorem Class.word_contains_blank (unicode : Bool) : (word unicode).contains ' ' = false := by
  cases unicode with
  | false => decide +kernel
  | true =>
    have hupper : uppercaseLetter.contains ' ' = false :=
      not_contains_union (by decide +kernel) (by decide +kernel)
    have hlower : lowercaseLetter.contains ' ' = false :=
      not_contains_union (by decide +kernel) (by decide +kernel)
    have hcased : casedLetter.contains ' ' = false :=
      not_contains_unions ⟨hupper, hlower, by decide +kernel⟩
    have hother : otherLetter.contains ' ' = false :=
      not_contains_union (by decide +kernel) (by decide +kernel)
    have hletter : letter.contains ' ' = false :=
      not_contains_unions ⟨hcased, by decide +kernel, hother⟩
    have halphabetic : alphabetic.contains ' ' = false :=
      not_contains_unions ⟨hletter, by decide +kernel, by decide +kernel⟩
    have hmark : mark.contains ' ' = false :=
      not_contains_unions ⟨by decide +kernel, by decide +kernel, by decide +kernel⟩
    exact not_contains_unions
      ⟨halphabetic, hmark, by decide +kernel, by decide +kernel, by decide +kernel⟩

theorem embedded_between_blanks (before text after : List Char) :
    Embedded (before.length + 1) text (before ++ ' ' :: (text ++ ' ' :: after)) where
  inside i hi := by
    rw [List.getElem?_append_right (by omega)]
    have hindex : before.length + 1 + i - before.length = i + 1 := by omega
    rw [hindex, List.getElem?_cons_succ, List.getElem?_append_left hi]
  length_le := by
    simp only [List.length_append, List.length_cons]
    omega
  before c _ hc unicode := by
    rw [Nat.add_sub_cancel, List.getElem?_append_right (Nat.le_refl _), Nat.sub_self] at hc
    rw [← Option.some.inj hc]
    exact Class.word_contains_blank unicode
  after c hc unicode := by
    rw [List.getElem?_append_right (by omega)] at hc
    have hindex : before.length + 1 + text.length - before.length = text.length + 1 := by omega
    rw [hindex, List.getElem?_cons_succ, List.getElem?_append_right (Nat.le_refl _),
      Nat.sub_self] at hc
    rw [← Option.some.inj hc]
    exact Class.word_contains_blank unicode

end SecurityLint.Pattern

namespace SecurityLint.NamePattern

/-- A match in a text is found wherever the text stands between blanks, unless the pattern looks for
the ends of a text or a line. -/
theorem matchesIn_between {p : NamePattern} (hfree : p.regex.edgeFree = true) {text : String}
    (h : p.matchesIn text = true) (before after : String) :
    p.matchesIn (before ++ " " ++ text ++ " " ++ after) = true := by
  obtain ⟨_, hmatches⟩ := Bool.and_eq_true_iff.mp h
  have hembedded := Pattern.embedded_between_blanks before.toList text.toList after.toList
  have hwhole := Pattern.Regex.matchesIn_of_embedded hembedded hfree hmatches
  rw [matchesIn, Bool.and_eq_true]
  refine ⟨?_, by simpa using hwhole⟩
  rw [Bool.not_eq_true', String.isEmpty_eq_false_iff]
  intro hempty
  have hlist := congrArg String.toList hempty
  simp at hlist

end SecurityLint.NamePattern
