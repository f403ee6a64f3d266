import Mathlib.Data.List.Find
import SecurityLint.Proofs.Rule.UnsafeMarkup
import SecurityLint.Proofs.SanitizerNames
import SecurityLint.Proofs.SetApart

/-!
A sanitized expression stays sanitized in whatever it is nested. Names of letters, digits and
underscores reach over no delimiter, so reading comes to a text that is set apart with no name
half taken, takes the same names in it as in the text alone, and finds the same negations. So what
holds of the text of a built node holds of the texts of all nodes above, and unsafe markup passes
over all of them.
-/
namespace SecurityLint

namespace Text

theorem lt_of_isNameChar {c : Char} (h : isNameChar c = true) : c.toNat < 128 := by
  have hbound {last : UInt32} (hlast : last.toNat < 128) (hle : c.val ≤ last) : c.toNat < 128 :=
    Nat.lt_of_le_of_lt (UInt32.le_iff_toNat_le.mp hle) hlast
  rcases Bool.or_eq_true_iff.mp h with halphanum | hunderscore
  · rcases Bool.or_eq_true_iff.mp halphanum with halpha | hdigit
    · rcases Bool.or_eq_true_iff.mp halpha with hupper | hlower
      · exact hbound (by decide) (of_decide_eq_true hupper).2
      · exact hbound (by decide) (of_decide_eq_true (Bool.and_eq_true_iff.mp hlower).2)
    · exact hbound (by decide) (of_decide_eq_true (Bool.and_eq_true_iff.mp hdigit).2)
  · rw [eq_of_beq hunderscore]
    decide

theorem isNameChar_fold {c : Char} (h : isNameChar c = true) : isNameChar (fold c) = true :=
  forall_ascii (P := fun c => isNameChar c = true → isNameChar (fold c) = true)
    (by decide +kernel) c (lt_of_isNameChar h) h

theorem fold_delimiter {c : Char} (h : isDelimiter c = true) : fold c = c :=
  forall_ascii (P := fun c => isDelimiter c = true → fold c = c) (by decide +kernel) c
    (of_decide_eq_true (Bool.and_eq_true_iff.mp h).1) h

theorem sameFold_delimiter {n d : Char} (hn : isNameChar n = true) (hd : isDelimiter d = true) :
    sameFold n d = false := by
  have hother : isNameChar d = false := by simpa using (Bool.and_eq_true_iff.mp hd).2
  rw [sameFold, Bool.or_eq_false_iff, beq_eq_false_iff_ne, beq_eq_false_iff_ne, fold_delimiter hd]
  constructor
  · rintro rfl
    simp [hn] at hother
  · intro hfold
    rw [← hfold, isNameChar_fold hn] at hother
    cases hother

end Text

open Text

namespace SanitizerSet

/-- The names have at least one character, and all of them are letters, digits and underscores. -/
def Plain (names : List (List Char)) : Prop :=
  ∀ name ∈ names, name ≠ [] ∧ ∀ c ∈ name, isNameChar c = true

theorem plain_ofList {names : List String}
    (h : ∀ n ∈ names, ∀ c ∈ (Text.trim n).toList, isNameChar c = true) :
    Plain (ofList names).names := by
  intro name hname
  obtain ⟨n, hn, hne, rfl⟩ := (mem_names_ofList_iff names name).mp hname
  exact ⟨fun hnil => hne (String.toList_eq_nil_iff.mp hnil), h n hn⟩

variable {names : List (List Char)} {name before text rest : List Char}

/-- A name ends before the first delimiter. -/
theorem length_le_of_beginsWith (hname : ∀ c ∈ name, isNameChar c = true)
    (h : beginsWith name text = true) :
    name.length ≤ (text.takeWhile (!isDelimiter ·)).length := by
  fun_induction beginsWith name text with
  | case1 => exact Nat.zero_le _
  | case2 => cases h
  | case3 n name c text ih =>
    obtain ⟨hn, hname⟩ := List.forall_mem_cons.mp hname
    obtain ⟨hfold, h⟩ := Bool.and_eq_true_iff.mp h
    have hc : isDelimiter c = false := by
      by_contra hdelimiter
      rw [Bool.not_eq_false] at hdelimiter
      rw [sameFold_delimiter hn hdelimiter] at hfold
      cases hfold
    rw [List.takeWhile_cons_of_pos (by rw [hc]; rfl), List.length_cons, List.length_cons]
    exact Nat.succ_le_succ (ih hname h)

/-- What follows a delimiter makes no difference to whether a name stands before it. -/
theorem beginsWith_append (hname : ∀ c ∈ name, isNameChar c = true)
    (hrest : ∀ c ∈ rest.head?, isDelimiter c = true) :
    beginsWith name (text ++ rest) = beginsWith name text := by
  fun_induction beginsWith name text with
  | case1 => rw [beginsWith]
  | case2 n name =>
    cases rest with
    | nil => rfl
    | cons d rest =>
      rw [List.nil_append, beginsWith,
        sameFold_delimiter (hname n List.mem_cons_self) (hrest d rfl), Bool.false_and]
  | case3 n name c text ih =>
    obtain ⟨_, hname⟩ := List.forall_mem_cons.mp hname
    rw [List.cons_append, beginsWith, ih hname]

theorem find?_append (hplain : Plain names) (hrest : ∀ c ∈ rest.head?, isDelimiter c = true) :
    names.find? (beginsWith · (text ++ rest)) = names.find? (beginsWith · text) := by
  apply List.find?_congr
  intro name hname
  exact beginsWith_append (hplain name hname).2 hrest

/-- No name stands at a delimiter. -/
theorem find?_delimiter (hplain : Plain names) {d : Char} (hd : isDelimiter d = true) :
    names.find? (beginsWith · (d :: rest)) = none := by
  rw [List.find?_eq_none]
  intro name hname
  obtain ⟨hne, hchars⟩ := hplain name hname
  cases name with
  | nil => exact absurd rfl hne
  | cons n name => simp [beginsWith, sameFold_delimiter (hchars n List.mem_cons_self) hd]

/-- A negation reaches over no delimiter. -/
theorem negates_append (before : List Char) {outer : List Char}
    (houter : ∀ c ∈ outer.head?, isDelimiter c = true) :
    negates (before ++ outer) = negates before := by
  cases outer with
  | nil => rw [List.append_nil]
  | cons d outer =>
    have hd : d.isAlpha = false ∧ d.toLower ≠ 'n' ∧ d.toLower ≠ 'u' := by
      have hdelimiter := houter d rfl
      exact forall_ascii (P := fun d => isDelimiter d = true →
        d.isAlpha = false ∧ d.toLower ≠ 'n' ∧ d.toLower ≠ 'u') (by decide +kernel) d
        (of_decide_eq_true (Bool.and_eq_true_iff.mp hdelimiter).1) hdelimiter
    obtain ⟨halpha, hn, hu⟩ := hd
    rcases before with _ | ⟨n, _ | ⟨u, _ | ⟨b, before⟩⟩⟩
    · cases outer with
      | nil => rfl
      | cons u outer => simp [negates, hn]
    · simp [negates, hu]
    · simp [negates, halpha]
    · simp [negates]

/-- What reaches over no delimiter still does not, with one character less. -/
theorem pred_le_length_takeWhile {c : Char} {length : ℕ}
    (h : length ≤ ((c :: text).takeWhile (!isDelimiter ·)).length) :
    length - 1 ≤ (text.takeWhile (!isDelimiter ·)).length := by
  rw [List.takeWhile_cons] at h
  split at h
  · rw [List.length_cons] at h
    omega
  · rw [List.length_nil] at h
    omega

/-- Reading comes to a delimiter with no name half taken, so a name that is found behind the
delimiter is found. -/
theorem findFrom_behind (hplain : Plain names) {d : Char} (hd : isDelimiter d = true)
    {left : List Char} {skip : ℕ}
    (hskip : skip ≤ ((left ++ d :: rest).takeWhile (!isDelimiter ·)).length)
    (h : findFrom names 0 (d :: (left.reverse ++ before)) rest = true) :
    findFrom names skip before (left ++ d :: rest) = true := by
  induction left generalizing skip before with
  | nil =>
    rw [List.nil_append, List.takeWhile_cons_of_neg (by simp [hd]), List.length_nil,
      Nat.le_zero] at hskip
    rw [hskip, List.nil_append, findFrom, find?_delimiter hplain hd]
    exact h
  | cons c left ih =>
    rw [List.reverse_cons, List.append_assoc, List.singleton_append] at h
    rw [List.cons_append] at hskip ⊢
    -- whatever is taken here, what is left of it ends before the next delimiter
    cases skip with
    | succ skip => exact ih (pred_le_length_takeWhile hskip) h
    | zero =>
      rw [findFrom]
      cases hname : names.find? (beginsWith · (c :: (left ++ d :: rest))) with
      | none => exact ih (Nat.zero_le _) h
      | some name =>
        have hmem := List.mem_of_find?_eq_some hname
        have hbegins := List.find?_some hname
        have hlength := length_le_of_beginsWith (hplain name hmem).2 hbegins
        rw [Bool.or_eq_true]
        exact .inr (ih (pred_le_length_takeWhile hlength) h)

/-- A name that is found in a text is found there, if delimiters surround the text. -/
theorem findFrom_append (hplain : Plain names) {outer : List Char} {skip : ℕ}
    (houter : ∀ c ∈ outer.head?, isDelimiter c = true)
    (hrest : ∀ c ∈ rest.head?, isDelimiter c = true)
    (h : findFrom names skip before text = true) :
    findFrom names skip (before ++ outer) (text ++ rest) = true := by
  fun_induction findFrom names skip before text with
  | case1 => cases h
  | case2 before c text skip ih => exact ih h
  | case3 before c text name hname ih =>
    rw [List.cons_append, findFrom, ← List.cons_append, find?_append hplain hrest, hname]
    rw [Bool.or_eq_true] at h ⊢
    rw [negates_append before houter]
    exact h.imp id ih
  | case4 before c text hname ih =>
    rw [List.cons_append, findFrom, ← List.cons_append, find?_append hplain hrest, hname]
    exact ih h

/-- A text that calls on a sanitizer does so wherever it is set apart. -/
theorem isCalledIn_of_setApart {s : SanitizerSet} (hplain : Plain s.names) {part whole : String}
    (hapart : SetApart part whole) (h : s.isCalledIn part = true) : s.isCalledIn whole = true := by
  obtain ⟨left, right, rfl, hleft, hright⟩ := hapart
  rw [isCalledIn, String.toList_append, String.toList_append, List.append_assoc]
  rcases List.eq_nil_or_concat left.toList with hnil | ⟨init, d, hinit⟩
  · rw [hnil]
    have houter : ∀ c ∈ ([] : List Char).head?, isDelimiter c = true := by simp
    exact findFrom_append hplain houter hright h
  · rw [hinit] at hleft ⊢
    have hd : isDelimiter d = true := hleft d (by simp)
    rw [List.concat_eq_append, List.append_assoc, List.singleton_append]
    apply findFrom_behind hplain hd (Nat.zero_le _)
    exact findFrom_append hplain (by simpa using hd) hright h

theorem eq_ofList_of_compile? {names : List String} {s : SanitizerSet}
    (h : compile? names = some s) : s = ofList names := by
  unfold compile? at h
  dsimp only at h
  split at h
  · exact (Option.some.inj h).symm
  · cases h

end SanitizerSet

namespace UnsafeMarkup

theorem sanitizers_of_ofSettings {settings : UnsafeMarkupSettings} {r : UnsafeMarkup}
    (h : ofSettings settings = .ok r) : r.sanitizers = .ofList settings.sanitizers := by
  obtain ⟨_, _, _, _, _, hsanitizers, rfl⟩ := (ofSettings_eq_ok_iff settings r).mp h
  exact SanitizerSet.eq_ofList_of_compile? hsanitizers

theorem visit_eq_nil_of_isCalledIn {t : SyntaxTree} {r : UnsafeMarkup} {c : Cursor t}
    (h : r.sanitizers.isCalledIn c.text = true) : r.visit c = [] := by
  rw [visit, if_pos h]

end UnsafeMarkup

namespace Builder

variable {language : Language} {path : Option Path} {steps : List Step} {b : Builder}
  {root : NodeId} {t : SyntaxTree}

/-- Let a tree be built without raw nodes and let all names of sanitizers consist of letters, digits
and underscores. If the text of a node calls on a sanitizer, so do the texts of all nodes above it,
and unsafe markup reports nothing when it is shown any of them. Made from settings, it looks for the
names that are listed there. -/
theorem sanitized_upwards {names : List String}
    (hplain : ∀ n ∈ names, ∀ c ∈ (Text.trim n).toList, isNameChar c = true)
    (hraw : ∀ step ∈ steps, step.isRaw = false)
    (hrun : run? { language, path } steps = some b) (hfinish : b.finish root = .ok t)
    {d : Cursor t} (hd : (SanitizerSet.ofList names).isCalledIn d.text = true) :
    (∀ c ∈ d :: d.ancestors, (SanitizerSet.ofList names).isCalledIn c.text = true) ∧
    (∀ r : UnsafeMarkup, r.sanitizers = .ofList names → ∀ c ∈ d :: d.ancestors, ∀ memo,
      (r.rule.visit t c).run memo = (.ok [], memo)) ∧
    ∀ settings r, UnsafeMarkup.ofSettings settings = .ok r →
      r.sanitizers = .ofList settings.sanitizers := by
  have hup := kept_upwards (P := fun text => (SanitizerSet.ofList names).isCalledIn text = true)
    (fun _ _ => SanitizerSet.isCalledIn_of_setApart (SanitizerSet.plain_ofList hplain))
    hraw hrun hfinish hd
  refine ⟨hup, ?_, fun _ _ => UnsafeMarkup.sanitizers_of_ofSettings⟩
  intro r hr c hc memo
  have hsilent : r.visit c = [] := by
    apply UnsafeMarkup.visit_eq_nil_of_isCalledIn
    rw [hr]
    exact hup c hc
  change (Inquiry.done (r.visit c)).run memo = _
  rw [hsilent, Inquiry.run]

/-- The steps to an assignment of sanitized content, which is first given to a function `un`. -/
def sanitizedSteps : List Step := [
  .ident "element",
  .member 0 "innerHTML",
  .ident "DOMPurify",
  .ident "svg",
  .methodCall 3 "sanitize" [4],
  .functionCall "un" [7],
  .assign 2 9]

def sanitizedTree : SyntaxTree where
  table := {
    language := .javaScript
    root := 10
    nodes := #[
      { kind := .identifier, text := "element", name := some "element" },
      { kind := .identifier, text := "innerHTML", name := some "innerHTML" },
      { kind := .memberAccess, text := "element.innerHTML", children := [0, 1] },
      { kind := .identifier, text := "DOMPurify", name := some "DOMPurify" },
      { kind := .identifier, text := "svg", name := some "svg" },
      { kind := .identifier, text := "sanitize", name := some "sanitize" },
      { kind := .memberAccess, text := "DOMPurify.sanitize", children := [3, 5] },
      { kind := .functionCall, text := "DOMPurify.sanitize(svg)", children := [6, 4] },
      { kind := .identifier, text := "un", name := some "un" },
      { kind := .functionCall, text := "un(DOMPurify.sanitize(svg))", children := [8, 7] },
      { kind := .assignment, text := "element.innerHTML = un(DOMPurify.sanitize(svg))",
        children := [2, 9] }] }
  parents := #[some 2, some 2, some 10, some 6, some 7, some 6, some 7, some 9, some 9, some 10,
    none]
  linked := by cbv

/-- The name of the function is no negation of what it is applied to, so the assignment is passed
over with the default names. -/
theorem sanitizedSteps_silent : ∃ b, run? { language := .javaScript } sanitizedSteps = some b ∧
    b.finish 10 = .ok sanitizedTree ∧
    ∀ r : UnsafeMarkup, r.sanitizers = .ofList ({} : UnsafeMarkupSettings).sanitizers → ∀ memo,
      (r.rule.visit sanitizedTree ⟨10, by decide⟩).run memo = (.ok [], memo) := by
  have htable : ((run? { language := .javaScript } sanitizedSteps).map (·.table 10)) =
      some sanitizedTree.table := by
    decide +kernel
  obtain ⟨b, hrun, hb⟩ := Option.map_eq_some_iff.mp htable
  have hfinish := (SyntaxTree.ofTable_eq_ok_iff (b.table 10) sanitizedTree).mpr hb.symm
  have hplain : (({} : UnsafeMarkupSettings).sanitizers.all fun n =>
      (Text.trim n).toList.all isNameChar) = true := by decide +kernel
  simp only [List.all_eq_true] at hplain
  have hcalled : (SanitizerSet.ofList ({} : UnsafeMarkupSettings).sanitizers).isCalledIn
      (⟨7, by decide⟩ : Cursor sanitizedTree).text = true := by decide +kernel
  obtain ⟨_, hsilent, _⟩ := sanitized_upwards hplain (by decide) hrun hfinish hcalled
  exact ⟨b, hrun, hfinish, fun r hr memo => hsilent r hr _ (by decide +kernel) memo⟩

end Builder

end SecurityLint
