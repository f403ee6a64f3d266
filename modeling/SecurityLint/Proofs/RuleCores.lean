import SecurityLint.Proofs.DisabledRules
import SecurityLint.Proofs.LoweredTexts

/-!
The cores of the rules. Settings are checked as they are written, and the rules run on what is
compiled from them. Both take a pattern for empty when it is blank. Of a list of words the check
asks that it has an entry, while the rule keeps those entries only that are not blank; so a list of
blank methods passes, and leaves a rule that is enabled and reports nothing.
-/
namespace SecurityLint

theorem Keywords.words_ofList_eq_nil_iff (words : List String) :
    (ofList words).words = [] ↔ ∀ w ∈ words, Text.isBlankText w = true := by
  rw [List.eq_nil_iff_forall_not_mem]
  constructor
  · intro h w hw
    by_contra hblank
    rw [Bool.not_eq_true] at hblank
    exact h _ ((mem_words_ofList_iff words _).mpr ⟨w, hw, hblank, rfl⟩)
  · intro h word hword
    obtain ⟨w, hw, hblank, _⟩ := (mem_words_ofList_iff words word).mp hword
    rw [h w hw] at hblank
    cases hblank

/-- A list with a word has a name, namely this word. -/
theorem Keywords.exists_containsName_iff (k : Keywords) :
    (∃ name, k.containsName name = true) ↔ k.words ≠ [] := by
  simp only [containsName, List.any_eq_true]
  constructor
  · intro h hnil
    obtain ⟨_, word, hword, _⟩ := h
    rw [hnil] at hword
    cases hword
  · intro h
    obtain ⟨word, hword⟩ := List.exists_mem_of_ne_nil k.words h
    exact ⟨word, word, hword, beq_self_eq_true _⟩

/-- Without a method to look for there is nothing to report. -/
theorem MassAssignment.visit_eq_none_of_words {t : SyntaxTree} {r : MassAssignment}
    (h : r.persistenceMethods.words = []) (c : Cursor t) : r.visit c = none := by
  have hname (name : String) : r.persistenceMethods.containsName name = false := by
    rw [Keywords.containsName, h, List.any_nil]
  simp [visit, hname]

namespace Builtin

/-- What is compiled from the settings has its core: a method to look for, or a pattern that is not
blank. -/
def HasCore : (b : Builtin) → b.Section → Prop
  | massAssignment, x => (MassAssignment.ofSettings x).persistenceMethods.words ≠ []
  | plaintextSecret, x => Text.trim x.secretPattern ≠ ""
  | unsafeMarkup, x => Text.trim x.svgPattern ≠ ""
  | insecureRecovery, x => Text.trim x.recoveryPattern ≠ ""

/-- The core is a list with entries, and all of them are blank. -/
def OnlyBlankEntries : (b : Builtin) → b.Section → Prop
  | massAssignment, x =>
    x.persistenceMethods ≠ [] ∧ ∀ m ∈ x.persistenceMethods, Text.isBlankText m = true
  | _, _ => False

theorem isBlankText_eq_false_iff (pattern : String) :
    Text.isBlankText pattern = false ↔ Text.trim pattern ≠ "" := by
  rw [ne_eq, Text.trim_eq_empty_iff, Bool.not_eq_true]

/-- The check on the settings as they are written. -/
theorem lacksCore_eq_false_iff (b : Builtin) (x : b.Section) :
    b.lacksCore x = false ↔ b.HasCore x ∨ b.OnlyBlankEntries x := by
  cases b with
  | massAssignment =>
    change x.persistenceMethods.isEmpty = false ↔
      (Keywords.ofList x.persistenceMethods).words ≠ [] ∨ _
    rw [List.isEmpty_eq_false_iff, ne_eq (Keywords.words _), Keywords.words_ofList_eq_nil_iff]
    constructor
    · intro hne
      by_cases hblank : ∀ m ∈ x.persistenceMethods, Text.isBlankText m = true
      · exact .inr ⟨hne, hblank⟩
      · exact .inl hblank
    · intro h
      rcases h with hcore | hentries
      · intro hnil
        exact hcore (by simp [hnil])
      · exact hentries.1
  | plaintextSecret => exact (isBlankText_eq_false_iff _).trans (or_iff_left id).symm
  | unsafeMarkup => exact (isBlankText_eq_false_iff _).trans (or_iff_left id).symm
  | insecureRecovery => exact (isBlankText_eq_false_iff _).trans (or_iff_left id).symm

end Builtin

namespace RuleSettings

theorem validate_eq_ok_iff_entries (s : RuleSettings) :
    s.validate = .ok () ↔ ∀ b : Builtin, b.enabled (b.get s) = true →
      b.HasCore (b.get s) ∨ b.OnlyBlankEntries (b.get s) := by
  rw [validate_eq_ok_iff]
  refine forall_congr' fun b => ?_
  rw [Bool.and_eq_false_imp, Builtin.lacksCore_eq_false_iff]

/-- Settings are valid exactly if each rule that is enabled has its core, or has nothing but blank
entries where its core should be. So settings that give each enabled rule its core are always valid,
and, unless mass assignment is enabled with nothing but blank methods, only they are. In that case
the rule has no method that it could match and reports nothing in any tree; with its
core it has one. -/
theorem validate_eq_ok_iff_cores (s : RuleSettings) :
    (s.validate = .ok () ↔ ∀ b : Builtin, b.enabled (b.get s) = true →
      b.HasCore (b.get s) ∨ b.OnlyBlankEntries (b.get s)) ∧
    ((s.massAssignment.enabled = true →
        ¬ Builtin.massAssignment.OnlyBlankEntries s.massAssignment) →
      (s.validate = .ok () ↔
        ∀ b : Builtin, b.enabled (b.get s) = true → b.HasCore (b.get s))) ∧
    (Builtin.massAssignment.HasCore s.massAssignment ↔
      ∃ name, (MassAssignment.ofSettings s.massAssignment).persistenceMethods.containsName name =
        true) ∧
    (Builtin.massAssignment.OnlyBlankEntries s.massAssignment →
      ∀ (t : SyntaxTree) (c : Cursor t),
        (MassAssignment.ofSettings s.massAssignment).visit c = none) := by
  refine ⟨s.validate_eq_ok_iff_entries, ?_, (Keywords.exists_containsName_iff _).symm, ?_⟩
  · intro hentries
    rw [validate_eq_ok_iff_entries]
    refine forall_congr' fun b => imp_congr_right fun henabled => or_iff_left ?_
    cases b with
    | massAssignment => exact hentries henabled
    | plaintextSecret => exact id
    | unsafeMarkup => exact id
    | insecureRecovery => exact id
  · intro hblank t c
    exact MassAssignment.visit_eq_none_of_words
      ((Keywords.words_ofList_eq_nil_iff _).mpr hblank.2) c

/-- One blank method is enough to be valid, and leaves no method to look for. -/
theorem blank_method_valid :
    let s : RuleSettings := { massAssignment := { persistenceMethods := [" "] } }
    s.validate = .ok () ∧ s.massAssignment.enabled = true ∧
      ¬ Builtin.massAssignment.HasCore s.massAssignment := by
  refine ⟨by decide +kernel, rfl, ?_⟩
  have hwords : (Keywords.ofList [" "]).words = [] := by decide +kernel
  exact fun h => h hwords

end RuleSettings

end SecurityLint
