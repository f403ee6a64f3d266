import SecurityLint.Proofs.BetweenBlanks
import SecurityLint.Proofs.EmbeddedMatches
import SecurityLint.Proofs.RecoveryReports
import SecurityLint.Proofs.SetApart

/-!
A method that checks a second factor speaks for its class. In a tree that was built, a statement
stands between blanks in the text of its method, so what it mentions the method mentions too. The
method is a member of the class, and insecure recovery leaves all methods and calls of the class
alone.
-/
namespace SecurityLint

namespace Text

/-- The text `part` stands in `whole` between blanks. -/
def Between (part whole : String) : Prop :=
  StandsIn (" " ++ part ++ " ") whole

/-- Of texts in a row, each stands between blanks, if there is a blank on either side of the row. -/
theorem between_row {part : String} {texts : List String} (h : part ∈ texts) :
    Between part (" " ++ " ".intercalate texts ++ " ") := by
  induction texts with
  | nil => cases h
  | cons text texts ih =>
    cases texts with
    | nil =>
      rw [List.mem_singleton.mp h, String.intercalate_singleton]
      exact standsIn_self _
    | cons next texts =>
      rw [String.intercalate_cons_cons]
      rcases List.mem_cons.mp h with rfl | h
      · have hfirst := (standsIn_self (" " ++ part ++ " ")).append
          (" ".intercalate (next :: texts) ++ " ")
        simpa only [Between, String.append_assoc] using hfirst
      · have hrest := (ih h).prepend (" " ++ text)
        simpa only [Between, String.append_assoc] using hrest

end Text

open Text

theorem Renders.between_of_block {l : Language} {name : Option String} {texts : List String}
    {text part : String} (h : Renders l .block name texts text) (hpart : part ∈ texts) :
    Between part text := by
  cases h with
  | block =>
    have hopening : "\x7b " = "\x7b" ++ " " := by decide +kernel
    have hclosing : " \x7d" = " " ++ "\x7d" := by decide +kernel
    have hblock := ((between_row hpart).prepend "\x7b").append "\x7d"
    simpa only [Between, hopening, hclosing, String.append_assoc] using hblock

theorem Renders.between_of_method {l : Language} {name : Option String} {texts : List String}
    {text body part : String} (h : Renders l .methodDecl name texts text) (hbody : body ∈ texts)
    (hpart : Between part body) : Between part text := by
  cases h with
  | method =>
    rw [← List.mem_singleton.mp hbody]
    exact hpart.prepend _

theorem Cursor.kind_of_mem_statements {t : SyntaxTree} {m s : Cursor t} (h : s ∈ m.statements) :
    m.kind = .methodDecl := by
  by_contra hkind
  simp [statements, is, hkind] at h

namespace Builder

variable {language : Language} {path : Option Path} {steps : List Step} {b : Builder}
  {root : NodeId} {t : SyntaxTree}

/-- A statement stands between blanks in the text of its method. -/
theorem between_of_mem_statements (hraw : ∀ step ∈ steps, step.isRaw = false)
    (hrun : run? { language, path } steps = some b) (hfinish : b.finish root = .ok t)
    {method statement : Cursor t} (h : statement ∈ method.statements) :
    Between statement.text method.text := by
  have hkind := Cursor.kind_of_mem_statements h
  obtain ⟨body, hbody, hstatement⟩ := (Cursor.mem_statements_iff hkind).mp h
  have hblock : body.kind = .block := by simpa [Cursor.is] using List.find?_some hbody
  have hmethod := renders_of_finish hraw hrun hfinish method
  have hbodyText := renders_of_finish hraw hrun hfinish body
  rw [hkind] at hmethod
  rw [hblock] at hbodyText
  exact hmethod.between_of_method (List.mem_map_of_mem (List.mem_of_find?_eq_some hbody))
    (hbodyText.between_of_block (List.mem_map_of_mem hstatement))

end Builder

namespace InsecureRecovery

variable {r : InsecureRecovery}

/-- A mention in a text is found wherever the text stands between blanks, if this is so of matches
of the pattern. -/
theorem mentionsMechanism_of_between
    (hkeeps : ∀ before text after, r.secure.matchesIn text = true →
      r.secure.matchesIn (before ++ " " ++ text ++ " " ++ after) = true)
    {part whole : String} (hbetween : Between part whole)
    (h : r.mentionsMechanism part = true) : r.mentionsMechanism whole = true := by
  obtain ⟨before, after, rfl⟩ := hbetween
  have hparts :
      before ++ (" " ++ part ++ " ") ++ after = before ++ " " ++ part ++ " " ++ after := by
    simp only [String.append_assoc]
  rw [hparts]
  rw [mentionsMechanism, Bool.or_eq_true] at h ⊢
  rcases h with hnames | hlibrary
  · left
    rw [namesMechanism, splitWords_append_blank, splitWords_append_blank]
    exact hkeeps _ _ _ hnames
  · exact .inr (Keywords.occursIn_between hlibrary before after)

/-- Let a tree be built without raw nodes, and let the pattern of secure mechanisms find matches
between blanks. If a statement of a method of a class mentions a secure mechanism, so does the text
of the method, and no method or call whose nearest class this is is reported in a scan. -/
theorem secure_statement_silences_class {settings : InsecureRecoverySettings}
    (h : ofSettings settings = .ok r)
    (hkeeps : ∀ before text after, r.secure.matchesIn text = true →
      r.secure.matchesIn (before ++ " " ++ text ++ " " ++ after) = true)
    {language : Language} {path : Option Path} {steps : List Step} {b : Builder} {root : NodeId}
    {t : SyntaxTree} (hraw : ∀ step ∈ steps, step.isRaw = false)
    (hrun : Builder.run? { language, path } steps = some b) (hfinish : b.finish root = .ok t)
    {decl method statement : Cursor t} (hmember : method ∈ decl.children)
    (hstatement : statement ∈ method.statements)
    (hmentions : r.mentionsMechanism statement.text = true) {found : List Finding}
    (hscan : Builtin.insecureRecovery.Scans settings t found) :
    r.mentionsMechanism method.text = true ∧
      ∀ c : Cursor t, Cursor.Nearest .classDecl c decl →
        c.kind = .methodDecl ∨ c.kind = .functionCall → reportsOn c found = [] := by
  have hbetween := Builder.between_of_mem_statements hraw hrun hfinish hstatement
  have hmethod := mentionsMechanism_of_between hkeeps hbetween hmentions
  have hsecure : r.SecureClass decl := .inr ⟨method, hmember, hmethod⟩
  exact ⟨hmethod, fun c hnearest hkind => reportsOn_eq_nil h hscan hsecure hnearest hkind⟩

/-- The steps to the class with a method that checks a second factor. -/
def recoverySteps : List Step := [
  .ident "totp",
  .ident "code",
  .methodCall 0 "verify" [1],
  .statement 4,
  .method "check" [5],
  .ident "emailService",
  .ident "link",
  .methodCall 8 "send" [9],
  .statement 12,
  .method "resetPin" [13],
  .ident "emailService",
  .ident "link",
  .methodCall 16 "send" [17],
  .statement 20,
  .method "resetCode" [21],
  .classDecl "Legacy" [23],
  .classDecl "Accounts" [7, 15, 24]]

/-- The statement of one method silences the other, and the call in it. -/
theorem recoverySteps_silenced : ∃ b s,
    Builder.run? { language := .java } recoverySteps = some b ∧ b.finish 25 = .ok recoveryTree ∧
    Scanner.ofConfig wordConfig = .ok s ∧
    reportsOn (recoveryNode 15 (by decide)) (s.engine.scan recoveryTree).findings = [] ∧
    reportsOn (recoveryNode 12 (by decide)) (s.engine.scan recoveryTree).findings = [] := by
  have htable : ((Builder.run? { language := .java } recoverySteps).map (·.table 25)) =
      some recoveryTree.table := by
    decide +kernel
  obtain ⟨b, hrun, hb⟩ := Option.map_eq_some_iff.mp htable
  have hfinish := (SyntaxTree.ofTable_eq_ok_iff (b.table 25) recoveryTree).mpr hb.symm
  obtain ⟨s, hs, _⟩ := Scanner.exists_ofConfig_word
  have hrule : ((ofSettings wordConfig.rules.insecureRecovery).toOption.map fun r =>
      (r.secure.regex.edgeFree,
        r.mentionsMechanism (recoveryNode 5 (by decide)).text)) = some (true, true) := by
    decide +kernel
  obtain ⟨r, hr, hmatches⟩ := Option.map_eq_some_iff.mp hrule
  obtain ⟨hfree, hmentions⟩ := Prod.mk.inj hmatches
  have hmember : recoveryNode 7 (by decide) ∈ (recoveryNode 25 (by decide)).children := by decide
  have hstatement : recoveryNode 5 (by decide) ∈ (recoveryNode 7 (by decide)).statements := by
    decide
  obtain ⟨_, hsilent⟩ := secure_statement_silences_class (eq_ok_of_toOption hr)
    (fun before _ after h => NamePattern.matchesIn_between hfree h before after)
    (by decide) hrun hfinish hmember hstatement hmentions (.scanner hs rfl rfl)
  obtain ⟨hmethod, hcall⟩ := nearest_recoveryNode
  exact ⟨b, s, hrun, hfinish, hs, hsilent _ hmethod (.inl rfl), hsilent _ hcall (.inr rfl)⟩

end InsecureRecovery

end SecurityLint
