import SecurityLint.Proofs.DisabledRules
import SecurityLint.Proofs.DistinctReports

/-!
What insecure recovery reports in a scan, among the findings of all rules. A method or a call is
reported exactly if it is about recovery and neither it nor the method and the class around it
mention a secure mechanism. The class around a node is the nearest one on its way up, so a class
inside another is judged by itself.
-/
namespace SecurityLint

variable {t : SyntaxTree}

namespace Builtin

/-- The raw findings of a scan with a rule: on its own, or in a scanner that enables it. -/
inductive Scans (b : Builtin) (x : b.Section) (t : SyntaxTree) : List Finding → Prop
  | alone {rule : Rule} (hrule : b.compile x = .ok rule) :
      Scans b x t ((Engine.ofRules [rule]).scan t).findings
  | scanner {config : Config} {s : Scanner} (hs : Scanner.ofConfig config = .ok s)
      (hsettings : b.get config.rules = x) (henabled : b.enabled x = true) :
      Scans b x t (s.engine.scan t).findings

variable {b : Builtin} {x : b.Section} {rule : Rule} {raw : List Finding}

theorem Scans.exists_rules (h : b.compile x = .ok rule) (hraw : b.Scans x t raw) :
    ∃ rules : List Rule, (∀ rule ∈ rules, rule.Lawful) ∧ (rules.map (·.info.id)).Nodup ∧
      rule ∈ rules ∧ raw = (visits rules t).flatMap Visit.findings := by
  cases hraw with
  | @alone rule' hrule' =>
    obtain rfl := Except.ok.inj (h.symm.trans hrule')
    refine ⟨[rule], ?_, List.nodup_singleton _, List.mem_singleton.mpr rfl, ?_⟩
    · intro rule' hmem
      rw [List.mem_singleton.mp hmem]
      exact lawful_of_compile h
    · rw [Engine.scan_ofRules]
  | @scanner config s hs hsettings henabled =>
    obtain ⟨rules, hrules, hengine, _⟩ := Scanner.exists_of_ofConfig hs
    subst hsettings
    refine ⟨rules, RuleSettings.lawful_of_mem_rules hrules, RuleSettings.nodup_ids hrules,
      RuleSettings.mem_rules hrules henabled h, ?_⟩
    rw [Scanner.scan_eq_visits hs, hengine]
    rfl

/-- A rule that has at most one finding on a node, about the node itself, is seen in a scan with
other rules as it is on its own. -/
theorem Scans.filter_anchor (h : b.compile x = .ok rule) (hraw : b.Scans x t raw)
    {found : Cursor t → Option Finding} (hfound : ∀ c, rule.findings c = (found c).toList)
    (hanchor : ∀ c f, found c = some f → f.anchor = c.id)
    (hkinds : ∀ c, c.kind ∉ rule.kinds → found c = none) (c : Cursor t) :
    (raw.filter fun f => f.ruleId = b.info.id ∧ f.anchor = c.id) = (found c).toList := by
  obtain ⟨rules, hlawful, hids, hrule, rfl⟩ := hraw.exists_rules h
  have hmem : ∀ f, (f ∈ ((visits rules t).flatMap Visit.findings).filter
      fun f => f.ruleId = b.info.id ∧ f.anchor = c.id) ↔ f ∈ (found c).toList := by
    intro f
    rw [List.mem_filter, decide_eq_true_eq, ← and_assoc, ← info_of_compile h,
      mem_findings_visits_iff hlawful hids hrule, Option.mem_toList]
    constructor
    · rintro ⟨⟨d, _, hf⟩, hid⟩
      rw [hfound, Option.mem_toList] at hf
      rwa [← Cursor.eq_of_id_eq ((hanchor d f hf).symm.trans hid)]
    · intro hf
      refine ⟨⟨c, ?_, ?_⟩, hanchor c f hf⟩
      · by_contra hkind
        rw [hkinds c hkind] at hf
        cases hf
      · rwa [hfound, Option.mem_toList]
  have hnodup : (((visits rules t).flatMap Visit.findings).filter
      fun f => f.ruleId = b.info.id ∧ f.anchor = c.id).Nodup :=
    (List.Nodup.of_map _ (nodup_keys_visits hlawful hids t)).filter _
  cases hc : found c with
  | none =>
    rw [hc] at hmem
    exact List.eq_nil_iff_forall_not_mem.mpr fun f hf => List.not_mem_nil ((hmem f).mp hf)
  | some g =>
    rw [hc] at hmem
    exact List.perm_singleton.mp
      ((List.perm_ext_iff_of_nodup hnodup (List.nodup_singleton g)).mpr hmem)

end Builtin

namespace Cursor

/-- The first node of the kind on the way up from a node, which can be the node itself. -/
inductive Nearest (kind : Kind) : Cursor t → Cursor t → Prop
  | here {c : Cursor t} (hkind : c.kind = kind) : Nearest kind c c
  | above {c p d : Cursor t} (hkind : c.kind ≠ kind) (hp : c.parent? = some p)
      (hup : Nearest kind p d) : Nearest kind c d

theorem Nearest.kind_eq {kind : Kind} {c d : Cursor t} (h : Nearest kind c d) : d.kind = kind := by
  induction h with
  | here hkind => exact hkind
  | above _ _ _ ih => exact ih

theorem mem_statements_iff {m s : Cursor t} (hkind : m.kind = .methodDecl) :
    s ∈ m.statements ↔
      ∃ body, m.children.find? (·.is .block) = some body ∧ s ∈ body.children := by
  unfold statements
  rw [if_pos (by simp [is, hkind])]
  cases m.children.find? (·.is .block) with
  | none => simp
  | some body => simp

end Cursor

open Cursor

theorem Scope.enclosing_eq_some_iff (s : Scope) (c d : Cursor t) :
    s.enclosing c = some d ↔ Nearest s.kind c d := by
  constructor
  · intro h
    have hup := c.ascent_ancestors
    generalize c.ancestors = above at hup
    induction hup with
    | root c hroot =>
      rw [enclosing_eq, (parent?_eq_none_iff c).mpr hroot] at h
      split at h
      · next hkind =>
        obtain rfl := Option.some.inj h
        exact .here (by simpa [is] using hkind)
      · cases h
    | @parent c p above hp hup ih =>
      rw [enclosing_eq, hp] at h
      split at h
      · next hkind =>
        obtain rfl := Option.some.inj h
        exact .here (by simpa [is] using hkind)
      · next hkind => exact .above (by simpa [is] using hkind) hp (ih h)
  · intro h
    induction h with
    | here hkind => rw [enclosing_eq, if_pos (by simp [is, hkind])]
    | above hkind hp _ ih =>
      rw [enclosing_eq, if_neg (by simp [is, hkind]), hp]
      exact ih

theorem Scope.any_enclosing_eq_false_iff (s : Scope) (c : Cursor t) (p : Cursor t → Bool) :
    (s.enclosing c).any p = false ↔ ∀ d, Nearest s.kind c d → p d = false := by
  rw [← Bool.not_eq_true, Option.any_eq_true]
  simp [← enclosing_eq_some_iff]

namespace InsecureRecovery

variable {r : InsecureRecovery} {m c decl : Cursor t}

/-- A name about recovery. -/
def InScope (r : InsecureRecovery) (name : String) : Prop :=
  r.recovery.matchesIn name = true ∨ r.recoveryNames.occursIn name = true ∨
    r.recoveryMethodNames.occursIn name = true ∨
    (Text.contains (Text.lower name) "generatetoken" = true ∧
      (Text.contains (Text.lower name) "reset" = true ∨
        Text.contains (Text.lower name) "recovery" = true))

/-- A class whose name matches the pattern of secure mechanisms, or that has a member whose text
mentions one. -/
def SecureClass (r : InsecureRecovery) (decl : Cursor t) : Prop :=
  (∃ name, decl.name? = some name ∧ r.secure.matchesIn (Text.splitWords name) = true) ∨
    ∃ child ∈ decl.children, r.mentionsMechanism child.text = true

/-- A statement in the first block of the method mentions a secure mechanism. -/
def SecureBody (r : InsecureRecovery) (m : Cursor t) : Prop :=
  ∃ body, m.children.find? (·.is .block) = some body ∧
    ∃ s ∈ body.children, r.mentionsMechanism s.text = true

/-- A method that is reported. -/
structure WeakMethod (r : InsecureRecovery) (m : Cursor t) : Prop where
  named : ∃ name, m.name? = some name ∧ r.InScope name
  body : ¬ r.SecureBody m
  outside : ∀ decl, Nearest .classDecl m decl → ¬ r.SecureClass decl

/-- A call of a member that is about recovery by the name of the member, or because something
with `email` in its name is told to send or reset. -/
def RecoveryCall (r : InsecureRecovery) (call : MemberCall t) : Prop :=
  r.InScope (Text.lower call.method) ∨
    (Text.contains (Text.lower call.receiver.text) "email" = true ∧
      (Text.contains (Text.lower call.method) "send" = true ∨
        Text.contains (Text.lower call.method) "reset" = true))

/-- A call that is reported. -/
structure WeakCall (r : InsecureRecovery) (c : Cursor t) : Prop where
  member : ∃ call, c.memberCall? = some call ∧ r.RecoveryCall call
  arguments : ∀ a ∈ c.arguments, r.mentionsMechanism a.text = false
  method : ∀ m, Nearest .methodDecl c m → ¬ r.SecureBody m
  outside : ∀ decl, Nearest .classDecl c decl → ¬ r.SecureClass decl

theorem isRecoveryMethod_iff (name : String) :
    r.isRecoveryMethod name = true ↔ r.InScope name := by
  simp [isRecoveryMethod, isRecoveryClass, InScope, or_assoc]

theorem isRecoveryCall_iff (call : MemberCall t) :
    r.isRecoveryCall call = true ↔ r.RecoveryCall call := by
  simp [isRecoveryCall, RecoveryCall, isRecoveryMethod_iff]

theorem isSecureClass_iff (decl : Cursor t) : r.isSecureClass decl = true ↔ r.SecureClass decl := by
  simp [isSecureClass, SecureClass, namesMechanism, Option.any_eq_true]

theorem hasSecureStatement_iff (hkind : m.kind = .methodDecl) :
    r.hasSecureStatement m = true ↔ r.SecureBody m := by
  simp only [hasSecureStatement, List.any_eq_true, mem_statements_iff hkind, SecureBody]
  constructor
  · rintro ⟨s, ⟨body, hbody, hs⟩, hmentions⟩
    exact ⟨body, hbody, s, hs, hmentions⟩
  · rintro ⟨body, hbody, s, hs, hmentions⟩
    exact ⟨s, ⟨body, hbody, hs⟩, hmentions⟩

theorem isInSecureClass_eq_false_iff (c : Cursor t) :
    r.isInSecureClass c = false ↔ ∀ decl, Nearest .classDecl c decl → ¬ r.SecureClass decl := by
  rw [isInSecureClass, Scope.any_enclosing_eq_false_iff]
  refine forall_congr' fun decl => forall_congr' fun _ => ?_
  rw [← Bool.not_eq_true, isSecureClass_iff]

theorem isInSecureMethod_eq_false_iff (c : Cursor t) :
    r.isInSecureMethod c = false ↔ ∀ m, Nearest .methodDecl c m → ¬ r.SecureBody m := by
  rw [isInSecureMethod, Scope.any_enclosing_eq_false_iff]
  refine forall_congr' fun m => forall_congr' fun hm => ?_
  rw [← Bool.not_eq_true, hasSecureStatement_iff hm.kind_eq]

theorem isSome_finding?_of_methodDecl (hkind : m.kind = .methodDecl) :
    (r.finding? m).isSome = true ↔ r.WeakMethod m := by
  simp only [finding?, hkind, Option.isSome_map, Option.isSome_filter, Option.any_eq_true,
    isWeakMethod, Bool.and_eq_true, Bool.not_eq_true', isInSecureClass_eq_false_iff,
    isRecoveryMethod_iff, ← Bool.not_eq_true (r.hasSecureStatement m), hasSecureStatement_iff hkind]
  constructor
  · rintro ⟨name, hname, ⟨hscope, hbody⟩, hclass⟩
    exact ⟨⟨name, hname, hscope⟩, hbody, hclass⟩
  · rintro ⟨⟨name, hname, hscope⟩, hbody, hclass⟩
    exact ⟨name, hname, ⟨hscope, hbody⟩, hclass⟩

theorem isSome_finding?_of_functionCall (hkind : c.kind = .functionCall) :
    (r.finding? c).isSome = true ↔ r.WeakCall c := by
  have harguments : r.hasSecureArgument c = false ↔
      ∀ a ∈ c.arguments, r.mentionsMechanism a.text = false := by
    simp [hasSecureArgument]
  simp only [finding?, hkind, Option.isSome_map, Option.isSome_filter, Option.any_eq_true,
    isWeakCall, Bool.and_eq_true, Bool.not_eq_true', isInSecureClass_eq_false_iff,
    isInSecureMethod_eq_false_iff, isRecoveryCall_iff, harguments]
  constructor
  · rintro ⟨call, hcall, ⟨⟨hrecovery, harguments⟩, hmethod⟩, hclass⟩
    exact ⟨⟨call, hcall, hrecovery⟩, harguments, hmethod, hclass⟩
  · rintro ⟨⟨call, hcall, hrecovery⟩, harguments, hmethod, hclass⟩
    exact ⟨call, hcall, ⟨⟨hrecovery, harguments⟩, hmethod⟩, hclass⟩

theorem finding?_eq_none (hkind : c.kind ∉ kinds) : r.finding? c = none := by
  unfold finding?
  split
  · next h => simp [h, kinds] at hkind
  · next h => simp [h, kinds] at hkind
  · next h => simp [h, kinds] at hkind
  · rfl

/-- The findings of the rule on a node, among all findings of a scan. -/
def reportsOn (c : Cursor t) (raw : List Finding) : List Finding :=
  raw.filter fun f => f.ruleId = info.id ∧ f.anchor = c.id

variable {settings : InsecureRecoverySettings} {raw : List Finding}

theorem reportsOn_eq (h : ofSettings settings = .ok r)
    (hraw : Builtin.insecureRecovery.Scans settings t raw) (c : Cursor t) :
    reportsOn c raw = (r.finding? c).toList := by
  have hrule : Builtin.insecureRecovery.compile settings = .ok r.rule :=
    (map_eq_ok_iff _ _ _).mpr ⟨r, h, rfl⟩
  refine hraw.filter_anchor hrule (fun c => ?_) (fun c f hf => ?_) (fun c => finding?_eq_none) c
  · rw [Rule.findings, eval_rule_visit]
    rfl
  · obtain ⟨_, hreports⟩ := reports_of_finding? hf
    exact hreports.anchor

theorem reportsOn_ne_nil_iff (h : ofSettings settings = .ok r)
    (hraw : Builtin.insecureRecovery.Scans settings t raw) (c : Cursor t) :
    reportsOn c raw ≠ [] ↔ (r.finding? c).isSome = true := by
  rw [reportsOn_eq h hraw]
  cases r.finding? c with
  | none => simp
  | some f => simp

/-- Nothing is reported on the methods and calls whose nearest class is secure. -/
theorem reportsOn_eq_nil (h : ofSettings settings = .ok r)
    (hraw : Builtin.insecureRecovery.Scans settings t raw) (hsecure : r.SecureClass decl)
    (hnearest : Nearest .classDecl c decl)
    (hkind : c.kind = .methodDecl ∨ c.kind = .functionCall) : reportsOn c raw = [] := by
  by_contra hreported
  rw [← Ne, reportsOn_ne_nil_iff h hraw] at hreported
  rcases hkind with hkind | hkind
  · exact ((isSome_finding?_of_methodDecl hkind).mp hreported).outside decl hnearest hsecure
  · exact ((isSome_finding?_of_functionCall hkind).mp hreported).outside decl hnearest hsecure

/-- In a scan with any rules besides, a method is reported exactly if it is weak, and so is a call;
no node is reported twice. So nothing is reported whose nearest class is secure. -/
theorem reported_iff_weak (h : ofSettings settings = .ok r)
    (hraw : Builtin.insecureRecovery.Scans settings t raw) :
    (∀ m : Cursor t, m.kind = .methodDecl → (reportsOn m raw ≠ [] ↔ r.WeakMethod m)) ∧
    (∀ c : Cursor t, c.kind = .functionCall → (reportsOn c raw ≠ [] ↔ r.WeakCall c)) ∧
    (∀ c : Cursor t, (reportsOn c raw).length ≤ 1) ∧
    ∀ decl : Cursor t, r.SecureClass decl → ∀ c, Nearest .classDecl c decl →
      c.kind = .methodDecl ∨ c.kind = .functionCall → reportsOn c raw = [] := by
  refine ⟨?_, ?_, ?_, ?_⟩
  · intro m hkind
    rw [reportsOn_ne_nil_iff h hraw, isSome_finding?_of_methodDecl hkind]
  · intro c hkind
    rw [reportsOn_ne_nil_iff h hraw, isSome_finding?_of_functionCall hkind]
  · intro c
    rw [reportsOn_eq h hraw]
    cases r.finding? c with
    | none => exact Nat.zero_le 1
    | some f => exact Nat.le_refl 1
  · intro decl hsecure c hnearest hkind
    exact reportsOn_eq_nil h hraw hsecure hnearest hkind

/-- A class with a method that checks a second factor, a method that sends a link, and a class in
which another method does so. -/
def recoveryTree : SyntaxTree where
  table := {
    language := .java
    root := 25
    nodes := #[
      { kind := .identifier, text := "totp", name := some "totp" },
      { kind := .identifier, text := "code", name := some "code" },
      { kind := .identifier, text := "verify", name := some "verify" },
      { kind := .memberAccess, text := "totp.verify", children := [0, 2] },
      { kind := .functionCall, text := "totp.verify(code)", children := [3, 1] },
      { kind := .statement, text := "totp.verify(code);", children := [4] },
      { kind := .block, text := "\x7b totp.verify(code); \x7d", children := [5] },
      { kind := .methodDecl, text := "check() \x7b totp.verify(code); \x7d", name := some "check",
        children := [6] },
      { kind := .identifier, text := "emailService", name := some "emailService" },
      { kind := .identifier, text := "link", name := some "link" },
      { kind := .identifier, text := "send", name := some "send" },
      { kind := .memberAccess, text := "emailService.send", children := [8, 10] },
      { kind := .functionCall, text := "emailService.send(link)", children := [11, 9] },
      { kind := .statement, text := "emailService.send(link);", children := [12] },
      { kind := .block, text := "\x7b emailService.send(link); \x7d", children := [13] },
      { kind := .methodDecl, text := "resetPin() \x7b emailService.send(link); \x7d",
        name := some "resetPin", children := [14] },
      { kind := .identifier, text := "emailService", name := some "emailService" },
      { kind := .identifier, text := "link", name := some "link" },
      { kind := .identifier, text := "send", name := some "send" },
      { kind := .memberAccess, text := "emailService.send", children := [16, 18] },
      { kind := .functionCall, text := "emailService.send(link)", children := [19, 17] },
      { kind := .statement, text := "emailService.send(link);", children := [20] },
      { kind := .block, text := "\x7b emailService.send(link); \x7d", children := [21] },
      { kind := .methodDecl, text := "resetCode() \x7b emailService.send(link); \x7d",
        name := some "resetCode", children := [22] },
      { kind := .classDecl,
        text := "class Legacy \x7b resetCode() \x7b emailService.send(link); \x7d \x7d",
        name := some "Legacy", children := [23] },
      { kind := .classDecl,
        text := "class Accounts \x7b check() \x7b totp.verify(code); \x7d " ++
          "resetPin() \x7b emailService.send(link); \x7d class Legacy \x7b " ++
          "resetCode() \x7b emailService.send(link); \x7d \x7d \x7d",
        name := some "Accounts", children := [7, 15, 24] }] }
  parents := #[some 3, some 4, some 3, some 4, some 5, some 6, some 7, some 25, some 11, some 12,
    some 11, some 12, some 13, some 14, some 15, some 25, some 19, some 20, some 19, some 20,
    some 21, some 22, some 23, some 24, some 25, none]
  linked := by cbv

/-- The node at a position of the tree. -/
def recoveryNode (id : NodeId) (h : id < 26) : Cursor recoveryTree :=
  ⟨id, h⟩

/-- The outer class is the nearest one to its own method and to the call in it. -/
theorem nearest_recoveryNode :
    Nearest .classDecl (recoveryNode 15 (by decide)) (recoveryNode 25 (by decide)) ∧
      Nearest .classDecl (recoveryNode 12 (by decide)) (recoveryNode 25 (by decide)) := by
  have hmethod : Nearest .classDecl (recoveryNode 15 (by decide)) (recoveryNode 25 (by decide)) :=
    .above (by decide) rfl (.here rfl)
  exact ⟨hmethod,
    .above (by decide) rfl (.above (by decide) rfl (.above (by decide) rfl hmethod))⟩

/-- A method and a call are reported in the inner class. The like are passed over in the outer one,
which has a method that checks a second factor. -/
theorem recoveryTree_reports : ∃ r s,
    ofSettings wordConfig.rules.insecureRecovery = .ok r ∧ Scanner.ofConfig wordConfig = .ok s ∧
    reportsOn (recoveryNode 23 (by decide)) (s.engine.scan recoveryTree).findings ≠ [] ∧
    reportsOn (recoveryNode 20 (by decide)) (s.engine.scan recoveryTree).findings ≠ [] ∧
    reportsOn (recoveryNode 15 (by decide)) (s.engine.scan recoveryTree).findings = [] ∧
    reportsOn (recoveryNode 12 (by decide)) (s.engine.scan recoveryTree).findings = [] := by
  obtain ⟨s, hs, _⟩ := Scanner.exists_ofConfig_word
  have hrule : ((ofSettings wordConfig.rules.insecureRecovery).toOption.map fun r =>
      ((r.finding? (recoveryNode 23 (by decide))).isSome,
        (r.finding? (recoveryNode 20 (by decide))).isSome,
        r.isSecureClass (recoveryNode 25 (by decide)))) = some (true, true, true) := by
    decide +kernel
  obtain ⟨r, hr, hweak⟩ := Option.map_eq_some_iff.mp hrule
  have hr := eq_ok_of_toOption hr
  simp only [Prod.mk.injEq] at hweak
  obtain ⟨hmethod, hcall, hsecure⟩ := hweak
  obtain ⟨hmethods, hcalls, _, hpassed⟩ := reported_iff_weak hr (.scanner hs rfl rfl)
  have hpassed := hpassed (recoveryNode 25 (by decide)) ((isSecureClass_iff _).mp hsecure)
  obtain ⟨houter, hinside⟩ := nearest_recoveryNode
  refine ⟨r, s, hr, hs, ?_, ?_, ?_, ?_⟩
  · exact (hmethods _ rfl).mpr ((isSome_finding?_of_methodDecl rfl).mp hmethod)
  · exact (hcalls _ rfl).mpr ((isSome_finding?_of_functionCall rfl).mp hcall)
  · exact hpassed _ houter (.inl rfl)
  · exact hpassed _ hinside (.inr rfl)

end InsecureRecovery

end SecurityLint
