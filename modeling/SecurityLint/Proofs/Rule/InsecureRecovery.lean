import SecurityLint.Proofs.Counterparts
import SecurityLint.Rule.InsecureRecovery

/-!
What insecure recovery reports. With each question answered by walking up, a visit is a plain
choice: at most one finding about a class, a method or a call, with a field of the class as
evidence. No visit fails. The classes and methods around counterparts are counterparts, so the rule
is uniform.
-/
namespace SecurityLint.InsecureRecovery

variable {t : SyntaxTree} {r : InsecureRecovery} {c : Cursor t} {f : Finding}

/-- Whether the class around a node is secure, found by walking up. -/
def isInSecureClass (r : InsecureRecovery) (c : Cursor t) : Bool :=
  (Scope.ofClass.enclosing c).any r.isSecureClass

/-- Whether the method around a node has a secure statement, found by walking up. -/
def isInSecureMethod (r : InsecureRecovery) (c : Cursor t) : Bool :=
  (Scope.ofMethod.enclosing c).any r.hasSecureStatement

/-- Whether a method of this name is about recovery and nothing in it or its class is secure. -/
def isWeakMethod (r : InsecureRecovery) (c : Cursor t) (name : String) : Bool :=
  r.isRecoveryMethod name && !r.hasSecureStatement c && !r.isInSecureClass c

def hasSecureArgument (r : InsecureRecovery) (c : Cursor t) : Bool :=
  c.arguments.any fun a => r.mentionsMechanism a.text

/-- Whether a call is about recovery and nothing in it, its method or its class is secure. -/
def isWeakCall (r : InsecureRecovery) (c : Cursor t) (call : MemberCall t) : Bool :=
  r.isRecoveryCall call && !r.hasSecureArgument c && !r.isInSecureMethod c
    && !r.isInSecureClass c

/-- The finding about a node. -/
def finding? (r : InsecureRecovery) (c : Cursor t) : Option Finding :=
  match c.kind with
  | .classDecl => r.checkClass c
  | .methodDecl => (c.name?.filter (r.isWeakMethod c)).map (r.methodFinding c)
  | .functionCall => (c.memberCall?.filter (r.isWeakCall c)).map callFinding
  | _ => none

theorem eval_bind_inSecureClass {α : Type} (r : InsecureRecovery) (c : Cursor t)
    (next : Bool → Inquiry t α) :
    (r.inSecureClass c >>= next).eval = (next (r.isInSecureClass c)).eval :=
  rfl

theorem eval_bind_inSecureMethod {α : Type} (r : InsecureRecovery) (c : Cursor t)
    (next : Bool → Inquiry t α) :
    (r.inSecureMethod c >>= next).eval = (next (r.isInSecureMethod c)).eval :=
  rfl

theorem eval_checkMethod (r : InsecureRecovery) (c : Cursor t) :
    (r.checkMethod c).eval = .ok ((c.name?.filter (r.isWeakMethod c)).map (r.methodFinding c)) := by
  unfold checkMethod
  cases c.name? with
  | none => rfl
  | some name =>
    simp only [Inquiry.eval_ite, Inquiry.eval_pure, eval_bind_inSecureClass, Option.filter_some,
      isWeakMethod]
    by_cases hname : r.isRecoveryMethod name <;> by_cases hstatement : r.hasSecureStatement c <;>
      by_cases hclass : r.isInSecureClass c <;> simp [hname, hstatement, hclass]

theorem eval_checkCall (r : InsecureRecovery) (c : Cursor t) :
    (r.checkCall c).eval = .ok ((c.memberCall?.filter (r.isWeakCall c)).map callFinding) := by
  unfold checkCall
  cases c.memberCall? with
  | none => rfl
  | some call =>
    have hany : (c.arguments.any fun a => r.mentionsMechanism a.text) = r.hasSecureArgument c := rfl
    simp only [hany, Inquiry.eval_ite, Inquiry.eval_pure, eval_bind_inSecureClass,
      eval_bind_inSecureMethod, Option.filter_some, isWeakCall]
    by_cases hcall : r.isRecoveryCall call <;> by_cases hargument : r.hasSecureArgument c <;>
      by_cases hmethod : r.isInSecureMethod c <;> by_cases hclass : r.isInSecureClass c <;>
      simp [hcall, hargument, hmethod, hclass]

theorem eval_visit (r : InsecureRecovery) (c : Cursor t) :
    (r.visit c).eval = .ok (r.finding? c) := by
  unfold visit finding?
  cases c.kind with
  | methodDecl => exact r.eval_checkMethod c
  | functionCall => exact r.eval_checkCall c
  | _ => rfl

theorem eval_rule_visit (r : InsecureRecovery) (c : Cursor t) :
    (r.rule.visit t c).eval = .ok (r.finding? c).toList := by
  change (r.visit c >>= fun found => pure found.toList).eval = _
  rw [Inquiry.eval_bind, eval_visit]
  rfl

theorem reports_of_checkClass (h : r.checkClass c = some f) :
    ∃ text, f.Reports info c text c.children := by
  simp only [checkClass, Option.bind_eq_bind, Option.bind_none, Option.bind_eq_some_iff,
    Option.ite_none_left_eq_some, Option.pure_def, Option.some.injEq] at h
  obtain ⟨name, _, _, question, hquestion, _, rfl⟩ := h
  have hfield : question ∈ c.children :=
    (List.mem_filter.mp (List.mem_of_find?_eq_some hquestion)).1
  exact ⟨_, ((Finding.reports_new info c _ _).withEvidence _ hfield).withRemediation _⟩

theorem reports_methodFinding (r : InsecureRecovery) (c : Cursor t) (name : String) :
    ∃ text, (r.methodFinding c name).Reports info c text c.children :=
  ⟨_, (((Finding.reports_new info c _ _).withSeverity _).withConfidence _).withRemediation _⟩

theorem reports_callFinding (call : MemberCall t) :
    ∃ text, (callFinding call).Reports info call.call text call.call.children :=
  ⟨_, (((Finding.reports_new info _ _ _).withSeverity _).withConfidence _).withRemediation _⟩

theorem reports_of_finding? (h : r.finding? c = some f) :
    ∃ text, f.Reports info c text c.children := by
  unfold finding? at h
  split at h
  · exact reports_of_checkClass h
  · obtain ⟨name, _, rfl⟩ := Option.map_eq_some_iff.mp h
    exact r.reports_methodFinding c name
  · obtain ⟨call, hcall, rfl⟩ := Option.map_eq_some_iff.mp h
    have hmember := (Option.filter_eq_some_iff.mp hcall).1
    rw [← Cursor.call_of_memberCall? hmember]
    exact reports_callFinding call
  · cases h

theorem lawful (r : InsecureRecovery) : r.rule.Lawful :=
  Rule.lawful_of_single r.finding? r.eval_rule_visit fun _ _ h => reports_of_finding? h

/-- Questions about the declarations around a node are asked of methods and calls only. -/
theorem visit_eq_pure_none (h : c.kind ∉ kinds) : r.visit c = pure none := by
  unfold visit
  split
  · next hkind => simp [hkind, kinds] at h
  · next hkind => simp [hkind, kinds] at h
  · next hkind => simp [hkind, kinds] at h
  · rfl

theorem selective (r : InsecureRecovery) : r.rule.Selective := by
  intro t c hkind
  change (r.visit c >>= fun found => pure found.toList) = pure []
  rw [visit_eq_pure_none hkind]
  rfl

section Uniform

variable {u : SyntaxTree} {R : Cursor t → Cursor u → Prop} {d : Cursor u}

theorem isSecureClass_eq (r : InsecureRecovery) (h : Counterparts R) (hcd : R c d) :
    r.isSecureClass d = r.isSecureClass c := by
  have hmembers := any_eq_of_forall₂ (p := fun m => r.mentionsMechanism m.text)
    (q := fun m => r.mentionsMechanism m.text) (h.children hcd) fun hab => by rw [h.text hab]
  rw [isSecureClass, isSecureClass, h.name? hcd, hmembers]

theorem hasSecureStatement_eq (r : InsecureRecovery) (h : Counterparts R) (hcd : R c d) :
    r.hasSecureStatement d = r.hasSecureStatement c :=
  any_eq_of_forall₂ (h.statements hcd) fun hab => by rw [h.text hab]

theorem hasSecureArgument_eq (r : InsecureRecovery) (h : Counterparts R) (hcd : R c d) :
    r.hasSecureArgument d = r.hasSecureArgument c :=
  any_eq_of_forall₂ (h.arguments hcd) fun hab => by rw [h.text hab]

theorem isInSecureClass_eq (r : InsecureRecovery) (h : Counterparts R) (hcd : R c d) :
    r.isInSecureClass d = r.isInSecureClass c :=
  any_eq_of_rel (h.enclosing .ofClass hcd) fun hab => r.isSecureClass_eq h hab

theorem isInSecureMethod_eq (r : InsecureRecovery) (h : Counterparts R) (hcd : R c d) :
    r.isInSecureMethod d = r.isInSecureMethod c :=
  any_eq_of_rel (h.enclosing .ofMethod hcd) fun hab => r.hasSecureStatement_eq h hab

theorem isWeakMethod_eq (r : InsecureRecovery) (h : Counterparts R) (hcd : R c d)
    (name : String) : r.isWeakMethod d name = r.isWeakMethod c name := by
  rw [isWeakMethod, isWeakMethod, r.hasSecureStatement_eq h hcd, r.isInSecureClass_eq h hcd]

theorem isWeakCall_eq (r : InsecureRecovery) (h : Counterparts R) (hcd : R c d)
    {call : MemberCall t} {call' : MemberCall u} (hcall : MemberCall.Like R call call') :
    r.isWeakCall d call' = r.isWeakCall c call := by
  have hrecovery : r.isRecoveryCall call' = r.isRecoveryCall call := by
    simp only [isRecoveryCall, hcall.method, h.text hcall.receiver]
  rw [isWeakCall, isWeakCall, hrecovery, r.hasSecureArgument_eq h hcd,
    r.isInSecureMethod_eq h hcd, r.isInSecureClass_eq h hcd]

theorem like_checkClass (r : InsecureRecovery) (h : Counterparts R) (hcd : R c d) :
    Option.Rel (Finding.Like R) (r.checkClass c) (r.checkClass d) := by
  have hfields : List.Forall₂ R (c.children.filter (·.is .fieldDecl))
      (d.children.filter (·.is .fieldDecl)) :=
    List.rel_filter (fun _ _ hab => by simp only [h.is hab]) (h.children hcd)
  have hsecure := any_eq_of_forall₂ (p := fun f => r.namesMechanism f.nameOrText)
    (q := fun f => r.namesMechanism f.nameOrText) hfields fun hab => by rw [h.nameOrText hab]
  simp only [checkClass, Option.bind_eq_bind, Option.bind_none, h.name? hcd]
  cases c.name? with
  | none => exact .none
  | some name =>
    simp only [Option.bind_some, hsecure]
    split
    · exact .none
    · refine rel_bind (rel_find? hfields fun hab => by rw [h.nameOrText hab]) fun hquestion => ?_
      split
      · exact .none
      · rw [h.nameOrText hquestion]
        exact .some (((Finding.like_new h hcd info _).withEvidence _ hquestion).withRemediation _)

theorem like_methodFinding (r : InsecureRecovery) (h : Counterparts R) (hcd : R c d)
    (name : String) : Finding.Like R (r.methodFinding c name) (r.methodFinding d name) :=
  (((Finding.like_new h hcd info _).withSeverity _).withConfidence _).withRemediation _

theorem like_callFinding (h : Counterparts R) {call : MemberCall t} {call' : MemberCall u}
    (hcall : MemberCall.Like R call call') :
    Finding.Like R (callFinding call) (callFinding call') := by
  rw [callFinding, callFinding, hcall.method]
  exact (((Finding.like_new h hcall.call info _).withSeverity _).withConfidence _).withRemediation _

theorem like_finding? (r : InsecureRecovery) (h : Counterparts R) (hcd : R c d) :
    Option.Rel (Finding.Like R) (r.finding? c) (r.finding? d) := by
  rw [finding?, finding?, h.kind hcd]
  split
  · exact r.like_checkClass h hcd
  · have hname : Option.Rel Eq c.name? d.name? := by
      rw [h.name? hcd]
      cases c.name? with
      | none => exact .none
      | some name => exact .some rfl
    refine rel_map (rel_filter hname ?_) ?_
    · rintro name _ rfl
      exact r.isWeakMethod_eq h hcd name
    · rintro name _ rfl
      exact r.like_methodFinding h hcd name
  · exact rel_map (rel_filter (h.memberCall? hcd) (r.isWeakCall_eq h hcd)) (like_callFinding h)
  · exact .none

end Uniform

theorem uniform (r : InsecureRecovery) : r.rule.Uniform := by
  intro t u R h c d hcd
  rw [Rule.findings, Rule.findings, eval_rule_visit, eval_rule_visit]
  exact rel_toList (r.like_finding? h hcd)

end SecurityLint.InsecureRecovery
