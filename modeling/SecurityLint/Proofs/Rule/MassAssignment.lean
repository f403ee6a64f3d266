import SecurityLint.Proofs.Counterparts
import SecurityLint.Rule.MassAssignment

/-!
What mass assignment reports: at most one finding on a call, about the call itself, with the first
argument as evidence. It looks at the call and its first argument only, and so it is uniform.
-/
namespace SecurityLint.MassAssignment

variable {t : SyntaxTree} {r : MassAssignment} {c : Cursor t} {f : Finding}

theorem eval_visit (r : MassAssignment) (c : Cursor t) :
    (r.rule.visit t c).eval = .ok (r.visit c).toList :=
  rfl

theorem reports_of_checkCall {method : String} {first : Cursor t} (hfirst : first ∈ c.children)
    (h : r.checkCall c method first = some f) : ∃ text, f.Reports info c text c.children := by
  simp only [checkCall, Option.bind_eq_bind, Option.bind_none, Option.bind_eq_some_iff,
    Option.ite_none_left_eq_some, Option.pure_def, Option.some.injEq] at h
  obtain ⟨inner, _, _, rfl⟩ := h
  exact ⟨_, ((Finding.reports_new info c _ _).withEvidence _ hfirst).withRemediation _⟩

theorem reports_of_checkVariable {method : String} {first : Cursor t}
    (h : r.checkVariable c method first = some f) : ∃ text, f.Reports info c text c.children := by
  simp only [checkVariable, Option.ite_none_right_eq_some, Option.some.injEq] at h
  obtain ⟨_, rfl⟩ := h
  exact ⟨_, (((Finding.reports_new info c _ _).withSeverity _).withConfidence _).withRemediation _⟩

theorem reports_of_visit (h : r.visit c = some f) :
    ∃ text, f.Reports info c text c.children := by
  simp only [visit, Option.bind_eq_bind, Option.bind_none, Option.bind_eq_some_iff,
    Option.ite_none_left_eq_some] at h
  obtain ⟨outer, _, _, first, hfirst, hcheck⟩ := h
  split at hcheck
  · exact reports_of_checkCall (Cursor.mem_children_of_firstArgument? hfirst) hcheck
  · exact reports_of_checkVariable hcheck
  · cases hcheck

theorem lawful (r : MassAssignment) : r.rule.Lawful :=
  Rule.lawful_of_single r.visit r.eval_visit fun _ _ h => reports_of_visit h

/-- Only calls are calls of members. -/
theorem visit_eq_none (h : c.kind ∉ kinds) : r.visit c = none := by
  have hkind : c.kind ≠ .functionCall := by simpa [kinds] using h
  rw [visit, Cursor.memberCall?_of_kind_ne hkind]
  rfl

theorem selective (r : MassAssignment) : r.rule.Selective :=
  fun _ hkind => congrArg (fun found => pure found.toList) (visit_eq_none hkind)

section Uniform

variable {u : SyntaxTree} {R : Cursor t → Cursor u → Prop} {d : Cursor u} {first : Cursor t}
  {first' : Cursor u}

theorem like_checkCall (r : MassAssignment) (h : Counterparts R) (hcd : R c d)
    (hfirst : R first first') (method : String) :
    Option.Rel (Finding.Like R) (r.checkCall c method first) (r.checkCall d method first') := by
  simp only [checkCall, Option.bind_eq_bind, Option.bind_none]
  refine rel_bind (h.memberCall? hfirst) fun hinner => ?_
  rw [hinner.method]
  split
  · exact .none
  · exact .some (((Finding.like_new h hcd info _).withEvidence _ hfirst).withRemediation _)

theorem like_checkVariable (r : MassAssignment) (h : Counterparts R) (hcd : R c d)
    (hfirst : R first first') (method : String) :
    Option.Rel (Finding.Like R) (r.checkVariable c method first)
      (r.checkVariable d method first') := by
  simp only [checkVariable, h.nameOrText hfirst]
  split
  · exact .some (((Finding.like_new h hcd info _).withSeverity _).withConfidence _
      |>.withRemediation _)
  · exact .none

theorem like_visit (r : MassAssignment) (h : Counterparts R) (hcd : R c d) :
    Option.Rel (Finding.Like R) (r.visit c) (r.visit d) := by
  simp only [visit, Option.bind_eq_bind, Option.bind_none]
  refine rel_bind (h.memberCall? hcd) fun houter => ?_
  rw [houter.method]
  split
  · exact .none
  · refine rel_bind (h.firstArgument? hcd) fun hfirst => ?_
    rw [h.kind hfirst]
    split
    · exact r.like_checkCall h hcd hfirst _
    · exact r.like_checkVariable h hcd hfirst _
    · exact .none

end Uniform

theorem uniform (r : MassAssignment) : r.rule.Uniform :=
  fun h _ _ hcd => rel_toList (r.like_visit h hcd)

end SecurityLint.MassAssignment
