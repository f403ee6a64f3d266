import SecurityLint.Proofs.Counterparts
import SecurityLint.Rule.UnsafeMarkup

/-!
What unsafe markup reports: on a call, findings about its arguments; on any other node, findings
about the node itself. The two have messages that begin differently, and so do the two findings
that one argument or assignment can have. All of it is read off texts, so the rule is uniform.
-/
namespace SecurityLint.UnsafeMarkup

variable {t : SyntaxTree} {r : UnsafeMarkup} {c : Cursor t} {f : Finding}

/-- The rule can be made from settings if both patterns and the names of the sanitizers compile. -/
theorem ofSettings_eq_ok_iff (x : UnsafeMarkupSettings) (r : UnsafeMarkup) :
    ofSettings x = .ok r ↔ ∃ svg dangerous sanitizers,
      NamePattern.compile? x.svgPattern = some svg ∧
      NamePattern.compile? x.dangerousSvgPattern = some dangerous ∧
      SanitizerSet.compile? x.sanitizers = some sanitizers ∧
      r = {
        svg
        dangerous
        outputMethods := .ofList (x.unsafeOutputMethods ++ x.renderMethods)
        sanitizers
        userInput := .ofList x.userInputHints
        markupTargets := .ofList x.markupTargets
        dynamicMarkers := .ofList x.dynamicContentMarkers } := by
  constructor
  · intro h
    unfold ofSettings at h
    split at h
    · next svg hsvg =>
      split at h
      · next dangerous hdangerous =>
        split at h
        · next sanitizers hsanitizers =>
          exact ⟨svg, dangerous, sanitizers, hsvg, hdangerous, hsanitizers,
            (Except.ok.inj h).symm⟩
        · cases h
      · cases h
    · cases h
  · rintro ⟨svg, dangerous, sanitizers, hsvg, hdangerous, hsanitizers, rfl⟩
    simp only [ofSettings, hsvg, hdangerous, hsanitizers]
    rfl

theorem eval_visit (r : UnsafeMarkup) (c : Cursor t) :
    (r.rule.visit t c).eval = .ok (r.visit c) :=
  rfl

/-- How messages about arguments of calls begin. -/
def argumentLeads : List String :=
  ["Potentially", "SVG", "User"]

/-- How messages about other nodes begin. -/
def nodeLeads : List String :=
  ["Assignment", "Inline", "Dynamic", "Unescaped", "Echo"]

theorem argumentLeads_clash_nodeLeads : Text.clash argumentLeads nodeLeads = true := by
  decide +kernel

/-- The findings are all about `c`, begin with one of the leads and differ from each other. -/
structure Concerns (found : List Finding) (c : Cursor t) (leads : List String) : Prop where
  reports : ∀ f ∈ found, ∃ text, f.Reports info c text [] ∧ Text.opensWith leads text = true
  differ : found.Pairwise Finding.Differs

theorem concerns_nil (c : Cursor t) (leads : List String) : Concerns [] c leads where
  reports _ hf := absurd hf List.not_mem_nil
  differ := .nil

theorem Concerns.append {found more : List Finding} {leads : List String}
    (h : Concerns found c leads) (h' : Concerns more c leads)
    (hdiffer : ∀ f ∈ found, ∀ g ∈ more, f.Differs g) : Concerns (found ++ more) c leads where
  reports f hf := (List.mem_append.mp hf).elim (h.reports f) (h'.reports f)
  differ := List.pairwise_append.mpr ⟨h.differ, h'.differ, hdiffer⟩

theorem concerns_ite {leads : List String} {text : String} (isFound : Prop) [Decidable isFound]
    (hf : f.Reports info c text []) (hopens : Text.opensWith leads text = true) :
    Concerns (if isFound then [f] else []) c leads := by
  split
  · refine { reports := ?_, differ := List.pairwise_singleton _ _ }
    intro g hg
    rw [List.mem_singleton.mp hg]
    exact ⟨text, hf, hopens⟩
  · exact concerns_nil c leads

theorem reports_inputFinding (c : Cursor t) (text : String) :
    (inputFinding c text).Reports info c text [] :=
  (Finding.reports_new info c text []).withRemediation _

theorem reports_svgFinding (r : UnsafeMarkup) (c : Cursor t) (content dangerous plain : String) :
    ∃ text, (text = dangerous ∨ text = plain) ∧
      (r.svgFinding c content dangerous plain).Reports info c text [] := by
  unfold svgFinding
  split
  · exact ⟨dangerous, .inl rfl,
      ((Finding.reports_new info c _ []).withSeverity _).withRemediation _⟩
  · exact ⟨plain, .inr rfl, (Finding.reports_new info c _ []).withRemediation _⟩

section

variable {leads : List String} {dangerous plain input : String}

theorem concerns_svg (r : UnsafeMarkup) (c : Cursor t) (content : String) (isSvg : Prop)
    [Decidable isSvg] (hdangerous : Text.opensWith leads dangerous = true)
    (hplain : Text.opensWith leads plain = true) :
    Concerns (if isSvg then [r.svgFinding c content dangerous plain] else []) c leads := by
  obtain ⟨text, htext, hreports⟩ := r.reports_svgFinding c content dangerous plain
  apply concerns_ite isSvg hreports
  rcases htext with rfl | rfl
  · exact hdangerous
  · exact hplain

/-- Findings about SVG content and about user input concern one node, if the second message is
none of the first. -/
theorem concerns_svg_input (r : UnsafeMarkup) (c : Cursor t) (content : String)
    (isSvg isInput : Prop) [Decidable isSvg] [Decidable isInput]
    (hdangerous : Text.opensWith leads dangerous = true)
    (hplain : Text.opensWith leads plain = true) (hinput : Text.opensWith leads input = true)
    (hne : dangerous ≠ input) (hne' : plain ≠ input) :
    Concerns ((if isSvg then [r.svgFinding c content dangerous plain] else []) ++
      (if isInput then [inputFinding c input] else [])) c leads := by
  apply (r.concerns_svg c content isSvg hdangerous hplain).append
    (concerns_ite isInput (reports_inputFinding c input) hinput)
  intro f hf g hg
  rw [List.mem_singleton.mp (List.mem_ite_nil_right.mp hf).2,
    List.mem_singleton.mp (List.mem_ite_nil_right.mp hg).2]
  obtain ⟨text, htext, hreports⟩ := r.reports_svgFinding c content dangerous plain
  apply hreports.differs_of_message_ne (reports_inputFinding c input)
  rcases htext with rfl | rfl
  · exact hne
  · exact hne'

end

theorem concerns_checkArgument (r : UnsafeMarkup) (name : String) (arg : Cursor t) :
    Concerns (r.checkArgument name arg) arg argumentLeads := by
  apply concerns_svg_input
  · exact Text.opensWith_filled (by decide +kernel) _ _ _
  · exact Text.opensWith_filled (by decide +kernel) _ _ _
  · exact Text.opensWith_filled (by decide +kernel) _ _ _
  · have hclash : Text.clash ["P"] ["U"] = true := by decide +kernel
    exact Text.ne_of_clash hclash (Text.opensWith_filled (by decide +kernel) _ _ _)
      (Text.opensWith_filled (by decide +kernel) _ _ _)
  · have hclash : Text.clash ["S"] ["U"] = true := by decide +kernel
    exact Text.ne_of_clash hclash (Text.opensWith_filled (by decide +kernel) _ _ _)
      (Text.opensWith_filled (by decide +kernel) _ _ _)

theorem concerns_checkValue (r : UnsafeMarkup) (c : Cursor t) (target : String)
    (value : Cursor t) : Concerns (r.checkValue c target value) c nodeLeads := by
  have hlead : Text.opensWith nodeLeads "Assignment to " = true := by decide +kernel
  have hclash : Text.clash [" contains"] [" with"] = true := by decide +kernel
  apply concerns_svg_input
  · exact Text.opensWith_filled hlead _ _ _
  · exact Text.opensWith_filled hlead _ _ _
  · exact Text.opensWith_filled hlead _ _ _
  · exact Text.append_append_ne_of_clash hclash (by decide +kernel) (by decide +kernel) _ _ _
  · exact Text.append_append_ne_of_clash hclash (by decide +kernel) (by decide +kernel) _ _ _

theorem concerns_checkAssignment (r : UnsafeMarkup) (c : Cursor t) :
    Concerns (r.checkAssignment c) c nodeLeads := by
  unfold checkAssignment
  split
  · dsimp only
    split
    · exact r.concerns_checkValue c _ _
    · exact concerns_nil c nodeLeads
  · exact concerns_nil c nodeLeads

theorem concerns_checkInlineMarkup (r : UnsafeMarkup) (c : Cursor t) :
    Concerns (r.checkInlineMarkup c) c nodeLeads :=
  r.concerns_svg c _ _ (Text.opensWith_append (by decide +kernel) _) (by decide +kernel)

theorem concerns_checkEcho (r : UnsafeMarkup) (c : Cursor t) :
    Concerns (r.checkEcho c) c nodeLeads :=
  r.concerns_svg c _ _ (Text.opensWith_append (by decide +kernel) _)
    (Text.opensWith_append (by decide +kernel) _)

/-- What a visit of `c` can report: something about an argument, or about `c` itself. The message
shows which. -/
inductive Target (c : Cursor t) : Cursor t → String → Prop
  | argument {arg : Cursor t} {text : String} (harg : arg ∈ c.arguments)
      (hopens : Text.opensWith argumentLeads text = true) : Target c arg text
  | node {text : String} (hopens : Text.opensWith nodeLeads text = true) : Target c c text

theorem Concerns.reports_target {found : List Finding} (h : Concerns found c nodeLeads)
    (hf : f ∈ found) : ∃ d text, Target c d text ∧ f.Reports info d text [] := by
  obtain ⟨text, hreports, hopens⟩ := h.reports f hf
  exact ⟨c, text, .node hopens, hreports⟩

theorem reports_of_mem_checkCall (h : f ∈ r.checkCall c) :
    ∃ d text, Target c d text ∧ f.Reports info d text [] := by
  unfold checkCall at h
  split at h
  · next name _ =>
    obtain ⟨arg, harg, hf⟩ := List.mem_flatMap.mp h
    obtain ⟨text, hreports, hopens⟩ := (r.concerns_checkArgument name arg).reports f hf
    exact ⟨arg, text, .argument harg hopens, hreports⟩
  · cases h

theorem pairwise_checkCall (r : UnsafeMarkup) (c : Cursor t) :
    (r.checkCall c).Pairwise Finding.Differs := by
  unfold checkCall
  split
  · next name _ =>
    apply List.pairwise_flatMap.mpr
    refine ⟨fun arg _ => (r.concerns_checkArgument name arg).differ, ?_⟩
    have hnodup : c.arguments.Nodup := c.nodup_children.sublist c.arguments_sublist
    refine hnodup.imp ?_
    intro a b hne f hf g hg
    obtain ⟨_, hreports, _⟩ := (r.concerns_checkArgument name a).reports f hf
    obtain ⟨_, hreports', _⟩ := (r.concerns_checkArgument name b).reports g hg
    exact hreports.differs_of_anchor_ne hreports' hne
  · exact .nil

theorem reports_of_mem_visit (h : f ∈ r.visit c) :
    ∃ d text, Target c d text ∧ f.Reports info d text [] := by
  unfold visit at h
  split at h
  · cases h
  · split at h
    · exact reports_of_mem_checkCall h
    · exact (r.concerns_checkAssignment c).reports_target h
    · exact (r.concerns_checkInlineMarkup c).reports_target h
    · exact (r.concerns_checkEcho c).reports_target h
    · cases h

theorem pairwise_visit (r : UnsafeMarkup) (c : Cursor t) :
    (r.visit c).Pairwise Finding.Differs := by
  unfold visit
  split
  · exact .nil
  · split
    · exact r.pairwise_checkCall c
    · exact (r.concerns_checkAssignment c).differ
    · exact (r.concerns_checkInlineMarkup c).differ
    · exact (r.concerns_checkEcho c).differ
    · exact .nil

/-- The node that was visited can be told from the node and the message of a finding. -/
theorem Target.unique {c c' d : Cursor t} {text : String} (h : Target c d text)
    (h' : Target c' d text) : c = c' := by
  cases h with
  | argument harg hopens =>
    cases h' with
    | argument harg' _ =>
      exact Cursor.eq_of_mem_children (Cursor.mem_children_of_mem_arguments harg)
        (Cursor.mem_children_of_mem_arguments harg')
    | node hopens' =>
      exact absurd rfl (Text.ne_of_clash argumentLeads_clash_nodeLeads hopens hopens')
  | node hopens =>
    cases h' with
    | argument _ hopens' =>
      exact absurd rfl (Text.ne_of_clash argumentLeads_clash_nodeLeads hopens' hopens)
    | node _ => rfl

theorem Target.covers {d : Cursor t} {text : String} (h : Target c d text) : c.Covers d := by
  cases h with
  | argument harg _ =>
    exact Cursor.covers_of_mem_children (Cursor.mem_children_of_mem_arguments harg)
  | node _ => exact c.covers_self

theorem lawful (r : UnsafeMarkup) : r.rule.Lawful := by
  apply Rule.lawful_of_target Target Target.unique r.eval_visit
  · intro t c f hf
    obtain ⟨d, text, htarget, hreports⟩ := reports_of_mem_visit hf
    exact ⟨d, text, [], htarget, hreports, htarget.covers, fun _ he => absurd he (by simp)⟩
  · exact r.pairwise_visit

theorem visit_eq_nil (h : c.kind ∉ kinds) : r.visit c = [] := by
  unfold visit
  split
  · rfl
  · split
    · next hkind => simp [hkind, kinds] at h
    · next hkind => simp [hkind, kinds] at h
    · next hkind => simp [hkind, kinds] at h
    · next hkind => simp [hkind, kinds] at h
    · rfl

theorem selective (r : UnsafeMarkup) : r.rule.Selective :=
  fun _ hkind => congrArg pure (visit_eq_nil hkind)

section Uniform

variable {u : SyntaxTree} {R : Cursor t → Cursor u → Prop} {d : Cursor u}

theorem like_svgFinding (r : UnsafeMarkup) (h : Counterparts R) (hcd : R c d)
    (content dangerous plain : String) :
    Finding.Like R (r.svgFinding c content dangerous plain)
      (r.svgFinding d content dangerous plain) := by
  unfold svgFinding
  split
  · exact ((Finding.like_new h hcd info _).withSeverity _).withRemediation _
  · exact (Finding.like_new h hcd info _).withRemediation _

theorem like_inputFinding (h : Counterparts R) (hcd : R c d) (text : String) :
    Finding.Like R (inputFinding c text) (inputFinding d text) :=
  (Finding.like_new h hcd info _).withRemediation _

theorem like_svg (r : UnsafeMarkup) (h : Counterparts R) (hcd : R c d) (isSvg : Prop)
    [Decidable isSvg] (content dangerous plain : String) :
    List.Forall₂ (Finding.Like R)
      (if isSvg then [r.svgFinding c content dangerous plain] else [])
      (if isSvg then [r.svgFinding d content dangerous plain] else []) := by
  split
  · exact .cons (r.like_svgFinding h hcd content dangerous plain) .nil
  · exact .nil

theorem like_input (h : Counterparts R) (hcd : R c d) (isInput : Prop) [Decidable isInput]
    (text : String) :
    List.Forall₂ (Finding.Like R) (if isInput then [inputFinding c text] else [])
      (if isInput then [inputFinding d text] else []) := by
  split
  · exact .cons (like_inputFinding h hcd text) .nil
  · exact .nil

theorem like_checkArgument (r : UnsafeMarkup) (h : Counterparts R) (name : String)
    {arg : Cursor t} {arg' : Cursor u} (harg : R arg arg') :
    List.Forall₂ (Finding.Like R) (r.checkArgument name arg) (r.checkArgument name arg') := by
  simp only [checkArgument, h.text harg]
  exact List.rel_append (r.like_svg h harg _ _ _ _) (like_input h harg _ _)

theorem like_checkCall (r : UnsafeMarkup) (h : Counterparts R) (hcd : R c d) :
    List.Forall₂ (Finding.Like R) (r.checkCall c) (r.checkCall d) := by
  rw [checkCall, checkCall, h.calleeName? hcd]
  split
  · exact List.rel_flatMap (h.arguments hcd) fun _ _ harg => r.like_checkArgument h _ harg
  · exact .nil

theorem like_checkValue (r : UnsafeMarkup) (h : Counterparts R) (hcd : R c d) (target : String)
    {value : Cursor t} {value' : Cursor u} (hvalue : R value value') :
    List.Forall₂ (Finding.Like R) (r.checkValue c target value)
      (r.checkValue d target value') := by
  simp only [checkValue, h.text hvalue]
  exact List.rel_append (r.like_svg h hcd _ _ _ _) (like_input h hcd _ _)

theorem like_checkAssignment (r : UnsafeMarkup) (h : Counterparts R) (hcd : R c d) :
    List.Forall₂ (Finding.Like R) (r.checkAssignment c) (r.checkAssignment d) := by
  unfold checkAssignment
  obtain ⟨hnone, hnone'⟩ | ⟨target, target', htarget, htarget', hpair⟩ :=
    cases_of_rel (h.child? hcd 0)
  · rw [hnone, hnone']
    exact .nil
  · rw [htarget, htarget']
    obtain ⟨hnone, hnone'⟩ | ⟨value, value', hvalue, hvalue', hpair'⟩ :=
      cases_of_rel (h.child? hcd 1)
    · rw [hnone, hnone']
      exact .nil
    · rw [hvalue, hvalue']
      simp only [h.text hpair]
      split
      · exact r.like_checkValue h hcd _ hpair'
      · exact .nil

theorem like_visit (r : UnsafeMarkup) (h : Counterparts R) (hcd : R c d) :
    List.Forall₂ (Finding.Like R) (r.visit c) (r.visit d) := by
  rw [visit, visit, h.text hcd, h.kind hcd]
  split
  · exact .nil
  · split
    · exact r.like_checkCall h hcd
    · exact r.like_checkAssignment h hcd
    · rw [checkInlineMarkup, checkInlineMarkup, h.text hcd]
      exact r.like_svg h hcd _ _ _ _
    · rw [checkEcho, checkEcho, h.text hcd]
      exact r.like_svg h hcd _ _ _ _
    · exact .nil

end Uniform

theorem uniform (r : UnsafeMarkup) : r.rule.Uniform :=
  fun h _ _ hcd => r.like_visit h hcd

end SecurityLint.UnsafeMarkup
