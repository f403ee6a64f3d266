import SecurityLint.Proofs.ChangedSections

/-!
The two checks of unsafe markup, one for SVG content and one for user input. They are made side by
side wherever the rule looks, so what decides one of them has no part in the findings of the other.
How a message ends shows which check it is from, and how it begins shows which node held the
content.
-/
namespace SecurityLint

namespace Text

/-- Whether a text ends in one of the closings. -/
def closesWith (closings : List String) (text : String) : Bool :=
  closings.any fun closing => closing.toList.isSuffixOf text.toList

/-- Whether no closing of one list ends in a closing of the other. -/
def closingsClash (closings closings' : List String) : Bool :=
  closings.all fun a => closings'.all fun b =>
    !a.toList.isSuffixOf b.toList && !b.toList.isSuffixOf a.toList

theorem closesWith_append {closings : List String} {closing : String} (h : closing ∈ closings)
    (before : String) : closesWith closings (before ++ closing) = true := by
  apply List.any_eq_true.mpr
  refine ⟨closing, h, ?_⟩
  rw [List.isSuffixOf_iff_suffix, String.toList_append]
  exact List.suffix_append _ _

theorem closesWith_eq_false_of_clash {closings closings' : List String} {text : String}
    (h : closingsClash closings closings' = true) (hcloses : closesWith closings text = true) :
    closesWith closings' text = false := by
  by_contra hcloses'
  rw [Bool.not_eq_false] at hcloses'
  obtain ⟨a, ha, hsuffix⟩ := List.any_eq_true.mp hcloses
  obtain ⟨b, hb, hsuffix'⟩ := List.any_eq_true.mp hcloses'
  have hclash := List.all_eq_true.mp (List.all_eq_true.mp h a ha) b hb
  rw [List.isSuffixOf_iff_suffix] at hsuffix hsuffix'
  rcases List.suffix_or_suffix_of_suffix hsuffix hsuffix' with hab | hba
  · simp [List.isSuffixOf_iff_suffix.mpr hab] at hclash
  · simp [List.isSuffixOf_iff_suffix.mpr hba] at hclash

end Text

namespace UnsafeMarkup

variable {t : SyntaxTree} {r r' : UnsafeMarkup} {f f' : Finding}

/-- How messages about SVG content end. -/
def svgClosings : List String := [
  "Sanitize SVG before rendering.", "to prevent XSS attacks.", "Sanitize before rendering.",
  "Use a sanitizer library.", "(script/foreignObject). Sanitize user input.",
  "Sanitize before output.", "Use htmlspecialchars() or a dedicated SVG sanitizer."]

/-- How messages about user input end. -/
def inputClosings : List String := [
  "Use an SVG sanitizer library.", "Use DOMPurify or another sanitizer."]

theorem svgClosings_clash_inputClosings : Text.closingsClash svgClosings inputClosings = true := by
  decide +kernel

/-- Whether unsafe markup reports SVG content. -/
def isAboutSvg (f : Finding) : Bool :=
  f.ruleId == info.id && Text.closesWith svgClosings f.message

/-- Whether unsafe markup reports user input. -/
def isAboutInput (f : Finding) : Bool :=
  f.ruleId == info.id && Text.closesWith inputClosings f.message

theorem isAboutInput_eq_false (h : isAboutSvg f = true) : isAboutInput f = false := by
  obtain ⟨_, hcloses⟩ := Bool.and_eq_true_iff.mp h
  rw [isAboutInput, Text.closesWith_eq_false_of_clash svgClosings_clash_inputClosings hcloses,
    Bool.and_false]

theorem isAboutSvg_eq_false (h : isAboutInput f = true) : isAboutSvg f = false := by
  by_contra hsvg
  rw [Bool.not_eq_false] at hsvg
  rw [isAboutInput_eq_false hsvg] at h
  cases h

theorem isAboutSvg_of_ruleId_ne (h : f.ruleId ≠ info.id) : isAboutSvg f = false := by
  rw [isAboutSvg, beq_eq_false_iff_ne.mpr h, Bool.false_and]

/-- The node with the content that a finding on `c` with this message is about. A message about an
assignment is about the value that is assigned. -/
def contentNode (c : Cursor t) (message : String) : Cursor t :=
  if Text.opensWith ["Assignment"] message then (c.child? 1).getD c else c

/-- The check for SVG content. -/
def svgPart (r : UnsafeMarkup) (anchor : Cursor t) (content dangerous plain : String) :
    List Finding :=
  if r.svg.matchesIn content then [r.svgFinding anchor content dangerous plain] else []

/-- The check for user input. -/
def inputPart (r : UnsafeMarkup) (anchor : Cursor t) (content message : String) : List Finding :=
  if r.userInput.occursIn content then [inputFinding anchor message] else []

/-- A message about SVG content in `value` shows that it is one, and shows that it is about
`value`. -/
structure SvgMessage (anchor value : Cursor t) (message : String) : Prop where
  closes : Text.closesWith svgClosings message = true
  content : contentNode anchor message = value

theorem svgMessage_of_opensWith {leads : List String} {c : Cursor t} {message : String}
    (hleads : Text.clash ["Assignment"] leads = true)
    (hopens : Text.opensWith leads message = true)
    (hcloses : Text.closesWith svgClosings message = true) : SvgMessage c c message where
  closes := hcloses
  content := by
    rw [contentNode, Text.opensWith_eq_false_of_clash hleads hopens]
    rfl

theorem svgMessage_of_child? {c value : Cursor t} {message : String}
    (hvalue : c.child? 1 = some value) (hopens : Text.opensWith ["Assignment"] message = true)
    (hcloses : Text.closesWith svgClosings message = true) : SvgMessage c value message where
  closes := hcloses
  content := by
    rw [contentNode, if_pos hopens, hvalue]
    rfl

/-- Two rules that look at the same places: they differ in the patterns for SVG content and in the
words for user input at most. -/
structure SamePlaces (r r' : UnsafeMarkup) : Prop where
  outputMethods : r'.outputMethods = r.outputMethods
  sanitizers : r'.sanitizers = r.sanitizers
  markupTargets : r'.markupTargets = r.markupTargets
  dynamicMarkers : r'.dynamicMarkers = r.dynamicMarkers

/-- Wherever they look in the tree, what two rules find in either check is related. -/
structure ChecksRelated (P : List Finding → List Finding → Prop) (r r' : UnsafeMarkup)
    (t : SyntaxTree) : Prop extends SamePlaces r r' where
  svg : ∀ {anchor value : Cursor t} {dangerous plain : String},
    SvgMessage anchor value dangerous → SvgMessage anchor value plain →
      P (r.svgPart anchor value.text dangerous plain) (r'.svgPart anchor value.text dangerous plain)
  input : ∀ (anchor value : Cursor t) {message : String},
    Text.closesWith inputClosings message = true →
      P (r.inputPart anchor value.text message) (r'.inputPart anchor value.text message)

namespace ChecksRelated

variable {P : List Finding → List Finding → Prop}

theorem checkArgument (h : ChecksRelated P r r' t) (hP : Blockwise P) (name : String)
    (arg : Cursor t) : P (r.checkArgument name arg) (r'.checkArgument name arg) := by
  have hleads : Text.clash ["Assignment"] argumentLeads = true := by decide +kernel
  apply hP.append (h.svg ?_ ?_) (h.input arg arg ?_)
  · exact svgMessage_of_opensWith hleads (Text.opensWith_filled (by decide +kernel) _ _ _)
      (Text.closesWith_append (by simp [svgClosings]) _)
  · exact svgMessage_of_opensWith hleads (Text.opensWith_filled (by decide +kernel) _ _ _)
      (Text.closesWith_append (by simp [svgClosings]) _)
  · exact Text.closesWith_append (by simp [inputClosings]) _

theorem checkCall (h : ChecksRelated P r r' t) (hP : Blockwise P) (c : Cursor t) :
    P (r.checkCall c) (r'.checkCall c) := by
  unfold UnsafeMarkup.checkCall
  rw [h.outputMethods]
  split
  · exact hP.flatMap fun arg _ => h.checkArgument hP _ arg
  · exact hP.nil

theorem checkValue (h : ChecksRelated P r r' t) (hP : Blockwise P) {c value : Cursor t}
    (hvalue : c.child? 1 = some value) (target : String) :
    P (r.checkValue c target value) (r'.checkValue c target value) := by
  have hlead : Text.opensWith ["Assignment"] "Assignment to " = true := by decide +kernel
  apply hP.append (h.svg ?_ ?_) (h.input c value ?_)
  · exact svgMessage_of_child? hvalue (Text.opensWith_filled hlead _ _ _)
      (Text.closesWith_append (by simp [svgClosings]) _)
  · exact svgMessage_of_child? hvalue (Text.opensWith_filled hlead _ _ _)
      (Text.closesWith_append (by simp [svgClosings]) _)
  · exact Text.closesWith_append (by simp [inputClosings]) _

theorem checkAssignment (h : ChecksRelated P r r' t) (hP : Blockwise P) (c : Cursor t) :
    P (r.checkAssignment c) (r'.checkAssignment c) := by
  unfold UnsafeMarkup.checkAssignment
  rw [h.markupTargets]
  split
  · next hvalue =>
    dsimp only
    split
    · exact h.checkValue hP hvalue _
    · exact hP.nil
  · exact hP.nil

theorem checkInlineMarkup (h : ChecksRelated P r r' t) (hP : Blockwise P) (c : Cursor t) :
    P (r.checkInlineMarkup c) (r'.checkInlineMarkup c) := by
  have hleads : Text.clash ["Assignment"] ["Inline", "Dynamic"] = true := by decide +kernel
  -- The pattern and the markers are asked in one condition; only the pattern can differ.
  have hparts (r : UnsafeMarkup) : r.checkInlineMarkup c =
      if r.dynamicMarkers.occursIn c.text then r.svgPart c c.text
        ("Inline SVG with dynamic content contains potentially dangerous elements "
          ++ "(script/foreignObject). Sanitize user input.")
        "Dynamic content in inline SVG should be properly sanitized to prevent XSS attacks."
      else [] := by
    rw [UnsafeMarkup.checkInlineMarkup, Bool.and_comm, svgPart]
    cases r.dynamicMarkers.occursIn c.text <;> rfl
  rw [hparts, hparts, h.dynamicMarkers]
  split
  · apply h.svg
    · exact svgMessage_of_opensWith hleads (Text.opensWith_append (by decide +kernel) _)
        (Text.closesWith_append (by simp [svgClosings]) _)
    · exact svgMessage_of_opensWith hleads (by decide +kernel) (by decide +kernel)
  · exact hP.nil

theorem checkEcho (h : ChecksRelated P r r' t) (c : Cursor t) :
    P (r.checkEcho c) (r'.checkEcho c) := by
  have hleads : Text.clash ["Assignment"] ["Unescaped", "Echo"] = true := by decide +kernel
  apply h.svg
  · exact svgMessage_of_opensWith hleads (Text.opensWith_append (by decide +kernel) _)
      (Text.closesWith_append (by simp [svgClosings]) _)
  · exact svgMessage_of_opensWith hleads (Text.opensWith_append (by decide +kernel) _)
      (Text.closesWith_append (by simp [svgClosings]) _)

theorem visit (h : ChecksRelated P r r' t) (hP : Blockwise P) (c : Cursor t) :
    P (r.visit c) (r'.visit c) := by
  unfold UnsafeMarkup.visit
  rw [h.sanitizers]
  split
  · exact hP.nil
  · split
    · exact h.checkCall hP c
    · exact h.checkAssignment hP c
    · exact h.checkInlineMarkup hP c
    · exact h.checkEcho c
    · exact hP.nil

end ChecksRelated

section Findings

-- Snippets are only ever compared as a whole; unfolding them to compare them does not end.
attribute [local irreducible] snippet?

/-- How severe content is: high if the pattern for dangerous content stands in it. -/
def svgSeverity (dangerous : NamePattern) (content : String) : Severity :=
  if dangerous.matchesIn content then .high else .medium

/-- A finding about SVG content is the same for all patterns up to its severity and message, and
either of them shows whether the content is dangerous. -/
theorem svgFinding_eq (r : UnsafeMarkup) (anchor : Cursor t) (content dangerous plain : String) :
    r.svgFinding anchor content dangerous plain =
      { inputFinding anchor (if r.dangerous.matchesIn content then dangerous else plain) with
        severity := svgSeverity r.dangerous content } := by
  unfold svgFinding svgSeverity
  cases r.dangerous.matchesIn content <;> rfl

theorem isAboutInput_inputFinding (anchor : Cursor t) {message : String}
    (h : Text.closesWith inputClosings message = true) :
    isAboutInput (inputFinding anchor message) = true :=
  Bool.and_eq_true_iff.mpr ⟨beq_iff_eq.mpr rfl, h⟩

theorem svgMessage_svgFinding (r : UnsafeMarkup) {anchor value : Cursor t}
    {dangerous plain : String} (hdangerous : SvgMessage anchor value dangerous)
    (hplain : SvgMessage anchor value plain) (content : String) :
    SvgMessage anchor value (r.svgFinding anchor content dangerous plain).message := by
  rw [svgFinding_eq]
  dsimp only [inputFinding, Finding.withRemediation, Finding.new]
  split
  · exact hdangerous
  · exact hplain

theorem isAboutSvg_svgFinding (r : UnsafeMarkup) {anchor value : Cursor t}
    {dangerous plain : String} (hdangerous : SvgMessage anchor value dangerous)
    (hplain : SvgMessage anchor value plain) (content : String) :
    isAboutSvg (r.svgFinding anchor content dangerous plain) = true := by
  have hid : (r.svgFinding anchor content dangerous plain).ruleId = info.id := by
    rw [svgFinding_eq]
    rfl
  exact Bool.and_eq_true_iff.mpr ⟨beq_iff_eq.mpr hid,
    (r.svgMessage_svgFinding hdangerous hplain content).closes⟩

theorem isAboutSvg_of_mem_svgPart {anchor value : Cursor t} {content dangerous plain : String}
    (hdangerous : SvgMessage anchor value dangerous) (hplain : SvgMessage anchor value plain)
    (hf : f ∈ r.svgPart anchor content dangerous plain) : isAboutSvg f = true := by
  rw [svgPart] at hf
  rw [List.mem_singleton.mp (List.mem_ite_nil_right.mp hf).2]
  exact r.isAboutSvg_svgFinding hdangerous hplain content

theorem isAboutInput_of_mem_inputPart {anchor : Cursor t} {content message : String}
    (hcloses : Text.closesWith inputClosings message = true)
    (hf : f ∈ r.inputPart anchor content message) : isAboutInput f = true := by
  rw [inputPart] at hf
  rw [List.mem_singleton.mp (List.mem_ite_nil_right.mp hf).2]
  exact isAboutInput_inputFinding anchor hcloses

theorem filter_eq_nil_of_forall {found : List Finding} {about keep : Finding → Bool}
    (hkeep : ∀ f, about f = true → keep f = false) (hfound : ∀ f ∈ found, about f = true) :
    found.filter keep = [] := by
  rw [List.filter_eq_nil_iff]
  intro f hf
  rw [hkeep f (hfound f hf)]
  exact Bool.false_ne_true

/-- Rules that differ in the words for user input alone are related by whatever findings about
user input have no part in. -/
theorem checksRelated_userInput (r : UnsafeMarkup) (words : Keywords) {keep : Finding → Bool}
    (hkeep : ∀ f, isAboutInput f = true → keep f = false) (t : SyntaxTree) :
    ChecksRelated (fun found found' => found'.filter keep = found.filter keep) r
      { r with userInput := words } t where
  outputMethods := rfl
  sanitizers := rfl
  markupTargets := rfl
  dynamicMarkers := rfl
  svg _ _ := rfl
  input anchor value message hcloses := by
    rw [filter_eq_nil_of_forall hkeep fun _ => isAboutInput_of_mem_inputPart hcloses,
      filter_eq_nil_of_forall hkeep fun _ => isAboutInput_of_mem_inputPart hcloses]

/-- Rules that differ in the patterns for SVG content alone are related by whatever findings about
SVG content have no part in. -/
theorem checksRelated_patterns (hplaces : SamePlaces r r') (hinput : r'.userInput = r.userInput)
    {keep : Finding → Bool} (hkeep : ∀ f, isAboutSvg f = true → keep f = false)
    (t : SyntaxTree) :
    ChecksRelated (fun found found' => found'.filter keep = found.filter keep) r r' t where
  toSamePlaces := hplaces
  svg hdangerous hplain := by
    rw [filter_eq_nil_of_forall hkeep fun _ => isAboutSvg_of_mem_svgPart hdangerous hplain,
      filter_eq_nil_of_forall hkeep fun _ => isAboutSvg_of_mem_svgPart hdangerous hplain]
  input anchor value message _ := by
    rw [inputPart, inputPart, hinput]

/-- The findings are one for the pattern `p` and one for `p'`. They agree in all but severity and
message, and in these too if they are not about SVG content or are equally severe; findings about
SVG content are as severe as either pattern says of the same content. -/
structure Rerated (t : SyntaxTree) (p p' : NamePattern) (f f' : Finding) : Prop where
  same : f' = { f with severity := f'.severity, message := f'.message }
  about : isAboutSvg f' = isAboutSvg f
  others : isAboutSvg f = false → f' = f
  kept : f'.severity = f.severity → f' = f
  rated : isAboutSvg f = true → ∃ c : Cursor t, f.anchor = c.id ∧
    contentNode c f'.message = contentNode c f.message ∧
    f.severity = svgSeverity p (contentNode c f.message).text ∧
    f'.severity = svgSeverity p' (contentNode c f.message).text

theorem rerated_self {p p' : NamePattern} (h : isAboutSvg f = false) : Rerated t p p' f f where
  same := rfl
  about := rfl
  others _ := rfl
  kept _ := rfl
  rated hsvg := by
    rw [h] at hsvg
    cases hsvg

theorem rerated_svgFinding (r : UnsafeMarkup) (p : NamePattern) {anchor value : Cursor t}
    {dangerous plain : String} (hdangerous : SvgMessage anchor value dangerous)
    (hplain : SvgMessage anchor value plain) :
    Rerated t r.dangerous p (r.svgFinding anchor value.text dangerous plain)
      ({ r with dangerous := p }.svgFinding anchor value.text dangerous plain) := by
  have hold := r.svgMessage_svgFinding hdangerous hplain value.text
  have hnew := { r with dangerous := p }.svgMessage_svgFinding hdangerous hplain value.text
  have hsvg := r.isAboutSvg_svgFinding hdangerous hplain value.text
  have hsvg' := { r with dangerous := p }.isAboutSvg_svgFinding hdangerous hplain value.text
  refine {
    same := ?_
    about := hsvg'.trans hsvg.symm
    others := fun hnone => ?_
    kept := ?_
    rated := fun _ => ⟨anchor, ?_, hnew.content.trans hold.content.symm, ?_, ?_⟩ }
  · rw [svgFinding_eq, svgFinding_eq]
    rfl
  · rw [hsvg] at hnone
    cases hnone
  · rw [svgFinding_eq, svgFinding_eq]
    dsimp only [svgSeverity]
    cases r.dangerous.matchesIn value.text <;> cases p.matchesIn value.text <;> intro hsame
    · rfl
    · cases hsame
    · cases hsame
    · rfl
  · rw [svgFinding_eq]
    rfl
  · rw [hold.content, svgFinding_eq]
  · rw [hold.content, svgFinding_eq]

/-- With another pattern for dangerous content a rule makes the same findings, and rates those about
SVG content anew. -/
theorem checksRelated_dangerous (r : UnsafeMarkup) (p : NamePattern) (t : SyntaxTree) :
    ChecksRelated (List.Forall₂ (Rerated t r.dangerous p)) r { r with dangerous := p } t where
  outputMethods := rfl
  sanitizers := rfl
  markupTargets := rfl
  dynamicMarkers := rfl
  svg {anchor value dangerous plain} hdangerous hplain := by
    unfold svgPart
    dsimp only
    split
    · exact .cons (r.rerated_svgFinding p hdangerous hplain) .nil
    · exact .nil
  input anchor value message hcloses := by
    apply List.forall₂_same.mpr
    intro f hf
    exact rerated_self (isAboutSvg_eq_false (isAboutInput_of_mem_inputPart hcloses hf))

/-- Every finding is about SVG content or about user input. -/
theorem checksRelated_about (r : UnsafeMarkup) (t : SyntaxTree) :
    ChecksRelated (fun found _ => ∀ f ∈ found, f.ruleId = info.id →
      isAboutInput f = !isAboutSvg f) r r t where
  outputMethods := rfl
  sanitizers := rfl
  markupTargets := rfl
  dynamicMarkers := rfl
  svg hdangerous hplain f hf _ := by
    have hsvg := isAboutSvg_of_mem_svgPart hdangerous hplain hf
    rw [hsvg, isAboutInput_eq_false hsvg]
    rfl
  input _ _ _ hcloses f hf _ := by
    have hinput := isAboutInput_of_mem_inputPart hcloses hf
    rw [hinput, isAboutSvg_eq_false hinput]
    rfl

end Findings

section Settings

variable {x x' : UnsafeMarkupSettings} {change : UnsafeMarkup → UnsafeMarkup}

/-- A change of settings that leaves the rule as it is, switched on or off, with its core and
compiling, up to a change of the rule itself. -/
structure Changes (x x' : UnsafeMarkupSettings) (change : UnsafeMarkup → UnsafeMarkup) : Prop where
  enabled : x'.enabled = x.enabled
  core : Text.isBlankText x.svgPattern = false → Text.isBlankText x'.svgPattern = false
  compiles : ∀ {r}, ofSettings x = .ok r → ofSettings x' = .ok (change r)

theorem changes_nothing (x : UnsafeMarkupSettings) : Changes x x id where
  enabled := rfl
  core h := h
  compiles h := h

theorem changes_userInputHints (x : UnsafeMarkupSettings) (hints : List String) :
    Changes x { x with userInputHints := hints }
      fun r => { r with userInput := .ofList hints } where
  enabled := rfl
  core h := h
  compiles h := by
    obtain ⟨svg, dangerous, sanitizers, hsvg, hdangerous, hsanitizers, rfl⟩ :=
      (ofSettings_eq_ok_iff _ _).mp h
    exact (ofSettings_eq_ok_iff _ _).mpr
      ⟨svg, dangerous, sanitizers, hsvg, hdangerous, hsanitizers, rfl⟩

theorem changes_svgPattern (x : UnsafeMarkupSettings) {source : String} {p : NamePattern}
    (hcore : Text.isBlankText source = false) (hp : NamePattern.compile? source = some p) :
    Changes x { x with svgPattern := source } fun r => { r with svg := p } where
  enabled := rfl
  core _ := hcore
  compiles h := by
    obtain ⟨_, dangerous, sanitizers, _, hdangerous, hsanitizers, rfl⟩ :=
      (ofSettings_eq_ok_iff _ _).mp h
    exact (ofSettings_eq_ok_iff _ _).mpr
      ⟨p, dangerous, sanitizers, hp, hdangerous, hsanitizers, rfl⟩

theorem changes_dangerousSvgPattern (x : UnsafeMarkupSettings) {source : String} {p : NamePattern}
    (hp : NamePattern.compile? source = some p) :
    Changes x { x with dangerousSvgPattern := source } fun r => { r with dangerous := p } where
  enabled := rfl
  core h := h
  compiles h := by
    obtain ⟨svg, _, sanitizers, hsvg, _, hsanitizers, rfl⟩ := (ofSettings_eq_ok_iff _ _).mp h
    exact (ofSettings_eq_ok_iff _ _).mpr
      ⟨svg, p, sanitizers, hsvg, hp, hsanitizers, rfl⟩

end Settings

theorem findings_rule (r : UnsafeMarkup) (c : Cursor t) : r.rule.findings c = r.visit c := by
  rw [Rule.findings, eval_visit]
  rfl

theorem findingsAt_rule (r : UnsafeMarkup) (c : Cursor t) : findingsAt [r.rule] c = r.visit c := by
  by_cases hkind : c.kind ∈ r.rule.kinds
  · rw [findingsAt, List.filter_cons_of_pos (by simpa using hkind), List.filter_nil,
      List.flatMap_singleton, findings_rule]
  · rw [findingsAt, List.filter_cons_of_neg (by simpa using hkind), List.filter_nil,
      List.flatMap_nil, visit_eq_nil hkind]

/-- Scanners with the rule have its findings on every node among theirs. -/
theorem mem_findings_of_mem_visit {config : Config} {s : Scanner}
    (h : Scanner.ofConfig config = .ok s) (henabled : config.rules.unsafeMarkup.enabled = true)
    (hr : ofSettings config.rules.unsafeMarkup = .ok r) {c : Cursor t} (hf : f ∈ r.visit c) :
    f ∈ (s.engine.scan t).findings := by
  obtain ⟨_, rules, hrules, rfl⟩ := (Scanner.ofConfig_eq_ok_iff config s).mp h
  have hrule : r.rule ∈ rules := RuleSettings.mem_rules (b := .unsafeMarkup) hrules henabled
    ((map_eq_ok_iff _ _ _).mpr ⟨r, hr, rfl⟩)
  have hkind : c.kind ∈ kinds := by
    by_contra hkind
    rw [visit_eq_nil hkind] at hf
    cases hf
  rw [← findings_rule] at hf
  exact Scanner.mem_findings_scan h hrule hkind hf

end UnsafeMarkup

/-- The configuration with other settings of unsafe markup. -/
def Config.withMarkup (config : Config) (x : UnsafeMarkupSettings) : Config :=
  { config with rules := { config.rules with unsafeMarkup := x } }

open UnsafeMarkup

namespace UnsafeMarkup.Changes

variable {config : Config} {s s' : Scanner} {x' : UnsafeMarkupSettings}
  {change : UnsafeMarkup → UnsafeMarkup}

theorem exists_ofConfig (hchange : Changes config.rules.unsafeMarkup x' change)
    (h : Scanner.ofConfig config = .ok s) :
    ∃ s', Scanner.ofConfig (config.withMarkup x') = .ok s' ∧ s'.policy = s.policy := by
  apply Scanner.exists_ofConfig_put (b := .unsafeMarkup) h
  intro henabled
  change x'.enabled = true at henabled
  rw [hchange.enabled] at henabled
  obtain ⟨hcore, rule, hrule⟩ := Scanner.compiles_of_enabled (b := .unsafeMarkup) h henabled
  obtain ⟨r, hr, _⟩ := (map_eq_ok_iff _ _ _).mp hrule
  exact ⟨hchange.core hcore, _, (map_eq_ok_iff _ _ _).mpr ⟨_, hchange.compiles hr, rfl⟩⟩

/-- What relates the checks and does not mind findings of other rules relates the raw findings. -/
theorem related (hchange : Changes config.rules.unsafeMarkup x' change)
    (h : Scanner.ofConfig config = .ok s) (h' : Scanner.ofConfig (config.withMarkup x') = .ok s')
    {P : List Finding → List Finding → Prop} (hP : Blockwise P)
    (hothers : ∀ found, (∀ f ∈ found, f.ruleId ≠ info.id) → P found found)
    {t : SyntaxTree} (hchecks : ∀ r, ofSettings config.rules.unsafeMarkup = .ok r →
      ChecksRelated P r (change r) t) :
    P (s.engine.scan t).findings (s'.engine.scan t).findings := by
  apply Scanner.blockwise_put (b := .unsafeMarkup) hP h h' hchange.enabled t hothers
  intro rule rule' hrule hrule' c
  obtain ⟨r, hr, rfl⟩ := (map_eq_ok_iff _ _ _).mp hrule
  obtain ⟨r', hr', rfl⟩ := (map_eq_ok_iff _ _ _).mp hrule'
  obtain rfl := Except.ok.inj ((hchange.compiles hr).symm.trans hr')
  rw [findingsAt_rule, findingsAt_rule]
  exact (hchecks r hr).visit hP c

theorem agreeOn (hchange : Changes config.rules.unsafeMarkup x' change)
    (h : Scanner.ofConfig config = .ok s) (h' : Scanner.ofConfig (config.withMarkup x') = .ok s')
    (hpolicy : s'.policy = s.policy) {keep : Finding → Bool}
    (hkeep : ∀ f severity, keep (f.withSeverity severity) = keep f)
    (hchecks : ∀ r t, ofSettings config.rules.unsafeMarkup = .ok r →
      ChecksRelated (fun found found' => found'.filter keep = found.filter keep) r
        (change r) t) : s.AgreeOn keep s' :=
  Scanner.agreeOn_of_raw hpolicy hkeep fun t =>
    hchange.related h h' (blockwise_filter keep) (fun _ _ => rfl) fun r => hchecks r t

/-- If only the patterns for SVG content change, the findings about user input stay, and so do all
that are not about SVG content. -/
theorem agreeOn_patterns (hchange : Changes config.rules.unsafeMarkup x' change)
    (h : Scanner.ofConfig config = .ok s) (h' : Scanner.ofConfig (config.withMarkup x') = .ok s')
    (hpolicy : s'.policy = s.policy) (hplaces : ∀ r, SamePlaces r (change r))
    (hinput : ∀ r, (change r).userInput = r.userInput) :
    s.AgreeOn isAboutInput s' ∧ s.AgreeOn (!isAboutSvg ·) s' := by
  constructor
  · exact hchange.agreeOn h h' hpolicy (fun _ _ => rfl) fun r t _ =>
      checksRelated_patterns (hplaces r) (hinput r) (fun _ => isAboutInput_eq_false) t
  · exact hchange.agreeOn h h' hpolicy (fun _ _ => rfl) fun r t _ =>
      checksRelated_patterns (hplaces r) (hinput r) (fun f hf => by rw [hf]; rfl) t

end UnsafeMarkup.Changes

namespace Scanner

variable {config : Config} {s s' : Scanner}

theorem about_svg_or_input (h : Scanner.ofConfig config = .ok s) (t : SyntaxTree) :
    ∀ f ∈ (s.engine.scan t).findings, f.ruleId = UnsafeMarkup.info.id →
      isAboutInput f = !isAboutSvg f :=
  (changes_nothing config.rules.unsafeMarkup).related h h
    (P := fun found _ => ∀ f ∈ found, f.ruleId = UnsafeMarkup.info.id →
      isAboutInput f = !isAboutSvg f)
    (blockwise_forall _) (fun _ hothers f hf hid => absurd hid (hothers f hf))
    fun r _ => checksRelated_about r t

theorem rerated_of_dangerousSvgPattern {source : String} {p p' : NamePattern}
    (h : Scanner.ofConfig config = .ok s)
    (hp : NamePattern.compile? config.rules.unsafeMarkup.dangerousSvgPattern = some p)
    (hp' : NamePattern.compile? source = some p')
    (h' : Scanner.ofConfig (config.withMarkup
      { config.rules.unsafeMarkup with dangerousSvgPattern := source }) = .ok s')
    (t : SyntaxTree) :
    List.Forall₂ (Rerated t p p') (s.engine.scan t).findings (s'.engine.scan t).findings := by
  apply (changes_dangerousSvgPattern _ hp').related h h' (blockwise_forall₂ _)
  · intro found hothers
    exact List.forall₂_same.mpr fun f hf => rerated_self (isAboutSvg_of_ruleId_ne (hothers f hf))
  · intro r hr
    have hdangerous : r.dangerous = p := by
      obtain ⟨_, _, _, _, hold, _, rfl⟩ := (ofSettings_eq_ok_iff _ _).mp hr
      exact Option.some.inj (hold.symm.trans hp)
    rw [← hdangerous]
    exact checksRelated_dangerous r p' t

/-- The checks of unsafe markup are independent. Every raw finding of the rule is about SVG content
or about user input, and not about both. Let one setting be changed, so that a scanner can still be
made. With other hints for user input, the findings about SVG content are the same on every tree,
and so is all else that is not about user input. With another pattern for SVG content, or for
dangerous content, the findings about user input are the same, and so is all else that is not about
SVG content. Another pattern for dangerous content also leaves the findings about SVG content where
they are, and rates them anew by the content; in the report, as the policy has them count. -/
theorem markup_checks_independent (h : Scanner.ofConfig config = .ok s) :
    (∀ t, ∀ f ∈ (s.engine.scan t).findings, f.ruleId = UnsafeMarkup.info.id →
      isAboutInput f = !isAboutSvg f) ∧
    (∀ hints, ∃ s', Scanner.ofConfig (config.withMarkup
        { config.rules.unsafeMarkup with userInputHints := hints }) = .ok s' ∧
      s.AgreeOn isAboutSvg s' ∧ s.AgreeOn (!isAboutInput ·) s') ∧
    (∀ source p, Text.isBlankText source = false → NamePattern.compile? source = some p →
      ∃ s', Scanner.ofConfig (config.withMarkup
          { config.rules.unsafeMarkup with svgPattern := source }) = .ok s' ∧
        s.AgreeOn isAboutInput s' ∧ s.AgreeOn (!isAboutSvg ·) s') ∧
    ∀ source p', NamePattern.compile? source = some p' →
      ∃ s', Scanner.ofConfig (config.withMarkup
          { config.rules.unsafeMarkup with dangerousSvgPattern := source }) = .ok s' ∧
        s.AgreeOn isAboutInput s' ∧ s.AgreeOn (!isAboutSvg ·) s' ∧
        ∀ p, NamePattern.compile? config.rules.unsafeMarkup.dangerousSvgPattern = some p →
          ∀ t, List.Forall₂ (Rerated t p p') (s.engine.scan t).findings
              (s'.engine.scan t).findings ∧
            List.Forall₂ (fun g g' => ∃ f f', Rerated t p p' f f' ∧
              g = s.policy.effective f ∧ g' = s.policy.effective f')
              (s.scan t).findings (s'.scan t).findings := by
  refine ⟨about_svg_or_input h, ?_, ?_, ?_⟩
  · intro hints
    have hchange := changes_userInputHints config.rules.unsafeMarkup hints
    obtain ⟨s', h', hpolicy⟩ := hchange.exists_ofConfig h
    refine ⟨s', h', ?_, ?_⟩
    · exact hchange.agreeOn h h' hpolicy (fun _ _ => rfl) fun r t _ =>
        checksRelated_userInput r _ (fun _ => isAboutSvg_eq_false) t
    · exact hchange.agreeOn h h' hpolicy (fun _ _ => rfl) fun r t _ =>
        checksRelated_userInput r _ (fun f hf => by rw [hf]; rfl) t
  · intro source p hcore hp
    have hchange := changes_svgPattern config.rules.unsafeMarkup hcore hp
    obtain ⟨s', h', hpolicy⟩ := hchange.exists_ofConfig h
    exact ⟨s', h', hchange.agreeOn_patterns h h' hpolicy (fun _ => ⟨rfl, rfl, rfl, rfl⟩)
      fun _ => rfl⟩
  · intro source p' hp'
    have hchange := changes_dangerousSvgPattern config.rules.unsafeMarkup hp'
    obtain ⟨s', h', hpolicy⟩ := hchange.exists_ofConfig h
    obtain ⟨hinput, hothers⟩ := hchange.agreeOn_patterns h h' hpolicy
      (fun _ => ⟨rfl, rfl, rfl, rfl⟩) fun _ => rfl
    refine ⟨s', h', hinput, hothers, ?_⟩
    intro p hp t
    have hraw := rerated_of_dangerousSvgPattern h hp hp' h' t
    refine ⟨hraw, ?_⟩
    rw [scan, scan, hpolicy]
    apply Policy.forall₂_apply _ hraw
    intro f f' hrerated
    rw [hrerated.same]
    rfl

/-- A call that outputs user input inside of dangerous SVG content. -/
def markupTree : SyntaxTree where
  table := {
    path := some "app/User.php"
    language := .php
    root := 3
    nodes := #[
      { kind := .identifier, text := "raw", name := some "raw" },
      { kind := .concatenation, text := "'<svg><script>' . $request" },
      { kind := .functionCall, text := "raw('<svg><script>' . $request)", children := [0, 1] },
      { kind := .file, text := "raw('<svg><script>' . $request);", children := [2] }] }
  parents := #[some 2, some 2, some 3, none]
  linked := by
    generalize some (Path.ofText "app/User.php") = path
    cbv

/-- Both checks report the argument of the call. -/
theorem exists_visit_markupTree : ∃ r f g,
    UnsafeMarkup.ofSettings wordConfig.rules.unsafeMarkup = .ok r ∧
      r.visit (⟨2, by decide⟩ : Cursor markupTree) = [f, g] ∧ f.anchor = 1 ∧ g.anchor = 1 ∧
      isAboutSvg f = true ∧ isAboutSvg g = false ∧ isAboutInput g = true ∧ f.severity = .high ∧
      Text.opensWith ["Assignment"] f.message = false := by
  have hvisit : (UnsafeMarkup.ofSettings wordConfig.rules.unsafeMarkup).toOption.map (fun r =>
      (r.visit (⟨2, by decide⟩ : Cursor markupTree)).map fun f => (f.anchor, isAboutSvg f,
        isAboutInput f, f.severity, Text.opensWith ["Assignment"] f.message)) =
      some [(1, true, false, .high, false), (1, false, true, .medium, false)] := by
    decide +kernel
  obtain ⟨r, hr, hvisit⟩ := Option.map_eq_some_iff.mp hvisit
  obtain ⟨f, _, hfound, hf, hrest⟩ := List.map_eq_cons_iff.mp hvisit
  obtain ⟨g, rest, rfl, hg, hrest⟩ := List.map_eq_cons_iff.mp hrest
  rw [List.map_eq_nil_iff.mp hrest] at hfound
  simp only [Prod.mk.injEq] at hf hg
  obtain ⟨hanchor, hsvg, _, hhigh, hopens⟩ := hf
  obtain ⟨hanchor', hsvg', hinput, _⟩ := hg
  exact ⟨r, f, g, eq_ok_of_toOption hr, hfound, hanchor, hanchor', hsvg, hsvg', hinput, hhigh,
    hopens⟩

/-- The two findings are of one rule and about one node. -/
theorem exists_findings_markupTree {s : Scanner} (h : Scanner.ofConfig wordConfig = .ok s) :
    ∃ f ∈ (s.engine.scan markupTree).findings, ∃ g ∈ (s.engine.scan markupTree).findings,
      f.ruleId = g.ruleId ∧ f.anchor = g.anchor ∧ f.message ≠ g.message := by
  obtain ⟨r, f, g, hr, hvisit, hanchor, hanchor', hsvg, hsvg', _⟩ := exists_visit_markupTree
  have hscan : ∀ x ∈ [f, g], x ∈ (s.engine.scan markupTree).findings ∧
      x.ruleId = UnsafeMarkup.info.id := by
    intro x hx
    rw [← hvisit] at hx
    refine ⟨mem_findings_of_mem_visit h rfl hr hx, ?_⟩
    rw [← findings_rule] at hx
    exact r.lawful.signed _ x hx
  obtain ⟨hf, hid⟩ := hscan f List.mem_cons_self
  obtain ⟨hg, hid'⟩ := hscan g (List.mem_cons_of_mem f List.mem_cons_self)
  refine ⟨f, hf, g, hg, hid.trans hid'.symm, hanchor.trans hanchor'.symm, ?_⟩
  intro hmessage
  have hsame : isAboutSvg f = isAboutSvg g := by
    rw [isAboutSvg, isAboutSvg, hid, hid', hmessage]
  rw [hsvg, hsvg'] at hsame
  cases hsame

/-- Both checks report the argument of the call. Without hints for user input the finding about SVG
content is left as it was; with a pattern that does not match, the same finding is less severe, and
the one about user input is left. -/
theorem markupTree_checks : ∃ s s₁ s₂ : Scanner,
    Scanner.ofConfig wordConfig = .ok s ∧
    Scanner.ofConfig (wordConfig.withMarkup
      { wordConfig.rules.unsafeMarkup with userInputHints := [] }) = .ok s₁ ∧
    Scanner.ofConfig (wordConfig.withMarkup
      { wordConfig.rules.unsafeMarkup with dangerousSvgPattern := "(?-i)embed" }) = .ok s₂ ∧
    (∃ f ∈ (s.engine.scan markupTree).findings, isAboutSvg f = true ∧ f.severity = .high ∧
      f ∈ (s₁.engine.scan markupTree).findings ∧
      ∃ f' ∈ (s₂.engine.scan markupTree).findings, f'.anchor = f.anchor ∧
        f'.severity = .medium) ∧
    ∃ g ∈ (s.engine.scan markupTree).findings, isAboutInput g = true ∧
      g ∈ (s₂.engine.scan markupTree).findings := by
  obtain ⟨s, hs, _⟩ := exists_ofConfig_word
  obtain ⟨_, hhints, _, hdangerous⟩ := markup_checks_independent hs
  obtain ⟨s₁, hs₁, hsvg₁, _⟩ := hhints []
  have hpatterns : ((NamePattern.compile? "(?-i)script").isSome ∧
      (NamePattern.compile? "(?-i)embed").map (·.matchesIn "'<svg><script>' . $request") =
        some false) := by
    decide +kernel
  obtain ⟨p, hp⟩ := Option.isSome_iff_exists.mp hpatterns.1
  obtain ⟨p', hp', hplain⟩ := Option.map_eq_some_iff.mp hpatterns.2
  obtain ⟨s₂, hs₂, hinput₂, _, hrerated⟩ := hdangerous "(?-i)embed" p' hp'
  obtain ⟨hraw, _⟩ := hrerated p hp markupTree
  obtain ⟨r, f, g, hr, hvisit, hanchor, _, hsvg, _, hinput, hhigh, hopens⟩ :=
    exists_visit_markupTree
  have hscan : ∀ x ∈ [f, g], x ∈ (s.engine.scan markupTree).findings := by
    intro x hx
    rw [← hvisit] at hx
    exact mem_findings_of_mem_visit hs rfl hr hx
  have hf := hscan f List.mem_cons_self
  have hg := hscan g (List.mem_cons_of_mem f List.mem_cons_self)
  refine ⟨s, s₁, s₂, hs, hs₁, hs₂, ⟨f, hf, hsvg, hhigh, hsvg₁.mem hf hsvg, ?_⟩,
    g, hg, hinput, hinput₂.mem hg hinput⟩
  obtain ⟨f', hf', hpair⟩ := exists_mem_of_forall₂ hraw hf
  obtain ⟨c, hc, _, _, hrated⟩ := hpair.rated hsvg
  have hargument : c = ⟨1, by decide⟩ := Cursor.eq_of_id_eq (hc.symm.trans hanchor)
  refine ⟨f', hf', by rw [hpair.same], ?_⟩
  rw [hrated, contentNode, hopens, hargument]
  exact if_neg (by rw [Bool.not_eq_true]; exact hplain)

end Scanner

end SecurityLint
