import SecurityLint.Call
import SecurityLint.Proofs.EngineScan

/-!
What a finding says about the tree. A finding is built up from a node, a message and nodes that
support it; each of them is shown with its own position, location and text, whatever is set later.
A rule that reports only such nodes at or below the one that it was shown stays within its part
of the tree.
-/
namespace SecurityLint

namespace Cursor

variable {t : SyntaxTree}

/-- The node `d` is `c` or stands below it. -/
def Covers (c d : Cursor t) : Prop :=
  c ∈ d :: d.ancestors

theorem covers_self (c : Cursor t) : c.Covers c :=
  List.mem_cons_self

theorem Covers.child {c d e : Cursor t} (h : c.Covers d) (he : e ∈ d.children) : c.Covers e := by
  have hup := ancestors_of_parent?_eq_some ((mem_children_iff d e).mp he)
  rw [Covers, hup]
  exact List.mem_cons_of_mem _ h

theorem covers_of_mem_children {c d : Cursor t} (h : d ∈ c.children) : c.Covers d :=
  c.covers_self.child h

theorem mem_children_of_child? {c d : Cursor t} {i : ℕ} (h : c.child? i = some d) :
    d ∈ c.children :=
  List.mem_of_getElem? h

/-- A node is a child at one place only. -/
theorem eq_of_child? {c d : Cursor t} {i j : ℕ} (hi : c.child? i = some d)
    (hj : c.child? j = some d) : i = j := by
  obtain ⟨hlt, _⟩ := List.getElem?_eq_some_iff.mp hi
  exact (List.getElem?_inj hlt c.nodup_children).mp (hi.trans hj.symm)

theorem arguments_sublist (c : Cursor t) : c.arguments.Sublist c.children := by
  unfold arguments
  split
  · exact List.drop_sublist 1 c.children
  · exact List.nil_sublist _

theorem mem_children_of_mem_arguments {c d : Cursor t} (h : d ∈ c.arguments) : d ∈ c.children :=
  c.arguments_sublist.subset h

theorem mem_children_of_firstArgument? {c d : Cursor t} (h : c.firstArgument? = some d) :
    d ∈ c.children :=
  mem_children_of_mem_arguments (List.mem_of_mem_head? h)

/-- Only calls have arguments. -/
theorem kind_of_firstArgument? {c d : Cursor t} (h : c.firstArgument? = some d) :
    c.kind = .functionCall := by
  by_contra hkind
  simp [firstArgument?, arguments, is, hkind] at h

theorem memberCall?_of_kind_ne {c : Cursor t} (h : c.kind ≠ .functionCall) :
    c.memberCall? = none := by
  simp [memberCall?, callee?, is, h]

theorem call_of_memberCall? {c : Cursor t} {call : MemberCall t}
    (h : c.memberCall? = some call) : call.call = c := by
  simp only [memberCall?, Option.bind_eq_bind, Option.bind_none, Option.bind_eq_some_iff,
    Option.ite_none_left_eq_some, Option.pure_def, Option.some.injEq] at h
  obtain ⟨_, _, _, _, _, _, _, _, rfl⟩ := h
  rfl

/-- A node has one parent, so it stands in one list of children. -/
theorem eq_of_mem_children {c d e : Cursor t} (hc : e ∈ c.children) (hd : e ∈ d.children) :
    c = d :=
  Option.some.inj (((mem_children_iff c e).mp hc).symm.trans ((mem_children_iff d e).mp hd))

end Cursor

variable {t : SyntaxTree}

-- Snippets are only ever compared as a whole; unfolding them to compare them does not end.
attribute [local irreducible] snippet?

/-- The evidence shows the node with its own location and text. -/
structure Evidence.Shows (e : Evidence) (d : Cursor t) : Prop where
  node : e.node = d.id
  location : e.location = t.location? d.id
  snippet : e.snippet = snippet? d.text

namespace Finding

/-- The finding is one of the rule about the node `c`, with the message `text`; all of its
evidence shows nodes of the list. -/
structure Reports (f : Finding) (info : RuleInfo) (c : Cursor t) (text : String)
    (support : List (Cursor t)) : Prop where
  ruleId : f.ruleId = info.id
  anchor : f.anchor = c.id
  location : f.location = t.location? c.id
  snippet : f.snippet = snippet? c.text
  message : f.message = text
  evidence : ∀ e ∈ f.evidence, ∃ d ∈ support, e.Shows d

variable {info : RuleInfo} {c : Cursor t} {text : String} {support : List (Cursor t)}
  {f : Finding}

theorem reports_new (info : RuleInfo) (c : Cursor t) (text : String)
    (support : List (Cursor t)) : (Finding.new info c text).Reports info c text support where
  ruleId := rfl
  anchor := rfl
  location := rfl
  snippet := rfl
  message := rfl
  evidence _ he := absurd he List.not_mem_nil

theorem Reports.withSeverity (h : f.Reports info c text support) (s : Severity) :
    (f.withSeverity s).Reports info c text support :=
  { h with }

theorem Reports.withConfidence (h : f.Reports info c text support) (s : Confidence) :
    (f.withConfidence s).Reports info c text support :=
  { h with }

theorem Reports.withRemediation (h : f.Reports info c text support) (s : String) :
    (f.withRemediation s).Reports info c text support :=
  { h with }

theorem Reports.withEvidence (h : f.Reports info c text support) (description : String)
    {d : Cursor t} (hd : d ∈ support) :
    (f.withEvidence description d).Reports info c text support where
  ruleId := h.ruleId
  anchor := h.anchor
  location := h.location
  snippet := h.snippet
  message := h.message
  evidence e he := by
    rcases List.mem_append.mp he with hold | hnew
    · exact h.evidence e hold
    · rw [List.mem_singleton.mp hnew]
      exact ⟨d, hd, rfl, rfl, rfl⟩

/-- The finding shows nodes at or below `c` only, each with its own location and text. -/
structure Within (f : Finding) (c : Cursor t) : Prop where
  anchor : ∃ d : Cursor t, c.Covers d ∧
    f.anchor = d.id ∧ f.location = t.location? d.id ∧ f.snippet = snippet? d.text
  evidence : ∀ e ∈ f.evidence, ∃ d : Cursor t, c.Covers d ∧
    e.node = d.id ∧ e.location = t.location? d.id ∧ e.snippet = snippet? d.text

theorem Reports.within (h : f.Reports info c text support) {visited : Cursor t}
    (hanchor : visited.Covers c) (hsupport : ∀ d ∈ support, visited.Covers d) :
    f.Within visited where
  anchor := ⟨c, hanchor, h.anchor, h.location, h.snippet⟩
  evidence e he := by
    obtain ⟨d, hd, hshows⟩ := h.evidence e he
    exact ⟨d, hsupport d hd, hshows.node, hshows.location, hshows.snippet⟩

/-- The findings do not agree in both anchor and message. -/
def Differs (f g : Finding) : Prop :=
  f.anchor = g.anchor → f.message ≠ g.message

variable {info' : RuleInfo} {d : Cursor t} {text' : String} {support' : List (Cursor t)}
  {g : Finding}

theorem Reports.differs_of_anchor_ne (hf : f.Reports info c text support)
    (hg : g.Reports info' d text' support') (hne : c ≠ d) : f.Differs g := by
  intro hanchor
  rw [hf.anchor, hg.anchor] at hanchor
  exact absurd (Cursor.eq_of_id_eq hanchor) hne

theorem Reports.differs_of_message_ne (hf : f.Reports info c text support)
    (hg : g.Reports info' d text' support') (hne : text ≠ text') : f.Differs g := by
  intro _
  rwa [hf.message, hg.message]

end Finding

namespace Inquiry

variable {α β : Type}

theorem eval_pure (a : α) : (pure a : Inquiry t α).eval = .ok a :=
  rfl

theorem eval_bind (q : Inquiry t α) (next : α → Inquiry t β) :
    (q >>= next).eval = q.eval >>= fun a => (next a).eval := by
  induction q with
  | done a => rfl
  | fail failure => rfl
  | ask scope c rest ih => exact ih (scope.enclosing c)

theorem eval_ite (p : Prop) [Decidable p] (q q' : Inquiry t α) :
    (if p then q else q').eval = if p then q.eval else q'.eval := by
  split <;> rfl

end Inquiry

/-- What a rule reports on a node if each of its questions is answered by walking up. -/
def Rule.findings (rule : Rule) (c : Cursor t) : List Finding :=
  (rule.visit t c).eval.toOption.getD []

theorem Visit.findings_eq (v : Visit t) : v.findings = v.rule.findings v.node := by
  unfold findings result Rule.findings
  cases (v.rule.visit t v.node).eval <;> rfl

/-- The laws that a rule keeps on every node of every tree: it does not fail, it shows only nodes
at or below the one that it was shown, its findings carry its key, and no two of them agree in
anchor and message, be they of one node or of two. -/
structure Rule.Lawful (rule : Rule) : Prop where
  succeeds : ∀ {t : SyntaxTree} (c : Cursor t), (rule.visit t c).eval = .ok (rule.findings c)
  within : ∀ {t : SyntaxTree} (c : Cursor t), ∀ f ∈ rule.findings c, f.Within c
  signed : ∀ {t : SyntaxTree} (c : Cursor t), ∀ f ∈ rule.findings c, f.ruleId = rule.info.id
  differ : ∀ {t : SyntaxTree} (c : Cursor t), (rule.findings c).Pairwise Finding.Differs
  apart : ∀ {t : SyntaxTree} {c d : Cursor t}, c ≠ d →
    ∀ f ∈ rule.findings c, ∀ g ∈ rule.findings d, f.Differs g

/-- Of nodes of the kinds that it does not want, the rule has nothing to say, and it asks nothing
about them. -/
def Rule.Selective (rule : Rule) : Prop :=
  ∀ {t : SyntaxTree} (c : Cursor t), c.kind ∉ rule.kinds → rule.visit t c = pure []

/-- A rule is lawful if the node that it was shown can be told from the anchor and the message of
each of its findings, by a relation `Target` from the first to the other two. -/
theorem Rule.lawful_of_target {rule : Rule}
    (Target : {t : SyntaxTree} → Cursor t → Cursor t → String → Prop)
    (hunique : ∀ {t : SyntaxTree} {c c' d : Cursor t} {text : String},
      Target c d text → Target c' d text → c = c')
    (hsucceeds : ∀ {t : SyntaxTree} (c : Cursor t),
      (rule.visit t c).eval = .ok (rule.findings c))
    (hreports : ∀ {t : SyntaxTree} (c : Cursor t), ∀ f ∈ rule.findings c, ∃ d text support,
      Target c d text ∧ f.Reports rule.info d text support ∧
        c.Covers d ∧ ∀ e ∈ support, c.Covers e)
    (hdiffer : ∀ {t : SyntaxTree} (c : Cursor t),
      (rule.findings c).Pairwise Finding.Differs) : rule.Lawful where
  succeeds := hsucceeds
  within c f hf := by
    obtain ⟨_, _, _, _, hreports, hanchor, hsupport⟩ := hreports c f hf
    exact hreports.within hanchor hsupport
  signed c f hf := by
    obtain ⟨_, _, _, _, hreports, _⟩ := hreports c f hf
    exact hreports.ruleId
  differ := hdiffer
  apart {_ c c'} hne f hf g hg hanchor hmessage := by
    obtain ⟨d, text, _, htarget, hf, _⟩ := hreports c f hf
    obtain ⟨d', text', _, htarget', hg, _⟩ := hreports c' g hg
    rw [hf.anchor, hg.anchor] at hanchor
    rw [hf.message, hg.message] at hmessage
    rw [Cursor.eq_of_id_eq hanchor, hmessage] at htarget
    exact hne (hunique htarget htarget')

/-- A rule is lawful if it has at most one finding on a node, about the node itself and supported
by its children. -/
theorem Rule.lawful_of_single {rule : Rule}
    (found : {t : SyntaxTree} → Cursor t → Option Finding)
    (heval : ∀ {t : SyntaxTree} (c : Cursor t), (rule.visit t c).eval = .ok (found c).toList)
    (hreports : ∀ {t : SyntaxTree} (c : Cursor t), ∀ f, found c = some f →
      ∃ text, f.Reports rule.info c text c.children) : rule.Lawful := by
  have hfindings {t : SyntaxTree} (c : Cursor t) : rule.findings c = (found c).toList := by
    rw [Rule.findings, heval]
    rfl
  apply Rule.lawful_of_target fun c d _ => d = c
  · rintro _ _ _ _ _ rfl heq
    exact heq
  · intro t c
    rw [heval, hfindings]
  · intro t c f hf
    rw [hfindings, Option.mem_toList] at hf
    obtain ⟨text, hreports⟩ := hreports c f hf
    exact ⟨c, text, c.children, rfl, hreports, c.covers_self,
      fun e he => Cursor.covers_of_mem_children he⟩
  · intro t c
    rw [hfindings]
    cases found c with
    | none => exact .nil
    | some f => exact List.pairwise_singleton _ _

namespace Text

/-- Whether a text begins with one of the leads. -/
def opensWith (leads : List String) (text : String) : Bool :=
  leads.any fun lead => lead.toList.isPrefixOf text.toList

/-- Whether no lead of one list begins with a lead of the other. -/
def clash (leads leads' : List String) : Bool :=
  leads.all fun a => leads'.all fun b =>
    !a.toList.isPrefixOf b.toList && !b.toList.isPrefixOf a.toList

theorem opensWith_append {leads : List String} {text : String}
    (h : opensWith leads text = true) (rest : String) : opensWith leads (text ++ rest) = true := by
  obtain ⟨lead, hlead, hopens⟩ := List.any_eq_true.mp h
  apply List.any_eq_true.mpr
  refine ⟨lead, hlead, ?_⟩
  rw [List.isPrefixOf_iff_prefix] at hopens ⊢
  rw [String.toList_append]
  exact hopens.trans (List.prefix_append _ _)

/-- A name that is filled in makes no difference to how a message begins. -/
theorem opensWith_filled {leads : List String} {first : String}
    (h : opensWith leads first = true) (name middle last : String) :
    opensWith leads (first ++ name ++ middle ++ last) = true :=
  opensWith_append (opensWith_append (opensWith_append h name) middle) last

/-- A text that begins with one of the leads begins with none that clash. -/
theorem opensWith_eq_false_of_clash {leads leads' : List String} {text : String}
    (h : clash leads leads' = true) (hopens' : opensWith leads' text = true) :
    opensWith leads text = false := by
  by_contra hopens
  rw [Bool.not_eq_false] at hopens
  obtain ⟨a, ha, hprefix⟩ := List.any_eq_true.mp hopens
  obtain ⟨b, hb, hprefix'⟩ := List.any_eq_true.mp hopens'
  have hclash := List.all_eq_true.mp (List.all_eq_true.mp h a ha) b hb
  rw [List.isPrefixOf_iff_prefix] at hprefix hprefix'
  rcases List.prefix_or_prefix_of_prefix hprefix hprefix' with hab | hba
  · simp [List.isPrefixOf_iff_prefix.mpr hab] at hclash
  · simp [List.isPrefixOf_iff_prefix.mpr hba] at hclash

/-- A text does not begin with leads that clash. -/
theorem ne_of_clash {leads leads' : List String} {text text' : String}
    (h : clash leads leads' = true) (hopens : opensWith leads text = true)
    (hopens' : opensWith leads' text' = true) : text ≠ text' := by
  rintro rfl
  rw [opensWith_eq_false_of_clash h hopens'] at hopens
  cases hopens

/-- Texts with a common beginning differ if what comes next clashes. -/
theorem append_append_ne_of_clash {leads leads' : List String} {next next' : String}
    (h : clash leads leads' = true) (hopens : opensWith leads next = true)
    (hopens' : opensWith leads' next' = true) (common rest rest' : String) :
    common ++ next ++ rest ≠ common ++ next' ++ rest' := by
  intro heq
  rw [String.append_assoc, String.append_assoc, String.append_right_inj] at heq
  exact ne_of_clash h (opensWith_append hopens rest) (opensWith_append hopens' rest') heq

end Text

end SecurityLint
