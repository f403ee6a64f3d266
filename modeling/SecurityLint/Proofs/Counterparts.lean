import Mathlib.Data.List.Forall2
import SecurityLint.Proofs.Reports

/-!
Nodes of two trees that no rule can tell apart. Counterparts agree in kind, text, name and the
class of a literal, their children are counterparts in order, and so are their parents, up to a
root that stands for a whole file. Every step that the rules take from a node then leads to
counterparts again, and so does the walk in document order. A rule that takes no other steps
reports alike on counterparts, whatever else is in the two trees.
-/
namespace SecurityLint

section Lifting

variable {α β γ δ : Type} {R : α → β → Prop} {S : γ → δ → Prop} {l : List α} {l' : List β}
  {o : Option α} {o' : Option β}

theorem rel_bind {f : α → Option γ} {g : β → Option δ} (h : Option.Rel R o o')
    (hfg : ∀ {a b}, R a b → Option.Rel S (f a) (g b)) : Option.Rel S (o.bind f) (o'.bind g) := by
  cases h with
  | none => exact .none
  | some hab => exact hfg hab

theorem rel_map {f : α → γ} {g : β → δ} (h : Option.Rel R o o')
    (hfg : ∀ {a b}, R a b → S (f a) (g b)) : Option.Rel S (o.map f) (o'.map g) := by
  cases h with
  | none => exact .none
  | some hab => exact .some (hfg hab)

theorem rel_filter {p : α → Bool} {q : β → Bool} (h : Option.Rel R o o')
    (hpq : ∀ {a b}, R a b → q b = p a) : Option.Rel R (o.filter p) (o'.filter q) := by
  cases h with
  | none => exact .none
  | some hab =>
    rw [Option.filter_some, Option.filter_some, hpq hab]
    split
    · exact .some hab
    · exact .none

/-- Related options are both empty or hold related values. -/
theorem cases_of_rel (h : Option.Rel R o o') :
    (o = none ∧ o' = none) ∨ ∃ a b, o = some a ∧ o' = some b ∧ R a b := by
  cases h with
  | none => exact .inl ⟨rfl, rfl⟩
  | some hab => exact .inr ⟨_, _, rfl, rfl, hab⟩

theorem rel_toList (h : Option.Rel R o o') : List.Forall₂ R o.toList o'.toList := by
  cases h with
  | none => exact .nil
  | some hab => exact .cons hab .nil

theorem any_eq_of_rel {p : α → Bool} {q : β → Bool} (h : Option.Rel R o o')
    (hpq : ∀ {a b}, R a b → q b = p a) : o'.any q = o.any p := by
  cases h with
  | none => rfl
  | some hab => exact hpq hab

theorem rel_getElem? (h : List.Forall₂ R l l') (i : ℕ) : Option.Rel R l[i]? l'[i]? := by
  induction h generalizing i with
  | nil => exact .none
  | cons hab _ ih =>
    cases i with
    | zero => exact .some hab
    | succ i => exact ih i

theorem exists_mem_of_forall₂ (h : List.Forall₂ R l l') {a : α} (ha : a ∈ l) :
    ∃ b ∈ l', R a b := by
  induction h with
  | nil => cases ha
  | cons hab _ ih =>
    rcases List.mem_cons.mp ha with rfl | ha
    · exact ⟨_, List.mem_cons_self, hab⟩
    · obtain ⟨b, hb, hrelated⟩ := ih ha
      exact ⟨b, List.mem_cons_of_mem _ hb, hrelated⟩

theorem rel_find? {p : α → Bool} {q : β → Bool} (h : List.Forall₂ R l l')
    (hpq : ∀ {a b}, R a b → q b = p a) : Option.Rel R (l.find? p) (l'.find? q) := by
  induction h with
  | nil => exact .none
  | @cons a b _ _ hab _ ih =>
    rw [List.find?_cons, List.find?_cons, hpq hab]
    cases p a with
    | true => exact .some hab
    | false => exact ih

theorem any_eq_of_forall₂ {p : α → Bool} {q : β → Bool} (h : List.Forall₂ R l l')
    (hpq : ∀ {a b}, R a b → q b = p a) : l'.any q = l.any p := by
  induction h with
  | nil => rfl
  | cons hab _ ih => rw [List.any_cons, List.any_cons, hpq hab, ih]

theorem map_eq_of_forall₂ {f : α → γ} {g : β → γ} (h : List.Forall₂ R l l')
    (hfg : ∀ {a b}, R a b → g b = f a) : l'.map g = l.map f := by
  induction h with
  | nil => rfl
  | cons hab _ ih => rw [List.map_cons, List.map_cons, hfg hab, ih]

end Lifting

variable {t u : SyntaxTree}

/-- Nothing is above the node, or nothing but a root that stands for a file. -/
def Cursor.AtTop (c : Cursor t) : Prop :=
  ∀ p, c.parent? = some p → p.kind = .file ∧ p.parent? = none

/-- The relation holds between nodes that look alike and stand in like places. -/
structure Counterparts (R : Cursor t → Cursor u → Prop) : Prop where
  kind : ∀ {c d}, R c d → d.kind = c.kind
  text : ∀ {c d}, R c d → d.text = c.text
  name? : ∀ {c d}, R c d → d.name? = c.name?
  /-- A literal of no class looks like a string. -/
  literal : ∀ {c d}, R c d → d.node.literal.getD .string = c.node.literal.getD .string
  children : ∀ {c d}, R c d → List.Forall₂ R c.children d.children
  parent? : ∀ {c d}, R c d →
    (∃ p q, c.parent? = some p ∧ d.parent? = some q ∧ R p q) ∨ (c.AtTop ∧ d.AtTop)
  unique : Relator.BiUnique R

/-- Calls of the same method on counterparts. -/
structure MemberCall.Like (R : Cursor t → Cursor u → Prop) (m : MemberCall t)
    (n : MemberCall u) : Prop where
  call : R m.call n.call
  receiver : R m.receiver n.receiver
  method : n.method = m.method

/-- At the top of a file a node is in no declaration but itself. -/
theorem Cursor.AtTop.enclosing_eq {c : Cursor t} (h : c.AtTop) (s : Scope) :
    s.enclosing c = if c.is s.kind then some c else none := by
  rw [Scope.enclosing_eq]
  cases hparent : c.parent? with
  | none => rfl
  | some p =>
    obtain ⟨hkind, hnone⟩ := h p hparent
    have hfile : p.is s.kind = false := by
      rw [Cursor.is, hkind]
      cases s <;> rfl
    rw [Option.bind_some, Scope.enclosing_eq, hfile, hnone]
    rfl

namespace Counterparts

variable {R : Cursor t → Cursor u → Prop} {c : Cursor t} {d : Cursor u}

theorem is (h : Counterparts R) (hcd : R c d) (k : Kind) : d.is k = c.is k := by
  rw [Cursor.is, Cursor.is, h.kind hcd]

theorem nameOrText (h : Counterparts R) (hcd : R c d) : d.nameOrText = c.nameOrText := by
  rw [Cursor.nameOrText, Cursor.nameOrText, h.name? hcd, h.text hcd]

theorem child? (h : Counterparts R) (hcd : R c d) (i : ℕ) :
    Option.Rel R (c.child? i) (d.child? i) :=
  rel_getElem? (h.children hcd) i

theorem callee? (h : Counterparts R) (hcd : R c d) : Option.Rel R c.callee? d.callee? := by
  rw [Cursor.callee?, Cursor.callee?, h.is hcd]
  split
  · exact h.child? hcd 0
  · exact .none

theorem arguments (h : Counterparts R) (hcd : R c d) :
    List.Forall₂ R c.arguments d.arguments := by
  rw [Cursor.arguments, Cursor.arguments, h.is hcd]
  split
  · exact List.forall₂_drop 1 (h.children hcd)
  · exact .nil

theorem firstArgument? (h : Counterparts R) (hcd : R c d) :
    Option.Rel R c.firstArgument? d.firstArgument? := by
  rw [Cursor.firstArgument?, Cursor.firstArgument?, List.head?_eq_getElem?,
    List.head?_eq_getElem?]
  exact rel_getElem? (h.arguments hcd) 0

theorem statements (h : Counterparts R) (hcd : R c d) :
    List.Forall₂ R c.statements d.statements := by
  have hblock := rel_find? (h.children hcd) fun hab => h.is hab .block
  rw [Cursor.statements, Cursor.statements, h.is hcd]
  split
  · obtain ⟨hnone, hnone'⟩ | ⟨body, body', hbody, hbody', hpair⟩ := cases_of_rel hblock
    · rw [hnone, hnone']
      exact .nil
    · rw [hbody, hbody']
      exact h.children hpair
  · exact .nil

theorem origin (h : Counterparts R) (hcd : R c d) : d.origin = c.origin := by
  rw [Cursor.origin, Cursor.origin, h.kind hcd]

theorem stringValue? (h : Counterparts R) (hcd : R c d) : d.stringValue? = c.stringValue? := by
  have hliteral := h.literal hcd
  rw [Cursor.stringValue?, Cursor.stringValue?, h.is hcd, h.text hcd]
  cases hc : c.node.literal with
  | none =>
    cases hd : d.node.literal with
    | none => rfl
    | some l =>
      rw [hc, hd] at hliteral
      obtain rfl : l = .string := hliteral
      rfl
  | some k =>
    cases hd : d.node.literal with
    | none =>
      rw [hc, hd] at hliteral
      obtain rfl : k = .string := hliteral.symm
      rfl
    | some l =>
      rw [hc, hd] at hliteral
      obtain rfl : l = k := hliteral
      rfl

theorem memberCall? (h : Counterparts R) (hcd : R c d) :
    Option.Rel (MemberCall.Like R) c.memberCall? d.memberCall? := by
  simp only [Cursor.memberCall?, Option.bind_eq_bind, Option.bind_none]
  refine rel_bind (h.callee? hcd) fun hcallee => ?_
  rw [h.is hcallee]
  split
  · exact .none
  · refine rel_bind (h.child? hcallee 0) fun hreceiver => ?_
    refine rel_bind (h.child? hcallee 1) fun hmember => ?_
    rw [h.is hmember]
    split
    · exact .none
    · exact .some ⟨hcd, hreceiver, h.nameOrText hmember⟩

theorem calleeName? (h : Counterparts R) (hcd : R c d) : d.calleeName? = c.calleeName? := by
  unfold Cursor.calleeName?
  obtain ⟨hnone, hnone'⟩ | ⟨call, call', hcall, hcall', hpair⟩ := cases_of_rel (h.memberCall? hcd)
  · rw [hnone, hnone']
    obtain ⟨hnone, hnone'⟩ | ⟨a, b, ha, hb, hab⟩ := cases_of_rel (h.callee? hcd)
    · simp only [hnone, hnone', Option.bind_eq_bind, Option.bind_none]
    · simp only [ha, hb, Option.bind_eq_bind, Option.bind_some, h.is hab, h.nameOrText hab]
  · rw [hcall, hcall']
    exact congrArg some hpair.method

theorem callsOneOf (h : Counterparts R) (hcd : R c d) (words : Keywords) :
    d.callsOneOf words = c.callsOneOf words :=
  any_eq_of_rel (h.callee? hcd) fun hab => by rw [h.text hab]

theorem enclosing_of_atTop (h : Counterparts R) (s : Scope) (hcd : R c d) (hc : c.AtTop)
    (hd : d.AtTop) : Option.Rel R (s.enclosing c) (s.enclosing d) := by
  rw [hc.enclosing_eq, hd.enclosing_eq, h.is hcd]
  split
  · exact .some hcd
  · exact .none

/-- The declarations around counterparts are counterparts. -/
theorem enclosing (h : Counterparts R) (s : Scope) (hcd : R c d) :
    Option.Rel R (s.enclosing c) (s.enclosing d) := by
  have hup := c.ascent_ancestors
  generalize c.ancestors = above at hup
  -- the two ways up are followed side by side, to the end or to the top of a file
  induction hup generalizing d with
  | root c hroot =>
    have hnone := (Cursor.parent?_eq_none_iff c).mpr hroot
    obtain ⟨p, _, hp, _⟩ | ⟨hc, hd⟩ := h.parent? hcd
    · rw [hnone] at hp
      cases hp
    · exact h.enclosing_of_atTop s hcd hc hd
  | @parent c p above hp hup ih =>
    obtain ⟨p', q, hp', hq, hpq⟩ | ⟨hc, hd⟩ := h.parent? hcd
    · obtain rfl := Option.some.inj (hp.symm.trans hp')
      rw [Scope.enclosing_eq, Scope.enclosing_eq s d, h.is hcd, hp, hq]
      split
      · exact .some hcd
      · exact ih hpq
    · exact h.enclosing_of_atTop s hcd hc hd

/-- Document order below counterparts runs through counterparts. -/
theorem order (h : Counterparts R) (hcd : R c d) : List.Forall₂ R c.order d.order := by
  fun_induction Cursor.order c generalizing d with
  | case1 c ih =>
    rw [← Cursor.order, c.order_eq, d.order_eq]
    refine .cons hcd ?_
    have hmem : List.Forall₂ (fun a b => a ∈ c.children ∧ R a b) c.children d.children :=
      (List.forall₂_and_left _ _).mpr ⟨fun _ ha => ha, h.children hcd⟩
    exact List.rel_flatMap hmem fun a b hab => ih ⟨a, hab.1⟩ hab.2

end Counterparts

attribute [local irreducible] snippet?

/-- What a finding says, apart from the nodes that it shows. -/
def Finding.gist (f : Finding) : Finding :=
  { f with anchor := 0, location := none, evidence := [] }

/-- The evidence says the same about counterparts. -/
structure Evidence.Like (R : Cursor t → Cursor u → Prop) (e e' : Evidence) : Prop where
  description : e'.description = e.description
  shows : ∃ c d, R c d ∧ e.Shows c ∧ e'.Shows d

namespace Finding

/-- The findings say the same about counterparts. -/
structure Like (R : Cursor t → Cursor u → Prop) (f g : Finding) : Prop where
  gist : g.gist = f.gist
  anchor : ∃ c d, R c d ∧ f.anchor = c.id ∧ f.location = t.location? c.id ∧
    g.anchor = d.id ∧ g.location = u.location? d.id
  evidence : List.Forall₂ (Evidence.Like R) f.evidence g.evidence

variable {R : Cursor t → Cursor u → Prop} {c : Cursor t} {d : Cursor u} {f g : Finding}

theorem like_new (h : Counterparts R) (hcd : R c d) (info : RuleInfo) (text : String) :
    Like R (Finding.new info c text) (Finding.new info d text) where
  gist := by rw [Finding.new, Finding.new, h.text hcd]; rfl
  anchor := ⟨c, d, hcd, rfl, rfl, rfl, rfl⟩
  evidence := .nil

theorem Like.withSeverity (h : Like R f g) (s : Severity) :
    Like R (f.withSeverity s) (g.withSeverity s) :=
  { h with gist := congrArg (·.withSeverity s) h.gist }

theorem Like.withConfidence (h : Like R f g) (s : Confidence) :
    Like R (f.withConfidence s) (g.withConfidence s) :=
  { h with gist := congrArg (·.withConfidence s) h.gist }

theorem Like.withRemediation (h : Like R f g) (s : String) :
    Like R (f.withRemediation s) (g.withRemediation s) :=
  { h with gist := congrArg (·.withRemediation s) h.gist }

theorem Like.withEvidence (h : Like R f g) (description : String) (hcd : R c d) :
    Like R (f.withEvidence description c) (g.withEvidence description d) where
  gist := h.gist
  anchor := h.anchor
  evidence := by
    have hone : Evidence.Like R ⟨description, c.id, c.location?, snippet? c.text⟩
        ⟨description, d.id, d.location?, snippet? d.text⟩ :=
      ⟨rfl, c, d, hcd, ⟨rfl, rfl, rfl⟩, ⟨rfl, rfl, rfl⟩⟩
    exact List.rel_append h.evidence (.cons hone .nil)

end Finding

/-- The rule reports alike on nodes that look alike and stand in like places. -/
def Rule.Uniform (rule : Rule) : Prop :=
  ∀ {t u : SyntaxTree} {R : Cursor t → Cursor u → Prop}, Counterparts R →
    ∀ {c : Cursor t} {d : Cursor u}, R c d →
      List.Forall₂ (Finding.Like R) (rule.findings c) (rule.findings d)

end SecurityLint
