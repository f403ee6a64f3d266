import SecurityLint.Proofs.DocumentOrder
import SecurityLint.Proofs.RenderedTexts

/-!
How the text of a child is set apart in the text of its parent. Whatever is rendered before a child
ends in a delimiter, and whatever is rendered behind it begins with one, so names of letters,
digits and underscores never reach from a child into what surrounds it. A property of texts that
is kept when a text is set apart in another goes up from a node to all nodes above it.
-/
namespace SecurityLint

namespace Text

/-- Letters and digits of ASCII, and the underscore. -/
def isNameChar (c : Char) : Bool :=
  c.isAlphanum || c == '_'

/-- The other characters of ASCII. -/
def isDelimiter (c : Char) : Bool :=
  c.toNat < 128 && !isNameChar c

/-- Whether a text begins and ends with delimiters. -/
def isOperator (s : String) : Bool :=
  s.toList.head?.any isDelimiter && s.toList.getLast?.any isDelimiter

/-- The text `part` stands in `whole`, with a delimiter or nothing at all on either side. -/
def SetApart (part whole : String) : Prop :=
  ∃ before after, whole = before ++ part ++ after ∧
    (∀ c ∈ before.toList.getLast?, isDelimiter c = true) ∧
    ∀ c ∈ after.toList.head?, isDelimiter c = true

theorem closes_operator (text operator : String) (h : isOperator operator = true) :
    ∀ c ∈ (text ++ operator).toList.getLast?, isDelimiter c = true := by
  obtain ⟨d, hd, hdelimiter⟩ := (Option.any_eq_true _ _).mp (Bool.and_eq_true_iff.mp h).2
  rw [String.toList_append, List.getLast?_append, hd]
  rintro _ ⟨rfl⟩
  exact hdelimiter

theorem opens_operator (operator text : String) (h : isOperator operator = true) :
    ∀ c ∈ (operator ++ text).toList.head?, isDelimiter c = true := by
  obtain ⟨d, hd, hdelimiter⟩ := (Option.any_eq_true _ _).mp (Bool.and_eq_true_iff.mp h).1
  rw [String.toList_append, List.head?_append, hd]
  rintro _ ⟨rfl⟩
  exact hdelimiter

theorem setApart_self (text : String) : SetApart text text :=
  ⟨"", "", by simp, by simp, by simp⟩

namespace SetApart

variable {part middle whole : String}

theorem trans (h : SetApart part middle) (h' : SetApart middle whole) : SetApart part whole := by
  obtain ⟨before, after, rfl, hbefore, hafter⟩ := h
  obtain ⟨before', after', rfl, hbefore', hafter'⟩ := h'
  refine ⟨before' ++ before, after ++ after', by simp only [String.append_assoc], ?_, ?_⟩
  · rw [String.toList_append, List.getLast?_append]
    cases hlast : before.toList.getLast? with
    | none => simpa using hbefore'
    | some c => simpa [hlast] using hbefore
  · rw [String.toList_append, List.head?_append]
    cases hhead : after.toList.head? with
    | none => simpa using hafter'
    | some c => simpa [hhead] using hafter

theorem behind (h : SetApart part whole) (text operator : String)
    (hoperator : isOperator operator = true) : SetApart part (text ++ operator ++ whole) :=
  h.trans ⟨text ++ operator, "", by simp, closes_operator text operator hoperator, by simp⟩

theorem before (h : SetApart part whole) (operator text : String)
    (hoperator : isOperator operator = true) : SetApart part (whole ++ operator ++ text) :=
  h.trans ⟨"", operator ++ text, by simp [String.append_assoc], by simp,
    opens_operator operator text hoperator⟩

end SetApart

variable {part : String}

theorem setApart_pair {first second : String} (operator : String)
    (hoperator : isOperator operator = true) (h : part ∈ [first, second]) :
    SetApart part (first ++ operator ++ second) := by
  rcases List.mem_pair.mp h with rfl | rfl
  · exact (setApart_self part).before operator second hoperator
  · exact (setApart_self part).behind first operator hoperator

theorem setApart_intercalate (operator : String) (hoperator : isOperator operator = true)
    {texts : List String} (h : part ∈ texts) : SetApart part (operator.intercalate texts) := by
  induction texts with
  | nil => cases h
  | cons text texts ih =>
    cases texts with
    | nil =>
      rw [List.mem_singleton.mp h, String.intercalate_singleton]
      exact setApart_self text
    | cons next texts =>
      rw [String.intercalate_cons_cons]
      rcases List.mem_cons.mp h with rfl | h
      · exact (setApart_self part).before operator _ hoperator
      · exact (ih h).behind text operator hoperator

/-- Texts in a row, with an opening that follows `lead` and a closing around them. -/
theorem setApart_row (lead opening operator closing : String)
    (hoperators : ∀ o ∈ [opening, operator, closing], isOperator o = true) {texts : List String}
    (h : part ∈ texts) :
    SetApart part (lead ++ opening ++ operator.intercalate texts ++ closing) := by
  simp only [List.forall_mem_cons] at hoperators
  obtain ⟨hopening, hoperator, hclosing, _⟩ := hoperators
  have hinside := (setApart_intercalate operator hoperator h).behind lead opening hopening
  simpa using hinside.before closing "" hclosing

end Text

open Text

theorem Language.isOperator_separators (l : Language) :
    isOperator l.memberSeparator = true ∧ isOperator l.pairSeparator = true ∧
      isOperator l.concatOperator = true := by
  cases l <;> decide +kernel

/-- The texts of the children are set apart in the text that is rendered from them. -/
theorem Renders.setApart {l : Language} {kind : Kind} {name : Option String}
    {texts : List String} {text : String} (h : Renders l kind name texts text) {part : String}
    (hpart : part ∈ texts) : SetApart part text := by
  obtain ⟨hmember, hpair, hconcat⟩ := l.isOperator_separators
  cases h with
  | identifier | literal | field | markup | echo => cases hpart
  | member => exact setApart_pair _ hmember hpart
  | staticMember => exact setApart_pair _ (by decide +kernel) hpart
  | pair => exact setApart_pair _ hpair hpart
  | assignment => exact setApart_pair _ (by decide +kernel) hpart
  | call callee args =>
    rcases List.mem_cons.mp hpart with rfl | harg
    · rw [String.append_assoc]
      exact (setApart_self part).before "(" _ (by decide +kernel)
    · exact setApart_row callee "(" ", " ")" (by decide +kernel) harg
  | array elements => simpa using setApart_row "" "[" ", " "]" (by decide +kernel) hpart
  | arrayAccess base index =>
    have hinside := setApart_pair "[" (by decide +kernel) hpart
    simpa using hinside.before "]" "" (by decide +kernel)
  | concatenation parts => exact setApart_intercalate _ hconcat hpart
  | statement expr =>
    rw [List.mem_singleton.mp hpart]
    simpa using (setApart_self expr).before ";" "" (by decide +kernel)
  | block statements =>
    simpa using setApart_row "" "\x7b " " " " \x7d" (by decide +kernel) hpart
  | method name body =>
    rw [List.mem_singleton.mp hpart]
    exact (setApart_self body).behind name "() " (by decide +kernel)
  | classDecl name members =>
    exact setApart_row ("class " ++ name) " \x7b " " " " \x7d" (by decide +kernel) hpart
  | file items => exact setApart_intercalate _ (by decide +kernel) hpart

namespace Builder

variable {language : Language} {path : Option Path} {steps : List Step} {b : Builder}
  {root : NodeId} {t : SyntaxTree}

/-- In a tree that was built without raw nodes, the text of every node is rendered from the texts
of its children. -/
theorem renders_of_finish (hraw : ∀ step ∈ steps, step.isRaw = false)
    (hrun : run? { language, path } steps = some b) (hfinish : b.finish root = .ok t)
    (c : Cursor t) : Renders language c.kind c.name? (c.children.map Cursor.text) c.text := by
  have htable := (SyntaxTree.ofTable_eq_ok_iff (b.table root) t).mp hfinish
  have hnode (d : Cursor t) : b.nodes[d.id]? = some d.node := by
    rw [← d.getElem?_nodes, htable]
    rfl
  obtain ⟨texts, htexts, hrenders⟩ := (composed_of_run? hraw hrun).rendered c.id c.node (hnode c)
  have hchildren : b.texts? c.node.children = some (c.children.map Cursor.text) := by
    rw [texts?_eq_some_iff, ← c.table_children, ← c.children_eq_ids, List.forall₂_map_left_iff,
      List.forall₂_map_right_iff, List.forall₂_same]
    intro d _
    exact (text?_eq_some_iff b d.id _).mpr ⟨d.node, hnode d, rfl⟩
  obtain rfl := Option.some.inj (htexts.symm.trans hchildren)
  have hlanguage : b.language = language := language_of_run? hraw hrun
  rwa [← hlanguage]

/-- What holds of a text whenever it holds of one that is set apart in it goes up from a node to
all nodes above it. -/
theorem kept_upwards {P : String → Prop}
    (hkept : ∀ part whole, SetApart part whole → P part → P whole)
    (hraw : ∀ step ∈ steps, step.isRaw = false)
    (hrun : run? { language, path } steps = some b) (hfinish : b.finish root = .ok t)
    {d : Cursor t} (hd : P d.text) : ∀ c ∈ d :: d.ancestors, P c.text := by
  have hup := d.ascent_ancestors
  generalize d.ancestors = above at hup
  induction hup with
  | root d => simpa using hd
  | @parent d p above hp hup ih =>
    have hrenders := renders_of_finish hraw hrun hfinish p
    have hchild : d.text ∈ p.children.map Cursor.text :=
      List.mem_map_of_mem ((Cursor.mem_children_iff p d).mpr hp)
    exact List.forall_mem_cons.mpr ⟨hd, ih (hkept _ _ (hrenders.setApart hchild) hd)⟩

end Builder

end SecurityLint
