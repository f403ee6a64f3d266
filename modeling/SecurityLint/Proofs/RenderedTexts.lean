import SecurityLint.Proofs.BottomUp

/-!
The texts of what was built. A node keeps its kind, text, name, class and children from the step
that adds it on, and only placing it changes its span. So the text of a node stays rendered from
the texts of its children. Each of these stands in it in one piece, and with them the texts of all
nodes below.
-/
namespace SecurityLint

namespace Text

/-- The text `part` stands in one piece in `whole`. -/
def StandsIn (part whole : String) : Prop :=
  ∃ before after, whole = before ++ part ++ after

theorem standsIn_self (text : String) : StandsIn text text :=
  ⟨"", "", by simp⟩

namespace StandsIn

variable {part middle whole : String}

theorem trans (h : StandsIn part middle) (h' : StandsIn middle whole) : StandsIn part whole := by
  obtain ⟨before, after, rfl⟩ := h
  obtain ⟨before', after', rfl⟩ := h'
  exact ⟨before' ++ before, after ++ after', by simp only [String.append_assoc]⟩

theorem append (h : StandsIn part whole) (after : String) : StandsIn part (whole ++ after) :=
  h.trans ⟨"", after, by rw [String.empty_append]⟩

theorem prepend (h : StandsIn part whole) (before : String) : StandsIn part (before ++ whole) :=
  h.trans ⟨before, "", by rw [String.append_empty]⟩

end StandsIn

theorem standsIn_intercalate (separator : String) {part : String} {texts : List String}
    (h : part ∈ texts) : StandsIn part (separator.intercalate texts) := by
  induction texts with
  | nil => cases h
  | cons text texts ih =>
    cases texts with
    | nil =>
      rw [List.mem_singleton.mp h, String.intercalate_singleton]
      exact standsIn_self text
    | cons next texts =>
      rw [String.intercalate_cons_cons]
      rcases List.mem_cons.mp h with rfl | h
      · exact ((standsIn_self part).append _).append _
      · exact (ih h).prepend _

end Text

open Text

/-- The texts of the children stand in the text that is rendered from them. -/
theorem Renders.standsIn {l : Language} {kind : Kind} {name : Option String}
    {texts : List String} {text : String} (h : Renders l kind name texts text) {part : String}
    (hpart : part ∈ texts) : StandsIn part text := by
  have hpair {first second : String} (operator : String) (hpart : part ∈ [first, second]) :
      StandsIn part (first ++ operator ++ second) := by
    rcases List.mem_pair.mp hpart with rfl | rfl
    · exact ((standsIn_self part).append _).append _
    · exact (standsIn_self part).prepend _
  cases h with
  | identifier | literal | field | markup | echo => cases hpart
  | member | staticMember | pair | assignment => exact hpair _ hpart
  | call callee args =>
    rcases List.mem_cons.mp hpart with rfl | harg
    · exact (((standsIn_self part).append _).append _).append _
    · exact ((standsIn_intercalate _ harg).prepend _).append _
  | array elements => exact ((standsIn_intercalate _ hpart).prepend _).append _
  | arrayAccess base index => exact (hpair _ hpart).append _
  | concatenation parts => exact standsIn_intercalate _ hpart
  | statement expr =>
    rw [List.mem_singleton.mp hpart]
    exact (standsIn_self expr).append _
  | block statements => exact ((standsIn_intercalate _ hpart).prepend _).append _
  | method name body =>
    rw [List.mem_singleton.mp hpart]
    exact (standsIn_self body).prepend _
  | classDecl name members => exact ((standsIn_intercalate _ hpart).prepend _).append _
  | file items => exact standsIn_intercalate _ hpart

namespace Builder

variable {b b' : Builder} {language : Language} {path : Option Path} {steps : List Step}

/-- A run leaves the nodes that are there as they are, but for the spans that it sets. -/
theorem exists_span_of_run? (hraw : ∀ step ∈ steps, step.isRaw = false)
    (h : b.run? steps = some b') {id : NodeId} {node : Node} (hnode : b.nodes[id]? = some node) :
    ∃ span, b'.nodes[id]? = some { node with span := span } ∧
      ((∀ line column, .locate id line column ∉ steps) → span = node.span) := by
  apply run?_keeps (P := fun c => ∃ span, c.nodes[id]? = some { node with span := span } ∧
    ((∀ line column, .locate id line column ∉ steps) → span = node.span)) hraw ?_ ?_ h
  · exact ⟨node.span, hnode, fun _ => rfl⟩
  · rintro c new _ ⟨span, hc, hspan⟩
    exact ⟨span, getElem?_add_of_eq_some hc new, hspan⟩
  · rintro c id' placed line column hmem hplaced ⟨span, hc, hspan⟩
    obtain ⟨span', hkept, hspan'⟩ := exists_span_of_place hplaced hc { line, column }
    refine ⟨span', hkept, fun hnone => ?_⟩
    rw [hspan' (fun hid => hnone line column (hid ▸ hmem)), hspan hnone]

theorem Composed.standsIn_of_link (h : b.Composed) {root p q : NodeId} {node child : Node}
    (hlink : (b.table root).Link p q) (hnode : b.nodes[p]? = some node)
    (hchild : b.nodes[q]? = some child) : StandsIn child.text node.text := by
  have hq : q ∈ node.children := by
    simpa [Table.Link, Table.children, table, hnode] using hlink
  obtain ⟨texts, htexts, hrenders⟩ := h.rendered p node hnode
  obtain ⟨text, hmem, htext⟩ := exists_text_of_mem htexts hq
  obtain rfl : child.text = text := by simpa [text?, hchild] using htext
  exact hrenders.standsIn hmem

/-- The text of a node stands in the text of every node from which it can be reached. -/
theorem Composed.standsIn_of_reaches (h : b.Composed) {root p q : NodeId} {node below : Node}
    (hreach : (b.table root).Reaches p q) (hnode : b.nodes[p]? = some node)
    (hbelow : b.nodes[q]? = some below) : StandsIn below.text node.text := by
  induction hreach generalizing below with
  | refl =>
    obtain rfl := Option.some.inj (hnode.symm.trans hbelow)
    exact standsIn_self _
  | @tail q r hreach hlink ih =>
    obtain ⟨middle, hmiddle⟩ : ∃ middle, b.nodes[q]? = some middle :=
      ⟨_, Array.getElem?_eq_getElem hlink.source_lt⟩
    exact (h.standsIn_of_link hlink hmiddle hbelow).trans (ih hmiddle)

/-- In a run without raw nodes, a node stays as it was added, but for its span, which only placing
it changes. In the end the text of every node is rendered from the texts of its children with the
operators of the language, and the text of a node stands in one piece in the texts of all nodes
above it, in the table and in the tree that it is linked to. -/
theorem texts_rendered (hraw : ∀ step ∈ steps, step.isRaw = false)
    (hrun : run? { language, path } steps = some b) :
    (∀ before after, steps = before ++ after →
      ∃ c, run? { language, path } before = some c ∧
        ∀ (id : NodeId) (node : Node), c.nodes[id]? = some node →
          ∃ span, b.nodes[id]? = some { node with span := span } ∧
            ((∀ line column, .locate id line column ∉ after) → span = node.span)) ∧
    (∀ (id : NodeId) (node : Node), b.nodes[id]? = some node →
      ∃ texts, b.texts? node.children = some texts ∧
        Renders language node.kind node.name texts node.text) ∧
    (∀ (root p q : NodeId) (node below : Node), (b.table root).Reaches p q →
      b.nodes[p]? = some node → b.nodes[q]? = some below → StandsIn below.text node.text) ∧
    ∀ root t, b.finish root = .ok t →
      ∀ c d : Cursor t, c ∈ d.ancestors → StandsIn d.text c.text := by
  have hcomposed := composed_of_run? hraw hrun
  have hlanguage : b.language = language := language_of_run? hraw hrun
  refine ⟨?_, ?_, ?_, ?_⟩
  · rintro before after rfl
    obtain ⟨c, hbefore, hafter⟩ := (run?_append_eq_some_iff _ _ _ _).mp hrun
    refine ⟨c, hbefore, fun id node hnode => ?_⟩
    exact exists_span_of_run? (fun step hstep => hraw step (List.mem_append_right _ hstep))
      hafter hnode
  · intro id node hnode
    rw [← hlanguage]
    exact hcomposed.rendered id node hnode
  · intro root p q node below hreach hnode hbelow
    exact hcomposed.standsIn_of_reaches hreach hnode hbelow
  · intro root t ht c d hc
    have htable := (SyntaxTree.ofTable_eq_ok_iff (b.table root) t).mp ht
    have hnode (e : Cursor t) : b.nodes[e.id]? = some e.node := by
      rw [← e.getElem?_nodes, htable]
      rfl
    have hreach := (Cursor.ascent_ancestors d).reaches hc
    rw [htable] at hreach
    exact hcomposed.standsIn_of_reaches hreach (hnode c) (hnode d)

/-- The variable that is stored shows in the text of the file. The call is placed after it was
added, which changes its span and nothing else. -/
theorem storageSteps_texts : ∃ b c, run? { language := .php } storageSteps = some b ∧
    run? { language := .php } (storageSteps.take 5) = some c ∧
    b.text? 1 = some "$otp" ∧ b.text? 9 = some "User::create(['otp' => $otp]);" ∧
    StandsIn "$otp" "User::create(['otp' => $otp]);" ∧
    c.nodes[7]?.map (·.span) = some none ∧
    b.nodes[7]?.map (·.span) = some (some { line := 3, column := 4 }) ∧
    ∀ node, c.nodes[7]? = some node → ∃ span, b.nodes[7]? = some { node with span := span } := by
  have htexts : ((run? { language := .php } storageSteps).map fun b => (b.text? 1, b.text? 9)) =
      some (some "$otp", some "User::create(['otp' => $otp]);") := by
    decide +kernel
  have hplaced : ((run? { language := .php } storageSteps).map fun b => b.nodes[7]?.map (·.span)) =
      some (some (some { line := 3, column := 4 })) := by
    decide +kernel
  have hchildren : ((run? { language := .php } storageSteps).map fun b =>
      [9, 8, 7, 3, 2].map (b.table 9).children) = some [[8], [7], [6, 3], [2], [0, 1]] := by
    decide +kernel
  have hadded : ((run? { language := .php } (storageSteps.take 5)).map fun c =>
      c.nodes[7]?.map (·.span)) = some (some none) := by
    decide +kernel
  obtain ⟨b, hrun, hb⟩ := Option.map_eq_some_iff.mp htexts
  obtain ⟨hvariable, hfile⟩ := Prod.mk.inj hb
  rw [hrun, Option.map_some, Option.some.injEq] at hplaced hchildren
  obtain ⟨hkept, _, hstands, _⟩ := texts_rendered (by decide) hrun
  obtain ⟨c, hbefore, hnodes⟩ := hkept (storageSteps.take 5) (storageSteps.drop 5)
    (List.take_append_drop 5 storageSteps).symm
  rw [hbefore, Option.map_some, Option.some.injEq] at hadded
  refine ⟨b, c, hrun, hbefore, hvariable, hfile, ?_, hadded, hplaced, ?_⟩
  · obtain ⟨below, hbelow, hbelowText⟩ := (text?_eq_some_iff b 1 _).mp hvariable
    obtain ⟨node, hnode, hnodeText⟩ := (text?_eq_some_iff b 9 _).mp hfile
    simp only [List.map_cons, List.map_nil, List.cons.injEq, and_true] at hchildren
    obtain ⟨h98, h87, h73, h32, h21⟩ := hchildren
    have hreach : (b.table 9).Reaches 9 1 := by
      have hlinks : (b.table 9).Link 9 8 ∧ (b.table 9).Link 8 7 ∧ (b.table 9).Link 7 3 ∧
          (b.table 9).Link 3 2 ∧ (b.table 9).Link 2 1 := by
        simp [Table.Link, h98, h87, h73, h32, h21]
      obtain ⟨h98, h87, h73, h32, h21⟩ := hlinks
      exact .head h98 (.head h87 (.head h73 (.head h32 (.single h21))))
    rw [← hbelowText, ← hnodeText]
    exact hstands 9 9 1 node below hreach hnode hbelow
  · intro node hnode
    obtain ⟨span, hb, _⟩ := hnodes 7 node hnode
    exact ⟨span, hb⟩

end Builder

end SecurityLint
