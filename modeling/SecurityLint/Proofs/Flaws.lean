import Mathlib.Data.Set.Card
import SecurityLint.Proofs.Ascent
import SecurityLint.Proofs.Numerals

/-!
What is said of a table that is no tree. The pass over the links stops at the first one that it
cannot follow; the links before it were followed, so the parents that it looks at are those that
they give. Hence the flaw is one that the table has, and as a message tells its flaw, each message
is true. The nodes that the walk has not found are those that cannot be reached.
-/
namespace SecurityLint

/-- What the flaw says of a table. -/
def Flaw.HoldsOf (t : Table) : Flaw → Prop
  | rootOutOfRange root size => root = t.root ∧ size = t.size ∧ size ≤ root
  | missingChild node child => t.Link node child ∧ t.size ≤ child
  | rootAsChild root node => root = t.root ∧ t.Link node root
  | twoParents child first second =>
    first ≤ second ∧ t.Link first child ∧ t.Link second child ∧
      (first = second → 2 ≤ (t.children first).count child)
  | unreachable count size =>
    size = t.size ∧ 0 < count ∧ count = {q | q < t.size ∧ ¬ t.Reaches t.root q}.ncard

namespace Table

variable {t : Table} {flaw : Flaw}

theorem adopt_eq_error {p q : NodeId} {parents : Parents}
    (h : t.adopt p parents q = .error flaw) :
    (parents.size ≤ q ∧ flaw = .missingChild p q) ∨
      (q = t.root ∧ flaw = .rootAsChild q p) ∨
      ∃ first, parents[q]? = some (some first) ∧ flaw = .twoParents q first p := by
  unfold adopt at h
  split at h
  · next hq =>
    split at h
    · next hroot =>
      cases h
      exact .inr (.inl ⟨hroot, rfl⟩)
    · split at h
      · next first hfirst =>
        cases h
        exact .inr (.inr ⟨first, Array.getElem?_eq_some_iff.mpr ⟨hq, hfirst⟩, rfl⟩)
      · cases h
  · next hq =>
    cases h
    exact .inl ⟨Nat.le_of_not_lt hq, rfl⟩

/-- A pass that fails has followed the links before one that cannot be followed. -/
theorem exists_of_foldlM_adoptEdge_eq_error {links : List (NodeId × NodeId)} {parents : Parents}
    (h : links.foldlM t.adoptEdge parents = .error flaw) :
    ∃ before e after reached, links = before ++ e :: after ∧
      before.foldlM t.adoptEdge parents = .ok reached ∧ t.adoptEdge reached e = .error flaw := by
  induction links generalizing parents with
  | nil => cases h
  | cons e links ih =>
    rw [List.foldlM_cons] at h
    cases hadopt : t.adoptEdge parents e with
    | error found =>
      rw [hadopt] at h
      cases h
      exact ⟨[], e, links, parents, rfl, rfl, hadopt⟩
    | ok next =>
      rw [hadopt] at h
      obtain ⟨before, e', after, reached, rfl, hbefore, hstop⟩ := ih h
      refine ⟨e :: before, e', after, reached, rfl, ?_, hstop⟩
      rw [List.foldlM_cons, hadopt]
      exact hbefore

theorem pairwise_edges (t : Table) : t.edges.Pairwise fun e e' => e.1 ≤ e'.1 := by
  rw [edges, List.pairwise_flatMap]
  constructor
  · intro p _
    rw [List.pairwise_map]
    exact List.pairwise_of_forall fun _ _ => Nat.le_refl p
  · refine List.pairwise_lt_range.imp ?_
    intro p p' hlt e he e' he'
    obtain ⟨_, _, rfl⟩ := List.mem_map.mp he
    obtain ⟨_, _, rfl⟩ := List.mem_map.mp he'
    exact Nat.le_of_lt hlt

/-- A link comes as often as the node lists the child. -/
theorem count_edges (t : Table) (p q : NodeId) :
    t.edges.count (p, q) = (t.children p).count q := by
  have hown : ((t.children p).map fun c => (p, c)).count (p, q) = (t.children p).count q :=
    List.count_map_of_injective _ _ (fun _ _ h => (Prod.mk.inj h).2) q
  have hother : ∀ p', p' ≠ p → p' ∈ List.range t.size →
      ((t.children p').map fun c => (p', c)).count (p, q) = 0 := by
    intro p' hne _
    refine List.count_eq_zero_of_not_mem fun hmem => ?_
    obtain ⟨_, _, heq⟩ := List.mem_map.mp hmem
    exact hne (Prod.mk.inj heq).1
  rw [edges, List.count_flatMap, Function.comp_def, List.sum_map_eq_nsmul_single p _ hother, hown]
  by_cases hp : p < t.size
  · rw [List.count_eq_one_of_mem List.nodup_range (List.mem_range.mpr hp), one_nsmul]
  · have hnone : q ∉ t.children p := fun hmem => hp (Link.source_lt hmem)
    rw [List.count_eq_zero_of_not_mem hnone, nsmul_zero]

/-- The pass over the links stops for a flaw of the table. -/
theorem holdsOf_of_foldlM_adoptEdge
    (h : t.edges.foldlM t.adoptEdge (Array.replicate t.size none) = .error flaw) :
    flaw.HoldsOf t := by
  obtain ⟨before, ⟨p, q⟩, after, reached, hsplit, hbefore, hstop⟩ :=
    exists_of_foldlM_adoptEdge_eq_error h
  change t.adopt p reached q = .error flaw at hstop
  have hlink {p' q' : NodeId} (hmem : (p', q') ∈ before ++ [(p, q)]) : t.Link p' q' := by
    rw [← mem_edges_iff, hsplit, List.append_cons]
    exact List.mem_append_left _ hmem
  have hlast : t.Link p q := hlink (List.mem_append_right _ List.mem_cons_self)
  obtain ⟨hnodup, hends, rfl⟩ := (foldlM_adoptEdge_eq_ok_iff t _ _ reached).mp hbefore
  rcases adopt_eq_error hstop with ⟨hsize, rfl⟩ | ⟨hroot, rfl⟩ | ⟨first, hfirst, rfl⟩
  · exact ⟨hlast, by simpa [size_assign] using hsize⟩
  · exact ⟨hroot, hlast⟩
  · rw [assign_eq_parent_iff _ _ _ _ hnodup fun e he => (hends e he).1] at hfirst
    have hmem : (first, q) ∈ before := hfirst.resolve_left (by simp [Array.getElem?_replicate])
    refine ⟨?_, hlink (List.mem_append_left _ hmem), hlast, ?_⟩
    · have hsorted := t.pairwise_edges
      rw [hsplit] at hsorted
      exact (List.pairwise_append.mp hsorted).2.2 _ hmem _ List.mem_cons_self
    · rintro rfl
      have hcount := List.count_pos_iff.mpr hmem
      rw [← count_edges, hsplit, List.count_append, List.count_cons_self]
      omega

/-- The walk leaves out the nodes that cannot be reached, and only these. -/
theorem ncard_unreached (t : Table) :
    t.preorder.length ≤ t.size ∧
      {q | q < t.size ∧ ¬ t.Reaches t.root q}.ncard = t.size - t.preorder.length := by
  have hunreached : {q | q < t.size ∧ ¬ t.Reaches t.root q} =
      ↑(Finset.range t.size \ t.preorder.toFinset) := by
    ext q
    have hreached := mem_preorder_iff t q
    simp only [Set.mem_ofPred_eq, Finset.coe_sdiff, Set.mem_sdiff, Finset.mem_coe,
      Finset.mem_range, List.mem_toFinset, hreached]
    tauto
  have hsubset : t.preorder.toFinset ⊆ Finset.range t.size := by
    intro q hq
    exact Finset.mem_range.mpr (lt_of_mem_preorder t q (List.mem_toFinset.mp hq))
  refine ⟨by simpa using (preorder_subperm_range t).length_le, ?_⟩
  rw [hunreached, Set.ncard_coe_finset, Finset.card_sdiff_of_subset hsubset, Finset.card_range,
    List.toFinset_card_of_nodup t.nodup_preorder]

/-- The flaw for which a table is not linked is one that it has. -/
theorem holdsOf_of_link_eq_error (h : t.link = .error flaw) : flaw.HoldsOf t := by
  unfold link at h
  rw [foldlM_adoptAll] at h
  by_cases hroot : t.size ≤ t.root
  · simp only [hroot, if_true, bind, Except.bind, throw, throwThe, MonadExceptOf.throw] at h
    cases h
    exact ⟨rfl, rfl, hroot⟩
  · cases hpass : t.edges.foldlM t.adoptEdge (Array.replicate t.size none) with
    | error found =>
      simp only [hroot, if_false, hpass, bind, Except.bind] at h
      cases h
      exact holdsOf_of_foldlM_adoptEdge hpass
    | ok parents =>
      simp only [hroot, if_false, hpass, bind, Except.bind, pure, Except.pure] at h
      split at h
      · next hmissed =>
        cases h
        obtain ⟨hle, hcount⟩ := t.ncard_unreached
        exact ⟨rfl, by omega, hcount.symm⟩
      · cases h

/-- A tree has no flaw. -/
theorem IsTree.not_holdsOf (h : t.IsTree) (flaw : Flaw) : ¬ flaw.HoldsOf t := by
  have hlisted := t.listed_once_iff.mp h.listed_once
  cases flaw with
  | rootOutOfRange root size =>
    rintro ⟨rfl, rfl, hout⟩
    exact Nat.not_le.mpr h.root_lt hout
  | missingChild node child =>
    rintro ⟨hlink, hout⟩
    exact Nat.not_le.mpr (h.link_lt hlink) hout
  | rootAsChild root node =>
    rintro ⟨rfl, hlink⟩
    exact h.link_ne_root hlink rfl
  | twoParents child first second =>
    rintro ⟨_, hfirst, hsecond, htwice⟩
    have hcount := htwice (hlisted.2 first second child hfirst hsecond)
    have honce := List.nodup_iff_count_le_one.mp (h.nodup_children hfirst.source_lt) child
    omega
  | unreachable count size =>
    rintro ⟨_, hpos, rfl⟩
    obtain ⟨q, hq, hunreached⟩ := Set.nonempty_of_ncard_ne_zero (Nat.pos_iff_ne_zero.mp hpos)
    exact hunreached (h.reaches q hq)

end Table

namespace Flaw

/-- What a message begins with, and its numbers, each with the piece behind it. -/
def template : Flaw → String × List (ℕ × String)
  | rootOutOfRange root size => ("root #", [(root, " out of range ("), (size, " nodes)")])
  | missingChild node child => ("node #", [(node, " references missing child #"), (child, "")])
  | rootAsChild root node => ("root #", [(root, " appears as a child of #"), (node, "")])
  | twoParents child first second =>
    ("node #", [(child, " has two parents (#"), (first, " and #"), (second, ")")])
  | unreachable count size =>
    ("", [(count, " of "), (size, " nodes are not reachable from the root")])

theorem toList_message (flaw : Flaw) :
    flaw.message.toList = flaw.template.1.toList ++ Text.numbered flaw.template.2 := by
  cases flaw <;> simp [message, template, NodeId.label, Text.numbered, toString]

theorem spaced_template (flaw : Flaw) :
    Text.HasNoDigit flaw.template.1 ∧ Text.Spaced flaw.template.2 := by
  cases flaw <;> simp [template, Text.Spaced, Text.HasNoDigit]

theorem template_injective : Function.Injective template := by
  intro flaw flaw' h
  cases flaw <;> cases flaw' <;> simp_all [template]

/-- The message with its numbers in place. -/
def wording : Flaw → String
  | rootOutOfRange root size => s!"root #{root} out of range ({size} nodes)"
  | missingChild node child => s!"node #{node} references missing child #{child}"
  | rootAsChild root node => s!"root #{root} appears as a child of #{node}"
  | twoParents child first second =>
    s!"node #{child} has two parents (#{first} and #{second})"
  | unreachable count size => s!"{count} of {size} nodes are not reachable from the root"

theorem message_eq_wording (flaw : Flaw) : flaw.message = flaw.wording := by
  apply String.toList_injective
  cases flaw <;> simp [message, wording, NodeId.label, toString]

/-- The message tells the flaw. -/
theorem message_injective : Function.Injective message := by
  intro flaw flaw' h
  obtain ⟨hlead, hparts⟩ := spaced_template flaw
  obtain ⟨hlead', hparts'⟩ := spaced_template flaw'
  have hlist := congrArg String.toList h
  rw [toList_message, toList_message] at hlist
  obtain ⟨hsame, hrest⟩ := Text.span_append_inj hlead (Text.head?_numbered _) hlead'
    (Text.head?_numbered _) hlist
  have hnumbers := Text.numbered_inj hparts hparts' hrest
  exact template_injective (Prod.ext (String.toList_injective hsame) hnumbers)

end Flaw

namespace SyntaxTree

/-- A table is rejected exactly if it has a flaw, and the message is true of it: whatever flaw reads
like the message, the table has. The message is one of five, each of which says what stands below
it. The count of the nodes that are not reached is exact, as the walk never finds more nodes
than there are. -/
theorem rejected_with_true_message (t : Table) :
    ((∃ flaw, ofTable t = .error flaw) ↔ ∃ flaw : Flaw, flaw.HoldsOf t) ∧
    (∀ flaw, ofTable t = .error flaw →
      ∀ stated : Flaw, stated.message = flaw.message → stated.HoldsOf t) ∧
    (∀ flaw, ofTable t = .error flaw →
      (∃ r n : ℕ, flaw.message = s!"root #{r} out of range ({n} nodes)") ∨
      (∃ p c : ℕ, flaw.message = s!"node #{p} references missing child #{c}") ∨
      (∃ r p : ℕ, flaw.message = s!"root #{r} appears as a child of #{p}") ∨
      (∃ c p q : ℕ, flaw.message = s!"node #{c} has two parents (#{p} and #{q})") ∨
      ∃ k n : ℕ, flaw.message = s!"{k} of {n} nodes are not reachable from the root") ∧
    (∀ flaw, ofTable t = .error flaw →
      (∀ r n : ℕ, flaw.message = s!"root #{r} out of range ({n} nodes)" →
        r = t.root ∧ n = t.size ∧ n ≤ r) ∧
      (∀ p c : ℕ, flaw.message = s!"node #{p} references missing child #{c}" →
        c ∈ t.children p ∧ t.size ≤ c) ∧
      (∀ r p : ℕ, flaw.message = s!"root #{r} appears as a child of #{p}" →
        r = t.root ∧ r ∈ t.children p) ∧
      (∀ c p q : ℕ, flaw.message = s!"node #{c} has two parents (#{p} and #{q})" →
        p ≤ q ∧ c ∈ t.children p ∧ c ∈ t.children q ∧ (p = q → 2 ≤ (t.children p).count c)) ∧
      ∀ k n : ℕ, flaw.message = s!"{k} of {n} nodes are not reachable from the root" →
        n = t.size ∧ 0 < k ∧ k = {q | q < t.size ∧ ¬ t.Reaches t.root q}.ncard) ∧
    t.preorder.length ≤ t.size := by
  have hholds : ∀ flaw, ofTable t = .error flaw → flaw.HoldsOf t := by
    intro flaw h
    exact Table.holdsOf_of_link_eq_error ((ofTable_eq_error_iff t flaw).mp h)
  have hstated : ∀ flaw, ofTable t = .error flaw →
      ∀ stated : Flaw, stated.message = flaw.message → stated.HoldsOf t := by
    intro flaw h stated hmessage
    rw [Flaw.message_injective hmessage]
    exact hholds flaw h
  refine ⟨⟨?_, ?_⟩, hstated, ?_, ?_, t.ncard_unreached.1⟩
  · intro h
    obtain ⟨flaw, h⟩ := h
    exact ⟨flaw, hholds flaw h⟩
  · intro h
    obtain ⟨flaw, h⟩ := h
    cases hresult : ofTable t with
    | error found => exact ⟨found, rfl⟩
    | ok tree =>
      have htree : t.IsTree := (exists_ofTable_eq_ok_iff t).mp ⟨tree, hresult⟩
      exact absurd h (htree.not_holdsOf flaw)
  · intro flaw h
    rw [flaw.message_eq_wording]
    cases flaw with
    | rootOutOfRange r n => exact .inl ⟨r, n, rfl⟩
    | missingChild p c => exact .inr (.inl ⟨p, c, rfl⟩)
    | rootAsChild r p => exact .inr (.inr (.inl ⟨r, p, rfl⟩))
    | twoParents c p q => exact .inr (.inr (.inr (.inl ⟨c, p, q, rfl⟩)))
    | unreachable k n => exact .inr (.inr (.inr (.inr ⟨k, n, rfl⟩)))
  · intro flaw h
    have hwording : ∀ stated : Flaw, flaw.message = stated.wording → stated.HoldsOf t := by
      intro stated hmessage
      exact hstated flaw h stated (stated.message_eq_wording.trans hmessage.symm)
    refine ⟨?_, ?_, ?_, ?_, ?_⟩
    · intro r n hmessage
      exact hwording (.rootOutOfRange r n) hmessage
    · intro p c hmessage
      exact hwording (.missingChild p c) hmessage
    · intro r p hmessage
      exact hwording (.rootAsChild r p) hmessage
    · intro c p q hmessage
      exact hwording (.twoParents c p q) hmessage
    · intro k n hmessage
      exact hwording (.unreachable k n) hmessage

/-- The root lists its child twice. -/
def twinTable : Table where
  root := 0
  nodes := #[
    { kind := .file, text := "x x", children := [1, 1] },
    { kind := .identifier, text := "x" }]

/-- Two nodes beside the tree list each other. -/
def circleTable : Table where
  root := 0
  nodes := #[
    { kind := .file, text := "x", children := [1] },
    { kind := .identifier, text := "x" },
    { kind := .block, text := "", children := [3] },
    { kind := .block, text := "", children := [2] }]

theorem twins_and_circle_rejected :
    (∃ flaw, ofTable twinTable = .error flaw ∧
      flaw.message = "node #1 has two parents (#0 and #0)" ∧ 2 ≤ (twinTable.children 0).count 1) ∧
    ∃ flaw, ofTable circleTable = .error flaw ∧
      flaw.message = "2 of 4 nodes are not reachable from the root" ∧
      {q | q < circleTable.size ∧ ¬ circleTable.Reaches 0 q}.ncard = 2 := by
  have htwins : ofTable twinTable = .error (.twoParents 1 0 0) :=
    (ofTable_eq_error_iff _ _).mpr (by cbv)
  have hcircle : ofTable circleTable = .error (.unreachable 2 4) :=
    (ofTable_eq_error_iff _ _).mpr (by cbv)
  obtain ⟨_, _, _, htwice, _⟩ := rejected_with_true_message twinTable
  obtain ⟨_, _, _, hcount, _⟩ := rejected_with_true_message circleTable
  have htwinsMessage : (Flaw.twoParents 1 0 0).message = "node #1 has two parents (#0 and #0)" := by
    cbv
  have hcircleMessage :
      (Flaw.unreachable 2 4).message = "2 of 4 nodes are not reachable from the root" := by
    cbv
  refine ⟨⟨_, htwins, htwinsMessage, ?_⟩, _, hcircle, hcircleMessage, ?_⟩
  · exact ((htwice _ htwins).2.2.2.1 1 0 0 htwinsMessage).2.2.2 rfl
  · exact ((hcount _ hcircle).2.2.2.2 2 4 hcircleMessage).2.2.symm

end SyntaxTree

end SecurityLint
