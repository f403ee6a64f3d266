import SecurityLint.Proofs.Ascent

/-!
Document order by recursion on the tree: a node, then the nodes below its children, child by
child. The walk with its stack and marks visits a tree in this order: what is on the stack
are roots of disjoint subtrees without a mark, so no node that it meets was seen before.
-/
namespace SecurityLint

namespace Cursor

variable {t : SyntaxTree}

theorem children_eq_ids (c : Cursor t) : c.children.map Cursor.id = t.table.children c.id := by
  have hinside : ∀ q ∈ c.node.children, q < t.size := by
    intro q hq
    rw [← table_children] at hq
    exact t.isTree.child_lt q ((Table.mem_listed_iff _ _).mpr ⟨c.id, hq⟩)
  rw [table_children, children]
  generalize c.node.children = ids at hinside
  induction ids with
  | nil => rfl
  | cons q ids ih =>
    have hq : t.cursor? q = some ⟨q, hinside q List.mem_cons_self⟩ :=
      (SyntaxTree.cursor?_eq_some_iff t q _).mpr rfl
    rw [List.filterMap_cons_some hq, List.map_cons,
      ih (fun q hq => hinside q (List.mem_cons_of_mem _ hq))]

theorem mem_children_iff (c d : Cursor t) : d ∈ c.children ↔ d.parent? = some c := by
  rw [parent?_eq_some_iff, ← table_children, ← children_eq_ids, List.mem_map]
  constructor
  · intro hd
    exact ⟨d, hd, rfl⟩
  · rintro ⟨e, he, hid⟩
    rwa [← eq_of_id_eq hid]

theorem nodup_children (c : Cursor t) : c.children.Nodup := by
  have hlisted : t.table.listed.Nodup := List.nodup_iff_count_le_one.mpr t.isTree.listed_once
  have hids : c.node.children.Nodup := by
    have hnode : c.node ∈ t.table.nodes.toList := by simp [node]
    exact (List.nodup_flatMap.mp hlisted).1 c.node hnode
  rw [← table_children, ← children_eq_ids] at hids
  exact hids.of_map

/-- How far a node is below the root. -/
def depth (c : Cursor t) : Nat :=
  c.ancestors.length

theorem depth_lt_size (c : Cursor t) : c.depth < t.size :=
  (ascent_ancestors c).length_lt_size

theorem depth_of_mem_children {c d : Cursor t} (h : d ∈ c.children) : d.depth = c.depth + 1 := by
  rw [depth, ancestors_of_parent?_eq_some ((mem_children_iff c d).mp h)]
  rfl

/-- A node, followed by the nodes below each of its children in turn. -/
def order (c : Cursor t) : List (Cursor t) :=
  c :: c.children.attach.flatMap fun d => d.1.order
termination_by t.size - c.depth
decreasing_by
  have hdepth := depth_of_mem_children d.2
  have hlt := depth_lt_size d.1
  omega

theorem order_eq (c : Cursor t) : c.order = c :: c.children.flatMap order := by
  rw [order]
  congr 1
  rw [List.flatMap_def, List.flatMap_def]
  congr 1
  exact List.attach_map_val (f := order)

/-- The way up that meets a node goes on to its parent. -/
theorem Ascent.mem_of_parent? {c d e : Cursor t} {l : List (Cursor t)} (h : Ascent d l)
    (he : e ∈ d :: l) (hparent : e.parent? = some c) : c ∈ l := by
  induction h with
  | root d hroot =>
    obtain rfl := List.mem_singleton.mp he
    simp [(parent?_eq_none_iff e).mpr hroot] at hparent
  | @parent d p above hp hup ih =>
    rcases List.mem_cons.mp he with rfl | he
    · obtain rfl := Option.some.inj (hp.symm.trans hparent)
      exact List.mem_cons_self
    · exact List.mem_cons_of_mem _ (ih he)

/-- What comes in the order of `c` are the nodes whose way up meets `c`. -/
theorem mem_ancestors_of_mem_order {c d : Cursor t} (h : d ∈ c.order) :
    c ∈ d :: d.ancestors := by
  fun_induction order c with
  | case1 c ih =>
    rcases List.mem_cons.mp h with rfl | h
    · exact List.mem_cons_self
    · obtain ⟨⟨e, he⟩, _, hd⟩ := List.mem_flatMap.mp h
      have hmeet := ih ⟨e, he⟩ hd
      exact List.mem_cons_of_mem _
        ((ascent_ancestors d).mem_of_parent? hmeet ((mem_children_iff c e).mp he))

theorem Ascent.length_eq_depth {c : Cursor t} {l : List (Cursor t)} (h : Ascent c l) :
    l.length = c.depth := by
  rw [depth, (ascent_ancestors c).unique h]

theorem Ascent.depth_lt {c d : Cursor t} {l : List (Cursor t)} (h : Ascent d l) (hc : c ∈ l) :
    c.depth < d.depth := by
  obtain ⟨l', hl', hlt⟩ := h.exists_shorter hc
  rwa [hl'.length_eq_depth, h.length_eq_depth] at hlt

/-- On the way up from a node there is one node of each depth. -/
theorem Ascent.eq_of_depth_eq {c d e : Cursor t} {l : List (Cursor t)} (h : Ascent e l)
    (hc : c ∈ e :: l) (hd : d ∈ e :: l) (hdepth : c.depth = d.depth) : c = d := by
  induction h with
  | root e hroot => rw [List.mem_singleton.mp hc, List.mem_singleton.mp hd]
  | @parent e p above hp hup ih =>
    have hall := Ascent.parent hp hup
    rcases List.mem_cons.mp hc with rfl | hcup
    · rcases List.mem_cons.mp hd with rfl | hdup
      · rfl
      · have hlt := hall.depth_lt hdup
        omega
    · rcases List.mem_cons.mp hd with rfl | hdup
      · have hlt := hall.depth_lt hcup
        omega
      · exact ih hcup hdup

theorem nodup_order (c : Cursor t) : c.order.Nodup := by
  fun_induction order c with
  | case1 c ih =>
    rw [← order, order_eq]
    refine List.nodup_cons.mpr ⟨?_, List.nodup_flatMap.mpr ⟨fun d hd => ih ⟨d, hd⟩, ?_⟩⟩
    · intro hmem
      obtain ⟨d, hd, hc⟩ := List.mem_flatMap.mp hmem
      have hdepth := depth_of_mem_children hd
      rcases List.mem_cons.mp (mem_ancestors_of_mem_order hc) with rfl | hup
      · omega
      · have hlt := (ascent_ancestors c).depth_lt hup
        omega
    · refine List.Pairwise.imp_of_mem ?_ (nodup_children c)
      intro d e hd he hne x hxd hxe
      apply hne
      apply (ascent_ancestors x).eq_of_depth_eq (mem_ancestors_of_mem_order hxd)
        (mem_ancestors_of_mem_order hxe)
      rw [depth_of_mem_children hd, depth_of_mem_children he]

theorem mem_order_self (c : Cursor t) : c ∈ c.order := by
  rw [order_eq]
  exact List.mem_cons_self

theorem infix_order_of_mem_children {c d : Cursor t} (h : d ∈ c.children) :
    d.order <:+: c.order := by
  obtain ⟨before, after, hsplit⟩ := List.append_of_mem h
  refine ⟨c :: before.flatMap order, after.flatMap order, ?_⟩
  rw [order_eq c, hsplit, List.flatMap_append, List.flatMap_cons, List.cons_append,
    List.cons_append, List.append_assoc]

/-- The order of a node is one block in the order of each node on its way up. -/
theorem Ascent.infix_order_of_mem {c d : Cursor t} {l : List (Cursor t)} (h : Ascent d l)
    (hc : c ∈ d :: l) : d.order <:+: c.order := by
  induction h with
  | root d hroot =>
    obtain rfl := List.mem_singleton.mp hc
    exact List.infix_refl _
  | @parent d p above hp hup ih =>
    rcases List.mem_cons.mp hc with rfl | hc
    · exact List.infix_refl _
    · have hblock := infix_order_of_mem_children ((mem_children_iff p d).mpr hp)
      exact hblock.trans (ih hc)

theorem mem_order_iff (c d : Cursor t) : d ∈ c.order ↔ c ∈ d :: d.ancestors := by
  constructor
  · exact mem_ancestors_of_mem_order
  · intro h
    exact ((ascent_ancestors d).infix_order_of_mem h).subset d.mem_order_self

/-- What comes behind a node in its own order are the nodes below it. -/
theorem mem_flatMap_order_iff (c d : Cursor t) :
    d ∈ c.children.flatMap order ↔ c ∈ d.ancestors := by
  have hmem := mem_order_iff c d
  have hnodup := nodup_order c
  rw [order_eq, List.nodup_cons] at hnodup
  rw [order_eq, List.mem_cons, List.mem_cons] at hmem
  by_cases hdc : d = c
  · subst hdc
    have hnot := (ascent_ancestors d).not_mem_self
    exact ⟨fun h => absurd h hnodup.1, fun h => absurd h hnot⟩
  · simpa [hdc, Ne.symm hdc] using hmem

/-- The recursion has one solution: whatever lists a node before what it lists of the children
lists the order of the node. -/
theorem map_id_order_eq (f : NodeId → List NodeId)
    (hf : ∀ n < t.size, f n = n :: (t.table.children n).flatMap f) (c : Cursor t) :
    c.order.map Cursor.id = f c.id := by
  fun_induction order c with
  | case1 c ih =>
    rw [← order, order_eq, List.map_cons, hf c.id c.inside, ← children_eq_ids, List.map_flatMap,
      List.flatMap_map]
    congr 1
    exact List.flatMap_congr fun d hd => ih ⟨d, hd⟩

/-- On subtrees in which nothing is marked yet and no node comes twice, the walk visits one
subtree after the other. -/
theorem walk_eq_flatMap_order (seen : Array Bool) (stack : List (Cursor t))
    (hnodup : (stack.flatMap order).Nodup)
    (hunseen : ∀ c ∈ stack.flatMap order, seen[c.id]? = some false) :
    t.table.walk seen (stack.map Cursor.id) = (stack.flatMap order).map Cursor.id := by
  obtain ⟨n, hn⟩ : ∃ n, (stack.flatMap order).length = n := ⟨_, rfl⟩
  induction n generalizing seen stack with
  | zero =>
    cases stack with
    | nil => simp [Table.walk]
    | cons c rest =>
      rw [List.flatMap_cons, order_eq] at hn
      simp at hn
  | succ n ih =>
    cases stack with
    | nil => simp at hn
    | cons c rest =>
      have hsplit : (c :: rest).flatMap order = c :: (c.children ++ rest).flatMap order := by
        rw [List.flatMap_cons, order_eq, List.cons_append, List.flatMap_append]
      rw [hsplit] at hnodup hunseen hn ⊢
      obtain ⟨hnew, hnodup⟩ := List.nodup_cons.mp hnodup
      obtain ⟨hlt, hfalse⟩ := Array.getElem?_eq_some_iff.mp (hunseen c List.mem_cons_self)
      have hrest : ∀ d ∈ (c.children ++ rest).flatMap order,
          (seen.set c.id true)[d.id]? = some false := by
        intro d hd
        apply (Table.unseen_set_iff hlt).mpr
        refine ⟨fun hid => ?_, hunseen d (List.mem_cons_of_mem _ hd)⟩
        rw [eq_of_id_eq hid] at hd
        exact hnew hd
      have htail := ih (seen.set c.id true) (c.children ++ rest) hnodup hrest
        (by simpa using hn)
      rw [List.map_cons, Table.walk, dif_pos hlt, dif_pos hfalse, List.map_cons, ← htail,
        List.map_append, children_eq_ids]

end Cursor

namespace SyntaxTree

variable (t : SyntaxTree)

def rootCursor : Cursor t :=
  ⟨t.root, t.isTree.root_lt⟩

theorem preorder_eq_order : t.table.preorder = t.rootCursor.order.map Cursor.id := by
  have hsingle : [t.rootCursor].flatMap Cursor.order = t.rootCursor.order :=
    List.flatMap_singleton _ _
  have hwalk := Cursor.walk_eq_flatMap_order (Array.replicate t.size false) [t.rootCursor]
  rw [hsingle] at hwalk
  apply hwalk (Cursor.nodup_order t.rootCursor)
  intro c _
  exact (Table.unseen_initially t.table c.id).mpr c.inside

theorem filterMap_cursor? (l : List (Cursor t)) :
    (l.map Cursor.id).filterMap t.cursor? = l := by
  induction l with
  | nil => rfl
  | cons c l ih =>
    have hc : t.cursor? c.id = some c := (cursor?_eq_some_iff t c.id c).mpr rfl
    rw [List.map_cons, List.filterMap_cons_some hc, ih]

/-- Every node of the tree comes in its document order. -/
theorem mem_order_rootCursor (c : Cursor t) : c ∈ t.rootCursor.order := by
  have hmem : c.id ∈ t.table.preorder :=
    (Table.mem_preorder_iff t.table c.id).mpr ⟨c.inside, t.isTree.reaches c.id c.inside⟩
  rw [preorder_eq_order] at hmem
  obtain ⟨d, hd, hid⟩ := List.mem_map.mp hmem
  rwa [← Cursor.eq_of_id_eq hid]

/-- The walk lists the nodes in document order. -/
theorem cursors_eq_order : t.cursors = t.rootCursor.order := by
  rw [cursors, preorder_eq_order, filterMap_cursor?]

theorem preorder_perm_range : t.table.preorder.Perm (List.range t.size) :=
  Table.preorder_perm_range t.table
    ((Table.length_preorder_eq_size_iff t.table).mpr t.isTree.reaches)

/-- A node and the nodes below it are one block of the walk. -/
theorem exists_preorder_eq_block (c : Cursor t) : ∃ before after, t.table.preorder =
    before ++ c.id :: (c.children.flatMap Cursor.order).map Cursor.id ++ after := by
  have hroot := Cursor.mem_ancestors_of_mem_order (t.mem_order_rootCursor c)
  obtain ⟨before, after, hblock⟩ := (Cursor.ascent_ancestors c).infix_order_of_mem hroot
  refine ⟨before.map Cursor.id, after.map Cursor.id, ?_⟩
  rw [preorder_eq_order, ← hblock, List.map_append, List.map_append, c.order_eq, List.map_cons]

theorem idxOf_lt_idxOf_of_mem_ancestors {c p : Cursor t} (h : p ∈ c.ancestors) :
    t.table.preorder.idxOf p.id < t.table.preorder.idxOf c.id := by
  obtain ⟨before, after, hblock⟩ := t.exists_preorder_eq_block p
  have hbelow : c.id ∈ (p.children.flatMap Cursor.order).map Cursor.id :=
    List.mem_map_of_mem ((Cursor.mem_flatMap_order_iff p c).mpr h)
  have hnodup := Table.nodup_preorder t.table
  rw [hblock, List.append_assoc, List.cons_append] at hnodup ⊢
  obtain ⟨_, hrest, hapart⟩ := List.nodup_append.mp hnodup
  have hbehind : c.id ∈ (p.children.flatMap Cursor.order).map Cursor.id ++ after :=
    List.mem_append_left _ hbelow
  have hp : p.id ∉ before := fun hmem => hapart p.id hmem p.id List.mem_cons_self rfl
  have hc : c.id ∉ before := fun hmem => hapart c.id hmem c.id (List.mem_cons_of_mem _ hbehind) rfl
  have hne : p.id ≠ c.id := by
    intro heq
    rw [heq] at hrest
    exact (List.nodup_cons.mp hrest).1 hbehind
  rw [List.idxOf_append_of_notMem hp, List.idxOf_append_of_notMem hc, List.idxOf_cons_self,
    List.idxOf_cons_ne _ hne]
  omega

/-- The walk over a tree, with its stack and its marks, is the order that recursion gives: a node
and then its children one after the other, each with all below it. It visits every node once,
parents before their children, and what is below a node right behind it, in one block. -/
theorem preorder_is_recursive_order :
    (∀ c : Cursor t, c.order = c :: c.children.flatMap Cursor.order) ∧
    t.table.preorder = t.rootCursor.order.map Cursor.id ∧
    (∀ f : NodeId → List NodeId, (∀ n < t.size, f n = n :: (t.table.children n).flatMap f) →
      t.table.preorder = f t.root) ∧
    t.table.preorder.Perm (List.range t.size) ∧
    (∀ c p : Cursor t, c.parent? = some p →
      t.table.preorder.idxOf p.id < t.table.preorder.idxOf c.id) ∧
    ∀ c : Cursor t, ∃ before below after,
      t.table.preorder = before ++ c.id :: below ++ after ∧
      ∀ d : Cursor t, d.id ∈ below ↔ c ∈ d.ancestors := by
  refine ⟨Cursor.order_eq, t.preorder_eq_order, ?_, t.preorder_perm_range, ?_, ?_⟩
  · intro f hf
    rw [preorder_eq_order]
    exact Cursor.map_id_order_eq f hf t.rootCursor
  · intro c p hp
    apply idxOf_lt_idxOf_of_mem_ancestors
    rw [Cursor.ancestors_of_parent?_eq_some hp]
    exact List.mem_cons_self
  · intro c
    obtain ⟨before, after, hblock⟩ := t.exists_preorder_eq_block c
    refine ⟨before, _, after, hblock, ?_⟩
    intro d
    rw [← Cursor.mem_flatMap_order_iff, List.mem_map]
    constructor
    · rintro ⟨e, he, hid⟩
      rwa [← Cursor.eq_of_id_eq hid]
    · intro hd
      exact ⟨d, hd, rfl⟩

/-- The root stands last in the table of the call and is visited first. -/
theorem callTree_preorder :
    callTree.table.preorder = [3, 2, 0, 1] ∧
      callTree.table.preorder.idxOf 2 < callTree.table.preorder.idxOf 0 := by
  obtain ⟨_, _, hunique, _, hparent, _⟩ := preorder_is_recursive_order callTree
  constructor
  · exact hunique (fun n => if n = 3 then [3, 2, 0, 1] else if n = 2 then [2, 0, 1] else [n])
      (by decide)
  · apply hparent ⟨0, by decide⟩ ⟨2, by decide⟩
    rw [Cursor.parent?_eq_some_iff]
    decide

end SyntaxTree

end SecurityLint
