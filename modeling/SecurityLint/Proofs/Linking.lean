import Mathlib.Data.List.Pairwise
import SecurityLint.Proofs.Reachability
import SecurityLint.Tree.Link

/-!
Which tables are linked, and which parents they get. The pass over the table adopts one child
after the other, so it is one run over the links of the table; it goes through exactly if no child
is missing, the root, or listed before. Counting what the walk reaches does the rest: a table is
linked exactly if it is one tree below its root.
-/
namespace SecurityLint.Table

/-- The lists of children of all nodes, one behind the other. -/
def listed (t : Table) : List NodeId :=
  t.nodes.toList.flatMap (·.children)

/-- The table is one tree, and all of it hangs below the root. -/
structure IsTree (t : Table) : Prop where
  root_lt : t.root < t.size
  child_lt : ∀ q ∈ t.listed, q < t.size
  root_not_listed : t.root ∉ t.listed
  listed_once : ∀ q, t.listed.count q ≤ 1
  reaches : ∀ q < t.size, t.Reaches t.root q

/-- The links of the table in the order in which they are followed. -/
def edges (t : Table) : List (NodeId × NodeId) :=
  (List.range t.size).flatMap fun p => (t.children p).map fun q => (p, q)

def adoptEdge (t : Table) (parents : Parents) (e : NodeId × NodeId) : Except Flaw Parents :=
  t.adopt e.1 parents e.2

theorem mem_edges_iff (t : Table) (p q : NodeId) : (p, q) ∈ t.edges ↔ t.Link p q := by
  constructor
  · intro h
    simp only [edges, List.mem_flatMap, List.mem_map, Prod.mk.injEq] at h
    obtain ⟨_, _, _, hq, rfl, rfl⟩ := h
    exact hq
  · intro h
    simp only [edges, List.mem_flatMap, List.mem_map, Prod.mk.injEq, List.mem_range]
    exact ⟨p, h.source_lt, q, h, rfl, rfl⟩

theorem map_snd_edges (t : Table) : t.edges.map Prod.snd = t.listed := by
  have hchildren : (List.range t.size).map t.children = t.nodes.toList.map (·.children) := by
    apply List.ext_getElem
    · simp [size]
    · intro i hi hi'
      have hlt : i < t.nodes.size := by simpa using hi'
      simp [children, hlt]
  simp only [edges, listed, List.map_flatMap, List.map_map, Function.comp_def, List.map_id']
  rw [List.flatMap_def, hchildren, ← List.flatMap_def]

theorem mem_listed_iff (t : Table) (q : NodeId) : q ∈ t.listed ↔ ∃ p, t.Link p q := by
  simp [← map_snd_edges, mem_edges_iff]

theorem listed_eq_flatMap_children (t : Table) :
    t.listed = (List.range t.size).flatMap t.children := by
  rw [← map_snd_edges, edges, List.map_flatMap]
  simp only [List.map_map, Function.comp_def, List.map_id']

/-- No node is listed twice exactly if no list of children has repetitions and no node is in two
of them. -/
theorem listed_once_iff (t : Table) :
    (∀ q, t.listed.count q ≤ 1) ↔
      (∀ p < t.size, (t.children p).Nodup) ∧ ∀ p p' q, t.Link p q → t.Link p' q → p = p' := by
  rw [← List.nodup_iff_count_le_one, listed_eq_flatMap_children, List.nodup_flatMap]
  constructor
  · rintro ⟨hnodup, hapart⟩
    refine ⟨fun p hp => hnodup p (List.mem_range.mpr hp), ?_⟩
    intro p p' q hp hp'
    by_contra hne
    have : Std.Symm (Function.onFun List.Disjoint t.children) :=
      ⟨fun _ _ h _ hq hq' => h hq' hq⟩
    have hmem := List.mem_range.mpr hp.source_lt
    have hmem' := List.mem_range.mpr hp'.source_lt
    exact hapart.forall hmem hmem' hne hp hp'
  · rintro ⟨hnodup, hunique⟩
    refine ⟨fun p hp => hnodup p (List.mem_range.mp hp), List.nodup_range.imp ?_⟩
    intro p p' hne q hp hp'
    exact hne (hunique p p' q hp hp')

namespace IsTree

variable {t : Table} {p q : NodeId}

theorem link_lt (h : t.IsTree) (hlink : t.Link p q) : q < t.size :=
  h.child_lt q ((t.mem_listed_iff q).mpr ⟨p, hlink⟩)

theorem link_ne_root (h : t.IsTree) (hlink : t.Link p q) : q ≠ t.root := by
  rintro rfl
  exact h.root_not_listed ((t.mem_listed_iff _).mpr ⟨p, hlink⟩)

theorem nodup_children (h : t.IsTree) (hp : p < t.size) : (t.children p).Nodup :=
  (t.listed_once_iff.mp h.listed_once).1 p hp

end IsTree

/-- The nested passes over nodes and their children are one pass over the links. -/
theorem foldlM_adoptAll (t : Table) (parents : Parents) :
    (List.range t.size).foldlM t.adoptAll parents = t.edges.foldlM t.adoptEdge parents := by
  unfold edges
  generalize List.range t.size = ids
  induction ids generalizing parents with
  | nil => rfl
  | cons p ids ih =>
    simp only [List.foldlM_cons, List.flatMap_cons, List.foldlM_append, List.foldlM_map]
    exact bind_congr fun parents => ih parents

theorem adopt_eq_ok_iff (t : Table) (p q : NodeId) (parents after : Parents) :
    t.adopt p parents q = .ok after ↔
      parents[q]? = some none ∧ q ≠ t.root ∧ after = parents.setIfInBounds q (some p) := by
  unfold adopt
  split
  · next hq =>
    by_cases hroot : q = t.root
    · simp [hroot]
    · cases hparent : parents[q] with
      | none => simp [hroot, hq, hparent, Array.setIfInBounds, eq_comm]
      | some first => simp [hroot, hq, hparent]
  · next hq => simp [Array.getElem?_eq_none (Nat.le_of_not_lt hq)]

/-- Writes a parent for the end of each link, with no question asked. -/
def assign (parents : Parents) (links : List (NodeId × NodeId)) : Parents :=
  links.foldl (fun parents e => parents.setIfInBounds e.2 (some e.1)) parents

theorem size_assign (parents : Parents) (links : List (NodeId × NodeId)) :
    (assign parents links).size = parents.size := by
  induction links generalizing parents with
  | nil => rfl
  | cons e links ih => exact (ih _).trans Array.size_setIfInBounds

theorem orphan_set_iff (parents : Parents) (p q c : NodeId) :
    (parents.setIfInBounds c (some p))[q]? = some none ↔ q ≠ c ∧ parents[q]? = some none := by
  rw [Array.getElem?_setIfInBounds]
  by_cases hq : c = q
  · simp [hq]
  · simp [hq, Ne.symm hq]

/-- The pass goes on behind a link exactly if the end of the link may get its parent. -/
theorem foldlM_adoptEdge_cons_eq_ok_iff (t : Table) (e : NodeId × NodeId)
    (links : List (NodeId × NodeId)) (parents after : Parents) :
    (e :: links).foldlM t.adoptEdge parents = .ok after ↔
      (parents[e.2]? = some none ∧ e.2 ≠ t.root) ∧
        links.foldlM t.adoptEdge (parents.setIfInBounds e.2 (some e.1)) = .ok after := by
  rw [List.foldlM_cons]
  cases hadopt : t.adoptEdge parents e with
  | error flaw =>
    have hno : ¬ (parents[e.2]? = some none ∧ e.2 ≠ t.root) := by
      rintro ⟨horphan, hroot⟩
      have hok := (adopt_eq_ok_iff t e.1 e.2 parents _).mpr ⟨horphan, hroot, rfl⟩
      rw [adoptEdge, hok] at hadopt
      cases hadopt
    simp [bind, Except.bind, hno]
  | ok next =>
    obtain ⟨horphan, hroot, rfl⟩ := (adopt_eq_ok_iff t e.1 e.2 parents next).mp hadopt
    simp [bind, Except.bind, horphan, hroot]

/-- The pass goes through exactly if every end of a link is an orphan in the table, is not the
root and comes up once; it then writes the parents link by link. -/
theorem foldlM_adoptEdge_eq_ok_iff (t : Table) (links : List (NodeId × NodeId))
    (parents after : Parents) :
    links.foldlM t.adoptEdge parents = .ok after ↔
      (links.map Prod.snd).Nodup ∧
      (∀ e ∈ links, parents[e.2]? = some none ∧ e.2 ≠ t.root) ∧
      after = assign parents links := by
  induction links generalizing parents with
  | nil => simp [assign, pure, Except.pure, eq_comm]
  | cons e links ih =>
    rw [foldlM_adoptEdge_cons_eq_ok_iff, ih]
    simp only [orphan_set_iff, List.map_cons, List.nodup_cons, List.mem_cons, forall_eq_or_imp]
    constructor
    · rintro ⟨hfirst, hnodup, hrest, rfl⟩
      refine ⟨⟨?_, hnodup⟩, ⟨hfirst, fun e' he' => ⟨(hrest e' he').1.2, (hrest e' he').2⟩⟩, rfl⟩
      intro hmem
      obtain ⟨e', he', heq⟩ := List.mem_map.mp hmem
      exact (hrest e' he').1.1 heq
    · rintro ⟨⟨hnew, hnodup⟩, ⟨hfirst, hrest⟩, rfl⟩
      refine ⟨hfirst, hnodup, fun e' he' => ⟨⟨?_, (hrest e' he').1⟩, (hrest e' he').2⟩, rfl⟩
      intro heq
      exact hnew (List.mem_map.mpr ⟨e', he', heq⟩)

theorem assign_eq_parent_iff (links : List (NodeId × NodeId)) (parents : Parents) (p q : NodeId)
    (hnodup : (links.map Prod.snd).Nodup) (horphan : ∀ e ∈ links, parents[e.2]? = some none) :
    (assign parents links)[q]? = some (some p) ↔
      parents[q]? = some (some p) ∨ (p, q) ∈ links := by
  induction links generalizing parents with
  | nil => simp [assign]
  | cons e links ih =>
    obtain ⟨hnew, hnodup⟩ := List.nodup_cons.mp hnodup
    have hfirst := horphan e List.mem_cons_self
    have hrest : ∀ e' ∈ links, (parents.setIfInBounds e.2 (some e.1))[e'.2]? = some none := by
      intro e' he'
      apply (orphan_set_iff _ _ _ _).mpr
      refine ⟨?_, horphan e' (List.mem_cons_of_mem _ he')⟩
      intro heq
      exact hnew (List.mem_map.mpr ⟨e', he', heq⟩)
    have hlt : e.2 < parents.size := (Array.getElem?_eq_some_iff.mp hfirst).1
    change (assign (parents.setIfInBounds e.2 (some e.1)) links)[q]? = some (some p) ↔ _
    rw [ih _ hnodup hrest, Array.getElem?_setIfInBounds]
    by_cases hq : e.2 = q
    · subst hq
      rw [if_pos rfl, if_pos hlt, hfirst]
      simp [Prod.ext_iff, eq_comm]
    · simp [hq, Prod.ext_iff, Ne.symm hq]

theorem link_eq_ok_iff (t : Table) (parents : Parents) :
    t.link = .ok parents ↔
      t.root < t.size ∧
      t.edges.foldlM t.adoptEdge (Array.replicate t.size none) = .ok parents ∧
      t.preorder.length = t.size := by
  unfold link
  rw [foldlM_adoptAll]
  by_cases hroot : t.size ≤ t.root
  · simp [hroot, bind, Except.bind, throw, throwThe, MonadExceptOf.throw, Nat.not_lt.mpr hroot]
  · cases t.edges.foldlM t.adoptEdge (Array.replicate t.size none) with
    | error flaw => simp [hroot, bind, Except.bind]
    | ok found =>
      by_cases hcount : t.preorder.length = t.size
      · simp [hroot, hcount, bind, Except.bind, pure, Except.pure, Nat.lt_of_not_le hroot]
      · simp [hroot, hcount, bind, Except.bind, throw, throwThe, MonadExceptOf.throw]

theorem orphan_initially (t : Table) (q : NodeId) :
    (Array.replicate t.size (none : Option NodeId))[q]? = some none ↔ q < t.size := by
  simp [Array.getElem?_replicate]

/-- A table is linked exactly if it is one tree below its root. -/
theorem exists_link_eq_ok_iff (t : Table) : (∃ parents, t.link = .ok parents) ↔ t.IsTree := by
  simp only [link_eq_ok_iff, foldlM_adoptEdge_eq_ok_iff, length_preorder_eq_size_iff,
    orphan_initially, map_snd_edges]
  constructor
  · rintro ⟨_, hroot, ⟨hnodup, hends, rfl⟩, hreach⟩
    have hlisted : ∀ q ∈ t.listed, q < t.size ∧ q ≠ t.root := by
      intro q hq
      obtain ⟨p, hlink⟩ := (mem_listed_iff t q).mp hq
      exact hends (p, q) ((mem_edges_iff t p q).mpr hlink)
    exact {
      root_lt := hroot
      child_lt := fun q hq => (hlisted q hq).1
      root_not_listed := fun hmem => (hlisted t.root hmem).2 rfl
      listed_once := List.nodup_iff_count_le_one.mp hnodup
      reaches := hreach }
  · intro h
    refine ⟨_, h.root_lt, ⟨List.nodup_iff_count_le_one.mpr h.listed_once, ?_, rfl⟩, h.reaches⟩
    rintro ⟨p, q⟩ he
    have hq : q ∈ t.listed := (mem_listed_iff t q).mpr ⟨p, (mem_edges_iff t p q).mp he⟩
    refine ⟨h.child_lt q hq, ?_⟩
    rintro rfl
    exact h.root_not_listed hq

/-- In a linked table, the parent of a node is the node that lists it. -/
theorem parent_iff_of_link_eq_ok (t : Table) (parents : Parents) (h : t.link = .ok parents)
    (p q : NodeId) : parents[q]? = some (some p) ↔ t.Link p q := by
  obtain ⟨_, hpass, _⟩ := (link_eq_ok_iff t parents).mp h
  obtain ⟨hnodup, hends, rfl⟩ := (foldlM_adoptEdge_eq_ok_iff t _ _ parents).mp hpass
  rw [assign_eq_parent_iff t.edges _ p q hnodup (fun e he => (hends e he).1), mem_edges_iff]
  simp [Array.getElem?_replicate]

end SecurityLint.Table
