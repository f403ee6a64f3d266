import Mathlib.Data.List.Perm.Subperm
import Mathlib.Data.List.Nodup
import Mathlib.Logic.Relation
import SecurityLint.Tree.Preorder

/-!
What the walk over a table finds. A mark is set before a node is visited, so no node is visited
twice; a visited node leaves its children on the stack, so the walk is closed under links.
On every table, whatever its references, the walk from the root visits exactly the nodes of
the table that can be reached from the root.
-/
namespace SecurityLint.Table

/-- The node `q` is listed among the children of `p`. -/
def Link (t : Table) (p q : NodeId) : Prop :=
  q ∈ t.children p

/-- There is a way from `p` to `q` along links. -/
def Reaches (t : Table) : NodeId → NodeId → Prop :=
  Relation.ReflTransGen t.Link

/-- Only nodes of the table have children. -/
theorem Link.source_lt {t : Table} {p q : NodeId} (h : t.Link p q) : p < t.size := by
  by_contra hp
  have hnone : t.nodes[p]? = none := Array.getElem?_eq_none (Nat.le_of_not_lt hp)
  simp [Link, children, hnone] at h

/-- Setting a mark takes its node, and no other one, off what is left to visit. -/
theorem unseen_set_iff {seen : Array Bool} {id q : NodeId} (hid : id < seen.size) :
    (seen.set id true)[q]? = some false ↔ q ≠ id ∧ seen[q]? = some false := by
  rw [Array.getElem?_set]
  by_cases hq : id = q
  · simp [hq]
  · simp [hq, Ne.symm hq]

/-- The steps of a walk: the node on top of the stack is visited if it has no mark yet, and is
passed over if it has one or is not in the table. -/
inductive Walks (t : Table) : Array Bool → List NodeId → List NodeId → Prop
  | nil (seen : Array Bool) : Walks t seen [] []
  | visit {seen : Array Bool} {id : NodeId} {stack visited : List NodeId} (hid : id < seen.size)
      (hnew : seen[id]? = some false)
      (hrest : Walks t (seen.set id true) (t.children id ++ stack) visited) :
      Walks t seen (id :: stack) (id :: visited)
  | skip {seen : Array Bool} {id : NodeId} {stack visited : List NodeId}
      (hold : seen[id]? ≠ some false) (hrest : Walks t seen stack visited) :
      Walks t seen (id :: stack) visited

theorem walks_walk (t : Table) (seen : Array Bool) (stack : List NodeId) :
    t.Walks seen stack (t.walk seen stack) := by
  fun_induction walk t seen stack with
  | case1 seen => exact .nil seen
  | case2 seen id stack hid hnew ih =>
    exact .visit hid (Array.getElem?_eq_some_iff.mpr ⟨hid, hnew⟩) ih
  | case3 seen id stack hid hold ih =>
    refine .skip ?_ ih
    intro hunseen
    exact hold (Array.getElem?_eq_some_iff.mp hunseen).2
  | case4 seen id stack hid ih =>
    refine .skip ?_ ih
    intro hunseen
    exact hid (Array.getElem?_eq_some_iff.mp hunseen).1

namespace Walks

variable {t : Table} {seen : Array Bool} {stack visited : List NodeId}

theorem unseen_of_mem (h : t.Walks seen stack visited) {q : NodeId} (hq : q ∈ visited) :
    seen[q]? = some false := by
  induction h with
  | nil => simp at hq
  | visit hid hnew hrest ih =>
    rcases List.mem_cons.mp hq with rfl | hq
    · exact hnew
    · exact ((unseen_set_iff hid).mp (ih hq)).2
  | skip hold hrest ih => exact ih hq

/-- No node is visited twice. -/
theorem nodup (h : t.Walks seen stack visited) : visited.Nodup := by
  induction h with
  | nil => exact List.nodup_nil
  | visit hid hnew hrest ih =>
    refine List.nodup_cons.mpr ⟨?_, ih⟩
    intro hmem
    exact ((unseen_set_iff hid).mp (hrest.unseen_of_mem hmem)).1 rfl
  | skip hold hrest ih => exact ih

theorem mem_of_mem_stack (h : t.Walks seen stack visited) {q : NodeId} (hq : q ∈ stack)
    (hunseen : seen[q]? = some false) : q ∈ visited := by
  induction h with
  | nil => simp at hq
  | @visit seen id stack visited hid hnew hrest ih =>
    by_cases heq : q = id
    · simp [heq]
    · have hstack : q ∈ stack := (List.mem_cons.mp hq).resolve_left heq
      have hunseen' := (unseen_set_iff hid).mpr ⟨heq, hunseen⟩
      exact List.mem_cons_of_mem _ (ih (List.mem_append_right _ hstack) hunseen')
  | skip hold hrest ih =>
    rcases List.mem_cons.mp hq with rfl | hq
    · exact absurd hunseen hold
    · exact ih hq hunseen

/-- Along a link from a visited node the walk goes on, unless the end was seen before it began. -/
theorem mem_of_link (h : t.Walks seen stack visited) {p q : NodeId} (hp : p ∈ visited)
    (hlink : t.Link p q) (hunseen : seen[q]? = some false) : q ∈ visited := by
  induction h with
  | nil => simp at hp
  | @visit seen id stack visited hid hnew hrest ih =>
    by_cases heq : q = id
    · simp [heq]
    · have hunseen' := (unseen_set_iff hid).mpr ⟨heq, hunseen⟩
      apply List.mem_cons_of_mem
      rcases List.mem_cons.mp hp with rfl | hp
      · exact hrest.mem_of_mem_stack (List.mem_append_left _ hlink) hunseen'
      · exact ih hp hunseen'
  | skip hold hrest ih => exact ih hp hunseen

theorem exists_reaches (h : t.Walks seen stack visited) {q : NodeId} (hq : q ∈ visited) :
    ∃ p ∈ stack, t.Reaches p q := by
  induction h with
  | nil => simp at hq
  | @visit seen id stack visited hid hnew hrest ih =>
    rcases List.mem_cons.mp hq with rfl | hq
    · exact ⟨q, List.mem_cons_self, .refl⟩
    · obtain ⟨p, hp, hreach⟩ := ih hq
      rcases List.mem_append.mp hp with hchild | hstack
      · exact ⟨id, List.mem_cons_self, .head hchild hreach⟩
      · exact ⟨p, List.mem_cons_of_mem _ hstack, hreach⟩
  | skip hold hrest ih =>
    obtain ⟨p, hp, hreach⟩ := ih hq
    exact ⟨p, List.mem_cons_of_mem _ hp, hreach⟩

end Walks

theorem walks_preorder (t : Table) :
    t.Walks (Array.replicate t.size false) [t.root] t.preorder :=
  walks_walk t _ _

theorem nodup_preorder (t : Table) : t.preorder.Nodup :=
  t.walks_preorder.nodup

theorem unseen_initially (t : Table) (q : NodeId) :
    (Array.replicate t.size false)[q]? = some false ↔ q < t.size := by
  simp [Array.getElem?_replicate]

theorem lt_of_mem_preorder (t : Table) (q : NodeId) (hq : q ∈ t.preorder) : q < t.size :=
  (unseen_initially t q).mp (t.walks_preorder.unseen_of_mem hq)

/-- The walk visits exactly what can be reached from the root. -/
theorem mem_preorder_iff (t : Table) (q : NodeId) :
    q ∈ t.preorder ↔ q < t.size ∧ t.Reaches t.root q := by
  constructor
  · intro hq
    obtain ⟨p, hp, hreach⟩ := t.walks_preorder.exists_reaches hq
    rw [List.mem_singleton.mp hp] at hreach
    exact ⟨lt_of_mem_preorder t q hq, hreach⟩
  · rintro ⟨hq, hreach⟩
    induction hreach with
    | refl =>
      have hunseen := (unseen_initially t _).mpr hq
      exact t.walks_preorder.mem_of_mem_stack List.mem_cons_self hunseen
    | tail hreach hlink ih =>
      have hunseen := (unseen_initially t _).mpr hq
      exact t.walks_preorder.mem_of_link (ih (Link.source_lt hlink)) hlink hunseen

theorem preorder_subperm_range (t : Table) : t.preorder.Subperm (List.range t.size) := by
  apply List.subperm_of_subset (nodup_preorder t)
  intro q hq
  exact List.mem_range.mpr (lt_of_mem_preorder t q hq)

theorem preorder_perm_range (t : Table) (h : t.preorder.length = t.size) :
    t.preorder.Perm (List.range t.size) :=
  (preorder_subperm_range t).perm_of_length_le (by simp [h])

/-- Counting the visited nodes tells whether all nodes can be reached. -/
theorem length_preorder_eq_size_iff (t : Table) :
    t.preorder.length = t.size ↔ ∀ q < t.size, t.Reaches t.root q := by
  constructor
  · intro hlength q hq
    have hperm := preorder_perm_range t hlength
    exact ((mem_preorder_iff t q).mp (hperm.mem_iff.mpr (List.mem_range.mpr hq))).2
  · intro hreach
    have hsubset : (List.range t.size).Subperm t.preorder := by
      apply List.subperm_of_subset List.nodup_range
      intro q hq
      have hlt := List.mem_range.mp hq
      exact (mem_preorder_iff t q).mpr ⟨hlt, hreach q hlt⟩
    have hle := (preorder_subperm_range t).length_le
    have hge := hsubset.length_le
    simp only [List.length_range] at hle hge
    omega

end SecurityLint.Table
