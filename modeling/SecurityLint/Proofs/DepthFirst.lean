import Mathlib.Data.Finset.Card
import Mathlib.Data.Finset.Range
import SecurityLint.Proofs.Reachability

/-!
The walk over a table that need not be a tree. Node by node, it is a traversal that keeps what is
pending on a stack; references out of the table never come to the stack, so every read of a mark
is inside. A traversal ends, and it visits what depth-first search by recursion visits, in its
order: although a node is marked when it leaves the stack, what was pushed for its children is used
up before the rest of the stack is looked at.
-/
namespace SecurityLint

/-- Where a traversal of the table stands: the nodes with a mark, and those that are pending. -/
structure Traversal (t : Table) where
  seen : Array Bool
  stack : List NodeId
  size_eq : seen.size = t.size
  inside : ∀ id ∈ stack, id < t.size

namespace Traversal

variable {t : Table}

/-- The traversal that is about to visit the root. -/
def start (t : Table) (h : t.root < t.size) : Traversal t where
  seen := Array.replicate t.size false
  stack := [t.root]
  size_eq := Array.size_replicate
  inside := by simpa using h

/-- Passes over nodes with a mark down to one without, visits it, and puts its children on the
stack, but for those that are not in the table. -/
def next? (tr : Traversal t) : Option (NodeId × Traversal t) :=
  match tr with
  | ⟨_, [], _, _⟩ => none
  | ⟨seen, id :: stack, hsize, hinside⟩ =>
    have hid : id < seen.size := hsize ▸ hinside id List.mem_cons_self
    have hstack : ∀ q ∈ stack, q < t.size := fun q hq => hinside q (List.mem_cons_of_mem _ hq)
    if seen[id] then next? ⟨seen, stack, hsize, hstack⟩
    else some (id, {
      seen := seen.set id true
      stack := (t.children id).filter (· < seen.size) ++ stack
      size_eq := Array.size_set hid ▸ hsize
      inside := by
        intro q hq
        rcases List.mem_append.mp hq with hchild | hrest
        · simpa [hsize] using (List.mem_filter.mp hchild).2
        · exact hstack q hrest })
termination_by tr.stack.length

/-- Asked for one node after the other, the traversal gives those of the list and then ends. -/
inductive Yields : Traversal t → List NodeId → Prop
  | done {tr : Traversal t} (hend : tr.next? = none) : Yields tr []
  | node {tr after : Traversal t} {id : NodeId} {rest : List NodeId}
      (hnext : tr.next? = some (id, after)) (hrest : Yields after rest) : Yields tr (id :: rest)

variable {tr : Traversal t} {id : NodeId} {stack : List NodeId}

theorem next?_of_nil (hstack : tr.stack = []) : tr.next? = none := by
  obtain ⟨_, _, _, _⟩ := tr
  obtain rfl := hstack
  rw [next?]

theorem exists_next?_of_seen (hstack : tr.stack = id :: stack) (hid : id < tr.seen.size)
    (hold : tr.seen[id] = true) :
    ∃ after : Traversal t, tr.next? = after.next? ∧ after.seen = tr.seen ∧
      after.stack = stack := by
  obtain ⟨seen, _, hsize, hinside⟩ := tr
  obtain rfl := hstack
  rw [next?, if_pos hold]
  exact ⟨_, rfl, rfl, rfl⟩

theorem exists_next?_of_unseen (hstack : tr.stack = id :: stack) (hid : id < tr.seen.size)
    (hnew : tr.seen[id] = false) :
    ∃ after : Traversal t, tr.next? = some (id, after) ∧
      after.seen = tr.seen.set id true ∧
      after.stack = (t.children id).filter (· < t.size) ++ stack := by
  obtain ⟨seen, _, hsize, hinside⟩ := tr
  obtain rfl := hstack
  rw [next?, if_neg (by simp [hnew])]
  exact ⟨_, rfl, rfl, by simp only [hsize]⟩

theorem Yields.of_next?_eq {after : Traversal t} {ids : List NodeId}
    (h : after.Yields ids) (hsame : tr.next? = after.next?) : tr.Yields ids := by
  cases h with
  | done hend => exact .done (hsame.trans hend)
  | node hnext hrest => exact .node (hsame.trans hnext) hrest

/-- Whether references out of the table are left out when they are pushed or passed over when they
are met makes no difference. -/
theorem yields_walk (seen : Array Bool) (pending : List NodeId) (tr : Traversal t)
    (hseen : tr.seen = seen) (hstack : tr.stack = pending.filter (· < t.size)) :
    tr.Yields (t.walk seen pending) := by
  fun_induction Table.walk t seen pending generalizing tr with
  | case1 seen =>
    exact .done (next?_of_nil hstack)
  | case2 seen id pending hid hnew ih =>
    subst hseen
    have hlt : id < t.size := tr.size_eq ▸ hid
    rw [List.filter_cons_of_pos (by simpa using hlt)] at hstack
    obtain ⟨after, hnext, hset, hpushed⟩ := exists_next?_of_unseen hstack hid hnew
    rw [← List.filter_append] at hpushed
    exact .node hnext (ih after hset hpushed)
  | case3 seen id pending hid hold ih =>
    subst hseen
    have hlt : id < t.size := tr.size_eq ▸ hid
    rw [List.filter_cons_of_pos (by simpa using hlt)] at hstack
    obtain ⟨after, hsame, hkept, hrest⟩ := exists_next?_of_seen hstack hid (by simpa using hold)
    exact (ih after hkept hrest).of_next?_eq hsame
  | case4 seen id pending hid ih =>
    have hout : ¬ id < t.size := by rwa [← tr.size_eq, hseen]
    rw [List.filter_cons_of_neg (by simpa using hout)] at hstack
    exact ih tr hseen hstack

theorem Yields.unique {ids ids' : List NodeId} (h : tr.Yields ids) (h' : tr.Yields ids') :
    ids = ids' := by
  induction h generalizing ids' with
  | done hend =>
    cases h' with
    | done => rfl
    | node hnext => simp [hend] at hnext
  | node hnext hrest ih =>
    cases h' with
    | done hend => simp [hend] at hnext
    | node hnext' hrest' =>
      obtain ⟨rfl, rfl⟩ := Prod.mk.inj (Option.some.inj (hnext.symm.trans hnext'))
      rw [ih hrest']

end Traversal

namespace Table

variable {t : Table} {visited : List NodeId} {id : NodeId}

/-- The nodes of the table that are not visited yet. -/
def unvisited (t : Table) (visited : List NodeId) : Finset NodeId :=
  (Finset.range t.size).filter (· ∉ visited)

theorem mem_unvisited_iff : id ∈ t.unvisited visited ↔ id < t.size ∧ id ∉ visited := by
  rw [unvisited, Finset.mem_filter, Finset.mem_range]

theorem mem_unvisited_append_iff {q : NodeId} :
    q ∈ t.unvisited (visited ++ [id]) ↔ q ≠ id ∧ q ∈ t.unvisited visited := by
  simp only [mem_unvisited_iff, List.mem_append, List.mem_singleton, not_or]
  tauto

theorem card_unvisited_le {found : List NodeId} (h : visited ⊆ found) :
    (t.unvisited found).card ≤ (t.unvisited visited).card := by
  apply Finset.card_le_card
  intro q hq
  obtain ⟨hlt, hnew⟩ := mem_unvisited_iff.mp hq
  exact mem_unvisited_iff.mpr ⟨hlt, fun hmem => hnew (h hmem)⟩

theorem card_unvisited_lt (h : id ∈ t.unvisited visited) :
    (t.unvisited (visited ++ [id])).card < (t.unvisited visited).card := by
  have herase : t.unvisited (visited ++ [id]) = (t.unvisited visited).erase id := by
    ext q
    rw [mem_unvisited_append_iff, Finset.mem_erase]
  rw [herase]
  exact Finset.card_erase_lt_of_mem h

/-- Depth-first search by recursion: takes nodes one after the other, and if a node is in the table
and not visited yet, visits it and all that is found from its children, in their order, before it
goes on. What is found is added behind what was visited before. -/
def search (t : Table) (visited : List NodeId) :
    List NodeId → { found : List NodeId // visited <+: found }
  | [] => ⟨visited, List.prefix_refl visited⟩
  | id :: rest =>
    if id ∈ t.unvisited visited then
      let below := t.search (visited ++ [id]) (t.children id)
      let found := t.search below.1 rest
      ⟨found.1, (List.prefix_append visited [id]).trans (below.2.trans found.2)⟩
    else t.search visited rest
termination_by ids => ((t.unvisited visited).card, ids.length)
decreasing_by
  · next hnew => exact Prod.Lex.left _ _ (card_unvisited_lt hnew)
  · next hnew =>
    apply Prod.Lex.left
    exact Nat.lt_of_le_of_lt (card_unvisited_le below.2.subset) (card_unvisited_lt hnew)
  · exact Prod.Lex.right _ (Nat.lt_succ_self _)

theorem search_of_unvisited (h : id ∈ t.unvisited visited) (rest : List NodeId) :
    (t.search visited (id :: rest)).1 =
      (t.search (t.search (visited ++ [id]) (t.children id)).1 rest).1 := by
  rw [search, if_pos h]

theorem search_of_visited (h : id ∉ t.unvisited visited) (rest : List NodeId) :
    t.search visited (id :: rest) = t.search visited rest := by
  rw [search, if_neg h]

/-- The search goes through the second list from where it stands behind the first. -/
theorem search_append (visited first second : List NodeId) :
    (t.search visited (first ++ second)).1 = (t.search (t.search visited first).1 second).1 := by
  induction first generalizing visited with
  | nil => rw [search, List.nil_append]
  | cons id rest ih =>
    rw [List.cons_append]
    by_cases hnew : id ∈ t.unvisited visited
    · rw [search_of_unvisited hnew, search_of_unvisited hnew, ih]
    · rw [search_of_visited hnew, search_of_visited hnew, ih]

/-- The marks of the walk are the visited nodes of the search. -/
theorem append_walk_eq_search (seen : Array Bool) (visited pending : List NodeId)
    (hseen : ∀ q, seen[q]? = some false ↔ q ∈ t.unvisited visited) :
    visited ++ t.walk seen pending = (t.search visited pending).1 := by
  fun_induction walk t seen pending generalizing visited with
  | case1 seen => rw [search, List.append_nil]
  | case2 seen id pending hid hnew ih =>
    have hunvisited := (hseen id).mp (Array.getElem?_eq_some_iff.mpr ⟨hid, hnew⟩)
    have hset : ∀ q, (seen.set id true)[q]? = some false ↔ q ∈ t.unvisited (visited ++ [id]) := by
      intro q
      rw [unseen_set_iff hid, mem_unvisited_append_iff, hseen]
    rw [List.append_cons, ih _ hset, search_append, search_of_unvisited hunvisited]
  | case3 seen id pending hid hold ih =>
    have hvisited : id ∉ t.unvisited visited := by
      rw [← hseen]
      simpa [hid] using hold
    rw [ih visited hseen, search_of_visited hvisited]
  | case4 seen id pending hid ih =>
    have hvisited : id ∉ t.unvisited visited := by
      rw [← hseen]
      simp [hid]
    rw [ih visited hseen, search_of_visited hvisited]

/-- What is reached inside of the table is reached along links that do not leave it. -/
theorem reaches_iff_inside (hroot : id < t.size) (q : NodeId) :
    q < t.size ∧ t.Reaches id q ↔
      Relation.ReflTransGen (fun p q => t.Link p q ∧ q < t.size) id q := by
  constructor
  · rintro ⟨hq, hreach⟩
    induction hreach with
    | refl => exact .refl
    | tail _ hlink ih => exact (ih hlink.source_lt).tail ⟨hlink, hq⟩
  · intro h
    induction h with
    | refl => exact ⟨hroot, .refl⟩
    | tail _ hlink ih => exact ⟨hlink.2, ih.2.tail hlink.1⟩

/-- Whatever the references of a table, a traversal from a root inside of it ends. It visits the
nodes that can be reached without leaving the table, each of them once, in the order of recursive
depth-first search. -/
theorem traversal_is_depth_first (t : Table) (hroot : t.root < t.size) :
    (∀ ids, (Traversal.start t hroot).Yields ids ↔ ids = t.preorder) ∧
    t.preorder = (t.search [] [t.root]).1 ∧
    t.preorder.Nodup ∧
    ∀ q, q ∈ t.preorder ↔
      Relation.ReflTransGen (fun p q => t.Link p q ∧ q < t.size) t.root q := by
  have hyields : (Traversal.start t hroot).Yields t.preorder := by
    apply Traversal.yields_walk _ _ _ rfl
    rw [List.filter_cons_of_pos (by simpa using hroot), List.filter_nil]
    rfl
  refine ⟨?_, ?_, t.nodup_preorder, ?_⟩
  · intro ids
    constructor
    · intro h
      exact h.unique hyields
    · rintro rfl
      exact hyields
  · apply append_walk_eq_search _ []
    intro q
    rw [unseen_initially, mem_unvisited_iff]
    simp
  · intro q
    rw [mem_preorder_iff, reaches_iff_inside hroot]

/-- A table with a circle, a node that lists itself twice, a node with two parents, a reference
out of the table and a node that is not reached. -/
def tangle : Table where
  root := 0
  nodes := #[
    { kind := .file, text := "", children := [1, 2, 3, 9] },
    { kind := .block, text := "", children := [3, 0] },
    { kind := .block, text := "", children := [2, 2] },
    { kind := .block, text := "", children := [1] },
    { kind := .block, text := "", children := [0] }]

/-- The last child of the root is visited before its second one, as the first one leads to it. -/
theorem tangle_traversal : ∃ hroot : tangle.root < tangle.size,
    (Traversal.start tangle hroot).Yields [0, 1, 3, 2] ∧
    (tangle.search [] [tangle.root]).1 = [0, 1, 3, 2] ∧
    ¬ Relation.ReflTransGen (fun p q => tangle.Link p q ∧ q < tangle.size) tangle.root 4 := by
  have hroot : tangle.root < tangle.size := by decide
  have hpreorder : tangle.preorder = [0, 1, 3, 2] := by cbv
  obtain ⟨hyields, hsearch, _, hreach⟩ := traversal_is_depth_first tangle hroot
  rw [hpreorder] at hyields hsearch hreach
  refine ⟨hroot, (hyields _).mpr rfl, hsearch.symm, ?_⟩
  intro h
  have hmem := (hreach 4).mpr h
  simp at hmem

end Table

end SecurityLint
