import SecurityLint.Proofs.Linking
import SecurityLint.Tree.Cursor

/-!
The way up from a node of a tree. Parents invert the lists of children, and only the root has none.
Every node is reached from the root, so its way up ends there; as it depends on the node
alone, no node comes twice on it, and the bound on its length is never met.
-/
namespace SecurityLint

namespace SyntaxTree

theorem isTree (t : SyntaxTree) : t.table.IsTree :=
  (Table.exists_link_eq_ok_iff t.table).mp ⟨t.parents, t.linked⟩

/-- Linking a table keeps it as it is, and a tree is linked to itself. -/
theorem ofTable_eq_ok_iff (table : Table) (t : SyntaxTree) :
    ofTable table = .ok t ↔ t.table = table := by
  unfold ofTable
  split
  · next parents hlink =>
    constructor
    · rintro ⟨rfl⟩
      rfl
    · rintro rfl
      have hparents : parents = t.parents := by
        have hboth := hlink.symm.trans t.linked
        injection hboth
      subst hparents
      rfl
  · next flaw hlink =>
    constructor
    · rintro ⟨⟩
    · rintro rfl
      rw [t.linked] at hlink
      cases hlink

theorem exists_ofTable_eq_ok {table : Table} (h : table.IsTree) :
    ∃ t, ofTable table = .ok t ∧ t.table = table := by
  obtain ⟨parents, hlink⟩ := (Table.exists_link_eq_ok_iff table).mpr h
  exact ⟨⟨table, parents, hlink⟩, (ofTable_eq_ok_iff _ _).mpr rfl, rfl⟩

theorem exists_ofTable_eq_ok_iff (table : Table) :
    (∃ t, ofTable table = .ok t) ↔ table.IsTree := by
  constructor
  · rintro ⟨t, ht⟩
    obtain rfl := (ofTable_eq_ok_iff table t).mp ht
    exact t.isTree
  · intro h
    obtain ⟨t, ht, _⟩ := exists_ofTable_eq_ok h
    exact ⟨t, ht⟩

theorem ofTable_eq_error_iff (table : Table) (flaw : Flaw) :
    ofTable table = .error flaw ↔ table.link = .error flaw := by
  unfold ofTable
  split
  · next parents hlink => simp [hlink]
  · next flaw' hlink => simp [hlink]

theorem cursor?_eq_some_iff (t : SyntaxTree) (id : NodeId) (c : Cursor t) :
    t.cursor? id = some c ↔ c.id = id := by
  unfold cursor?
  constructor
  · intro h
    split at h
    · cases h
      rfl
    · cases h
  · rintro rfl
    rw [dif_pos c.inside]

end SyntaxTree

namespace Cursor

variable {t : SyntaxTree}

theorem eq_of_id_eq {c d : Cursor t} (h : c.id = d.id) : c = d := by
  cases c
  cases d
  cases h
  rfl

theorem getElem?_nodes (c : Cursor t) : t.table.nodes[c.id]? = some c.node :=
  Array.getElem?_eq_getElem c.inside

theorem table_children (c : Cursor t) : t.table.children c.id = c.node.children := by
  simp [Table.children, c.getElem?_nodes]

/-- The parent of a node is the node that lists it. -/
theorem parent?_eq_some_iff (c p : Cursor t) :
    c.parent? = some p ↔ c.id ∈ p.node.children := by
  have hlaw := Table.parent_iff_of_link_eq_ok t.table t.parents t.linked p.id c.id
  rw [← table_children, ← Table.Link, ← hlaw]
  simp only [parent?, Option.bind_eq_some_iff, Option.join_eq_some_iff,
    SyntaxTree.cursor?_eq_some_iff]
  constructor
  · rintro ⟨id, hid, rfl⟩
    exact hid
  · intro hid
    exact ⟨p.id, hid, rfl⟩

theorem link_of_parent? {c p : Cursor t} (h : c.parent? = some p) : t.table.Link p.id c.id := by
  rw [Table.Link, table_children]
  exact (parent?_eq_some_iff c p).mp h

theorem exists_parent_of_link {p : NodeId} {c : Cursor t} (h : t.table.Link p c.id) :
    ∃ d : Cursor t, d.id = p ∧ c.parent? = some d := by
  let d : Cursor t := ⟨p, h.source_lt⟩
  refine ⟨d, rfl, ?_⟩
  rw [parent?_eq_some_iff, ← table_children]
  exact h

/-- Only the root has no parent. -/
theorem parent?_eq_none_iff (c : Cursor t) : c.parent? = none ↔ c.id = t.root := by
  constructor
  · intro hnone
    have hreach := t.isTree.reaches c.id c.inside
    rcases Relation.ReflTransGen.cases_tail hreach with hroot | ⟨p, _, hlink⟩
    · exact hroot
    · obtain ⟨d, _, hd⟩ := exists_parent_of_link hlink
      simp [hnone] at hd
  · intro hroot
    cases hparent : c.parent? with
    | none => rfl
    | some p =>
      have hlink := link_of_parent? hparent
      rw [hroot] at hlink
      exact absurd ((Table.mem_listed_iff _ _).mpr ⟨p.id, hlink⟩) t.isTree.root_not_listed

/-- Going up from `c` leads over the nodes of the list and ends at the root. -/
inductive Ascent : Cursor t → List (Cursor t) → Prop
  | root (c : Cursor t) (hroot : c.id = t.root) : Ascent c []
  | parent {c p : Cursor t} {above : List (Cursor t)} (hp : c.parent? = some p)
      (hup : Ascent p above) : Ascent c (p :: above)

namespace Ascent

theorem unique {c : Cursor t} {l l' : List (Cursor t)} (h : Ascent c l) (h' : Ascent c l') :
    l = l' := by
  induction h generalizing l' with
  | root c hroot =>
    cases h' with
    | root => rfl
    | parent hp hup => simp [(parent?_eq_none_iff c).mpr hroot] at hp
  | @parent c p above hp hup ih =>
    cases h' with
    | root _ hroot => simp [(parent?_eq_none_iff c).mpr hroot] at hp
    | parent hp' hup' =>
      obtain rfl : p = _ := Option.some.inj (hp.symm.trans hp')
      rw [ih hup']

/-- From each node on the way, the rest of the way is its own. -/
theorem exists_shorter {c d : Cursor t} {l : List (Cursor t)} (h : Ascent c l) (hd : d ∈ l) :
    ∃ l', Ascent d l' ∧ l'.length < l.length := by
  induction h with
  | root => simp at hd
  | @parent c p above hp hup ih =>
    rcases List.mem_cons.mp hd with rfl | hd
    · exact ⟨above, hup, by simp⟩
    · obtain ⟨l', hl', hlt⟩ := ih hd
      exact ⟨l', hl', by simp only [List.length_cons]; omega⟩

/-- The way up runs against links. -/
theorem reaches {c d : Cursor t} {l : List (Cursor t)} (h : Ascent d l) (hc : c ∈ l) :
    t.table.Reaches c.id d.id := by
  induction h with
  | root => cases hc
  | @parent d p above hp hup ih =>
    rcases List.mem_cons.mp hc with rfl | hc
    · exact .single (link_of_parent? hp)
    · exact (ih hc).tail (link_of_parent? hp)

theorem not_mem_self {c : Cursor t} {l : List (Cursor t)} (h : Ascent c l) : c ∉ l := by
  intro hmem
  obtain ⟨l', hl', hlt⟩ := h.exists_shorter hmem
  rw [h.unique hl'] at hlt
  omega

theorem nodup {c : Cursor t} {l : List (Cursor t)} (h : Ascent c l) : (c :: l).Nodup := by
  induction h with
  | root c hroot => exact List.nodup_singleton c
  | parent hp hup ih =>
    have hall := Ascent.parent hp hup
    exact List.nodup_cons.mpr ⟨hall.not_mem_self, ih⟩

end Ascent

/-- Different nodes of a tree are at most as many as the tree has. -/
theorem length_le_size_of_nodup {l : List (Cursor t)} (h : l.Nodup) : l.length ≤ t.size := by
  have hids : (l.map Cursor.id).Nodup := h.map fun _ _ => eq_of_id_eq
  have hsub : (l.map Cursor.id).Subperm (List.range t.size) := by
    apply List.subperm_of_subset hids
    intro id hid
    obtain ⟨c, _, rfl⟩ := List.mem_map.mp hid
    exact List.mem_range.mpr c.inside
  simpa using hsub.length_le

theorem Ascent.length_lt_size {c : Cursor t} {l : List (Cursor t)} (h : Ascent c l) :
    l.length < t.size := by
  have hlength := length_le_size_of_nodup h.nodup
  simp only [List.length_cons] at hlength
  omega

theorem exists_ascent (c : Cursor t) : ∃ l, Ascent c l := by
  obtain ⟨id, hid⟩ := c
  have hreach := t.isTree.reaches id hid
  induction hreach with
  | refl => exact ⟨[], .root _ rfl⟩
  | @tail p q hreach hlink ih =>
    obtain ⟨d, rfl, hparent⟩ := exists_parent_of_link (c := ⟨q, hid⟩) hlink
    obtain ⟨l, hl⟩ := ih d.inside
    exact ⟨d :: l, .parent hparent hl⟩

theorem Ascent.climb_eq {c : Cursor t} {l : List (Cursor t)} (h : Ascent c l) (n : ℕ)
    (hn : l.length ≤ n) : climb n c = l := by
  induction h generalizing n with
  | root c hroot =>
    cases n with
    | zero => rfl
    | succ n => simp [climb, (parent?_eq_none_iff c).mpr hroot]
  | parent hp hup ih =>
    cases n with
    | zero => simp at hn
    | succ n =>
      simp only [List.length_cons, Nat.add_le_add_iff_right] at hn
      simp [climb, hp, ih n hn]

/-- The ancestors of a node are all of its way up. -/
theorem ascent_ancestors (c : Cursor t) : Ascent c c.ancestors := by
  obtain ⟨l, hl⟩ := exists_ascent c
  rw [ancestors, hl.climb_eq t.size (Nat.le_of_lt hl.length_lt_size)]
  exact hl

theorem ancestors_of_parent?_eq_some {c p : Cursor t} (h : c.parent? = some p) :
    c.ancestors = p :: p.ancestors :=
  (ascent_ancestors c).unique (.parent h (ascent_ancestors p))

theorem ancestors_of_parent?_eq_none {c : Cursor t} (h : c.parent? = none) : c.ancestors = [] :=
  (ascent_ancestors c).unique (.root c ((parent?_eq_none_iff c).mp h))

end Cursor

/-- A table is accepted exactly if it is one tree below its root. The tree has the table as it
was given, its parents invert the lists of children, only the root is without one, and the way
up from every node ends at the root. -/
theorem SyntaxTree.accepted_iff_isTree (table : Table) :
    ((∃ t, SyntaxTree.ofTable table = .ok t) ↔ table.IsTree) ∧
    ∀ t, SyntaxTree.ofTable table = .ok t →
      t.table = table ∧
      (∀ p q : Cursor t, q.parent? = some p ↔ q.id ∈ p.node.children) ∧
      (∀ q : Cursor t, q.parent? = none ↔ q.id = table.root) ∧
      ∀ q : Cursor t, q.Ascent q.ancestors := by
  constructor
  · rw [← Table.exists_link_eq_ok_iff]
    constructor
    · rintro ⟨t, ht⟩
      obtain rfl := (ofTable_eq_ok_iff table t).mp ht
      exact ⟨t.parents, t.linked⟩
    · rintro ⟨parents, hlink⟩
      exact ⟨⟨table, parents, hlink⟩, (ofTable_eq_ok_iff _ _).mpr rfl⟩
  · intro t ht
    obtain rfl := (ofTable_eq_ok_iff table t).mp ht
    exact ⟨rfl, fun p q => Cursor.parent?_eq_some_iff q p, Cursor.parent?_eq_none_iff,
      Cursor.ascent_ancestors⟩

/-- A call with its callee and an argument; the root stands last. -/
def callTable : Table where
  path := some "app/User.php"
  language := .php
  root := 3
  nodes := #[
    { kind := .identifier, text := "$user", name := some "$user" },
    { kind := .literal, text := "'\\n'", literal := some .string },
    { kind := .functionCall, text := "$user('\\n')", children := [0, 1],
      span := some { line := 3, column := 4, endLine := some 3 } },
    { kind := .file, text := "$user('\\n')", children := [2] }]

def callTree : SyntaxTree where
  table := callTable
  parents := #[some 2, some 2, some 3, none]
  linked := by
    unfold callTable
    -- the path is no part of the links and is kept closed
    generalize some (Path.ofText "app/User.php") = path
    cbv

theorem SyntaxTree.callTable_accepted :
    SyntaxTree.ofTable callTable = .ok callTree ∧ callTable.IsTree ∧
      ∀ q : Cursor callTree, q.Ascent q.ancestors := by
  have hok : SyntaxTree.ofTable callTable = .ok callTree := (ofTable_eq_ok_iff _ _).mpr rfl
  obtain ⟨haccepted, hlaws⟩ := accepted_iff_isTree callTable
  exact ⟨hok, haccepted.mp ⟨callTree, hok⟩, (hlaws callTree hok).2.2.2⟩

end SecurityLint
