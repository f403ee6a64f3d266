import SecurityLint.Proofs.MarkupChecks
import SecurityLint.Proofs.Renumbering

/-!
Two files in one. The top-level items of a file stand side by side below a root that no rule
wants to see, and no rule looks past them: what is above an item is at most the file. So a
file that holds the items of two others has the findings of the first and then those of the second.
-/
namespace SecurityLint

section CloseGap

/-- The place that is left to `j` when the place `gap` is closed. -/
def closeGap (gap j : ℕ) : ℕ :=
  if j < gap then j else j - 1

variable {gap n i j : ℕ}

theorem closeGap_lt (hgap : gap < n) (hj : j < n) (hne : j ≠ gap) : closeGap gap j < n - 1 := by
  unfold closeGap
  split <;> omega

theorem closeGap_inj (hi : i ≠ gap) (hj : j ≠ gap) (h : closeGap gap i = closeGap gap j) :
    i = j := by
  unfold closeGap at h
  split at h <;> split at h <;> omega

theorem exists_closeGap_eq (gap : ℕ) (h : i < n - 1) : ∃ j < n, j ≠ gap ∧ closeGap gap j = i := by
  by_cases hi : i < gap
  · exact ⟨i, by omega, by omega, if_pos hi⟩
  · have hsucc : ¬ i + 1 < gap := by omega
    exact ⟨i + 1, by omega, by omega, by rw [closeGap, if_neg hsucc, Nat.add_sub_cancel]⟩

theorem getElem?_eraseIdx_closeGap {α : Type} (l : List α) (hj : j ≠ gap) :
    (l.eraseIdx gap)[closeGap gap j]? = l[j]? := by
  rw [List.getElem?_eraseIdx, closeGap]
  by_cases hlt : j < gap
  · rw [if_pos hlt, if_pos hlt]
  · have hnot : ¬ j - 1 < gap := by omega
    have hsucc : j - 1 + 1 = j := by omega
    rw [if_neg hlt, if_neg hnot, hsucc]

end CloseGap

namespace Table

/-- The nodes of `part` are nodes of `whole` under new numbers, and so is its root, which may have
been changed. -/
structure Embeds (φ : NodeId → NodeId) (part whole : Table) : Prop where
  root : φ part.root = whole.root
  lt : ∀ i < part.size, φ i < whole.size
  injective : ∀ i < part.size, ∀ j < part.size, φ i = φ j → i = j
  node : ∀ i < part.size, i ≠ part.root →
    whole.nodes[φ i]? = part.nodes[i]?.map (Node.renumber φ)

/-- The table `whole` consists of the nodes of `a` and `b` under new numbers, with the two roots
made one; below it stand the children of the root of `a` and then those of the root of `b`. -/
structure Joins (φ ψ : NodeId → NodeId) (a b whole : Table) : Prop where
  first : Embeds φ a whole
  second : Embeds ψ b whole
  apart : ∀ i < a.size, ∀ j < b.size, φ i = ψ j → i = a.root ∧ j = b.root
  covers : ∀ k < whole.size, (∃ i < a.size, φ i = k) ∨ ∃ j < b.size, ψ j = k
  top : whole.children whole.root = (a.children a.root).map φ ++ (b.children b.root).map ψ

namespace Embeds

variable {φ : NodeId → NodeId} {part whole : Table} {i j q : NodeId}

theorem children (h : Embeds φ part whole) (hi : i < part.size) (hroot : i ≠ part.root) :
    whole.children (φ i) = (part.children i).map φ :=
  children_eq_map (h.node i hi hroot)

/-- The links of the part are links of the whole, if those of its root are. -/
theorem link (h : Embeds φ part whole)
    (htop : ∀ j ∈ part.children part.root, φ j ∈ whole.children whole.root)
    (hij : part.Link i j) : whole.Link (φ i) (φ j) := by
  by_cases hroot : i = part.root
  · subst hroot
    rw [Link, h.root]
    exact htop j hij
  · rw [Link, h.children hij.source_lt hroot]
    exact List.mem_map_of_mem hij

/-- Below the root, the part has all links that the whole has there. -/
theorem exists_link (h : Embeds φ part whole) (hi : i < part.size) (hroot : φ i ≠ whole.root)
    (hlink : whole.Link (φ i) q) : ∃ j, part.Link i j ∧ φ j = q := by
  have hne : i ≠ part.root := by
    rintro rfl
    exact hroot h.root
  rw [Link, h.children hi hne] at hlink
  exact List.mem_map.mp hlink

end Embeds

namespace Joins

variable {φ ψ : NodeId → NodeId} {a b whole : Table}

/-- The links of the whole are those of its two parts. -/
theorem link_iff (h : Joins φ ψ a b whole) (p q : NodeId) :
    whole.Link p q ↔
      (∃ i j, a.Link i j ∧ φ i = p ∧ φ j = q) ∨ ∃ i j, b.Link i j ∧ ψ i = p ∧ ψ j = q := by
  constructor
  · intro hlink
    by_cases hp : p = whole.root
    · subst hp
      rw [Link, h.top, List.mem_append, List.mem_map, List.mem_map] at hlink
      rcases hlink with ⟨j, hj, rfl⟩ | ⟨j, hj, rfl⟩
      · exact .inl ⟨a.root, j, hj, h.first.root, rfl⟩
      · exact .inr ⟨b.root, j, hj, h.second.root, rfl⟩
    · rcases h.covers p hlink.source_lt with ⟨i, hi, rfl⟩ | ⟨i, hi, rfl⟩
      · obtain ⟨j, hij, rfl⟩ := h.first.exists_link hi hp hlink
        exact .inl ⟨i, j, hij, rfl, rfl⟩
      · obtain ⟨j, hij, rfl⟩ := h.second.exists_link hi hp hlink
        exact .inr ⟨i, j, hij, rfl, rfl⟩
  · rintro (⟨i, j, hij, rfl, rfl⟩ | ⟨i, j, hij, rfl, rfl⟩)
    · refine h.first.link (fun j hj => ?_) hij
      rw [h.top]
      exact List.mem_append_left _ (List.mem_map_of_mem hj)
    · refine h.second.link (fun j hj => ?_) hij
      rw [h.top]
      exact List.mem_append_right _ (List.mem_map_of_mem hj)

theorem nodup_children (h : Joins φ ψ a b whole) (ha : a.IsTree) (hb : b.IsTree) {p : NodeId}
    (hp : p < whole.size) : (whole.children p).Nodup := by
  by_cases hroot : p = whole.root
  · rw [hroot, h.top]
    refine (ha.nodup_map_children h.first.injective ha.root_lt).append
      (hb.nodup_map_children h.second.injective hb.root_lt) ?_
    intro q hq hq'
    obtain ⟨i, hi, rfl⟩ := List.mem_map.mp hq
    obtain ⟨j, hj, heq⟩ := List.mem_map.mp hq'
    exact ha.link_ne_root hi (h.apart i (ha.link_lt hi) j (hb.link_lt hj) heq.symm).1
  · rcases h.covers p hp with ⟨i, hi, rfl⟩ | ⟨i, hi, rfl⟩
    · rw [h.first.children hi (fun hi => hroot (hi ▸ h.first.root))]
      exact ha.nodup_map_children h.first.injective hi
    · rw [h.second.children hi (fun hi => hroot (hi ▸ h.second.root))]
      exact hb.nodup_map_children h.second.injective hi

/-- Two trees that are joined at their roots are a tree. -/
theorem isTree (h : Joins φ ψ a b whole) (ha : a.IsTree) (hb : b.IsTree) : whole.IsTree := by
  apply isTree_of_parts (fun second => cond second b a) (fun second => cond second ψ φ)
  case hroot_lt => exact h.first.root ▸ h.first.lt a.root ha.root_lt
  case hnodup => exact fun p hp => h.nodup_children ha hb hp
  case htrees => exact Bool.forall_bool.mpr ⟨ha, hb⟩
  case hroot => exact Bool.forall_bool.mpr ⟨h.first.root, h.second.root⟩
  case hlt => exact Bool.forall_bool.mpr ⟨h.first.lt, h.second.lt⟩
  case hcovers => exact fun q hq => Bool.exists_bool.mpr (h.covers q hq)
  case hlink =>
    intro p q
    rw [h.link_iff, Bool.exists_bool]
    rfl
  case hapart =>
    rintro (_ | _) (_ | _) i hi j hj heq
    · exact .inr ⟨rfl, h.first.injective i hi j hj heq⟩
    · exact .inl (h.apart i hi j hj heq)
    · exact .inl (h.apart j hj i hi heq.symm).symm
    · exact .inr ⟨rfl, h.second.injective i hi j hj heq⟩

end Joins

/-- The new number of a node of `b` in the join of `a` and `b`: behind the nodes of `a`, where the
root of `b` is left out. -/
def joinNumber (a b : Table) (j : NodeId) : NodeId :=
  if j = b.root then a.root else a.size + closeGap b.root j

/-- A join of two tables that keeps the numbers of the first. -/
def join (a b : Table) : Table :=
  let top := a.children a.root ++ (b.children b.root).map (a.joinNumber b)
  let rest := (b.nodes.toList.eraseIdx b.root).map (Node.renumber (a.joinNumber b))
  { a with nodes := a.nodes.modify a.root (fun n => { n with children := top }) ++ rest.toArray }

section Join

variable (a b : Table)

theorem size_join (hb : b.root < b.size) : (a.join b).size = a.size + (b.size - 1) := by
  have hrest : (b.nodes.toList.eraseIdx b.root).length = b.size - 1 :=
    List.length_eraseIdx_of_lt hb
  simp [join, size, hrest]

theorem getElem?_join_of_ne {i : NodeId} (hi : i < a.size) (hroot : i ≠ a.root) :
    (a.join b).nodes[i]? = a.nodes[i]? := by
  rw [join, Array.getElem?_append_left (Array.size_modify.symm ▸ hi), Array.getElem?_modify,
    if_neg (Ne.symm hroot)]

theorem getElem?_join_root (ha : a.root < a.size) :
    (a.join b).nodes[a.root]? = some { a.nodes[a.root] with
      children := a.children a.root ++ (b.children b.root).map (a.joinNumber b) } := by
  rw [join, Array.getElem?_append_left (Array.size_modify.symm ▸ ha), Array.getElem?_modify,
    if_pos rfl, Array.getElem?_eq_getElem ha]
  rfl

theorem getElem?_join_behind (k : ℕ) :
    (a.join b).nodes[a.size + k]? =
      (b.nodes.toList.eraseIdx b.root)[k]?.map (Node.renumber (a.joinNumber b)) := by
  have hle : (a.nodes.modify a.root fun n => { n with
      children := a.children a.root ++ (b.children b.root).map (a.joinNumber b) }).size ≤
        a.size + k := by
    rw [Array.size_modify]
    exact Nat.le_add_right a.size k
  rw [join, Array.getElem?_append_right hle, Array.size_modify, size, Nat.add_sub_cancel_left,
    List.getElem?_toArray, List.getElem?_map]

theorem joinNumber_root : a.joinNumber b b.root = a.root :=
  if_pos rfl

theorem joinNumber_of_ne {j : NodeId} (h : j ≠ b.root) :
    a.joinNumber b j = a.size + closeGap b.root j :=
  if_neg h

theorem embeds_join_left (hb : b.root < b.size) : Embeds id a (a.join b) where
  root := rfl
  lt i hi := by
    rw [size_join a b hb]
    exact Nat.lt_add_right _ hi
  injective _ _ _ _ heq := heq
  node i hi hroot := by
    have hsame : Node.renumber id = id := by
      funext n
      rw [Node.renumber, List.map_id]
      rfl
    rw [id_eq, getElem?_join_of_ne a b hi hroot, hsame, Option.map_id, id_eq]

theorem embeds_join_right (ha : a.root < a.size) (hb : b.root < b.size) :
    Embeds (a.joinNumber b) b (a.join b) where
  root := joinNumber_root a b
  lt j hj := by
    rw [size_join a b hb]
    by_cases hroot : j = b.root
    · rw [hroot, joinNumber_root]
      exact Nat.lt_add_right _ ha
    · rw [joinNumber_of_ne a b hroot]
      exact Nat.add_lt_add_left (closeGap_lt hb hj hroot) a.size
  injective i _ j _ heq := by
    by_cases hi : i = b.root
    · by_cases hj : j = b.root
      · rw [hi, hj]
      · rw [hi, joinNumber_root, joinNumber_of_ne a b hj] at heq
        exact absurd (heq ▸ ha) (Nat.not_lt.mpr (Nat.le_add_right _ _))
    · by_cases hj : j = b.root
      · rw [hj, joinNumber_root, joinNumber_of_ne a b hi] at heq
        exact absurd (heq ▸ ha) (Nat.not_lt.mpr (Nat.le_add_right _ _))
      · rw [joinNumber_of_ne a b hi, joinNumber_of_ne a b hj] at heq
        exact closeGap_inj hi hj (Nat.add_left_cancel heq)
  node j _ hroot := by
    rw [joinNumber_of_ne a b hroot, getElem?_join_behind, getElem?_eraseIdx_closeGap _ hroot,
      Array.getElem?_toList]

/-- Any two tables can be joined at their roots. -/
theorem joins_join (ha : a.root < a.size) (hb : b.root < b.size) :
    Joins id (a.joinNumber b) a b (a.join b) where
  first := embeds_join_left a b hb
  second := embeds_join_right a b ha hb
  apart i hi j _ heq := by
    by_cases hj : j = b.root
    · rw [hj, joinNumber_root] at heq
      exact ⟨heq, hj⟩
    · rw [joinNumber_of_ne a b hj, id_eq] at heq
      exact absurd (heq ▸ hi) (Nat.not_lt.mpr (Nat.le_add_right _ _))
  covers k hk := by
    by_cases hka : k < a.size
    · exact .inl ⟨k, hka, rfl⟩
    · obtain ⟨rest, rfl⟩ := Nat.exists_eq_add_of_le (Nat.le_of_not_lt hka)
      rw [size_join a b hb] at hk
      obtain ⟨j, hj, hroot, rfl⟩ := exists_closeGap_eq b.root (Nat.lt_of_add_lt_add_left hk)
      exact .inr ⟨j, hj, joinNumber_of_ne a b hroot⟩
  top := by
    have hroot : (a.join b).root = a.root := rfl
    rw [hroot, Table.children, getElem?_join_root a b ha, List.map_id]
    rfl

end Join

end Table

variable {t u : SyntaxTree} {φ : NodeId → NodeId}

theorem SyntaxTree.ids_children_rootCursor (t : SyntaxTree) :
    t.rootCursor.children.map Cursor.id = t.table.children t.root :=
  t.rootCursor.children_eq_ids

theorem Cursor.ne_root_of_mem_children {c d : Cursor t} (h : d ∈ c.children) : d.id ≠ t.root := by
  intro hroot
  have hparent := (Cursor.mem_children_iff c d).mp h
  rw [(Cursor.parent?_eq_none_iff d).mpr hroot] at hparent
  cases hparent

theorem Cursor.atTop_of_parent?_eq_root {c : Cursor t} (h : c.parent? = some t.rootCursor)
    (hfile : t.rootCursor.kind = .file) : c.AtTop := by
  intro p hp
  obtain rfl := Option.some.inj (h.symm.trans hp)
  exact ⟨hfile, (Cursor.parent?_eq_none_iff _).mpr rfl⟩

/-- All nodes of a file but its root are found again in a file in which it is embedded. -/
theorem renumbers_of_embeds (h : Table.Embeds φ t.table u.table)
    (htop : ∀ i ∈ t.table.children t.root, φ i ∈ u.table.children u.root)
    (ht : t.rootCursor.kind = .file) (hu : u.rootCursor.kind = .file) :
    Renumbers φ (fun c : Cursor t => c.id ≠ t.root) u where
  inside _ := h.lt _ (Cursor.inside _)
  injective _ _ heq := Cursor.eq_of_id_eq (h.injective _ (Cursor.inside _) _ (Cursor.inside _) heq)
  outline {c d} hc hid := by
    rw [Cursor.node_eq_renumber hid (h.node c.id c.inside hc)]
  children _ hc' := Cursor.ne_root_of_mem_children hc'
  parent? {c d} hc hid := by
    have hsome : c.parent? ≠ none := mt (Cursor.parent?_eq_none_iff c).mp hc
    obtain ⟨p, hparent⟩ := Option.ne_none_iff_exists'.mp hsome
    by_cases hroot : p.id = t.root
    · obtain rfl : p = t.rootCursor := Cursor.eq_of_id_eq hroot
      have hparent' : d.parent? = some u.rootCursor := by
        rw [Cursor.parent?_eq_some_iff, ← Cursor.table_children] at hparent ⊢
        rw [hid]
        exact htop c.id hparent
      exact .inr ⟨Cursor.atTop_of_parent?_eq_root hparent ht,
        Cursor.atTop_of_parent?_eq_root hparent' hu⟩
    · exact .inl ⟨p, hparent, hroot⟩

namespace Scanner

variable {config : Config} {s : Scanner}

theorem findings_of_file (h : Scanner.ofConfig config = .ok s)
    (hfile : t.rootCursor.kind = .file) :
    (s.engine.scan t).findings =
      (t.rootCursor.children.flatMap Cursor.order).flatMap (findingsAt s.engine.rules) := by
  rw [findings_scan h, Cursor.order_eq, List.flatMap_cons, findingsAt_file h hfile,
    List.nil_append]

/-- The items of a file that stand in another one have the findings of the file there. -/
theorem findings_of_items (h : Scanner.ofConfig config = .ok s)
    (hembeds : Table.Embeds φ t.table u.table) (hpath : u.path = t.path)
    (ht : t.rootCursor.kind = .file) (hu : u.rootCursor.kind = .file)
    {items : List (Cursor u)} (hitems : ∀ d ∈ items, d ∈ u.rootCursor.children)
    (hids : items.map Cursor.id = (t.table.children t.root).map φ) :
    (items.flatMap Cursor.order).flatMap (findingsAt s.engine.rules) =
      (s.engine.scan t).findings.map (Finding.renumber φ) := by
  have htop : ∀ i ∈ t.table.children t.root, φ i ∈ u.table.children u.root := by
    intro i hi
    have hmem : φ i ∈ items.map Cursor.id := hids ▸ List.mem_map_of_mem hi
    obtain ⟨d, hd, hid⟩ := List.mem_map.mp hmem
    rw [← hid, ← u.ids_children_rootCursor]
    exact List.mem_map_of_mem (hitems d hd)
  have hrenumbers := renumbers_of_embeds hembeds htop ht hu
  rw [← t.ids_children_rootCursor] at hids
  have hpairs := Renumbers.forall₂_of_ids (fun c hc => Cursor.ne_root_of_mem_children hc) hids
  have horder := List.rel_flatMap hpairs fun c d hcd => hrenumbers.counterparts.order hcd
  rw [findings_of_file h ht]
  refine hrenumbers.flatMap_findingsAt (uniform_of_mem h) ?_ horder
  intro c d hc hid
  exact Cursor.location?_eq_of_renumber hpath
    (Cursor.node_eq_renumber hid (hembeds.node c.id c.inside hc))

end Scanner

/-- A file with the top-level items of two others has their findings, first those of the one and
then those of the other, under the new numbers of the nodes. There is such a file for any two,
and all of them are accepted. -/
theorem findings_of_joins {config : Config} {s : Scanner} (h : Scanner.ofConfig config = .ok s)
    (a b : SyntaxTree) (hpath : a.path = b.path) (ha : a.rootCursor.kind = .file)
    (hb : b.rootCursor.kind = .file) :
    (∃ φ ψ whole, Table.Joins φ ψ a.table b.table whole ∧ whole.path = a.path ∧
      whole.nodes[whole.root]?.map Node.kind = some .file) ∧
    ∀ φ ψ whole, Table.Joins φ ψ a.table b.table whole → whole.path = a.path →
      whole.nodes[whole.root]?.map Node.kind = some .file →
      ∃ u, SyntaxTree.ofTable whole = .ok u ∧
        (s.engine.scan u).findings =
          (s.engine.scan a).findings.map (Finding.renumber φ) ++
            (s.engine.scan b).findings.map (Finding.renumber ψ) := by
  constructor
  · refine ⟨_, _, _, Table.joins_join a.table b.table a.isTree.root_lt b.isTree.root_lt, rfl, ?_⟩
    have hroot : (a.table.join b.table).root = a.table.root := rfl
    rw [hroot, Table.getElem?_join_root _ _ a.isTree.root_lt]
    exact congrArg some ha
  · intro φ ψ whole hjoins hwhole hfile
    obtain ⟨u, hu, rfl⟩ := SyntaxTree.exists_ofTable_eq_ok (hjoins.isTree a.isTree b.isTree)
    refine ⟨u, hu, ?_⟩
    have hkind : u.rootCursor.kind = .file := by
      have hroot : u.table.nodes[u.table.root]? = some u.rootCursor.node :=
        u.rootCursor.getElem?_nodes
      rw [hroot] at hfile
      exact Option.some.inj hfile
    -- the children of the root are cut where the items of the second file begin
    have hids := u.ids_children_rootCursor.trans hjoins.top
    obtain ⟨items, items', hsplit, hfirst, hsecond⟩ := List.map_eq_append_iff.mp hids
    rw [Scanner.findings_of_file h hkind, hsplit, List.flatMap_append, List.flatMap_append]
    congr 1
    · refine Scanner.findings_of_items h hjoins.first hwhole ha hkind ?_ hfirst
      exact fun d hd => hsplit ▸ List.mem_append_left _ hd
    · refine Scanner.findings_of_items h hjoins.second (hwhole.trans hpath) hb hkind ?_ hsecond
      exact fun d hd => hsplit ▸ List.mem_append_right _ hd

/-- A call that outputs SVG content in front of one that stores secrets. -/
theorem markupTree_storageTree_findings :
    Scanner.markupTree.path = storageTree.path ∧ Scanner.markupTree.rootCursor.kind = .file ∧
    storageTree.rootCursor.kind = .file ∧
    ∃ s u, Scanner.ofConfig wordConfig = .ok s ∧
      SyntaxTree.ofTable (Scanner.markupTree.table.join storageTable) = .ok u ∧
      2 ≤ (s.engine.scan Scanner.markupTree).findings.length ∧
      (s.engine.scan u).findings =
        (s.engine.scan Scanner.markupTree).findings.map (Finding.renumber id) ++
          (s.engine.scan storageTree).findings.map
            (Finding.renumber (Scanner.markupTree.table.joinNumber storageTable)) := by
  obtain ⟨s, hs, _⟩ := Scanner.exists_ofConfig_word
  have hjoins := Table.joins_join Scanner.markupTree.table storageTable (by decide) (by decide)
  obtain ⟨_, hfindings⟩ := findings_of_joins hs Scanner.markupTree storageTree rfl rfl rfl
  obtain ⟨u, hu, hraw⟩ := hfindings id _ _ hjoins rfl (by decide +kernel)
  have htwo : 2 ≤ (s.engine.scan Scanner.markupTree).findings.length := by
    obtain ⟨f, hf, g, hg, _, _, hmessage⟩ := Scanner.exists_findings_markupTree hs
    by_contra hone
    obtain ⟨x, hx⟩ := List.length_eq_one_iff.mp
      (Nat.le_antisymm (by omega) (List.length_pos_of_mem hf))
    rw [hx, List.mem_singleton] at hf hg
    rw [hf, hg] at hmessage
    exact hmessage rfl
  exact ⟨rfl, rfl, rfl, s, u, hs, hu, htwo, hraw⟩

end SecurityLint
