import Mathlib.Data.Fin.Rev
import SecurityLint.Proofs.Renumbering

/-!
The order of the nodes in their table is the choice of a parser. If the nodes of a tree are moved
by a permutation, and all references with them, the table is a tree again; it is walked in the
same order, and the scan reports the same, up to the numbers of the nodes.
-/
namespace SecurityLint

section Renumbering

variable {n : ℕ}

/-- The new number of a node. Numbers that no node has are kept. -/
def renumbering (σ : Equiv.Perm (Fin n)) (i : NodeId) : NodeId :=
  if h : i < n then σ ⟨i, h⟩ else i

theorem renumbering_of_lt (σ : Equiv.Perm (Fin n)) {i : NodeId} (h : i < n) :
    renumbering σ i = σ ⟨i, h⟩ :=
  dif_pos h

theorem renumbering_lt (σ : Equiv.Perm (Fin n)) {i : NodeId} (h : i < n) :
    renumbering σ i < n := by
  rw [renumbering_of_lt σ h]
  exact (σ ⟨i, h⟩).isLt

theorem renumbering_inj (σ : Equiv.Perm (Fin n)) {i j : NodeId} (hi : i < n) (hj : j < n)
    (h : renumbering σ i = renumbering σ j) : i = j := by
  rw [renumbering_of_lt σ hi, renumbering_of_lt σ hj] at h
  exact congrArg Fin.val (σ.injective (Fin.ext h))

theorem exists_renumbering_eq (σ : Equiv.Perm (Fin n)) {k : NodeId} (h : k < n) :
    ∃ i < n, renumbering σ i = k := by
  refine ⟨σ.symm ⟨k, h⟩, (σ.symm ⟨k, h⟩).isLt, ?_⟩
  rw [renumbering_of_lt σ (σ.symm ⟨k, h⟩).isLt, Fin.eta, Equiv.apply_symm_apply]

end Renumbering

namespace Table

/-- The table with each node moved to its new place, and all references renumbered. -/
def relabel (t : Table) (σ : Equiv.Perm (Fin t.size)) : Table :=
  { t with
    root := renumbering σ t.root
    nodes := Array.ofFn fun i : Fin t.size =>
      have : σ.symm i < t.nodes.size := (σ.symm i).isLt
      t.nodes[σ.symm i].renumber (renumbering σ) }

variable (t : Table) (σ : Equiv.Perm (Fin t.size))

theorem size_relabel : (t.relabel σ).size = t.size :=
  Array.size_ofFn

theorem getElem?_relabel {i : NodeId} (h : i < t.size) :
    (t.relabel σ).nodes[renumbering σ i]? = t.nodes[i]?.map (Node.renumber (renumbering σ)) := by
  have hnode : t.nodes[i]? = some t.nodes[i] := Array.getElem?_eq_getElem h
  rw [hnode, Option.map_some, renumbering_of_lt σ h, relabel, Array.getElem?_ofFn,
    dif_pos (σ ⟨i, h⟩).isLt]
  simp only [Fin.eta, Equiv.symm_apply_apply]
  rfl

theorem children_relabel {i : NodeId} (h : i < t.size) :
    (t.relabel σ).children (renumbering σ i) = (t.children i).map (renumbering σ) :=
  children_eq_map (getElem?_relabel t σ h)

theorem link_relabel_iff (p q : NodeId) :
    (t.relabel σ).Link p q ↔
      ∃ i j, t.Link i j ∧ renumbering σ i = p ∧ renumbering σ j = q := by
  constructor
  · intro h
    have hp := h.source_lt
    rw [size_relabel] at hp
    obtain ⟨i, hi, rfl⟩ := exists_renumbering_eq σ hp
    rw [Link, children_relabel t σ hi] at h
    obtain ⟨j, hj, rfl⟩ := List.mem_map.mp h
    exact ⟨i, j, hj, rfl, rfl⟩
  · rintro ⟨i, j, hij, rfl, rfl⟩
    rw [Link, children_relabel t σ hij.source_lt]
    exact List.mem_map_of_mem hij

variable {t} in
theorem IsTree.relabel (h : t.IsTree) : (t.relabel σ).IsTree := by
  apply isTree_of_parts (fun _ : Unit => t) fun _ => renumbering σ
  case htrees => exact fun _ => h
  case hroot => exact fun _ => rfl
  case hroot_lt => exact (size_relabel t σ).symm ▸ renumbering_lt σ h.root_lt
  case hlt => exact fun _ i hi => (size_relabel t σ).symm ▸ renumbering_lt σ hi
  case hcovers =>
    intro q hq
    rw [size_relabel] at hq
    exact ⟨(), exists_renumbering_eq σ hq⟩
  case hapart => exact fun _ _ i hi j hj heq => .inr ⟨rfl, renumbering_inj σ hi hj heq⟩
  case hlink =>
    intro p q
    rw [link_relabel_iff]
    exact ⟨fun hpq => ⟨(), hpq⟩, fun ⟨_, hpq⟩ => hpq⟩
  case hnodup =>
    intro p hp
    rw [size_relabel] at hp
    obtain ⟨i, hi, rfl⟩ := exists_renumbering_eq σ hp
    rw [children_relabel t σ hi]
    exact h.nodup_map_children (fun _ hj _ hj' => renumbering_inj σ hj hj') hi

end Table

variable {t u : SyntaxTree} {σ : Equiv.Perm (Fin t.table.size)}

theorem Cursor.node_of_relabel (hu : u.table = t.table.relabel σ) {c : Cursor t} {d : Cursor u}
    (hid : d.id = renumbering σ c.id) : d.node = c.node.renumber (renumbering σ) := by
  apply node_eq_renumber hid
  rw [hu, Table.getElem?_relabel t.table σ c.inside]

theorem renumbers_relabel (hu : u.table = t.table.relabel σ) :
    Renumbers (renumbering σ) (fun _ : Cursor t => True) u := by
  apply renumbers_all
  case hroot => exact (congrArg Table.root hu).symm
  case hinside =>
    intro c
    rw [SyntaxTree.size, hu, Table.size_relabel]
    exact renumbering_lt σ c.inside
  case hinjective =>
    intro c c' heq
    exact Cursor.eq_of_id_eq (renumbering_inj σ c.inside c'.inside heq)
  case houtline =>
    intro c d hid
    rw [Cursor.node_of_relabel hu hid]

/-- Moving the nodes of a tree within its table changes nothing but their numbers. The moved table
is accepted and walked in the same order. A scan finds the same in it, in the same order and
under the new numbers; the report shows the same findings and the same verdict. -/
theorem scan_relabel (t : SyntaxTree) (σ : Equiv.Perm (Fin t.table.size)) :
    ∃ u, SyntaxTree.ofTable (t.table.relabel σ) = .ok u ∧
      u.table.preorder = t.table.preorder.map (renumbering σ) ∧
      ∀ config s, Scanner.ofConfig config = .ok s →
        (s.engine.scan u).findings =
          (s.engine.scan t).findings.map (Finding.renumber (renumbering σ)) ∧
        s.scan u =
          { s.scan t with
            findings := (s.scan t).findings.map (Finding.renumber (renumbering σ)) } := by
  obtain ⟨u, hu, htable⟩ := SyntaxTree.exists_ofTable_eq_ok (t.isTree.relabel σ)
  have hpath : u.path = t.path := (congrArg Table.path htable :)
  have hrenumbers := renumbers_relabel htable
  have hroot : u.rootCursor.id = renumbering σ t.rootCursor.id := congrArg Table.root htable
  have horder := hrenumbers.counterparts.order ⟨trivial, hroot⟩
  refine ⟨u, hu, ?_, ?_⟩
  · rw [u.preorder_eq_order, t.preorder_eq_order, List.map_map]
    exact map_eq_of_forall₂ horder fun hcd => hcd.2
  · intro config s hs
    have hraw : (s.engine.scan u).findings =
        (s.engine.scan t).findings.map (Finding.renumber (renumbering σ)) := by
      rw [Scanner.findings_scan hs, Scanner.findings_scan hs]
      exact hrenumbers.flatMap_findingsAt (Scanner.uniform_of_mem hs)
        (fun _ hid => Cursor.location?_eq_of_renumber hpath (Cursor.node_of_relabel htable hid))
        horder
    exact ⟨hraw, Scanner.scan_eq_of_findings hs (Finding.blindTo_readdress _ _) hraw⟩

/-- The nodes of a call that stores secrets, with the root in front. -/
theorem storageTree_scan_reversed :
    (storageTable.relabel Fin.revPerm).root = 0 ∧
    ∃ s u, Scanner.ofConfig wordConfig = .ok s ∧
      SyntaxTree.ofTable (storageTable.relabel Fin.revPerm) = .ok u ∧
      (s.engine.scan u).findings =
        (s.engine.scan storageTree).findings.map
          (Finding.renumber (renumbering (n := storageTable.size) Fin.revPerm)) := by
  obtain ⟨s, hs, _⟩ := Scanner.exists_ofConfig_word
  obtain ⟨u, hu, _, hscan⟩ := scan_relabel storageTree Fin.revPerm
  exact ⟨by decide, s, u, hs, hu, (hscan wordConfig s hs).1⟩

end SecurityLint
