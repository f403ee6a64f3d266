import SecurityLint.Proofs.Building
import SecurityLint.Proofs.Flaws

/-!
Tables in which children stand before the nodes that list them. Such a table has no circles, and
going up from a node leads further back in the table, to a node that is not listed. If only
the last node is not listed, all of the table hangs below it. So what was built without raw nodes
is a tree exactly if the root was added last and every other node is listed once.
-/
namespace SecurityLint

namespace Table

/-- Children stand before the nodes that list them. -/
def BottomUp (t : Table) : Prop :=
  ∀ p q, t.Link p q → q < p

namespace BottomUp

variable {t : Table}

theorem listed_lt (h : t.BottomUp) {q : NodeId} (hq : q ∈ t.listed) : q + 1 < t.size := by
  obtain ⟨p, hlink⟩ := (mem_listed_iff t q).mp hq
  exact Nat.lt_of_le_of_lt (h p q hlink) hlink.source_lt

theorem last_not_listed (h : t.BottomUp) {q : NodeId} (hq : t.size = q + 1) : q ∉ t.listed := by
  intro hmem
  have hlt := h.listed_lt hmem
  rw [hq] at hlt
  exact Nat.lt_irrefl _ hlt

/-- If every node but the root is listed, the way up from each node ends at the root. -/
theorem reaches (h : t.BottomUp)
    (hlisted : ∀ q < t.size, q ≠ t.root → q ∈ t.listed) (q : NodeId) (hq : q < t.size) :
    t.Reaches t.root q := by
  -- The parent of a node is closer to the end of the table.
  induction hn : t.size - q using Nat.strongRecOn generalizing q with
  | ind n ih =>
    by_cases hlast : q = t.root
    · rw [hlast]
      exact .refl
    · obtain ⟨p, hlink⟩ := (mem_listed_iff t q).mp (hlisted q hq hlast)
      have hcloser : t.size - p < n := hn ▸ Nat.sub_lt_sub_left hq (h p q hlink)
      exact (ih (t.size - p) hcloser p hlink.source_lt rfl).tail hlink

/-- Only the last node can be the root, as it is listed by none. -/
theorem root_eq_last (h : t.BottomUp) (htree : t.IsTree) : t.size = t.root + 1 := by
  obtain ⟨last, hlast⟩ : ∃ last, t.size = last + 1 :=
    Nat.exists_eq_add_one.mpr (Nat.zero_lt_of_lt htree.root_lt)
  have hlt : last < t.size := hlast ▸ Nat.lt_succ_self last
  rcases Relation.ReflTransGen.cases_tail (htree.reaches last hlt) with hroot | ⟨p, _, hlink⟩
  · rw [hlast, hroot]
  · exact absurd ((mem_listed_iff t last).mpr ⟨p, hlink⟩) (h.last_not_listed hlast)

theorem isTree_iff (h : t.BottomUp) :
    t.IsTree ↔ t.size = t.root + 1 ∧ ∀ q < t.size, q ≠ t.root → t.listed.count q = 1 := by
  constructor
  · intro htree
    refine ⟨h.root_eq_last htree, ?_⟩
    intro q hq hne
    rcases Relation.ReflTransGen.cases_tail (htree.reaches q hq) with hroot | ⟨p, _, hlink⟩
    · exact absurd hroot hne
    · have hmem := List.count_pos_iff.mpr ((mem_listed_iff t q).mpr ⟨p, hlink⟩)
      have honce := htree.listed_once q
      omega
  · rintro ⟨hroot, hcount⟩
    have hlast := h.last_not_listed hroot
    have hlisted : ∀ q < t.size, q ≠ t.root → q ∈ t.listed := by
      intro q hq hne
      apply List.count_pos_iff.mp
      rw [hcount q hq hne]
      exact Nat.one_pos
    exact {
      root_lt := hroot ▸ Nat.lt_succ_self _
      child_lt := fun q hq => Nat.lt_of_succ_lt (h.listed_lt hq)
      root_not_listed := hlast
      listed_once := by
        intro q
        by_cases hq : q ∈ t.listed
        · have hne : q ≠ t.root := fun heq => hlast (heq ▸ hq)
          exact Nat.le_of_eq (hcount q (Nat.lt_of_succ_lt (h.listed_lt hq)) hne)
        · rw [List.count_eq_zero_of_not_mem hq]
          exact Nat.zero_le 1
      reaches := h.reaches hlisted }

end BottomUp

/-- A child is reported as missing only if it is. -/
theorem link_eq_missingChild (t : Table) {p q : NodeId}
    (h : t.link = .error (.missingChild p q)) : t.Link p q ∧ t.size ≤ q :=
  holdsOf_of_link_eq_error h

end Table

namespace Builder

variable {b : Builder} {language : Language} {path : Option Path} {steps : List Step}

theorem Composed.bottomUp (h : b.Composed) (root : NodeId) : (b.table root).BottomUp := by
  intro p q hlink
  have hp : p < b.nodes.size := hlink.source_lt
  have hnode : b.nodes[p]? = some b.nodes[p] := Array.getElem?_eq_getElem hp
  apply h.below p b.nodes[p] hnode q
  simpa [Table.Link, Table.children, table, hnode] using hlink

/-- In what was built without raw nodes, children stand before the nodes that list them. It is a
tree below `root` exactly if `root` was added last and every other node is listed once. No child is
ever missing, and all nodes are reached from the root if all but the root are listed. -/
theorem finish_ok_iff_listed_once (hraw : ∀ step ∈ steps, step.isRaw = false)
    (hrun : run? { language, path } steps = some b) (root : NodeId) :
    (∀ (id : NodeId) (node : Node), b.nodes[id]? = some node → ∀ q ∈ node.children, q < id) ∧
    ((∃ t, b.finish root = .ok t) ↔ b.nodes.size = root + 1 ∧
      ∀ q < b.nodes.size, q ≠ root → (b.table root).listed.count q = 1) ∧
    (∀ node child, b.finish root ≠ .error (.missingChild node child)) ∧
    ((∀ q < b.nodes.size, q ≠ root → q ∈ (b.table root).listed) →
      ∀ q < b.nodes.size, (b.table root).Reaches root q) := by
  have hcomposed := composed_of_run? hraw hrun
  have hbottomUp := hcomposed.bottomUp root
  refine ⟨hcomposed.below, ?_, ?_, ?_⟩
  · exact (SyntaxTree.exists_ofTable_eq_ok_iff (b.table root)).trans hbottomUp.isTree_iff
  · intro node child h
    have hlink := (SyntaxTree.ofTable_eq_error_iff (b.table root) _).mp h
    obtain ⟨hchild, hsize⟩ := (b.table root).link_eq_missingChild hlink
    have hlt := hbottomUp.listed_lt ((Table.mem_listed_iff _ child).mpr ⟨node, hchild⟩)
    exact absurd (Nat.lt_of_succ_lt hlt) (Nat.not_lt.mpr hsize)
  · exact hbottomUp.reaches

/-- The steps to a file with a call that stores a secret in an array. -/
def storageSteps : List Step := [
  .string "otp",
  .ident "$otp",
  .pair 0 1,
  .array [2],
  .staticCall "User" "create" [3],
  .locate 7 3 4,
  .statement 7,
  .file [8]]

/-- The call that stores a secret is a tree. A call of `f` that names its own callee as its argument
can be built, but lists the callee twice. -/
theorem storageSteps_finish :
    (∃ b, run? { language := .php } storageSteps = some b ∧ ∃ t, b.finish 9 = .ok t) ∧
    ∃ b, run? {} [.functionCall "f" [0]] = some b ∧ ¬ ∃ t, b.finish 1 = .ok t := by
  have hstorage : ((run? { language := .php } storageSteps).map fun b =>
      (b.nodes.size, (b.table 9).listed)) = some (10, [0, 1, 2, 4, 5, 6, 3, 7, 8]) := by
    decide +kernel
  have htwice : ((run? {} [.functionCall "f" [0]]).map fun b =>
      (b.nodes.size, (b.table 1).listed)) = some (2, [0, 0]) := by
    decide +kernel
  constructor
  · obtain ⟨b, hrun, hb⟩ := Option.map_eq_some_iff.mp hstorage
    obtain ⟨hsize, hlisted⟩ := Prod.mk.inj hb
    obtain ⟨_, hfinish, _⟩ := finish_ok_iff_listed_once (by decide) hrun 9
    refine ⟨b, hrun, hfinish.mpr ?_⟩
    rw [hsize, hlisted]
    decide
  · obtain ⟨b, hrun, hb⟩ := Option.map_eq_some_iff.mp htwice
    obtain ⟨hsize, hlisted⟩ := Prod.mk.inj hb
    obtain ⟨_, hfinish, _⟩ := finish_ok_iff_listed_once (by decide) hrun 1
    refine ⟨b, hrun, fun hok => absurd (hfinish.mp hok) ?_⟩
    rw [hsize, hlisted]
    decide

end Builder

end SecurityLint
