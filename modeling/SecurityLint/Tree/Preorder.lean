import SecurityLint.Tree.Node

/-!
The nodes of a table in document order, from the root downwards. The walk keeps a stack and marks
what it has seen, so it ends on every table, whatever its references.
-/
namespace SecurityLint.Table

theorem countP_set_lt (seen : Array Bool) (id : NodeId) (h : id < seen.size)
    (new : seen[id] = false) :
    (seen.set id true).countP (!·) < seen.countP (!·) := by
  have pos : 0 < seen.countP (!·) := Array.countP_pos_iff.2 ⟨seen[id], by simp, by simp [new]⟩
  rw [Array.countP_set]
  simp only [new, Bool.not_false, Bool.not_true, Bool.false_eq_true, if_true, if_false]
  omega

/-- Visits the nodes on the stack from its top, each with its children first on the stack. Nodes
that were seen before and ids outside the table are passed over. -/
def walk (t : Table) (seen : Array Bool) (stack : List NodeId) : List NodeId :=
  match stack with
  | [] => []
  | id :: stack =>
    if h : id < seen.size then
      if new : seen[id] = false then
        id :: walk t (seen.set id true) (t.children id ++ stack)
      else walk t seen stack
    else walk t seen stack
termination_by (seen.countP (!·), stack.length)
decreasing_by
  · exact Prod.Lex.left _ _ (countP_set_lt seen id h new)
  · exact Prod.Lex.right _ (by simp)
  · exact Prod.Lex.right _ (by simp)

/-- All nodes that can be reached from the root, in document order. -/
def preorder (t : Table) : List NodeId :=
  t.walk (Array.replicate t.size false) [t.root]

end SecurityLint.Table
