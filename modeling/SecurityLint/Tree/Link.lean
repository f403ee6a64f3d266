import SecurityLint.Tree.Preorder

/-!
Linking a table into a tree. Parents are found from the lists of children, in one pass over the
table; what stands in the way of a tree is reported as the first flaw of that pass. A table in which
every node but the root has one parent and all nodes can be reached from the root is a tree.
-/
namespace SecurityLint

/-- Why a table is no tree. -/
inductive Flaw where
  | rootOutOfRange (root : NodeId) (size : Nat)
  | missingChild (node child : NodeId)
  | rootAsChild (root node : NodeId)
  | twoParents (child first second : NodeId)
  | unreachable (count size : Nat)
  deriving DecidableEq, Repr

def Flaw.message : Flaw → String
  | rootOutOfRange root size => s!"root {root.label} out of range ({size} nodes)"
  | missingChild node child => s!"node {node.label} references missing child {child.label}"
  | rootAsChild root node => s!"root {root.label} appears as a child of {node.label}"
  | twoParents child first second =>
    s!"node {child.label} has two parents ({first.label} and {second.label})"
  | unreachable count size => s!"{count} of {size} nodes are not reachable from the root"

/-- The parent of each node, as far as it is known. -/
abbrev Parents := Array (Option NodeId)

namespace Table

/-- Makes `node` the parent of `child`. -/
def adopt (t : Table) (node : NodeId) (parents : Parents) (child : NodeId) :
    Except Flaw Parents :=
  if h : child < parents.size then
    if child = t.root then .error (.rootAsChild child node)
    else
      match parents[child] with
      | some first => .error (.twoParents child first node)
      | none => .ok (parents.set child (some node))
  else .error (.missingChild node child)

/-- Makes `node` the parent of all its children, in their order. -/
def adoptAll (t : Table) (parents : Parents) (node : NodeId) : Except Flaw Parents :=
  (t.children node).foldlM (t.adopt node) parents

/-- The parents of all nodes, if the table is a tree. -/
def link (t : Table) : Except Flaw Parents := do
  if t.size ≤ t.root then throw (.rootOutOfRange t.root t.size)
  let parents ← (List.range t.size).foldlM t.adoptAll (Array.replicate t.size none)
  let reached := t.preorder.length
  if reached ≠ t.size then throw (.unreachable (t.size - reached) t.size)
  return parents

end Table

/-- A table that is a tree, with the parents of its nodes. -/
structure SyntaxTree where
  table : Table
  parents : Parents
  linked : table.link = .ok parents

namespace SyntaxTree

def ofTable (t : Table) : Except Flaw SyntaxTree :=
  match h : t.link with
  | .ok parents => .ok ⟨t, parents, h⟩
  | .error flaw => .error flaw

def size (t : SyntaxTree) : Nat :=
  t.table.size

def path (t : SyntaxTree) : Option Path :=
  t.table.path

def language (t : SyntaxTree) : Language :=
  t.table.language

def root (t : SyntaxTree) : NodeId :=
  t.table.root

/-- Where a node stands in the source, if the parser recorded it. A tree without a path has
locations in the file with the empty path. -/
def location? (t : SyntaxTree) (id : NodeId) : Option Location := do
  let node ← t.table.nodes[id]?
  let span ← node.span
  return { file := t.path.getD .empty, span }

end SyntaxTree

end SecurityLint
