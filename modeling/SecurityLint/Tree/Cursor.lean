import SecurityLint.Tree.Link

/-!
Cursors: nodes of one tree, with the steps from a node to its neighbours. A cursor carries the
proof that its node is in the table, so reading a node cannot fail.
-/
namespace SecurityLint

/-- A node of the tree `t`. -/
structure Cursor (t : SyntaxTree) where
  id : NodeId
  inside : id < t.table.nodes.size
  deriving DecidableEq

namespace SyntaxTree

def cursor? (t : SyntaxTree) (id : NodeId) : Option (Cursor t) :=
  if h : id < t.table.nodes.size then some ⟨id, h⟩ else none

/-- All nodes in document order. -/
def cursors (t : SyntaxTree) : List (Cursor t) :=
  t.table.preorder.filterMap t.cursor?

end SyntaxTree

namespace Cursor

variable {t : SyntaxTree}

def node (c : Cursor t) : Node :=
  have := c.inside
  t.table.nodes[c.id]

def kind (c : Cursor t) : Kind :=
  c.node.kind

def is (c : Cursor t) (kind : Kind) : Bool :=
  c.kind == kind

def text (c : Cursor t) : String :=
  c.node.text

def name? (c : Cursor t) : Option String :=
  c.node.name

/-- The name of a node, or its text if it has none. -/
def nameOrText (c : Cursor t) : String :=
  c.name?.getD c.text

def location? (c : Cursor t) : Option Location :=
  t.location? c.id

def parent? (c : Cursor t) : Option (Cursor t) :=
  (t.parents[c.id]?.join).bind t.cursor?

def children (c : Cursor t) : List (Cursor t) :=
  c.node.children.filterMap t.cursor?

def child? (c : Cursor t) (i : Nat) : Option (Cursor t) :=
  c.children[i]?

/-- The nodes above `c`, nearest first. There are fewer of them than nodes in the tree, so `n` is
enough if it is the size of the tree. -/
def climb : (n : Nat) → Cursor t → List (Cursor t)
  | 0, _ => []
  | n + 1, c =>
    match c.parent? with
    | some p => p :: climb n p
    | none => []

def ancestors (c : Cursor t) : List (Cursor t) :=
  climb t.size c

/-- The first child of a call. -/
def callee? (c : Cursor t) : Option (Cursor t) :=
  if c.is .functionCall then c.child? 0 else none

/-- The other children of a call. -/
def arguments (c : Cursor t) : List (Cursor t) :=
  if c.is .functionCall then c.children.drop 1 else []

def firstArgument? (c : Cursor t) : Option (Cursor t) :=
  c.arguments.head?

/-- The children of the first block of a method. -/
def statements (c : Cursor t) : List (Cursor t) :=
  if c.is .methodDecl then
    match c.children.find? (·.is .block) with
    | some body => body.children
    | none => []
  else []

end Cursor

end SecurityLint
