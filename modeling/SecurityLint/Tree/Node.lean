import SecurityLint.Tree.Kind
import SecurityLint.Tree.Path

/-!
Nodes and node tables. The nodes of a tree stand in one table and refer to their children by
position. A table is plain data: its references may dangle, repeat or run in circles.
-/
namespace SecurityLint

/-- The position of a node in its table. -/
abbrev NodeId := Nat

def NodeId.label (id : NodeId) : String :=
  "#" ++ toString id

/-- Where a node stands in the source: lines count from one, columns from zero. -/
structure Span where
  line : UInt64
  column : UInt64
  endLine : Option UInt64 := none
  endColumn : Option UInt64 := none
  deriving DecidableEq, Repr

/-- A span together with the file that it belongs to. -/
structure Location where
  file : Path
  span : Span
  deriving DecidableEq, Repr

structure Node where
  kind : Kind
  /-- The source text that the node renders to. -/
  text : String
  /-- The name of an identifier or declaration. -/
  name : Option String := none
  literal : Option LiteralClass := none
  children : List NodeId := []
  span : Option Span := none
  deriving DecidableEq, Repr

/-- A file as parsed, before it is known to be a tree. -/
structure Table where
  path : Option Path := none
  language : Language := .unknown
  root : NodeId
  nodes : Array Node
  deriving DecidableEq, Repr

namespace Table

def size (t : Table) : Nat :=
  t.nodes.size

def children (t : Table) (id : NodeId) : List NodeId :=
  t.nodes[id]?.elim [] (·.children)

end Table

end SecurityLint
