import SecurityLint.Data.Json
import SecurityLint.Data.Schema
import SecurityLint.Error

/-!
Trees as JSON. A field that has nothing to say is left out when a tree is written, except inside
a span, which always has its four fields.
-/
namespace SecurityLint

open Data (Value Row Dialect)

namespace Span

def fieldNames : List String := ["line", "column", "end_line", "end_column"]

def fields (s : Span) : List (String × Value) := [
  ("line", .ofWord s.line),
  ("column", .ofWord s.column),
  ("end_line", .ofOption .ofWord s.endLine),
  ("end_column", .ofOption .ofWord s.endColumn)]

def toValue (s : Span) : Value :=
  .object s.fields

/-- Reads the fields of a span out of a record that has them. -/
def ofRow? (row : Row) : Option Span := do
  return {
    line := ← (row.slot "line").required Value.word?
    column := ← (row.slot "column").required Value.word?
    endLine := ← (row.slot "end_line").optional Value.word?
    endColumn := ← (row.slot "end_column").optional Value.word? }

def ofValue? (v : Value) : Option Span := do
  ofRow? (← Row.ofValue? .json fieldNames v)

end Span

namespace Path

/-- A path is written as its text. -/
def toValue (p : Path) : Value :=
  Data.Json.textValue p.text?

def ofValue? (v : Value) : Option Path :=
  v.text?.map ofText

end Path

namespace Location

def toValue (l : Location) : Value :=
  .object (("file", l.file.toValue) :: l.span.fields)

def ofValue? (v : Value) : Option Location := do
  let row ← Row.ofValue? .json ("file" :: Span.fieldNames) v
  return {
    file := ← (row.slot "file").required Path.ofValue?
    span := ← Span.ofRow? row }

end Location

namespace Node

def fieldNames : List String := ["kind", "text", "name", "literal", "children", "span"]

def toValue (n : Node) : Value :=
  .object (
    [("kind", Value.text n.kind.name), ("text", .text n.text)]
    ++ (n.name.map fun name => ("name", Value.text name)).toList
    ++ (n.literal.map fun l => ("literal", Value.text l.name)).toList
    ++ (if n.children.isEmpty then [] else [("children", .list (n.children.map .nat))])
    ++ (n.span.map fun s => ("span", s.toValue)).toList)

def ofValue? (v : Value) : Option Node := do
  let row ← Row.ofValue? .json fieldNames v
  return {
    kind := ← (row.slot "kind").required (Value.oneOf? .json Kind.all Kind.name)
    text := ← (row.slot "text").required Value.text?
    name := ← (row.slot "name").withDefault none (Value.nullable Value.text?)
    literal := ← (row.slot "literal").withDefault none
      (Value.nullable (Value.oneOf? .json LiteralClass.all LiteralClass.name))
    children := ← (row.slot "children").withDefault [] (Value.listOf? Value.index?)
    span := ← (row.slot "span").withDefault none (Value.nullable Span.ofValue?) }

end Node

namespace Table

def fieldNames : List String := ["path", "language", "root", "nodes"]

def toValue (t : Table) : Value :=
  .object (
    (t.path.map fun path => ("path", path.toValue)).toList
    ++ [("language", .text t.language.name), ("root", .nat t.root),
      ("nodes", .list (t.nodes.toList.map Node.toValue))])

def ofValue? (v : Value) : Option Table := do
  let row ← Row.ofValue? .json fieldNames v
  return {
    path := ← (row.slot "path").withDefault none (Value.nullable Path.ofValue?)
    language := ← (row.slot "language").withDefault .unknown
      (Value.oneOf? .json Language.all Language.name)
    root := ← (row.slot "root").required Value.index?
    nodes := (← (row.slot "nodes").required (Value.listOf? Node.ofValue?)).toArray }

end Table

namespace SyntaxTree

/-- The tree as a text; a tree whose path is no text cannot be written. -/
def toJson (t : SyntaxTree) : Except Error String :=
  match Data.Json.write? t.table.toValue with
  | some json => .ok json
  | none => .error .badJson

def ofJson (json : String) : Except Error SyntaxTree :=
  match (Data.Json.parse? json).bind Table.ofValue? with
  | some table => (ofTable table).mapError .flawedTree
  | none => .error .badJson

/-- A tree from the content of a file, if there is one. -/
def load (content : Option ByteArray) : Except Error SyntaxTree :=
  match content.bind String.fromUTF8? with
  | some json => ofJson json
  | none => .error .unreadable

end SyntaxTree

end SecurityLint
