import SecurityLint.Tree.Link

/-!
Building a table from the leaves upwards. Each step pushes nodes behind those already there;
composite steps render the text of a node from the texts of its children, with the operators of
the language. A step that reads a node which does not exist fails.
-/
namespace SecurityLint

structure Builder where
  language : Language := .unknown
  path : Option Path := none
  nodes : Array Node := #[]

/-- An action on a builder that can fail at a missing node. -/
abbrev Build := StateT Builder Option

namespace Build

/-- Pushes a node and returns its position. -/
def push (node : Node) : Build NodeId := do
  let id := (← get).nodes.size
  modify fun b => { b with nodes := b.nodes.push node }
  return id

def read (id : NodeId) : Build Node := do
  match (← get).nodes[id]? with
  | some node => return node
  | none => failure

def text (id : NodeId) : Build String := do
  return (← read id).text

/-- The texts of nodes with a separator between them. -/
def joined (ids : List NodeId) (separator : String) : Build String := do
  return separator.intercalate (← ids.mapM text)

/-- Records where a node stands. -/
def locate (id : NodeId) (line column : UInt64) : Build NodeId := do
  let node ← read id
  let placed := { node with span := some { line, column } }
  modify fun b => { b with nodes := b.nodes.setIfInBounds id placed }
  return id

def ident (name : String) : Build NodeId :=
  push { kind := .identifier, text := name, name }

def literal (literal : LiteralClass) (text : String) : Build NodeId :=
  push { kind := .literal, text, literal }

/-- A string literal; its text has the quotes of the language around the value. -/
def string (value : String) : Build NodeId := do
  let quote := String.singleton (← get).language.quote
  literal .string (quote ++ value ++ quote)

/-- A member access with the given operator. -/
def access (receiver : NodeId) (operator member : String) : Build NodeId := do
  let text := (← text receiver) ++ operator ++ member
  let memberId ← ident member
  push { kind := .memberAccess, text, children := [receiver, memberId] }

def member (receiver : NodeId) (member : String) : Build NodeId := do
  access receiver (← get).language.memberSeparator member

def staticMember (receiver : NodeId) (member : String) : Build NodeId :=
  access receiver "::" member

def call (callee : NodeId) (args : List NodeId) : Build NodeId := do
  let text := (← text callee) ++ "(" ++ (← joined args ", ") ++ ")"
  push { kind := .functionCall, text, children := callee :: args }

def block (statements : List NodeId) : Build NodeId := do
  let text := "\x7b " ++ (← joined statements " ") ++ " \x7d"
  push { kind := .block, text, children := statements }

end Build

/-- A step of building a table. -/
inductive Step where
  | push (kind : Kind) (text : String) (children : List NodeId)
  | named (kind : Kind) (name text : String) (children : List NodeId)
  | locate (id : NodeId) (line column : UInt64)
  | ident (name : String)
  | string (value : String)
  | number (text : String)
  | boolean (value : Bool)
  | null
  | member (receiver : NodeId) (name : String)
  | staticMember (receiver : NodeId) (name : String)
  | call (callee : NodeId) (args : List NodeId)
  | methodCall (receiver : NodeId) (name : String) (args : List NodeId)
  | staticCall (className name : String) (args : List NodeId)
  | functionCall (name : String) (args : List NodeId)
  | pair (key value : NodeId)
  | array (elements : List NodeId)
  | arrayAccess (base index : NodeId)
  | assign (target value : NodeId)
  | concat (parts : List NodeId)
  | markup (html : String)
  | echo (text : String)
  | statement (expr : NodeId)
  | block (statements : List NodeId)
  | field (name : String)
  | method (name : String) (statements : List NodeId)
  | classDecl (name : String) (members : List NodeId)
  | file (items : List NodeId)

namespace Step

/-- Takes a step and returns the position of the node that it is about. -/
def build : Step → Build NodeId
  | push kind text children => Build.push { kind, text, children }
  | named kind name text children => Build.push { kind, text, name, children }
  | locate id line column => Build.locate id line column
  | ident name => Build.ident name
  | string value => Build.string value
  | number text => Build.literal .number text
  | boolean value => Build.literal .boolean (if value then "true" else "false")
  | null => Build.literal .null "null"
  | member receiver name => Build.member receiver name
  | staticMember receiver name => Build.staticMember receiver name
  | call callee args => Build.call callee args
  | methodCall receiver name args => do
    Build.call (← Build.member receiver name) args
  | staticCall className name args => do
    let receiver ← Build.ident className
    Build.call (← Build.staticMember receiver name) args
  | functionCall name args => do
    Build.call (← Build.ident name) args
  | pair key value => do
    let separator := (← get).language.pairSeparator
    let text := (← Build.text key) ++ separator ++ (← Build.text value)
    Build.push { kind := .keyValuePair, text, children := [key, value] }
  | array elements => do
    let text := "[" ++ (← Build.joined elements ", ") ++ "]"
    Build.push { kind := .arrayLiteral, text, children := elements }
  | arrayAccess base index => do
    let text := (← Build.text base) ++ "[" ++ (← Build.text index) ++ "]"
    Build.push { kind := .arrayAccess, text, children := [base, index] }
  | assign target value => do
    let text := (← Build.text target) ++ " = " ++ (← Build.text value)
    Build.push { kind := .assignment, text, children := [target, value] }
  | concat parts => do
    let text ← Build.joined parts (← get).language.concatOperator
    Build.push { kind := .concatenation, text, children := parts }
  | markup html => Build.push { kind := .inlineMarkup, text := html }
  | echo text => Build.push { kind := .echoTag, text }
  | statement expr => do
    let text := (← Build.text expr) ++ ";"
    Build.push { kind := .statement, text, children := [expr] }
  | block statements => Build.block statements
  | field name => do
    let sigil := if (← get).language.isPhp then "$" else ""
    Build.push { kind := .fieldDecl, text := "private " ++ sigil ++ name ++ ";", name }
  | method name statements => do
    let body ← Build.block statements
    let text := name ++ "() " ++ (← Build.text body)
    Build.push { kind := .methodDecl, text, name, children := [body] }
  | classDecl name members => do
    let text := "class " ++ name ++ " \x7b " ++ (← Build.joined members " ") ++ " \x7d"
    Build.push { kind := .classDecl, text, name, children := members }
  | file items => do
    let text ← Build.joined items "\n"
    Build.push { kind := .file, text, children := items }

end Step

namespace Builder

/-- Takes steps in order; there is no result if one of them reads a missing node. -/
def run? (b : Builder) (steps : List Step) : Option Builder :=
  steps.foldlM (fun b step => (step.build.run b).map (·.2)) b

def table (b : Builder) (root : NodeId) : Table where
  path := b.path
  language := b.language
  root := root
  nodes := b.nodes

/-- Links the nodes pushed so far into a tree. -/
def finish (b : Builder) (root : NodeId) : Except Flaw SyntaxTree :=
  SyntaxTree.ofTable (b.table root)

end Builder

end SecurityLint
