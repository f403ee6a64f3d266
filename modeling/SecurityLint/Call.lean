import SecurityLint.Keywords
import SecurityLint.Tree.Cursor

/-!
Shapes of calls and literals that several rules ask for. Nodes of any other shape have no answer.
-/
namespace SecurityLint

/-- A call of a member of some receiver. -/
structure MemberCall (t : SyntaxTree) where
  call : Cursor t
  receiver : Cursor t
  method : String

namespace Cursor

variable {t : SyntaxTree}

/-- Takes apart a call whose callee is a member access with an identifier as its member. -/
def memberCall? (c : Cursor t) : Option (MemberCall t) := do
  let callee ← c.callee?
  if !callee.is .memberAccess then none
  let receiver ← callee.child? 0
  let member ← callee.child? 1
  if !member.is .identifier then none
  return { call := c, receiver, method := member.nameOrText }

/-- The method of a member call, or the identifier of a plain call. -/
def calleeName? (c : Cursor t) : Option String :=
  match c.memberCall? with
  | some call => some call.method
  | none => do
    let callee ← c.callee?
    if callee.is .identifier then some callee.nameOrText else none

/-- Whether this is a call whose callee mentions one of the words. -/
def callsOneOf (c : Cursor t) (words : Keywords) : Bool :=
  c.callee?.any fun callee => words.occursIn callee.text

end Cursor

/-- Where a value comes from, coarsely. -/
inductive Origin where
  | literal
  | variable
  | other
  deriving DecidableEq, Repr

namespace Cursor

variable {t : SyntaxTree}

def origin (c : Cursor t) : Origin :=
  match c.kind with
  | .literal => .literal
  | .identifier => .variable
  | _ => .other

/-- Single, double and backward quotes. -/
def isQuote (c : Char) : Bool :=
  c == '\'' || c == '"' || c == '\x60'

/-- The value of a string literal without its quotes. A literal of no class counts as a string. -/
def stringValue? (c : Cursor t) : Option String :=
  if c.is .literal then
    match c.node.literal with
    | some .string | none => some (Text.strip isQuote (Text.trim c.text))
    | some _ => none
  else none

end Cursor

end SecurityLint
