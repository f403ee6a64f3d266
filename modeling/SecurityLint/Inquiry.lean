import SecurityLint.Scope

/-!
Inquiries: computations that may ask for the declarations around nodes of a tree, and may fail.
An inquiry is a tree of questions, so it can be run with a memo or by walking up each time.
-/
namespace SecurityLint

/-- Why a rule failed. -/
inductive Failure where
  | message (text : String)
  /-- The failure came without a text. -/
  | silent
  deriving DecidableEq, Repr

def Failure.text : Failure → String
  | message text => text
  | silent => "rule panicked"

inductive Inquiry (t : SyntaxTree) (α : Type) where
  | done (a : α)
  | fail (failure : Failure)
  | ask (scope : Scope) (c : Cursor t) (next : Option (Cursor t) → Inquiry t α)

namespace Inquiry

variable {t : SyntaxTree} {α β : Type}

def bind : Inquiry t α → (α → Inquiry t β) → Inquiry t β
  | done a, f => f a
  | fail failure, _ => fail failure
  | ask scope c next, f => ask scope c fun answer => (next answer).bind f

instance : Monad (Inquiry t) where
  pure := done
  bind := bind

/-- The node at a position; it is a failure if there is none. -/
def node (id : NodeId) : Inquiry t (Cursor t) :=
  match t.cursor? id with
  | some c => done c
  | none => fail (.message s!"node {id.label} not in tree")

/-- Asks for the declaration around a node. -/
def enclosing (scope : Scope) (c : Cursor t) : Inquiry t (Option (Cursor t)) :=
  ask scope c done

/-- Answers every question by walking up from the node. -/
def eval : Inquiry t α → Except Failure α
  | done a => .ok a
  | fail failure => .error failure
  | ask scope c next => (next (scope.enclosing c)).eval

/-- Answers questions from a memo, which learns from each of them. -/
def run : Inquiry t α → Memo t → Except Failure α × Memo t
  | done a, m => (.ok a, m)
  | fail failure, m => (.error failure, m)
  | ask scope c next, m =>
    let (answer, m) := m.ask scope c
    (next answer).run m

end Inquiry

end SecurityLint
