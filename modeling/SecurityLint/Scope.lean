import SecurityLint.Tree.Cursor

/-!
The declaration around a node: the nearest class or method at or above it. The answer is defined
by the list of ancestors; a memo keeps answers, so that each way upwards is walked once.
-/
namespace SecurityLint

inductive Scope where
  | ofClass
  | ofMethod
  deriving DecidableEq, Repr

namespace Scope

def kind : Scope → Kind
  | ofClass => .classDecl
  | ofMethod => .methodDecl

variable {t : SyntaxTree}

/-- The nearest declaration at or above `c`. -/
def enclosing (s : Scope) (c : Cursor t) : Option (Cursor t) :=
  (c :: c.ancestors).find? (·.is s.kind)

end Scope

/-- Answers for one scope, in the order of the table. -/
abbrev Answers (t : SyntaxTree) := Array (Option (Option (Cursor t)))

namespace Answers

variable {t : SyntaxTree}

def none (t : SyntaxTree) : Answers t :=
  Array.replicate t.size Option.none

/-- The answer for a node, if it is known. -/
def known? (a : Answers t) (c : Cursor t) : Option (Option (Cursor t)) :=
  a[c.id]?.join

def learn (a : Answers t) (c : Cursor t) (answer : Option (Cursor t)) : Answers t :=
  a.setIfInBounds c.id (some answer)

/-- Walks up from `c` to a node of the kind or one whose answer is known, and keeps the answer for
the nodes on the way. The way has at most `n` nodes if `n` is the size of the tree. -/
def find (kind : Kind) : (n : Nat) → Cursor t → Answers t → Option (Cursor t) × Answers t
  | 0, _, a => (Option.none, a)
  | n + 1, c, a =>
    match a.known? c with
    | some answer => (answer, a)
    | Option.none =>
      if c.is kind then (some c, a)
      else
        match c.parent? with
        | Option.none => (Option.none, a.learn c Option.none)
        | some p =>
          let (answer, a) := find kind n p a
          (answer, a.learn c answer)

end Answers

/-- What is known about the scopes of a tree. -/
structure Memo (t : SyntaxTree) where
  classes : Answers t
  methods : Answers t

namespace Memo

variable {t : SyntaxTree}

def empty (t : SyntaxTree) : Memo t where
  classes := Answers.none t
  methods := Answers.none t

def answers (m : Memo t) : Scope → Answers t
  | .ofClass => m.classes
  | .ofMethod => m.methods

/-- Asks for the declaration around `c`. -/
def ask (m : Memo t) (s : Scope) (c : Cursor t) : Option (Cursor t) × Memo t :=
  let (answer, a) := (m.answers s).find s.kind t.size c
  match s with
  | .ofClass => (answer, { m with classes := a })
  | .ofMethod => (answer, { m with methods := a })

end Memo

end SecurityLint
