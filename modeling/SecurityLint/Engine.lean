import SecurityLint.Finding
import SecurityLint.Inquiry

/-!
The engine walks a tree once, in document order, and shows each node to the rules that have
subscribed to its kind. A rule that fails on a node leaves a diagnostic and the scan goes on.
-/
namespace SecurityLint

structure Rule where
  info : RuleInfo
  /-- The kinds of nodes that the rule wants to see. -/
  kinds : List Kind
  visit : (t : SyntaxTree) → Cursor t → Inquiry t (List Finding)

/-- A failure of a rule on a node. -/
structure Diagnostic where
  ruleId : String
  node : NodeId
  message : String
  deriving DecidableEq, Repr

/-- For each kind, the numbers of the rules that have subscribed to it. -/
abbrev Dispatch := List (Kind × List Nat)

namespace Dispatch

/-- Subscribes a rule to a kind, once. -/
def subscribe (d : Dispatch) (kind : Kind) (rule : Nat) : Dispatch :=
  match d with
  | [] => [(kind, [rule])]
  | (k, rules) :: rest =>
    if k = kind then (k, if rules.contains rule then rules else rules ++ [rule]) :: rest
    else (k, rules) :: subscribe rest kind rule

def ofRules (rules : List Rule) : Dispatch :=
  rules.zipIdx.foldl (fun d (rule, i) => rule.kinds.foldl (fun d k => d.subscribe k i) d) []

/-- The numbers of the rules for a kind, in the order in which they subscribed. -/
def get (d : Dispatch) (kind : Kind) : List Nat :=
  (d.find? (·.1 == kind)).elim [] (·.2)

end Dispatch

structure Engine where
  rules : List Rule
  dispatch : Dispatch

/-- The findings and diagnostics of one tree, in document order. -/
structure Outcome where
  findings : List Finding
  diagnostics : List Diagnostic
  deriving DecidableEq, Repr

namespace Engine

def ofRules (rules : List Rule) : Engine where
  rules := rules
  dispatch := Dispatch.ofRules rules

/-- The rules that see nodes of a kind. -/
def subscribers (e : Engine) (kind : Kind) : List Rule :=
  (e.dispatch.get kind).filterMap (e.rules[·]?)

/-- The state of a scan that reports into a value of type `σ`. -/
structure Progress (σ : Type) (t : SyntaxTree) where
  memo : Memo t
  sink : σ
  diagnostics : Array Diagnostic := #[]

variable {σ : Type} {t : SyntaxTree}

/-- Shows a node to a rule. -/
def present (report : σ → Finding → σ) (c : Cursor t) (p : Progress σ t) (rule : Rule) :
    Progress σ t :=
  match (rule.visit t c).run p.memo with
  | (.ok found, memo) => { p with memo, sink := found.foldl report p.sink }
  | (.error failure, memo) =>
    { p with
      memo
      diagnostics := p.diagnostics.push {
        ruleId := rule.info.id
        node := c.id
        message := failure.text } }

/-- Scans a tree, reporting each finding into the sink. -/
def scanInto (e : Engine) (t : SyntaxTree) (report : σ → Finding → σ) (sink : σ) :
    σ × List Diagnostic :=
  let p : Progress σ t := t.cursors.foldl
    (fun p c => (e.subscribers c.kind).foldl (present report c) p)
    { memo := Memo.empty t, sink }
  (p.sink, p.diagnostics.toList)

def scan (e : Engine) (t : SyntaxTree) : Outcome :=
  let (findings, diagnostics) := e.scanInto t Array.push #[]
  { findings := findings.toList, diagnostics }

def ruleInfos (e : Engine) : List RuleInfo :=
  e.rules.map (·.info)

end Engine

end SecurityLint
