/-!
How bad a finding is and how sure the rule is of it.
-/
namespace SecurityLint

inductive Severity where
  | info
  | low
  | medium
  | high
  | critical
  deriving DecidableEq, Repr

namespace Severity

def all : List Severity := [info, low, medium, high, critical]

def name : Severity → String
  | info => "info"
  | low => "low"
  | medium => "medium"
  | high => "high"
  | critical => "critical"

theorem find?_name (s : Severity) : all.find? (name · == s.name) = some s := by
  cases s <;> rfl

def rank : Severity → Nat
  | info => 0
  | low => 1
  | medium => 2
  | high => 3
  | critical => 4

instance : LE Severity := ⟨fun a b => a.rank ≤ b.rank⟩

instance : LT Severity := ⟨fun a b => a.rank < b.rank⟩

instance (a b : Severity) : Decidable (a ≤ b) := inferInstanceAs (Decidable (a.rank ≤ b.rank))

instance (a b : Severity) : Decidable (a < b) := inferInstanceAs (Decidable (a.rank < b.rank))

instance : Max Severity := ⟨fun a b => if a ≤ b then b else a⟩

end Severity

inductive Confidence where
  | low
  | medium
  | high
  deriving DecidableEq, Repr

namespace Confidence

def all : List Confidence := [low, medium, high]

def name : Confidence → String
  | low => "low"
  | medium => "medium"
  | high => "high"

theorem find?_name (c : Confidence) : all.find? (name · == c.name) = some c := by
  cases c <;> rfl

def rank : Confidence → Nat
  | low => 0
  | medium => 1
  | high => 2

instance : LE Confidence := ⟨fun a b => a.rank ≤ b.rank⟩

instance (a b : Confidence) : Decidable (a ≤ b) := inferInstanceAs (Decidable (a.rank ≤ b.rank))

end Confidence

end SecurityLint
