/-!
Values of the data formats in which trees, findings and settings are written. A value keeps what
a reader of settings can ask for: the size of a number matters only for plain naturals, and
a string that no text can hold, such as half of a surrogate pair, is kept as `broken`.
-/
namespace SecurityLint.Data

inductive Value where
  | null
  | bool (b : Bool)
  | nat (n : Nat)
  | number
  | text (s : String)
  | broken
  | list (items : List Value)
  | record (fields : List (Option String × Value))

/-- The fields of a record, in the order written. A broken name is `none`. -/
abbrev Fields := List (Option String × Value)

namespace Value

instance : Inhabited Value := ⟨null⟩

/-- The value of the last field with this name. -/
def get? (v : Value) (name : String) : Option Value :=
  match v with
  | record fields => (fields.reverse.find? (·.1 == some name)).map (·.2)
  | _ => none

def text? : Value → Option String
  | text s => some s
  | _ => none

def nat? : Value → Option Nat
  | nat n => some n
  | _ => none

def bool? : Value → Option Bool
  | bool b => some b
  | _ => none

def list? : Value → Option (List Value)
  | list items => some items
  | _ => none

def ofOption {α : Type} (f : α → Value) : Option α → Value
  | none => null
  | some a => f a

/-- A record whose field names are all whole. -/
def object (fields : List (String × Value)) : Value :=
  record (fields.map fun f => (some f.1, f.2))

/-- Adds a field in front unless a later one has the same name. -/
def consField (name : Option String) (v : Value) (rest : Fields) : Fields :=
  if rest.any (·.1 == name) then rest else (name, v) :: rest

mutual

/-- Whether every string of a value, names included, has a text. -/
def isWhole : Value → Bool
  | broken => false
  | list items => isWholeItems items
  | record fields => isWholeFields fields
  | _ => true

def isWholeItems : List Value → Bool
  | [] => true
  | v :: rest => v.isWhole && isWholeItems rest

def isWholeFields : Fields → Bool
  | [] => true
  | (name, v) :: rest => name.isSome && v.isWhole && isWholeFields rest

end

mutual

/-- Of several fields with one name the last is kept, in every record inside the value. -/
def lastWins : Value → Value
  | list items => list (lastWinsItems items)
  | record fields => record (lastWinsFields fields)
  | v => v

def lastWinsItems : List Value → List Value
  | [] => []
  | v :: rest => v.lastWins :: lastWinsItems rest

def lastWinsFields : Fields → Fields
  | [] => []
  | (name, v) :: rest => consField name v.lastWins (lastWinsFields rest)

end

end Value

end SecurityLint.Data
