import SecurityLint.Data.Value

/-!
Reading typed data out of values. A record is written with its field names, or as a list of its
fields in their fixed order. A name out of a fixed choice is written as a string, or as a record
with that one field and nothing in it. The formats differ in what counts as nothing, and in whether
a list may hold more items than the record has fields.
-/
namespace SecurityLint.Data

structure Dialect where
  isNothing : Value → Bool
  allowsSurplus : Bool

/-- What a record says about one of its fields. -/
inductive Slot where
  | given (v : Value)
  /-- The record names its fields and this one is not among them. -/
  | unnamed
  /-- The record is a list that ends before this field. -/
  | cutOff

/-- A record as written, with the names of its fields in their fixed order. -/
inductive Row where
  | named (fields : Fields)
  | listed (names : List String) (items : List Value)

namespace Row

/-- No field of the record may be given twice; fields of other names do not matter. -/
def ofValue? (d : Dialect) (names : List String) : Value → Option Row
  | .record fields =>
    if fields.all (·.1.isSome) && names.all fun n => fields.countP (·.1 == some n) ≤ 1 then
      some (named fields)
    else none
  | .list items =>
    if d.allowsSurplus || items.length ≤ names.length then some (listed names items) else none
  | _ => none

def slot (row : Row) (name : String) : Slot :=
  match row with
  | named fields =>
    match fields.find? (·.1 == some name) with
    | some (_, v) => .given v
    | none => .unnamed
  | listed names items =>
    match items[names.idxOf name]? with
    | some v => .given v
    | none => .cutOff

end Row

namespace Slot

variable {α : Type}

def required (decode : Value → Option α) : Slot → Option α
  | given v => decode v
  | _ => none

def withDefault (default : α) (decode : Value → Option α) : Slot → Option α
  | given v => decode v
  | _ => some default

end Slot

namespace Value

variable {α : Type}

/-- Null stands for a value that is not there. -/
def nullable (decode : Value → Option α) : Value → Option (Option α)
  | null => some none
  | v => (decode v).map some

def listOf? (decode : Value → Option α) (v : Value) : Option (List α) := do
  (← v.list?).mapM decode

/-- A natural of 64 bits. -/
def index? (v : Value) : Option Nat := do
  let n ← v.nat?
  if n < UInt64.size then some n else none

def word? (v : Value) : Option UInt64 :=
  v.index?.map UInt64.ofNat

def ofWord (w : UInt64) : Value :=
  nat w.toNat

/-- One of the members of `all`, by its name. -/
def oneOf? (d : Dialect) (all : List α) (name : α → String) : Value → Option α
  | text s => all.find? (name · == s)
  | record [(some s, payload)] =>
    if d.isNothing payload then all.find? (name · == s) else none
  | _ => none

end Value

/-- A field that may be left out where fields have names, but keeps its place in a list. -/
def Slot.optional {α : Type} (decode : Value → Option α) : Slot → Option (Option α)
  | given v => v.nullable decode
  | unnamed => some none
  | cutOff => none

namespace Dialect

def json : Dialect where
  isNothing
    | .null => true
    | _ => false
  allowsSurplus := false

def toml : Dialect where
  isNothing
    | .list [] | .record [] => true
    | _ => false
  allowsSurplus := true

end Dialect

end SecurityLint.Data
