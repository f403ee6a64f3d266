import SecurityLint.Data.Value

/-!
TOML tables and what may be written where. A table comes about through its header, through headers
of tables inside it, or through dotted keys; each way of writing it rules out some of the others.
-/
namespace SecurityLint.Data.Toml

inductive Item where
  | leaf (v : Value)
  /-- An implicit table has no header yet; a dotted one was made by a dotted key. -/
  | table (isImplicit isDotted : Bool) (entries : List (String × Item))
  /-- The tables of an array of tables. -/
  | tables (tables : List (List (String × Item)))

abbrev Entries := List (String × Item)

/-- A key with dots, its last part apart, and its value. -/
structure KeyValue where
  path : List String
  key : String
  value : Value

namespace Entries

def get? (es : Entries) (key : String) : Option Item :=
  (es.find? (·.1 == key)).map (·.2)

/-- Sets the item of a key. -/
def put (es : Entries) (key : String) (item : Item) : Entries :=
  match es with
  | [] => [(key, item)]
  | (k, i) :: rest => if k == key then (k, item) :: rest else (k, i) :: put rest key item

/-- Changes the table at a path, going into the last table of an array of tables. Tables on the way
are made if they are missing. A dotted key may not go into a table that has a header. The change
is told whether the table was made by a dotted key. -/
def changeAt (viaDots : Bool) (change : Bool → Entries → Option Entries) :
    (path : List String) → (isDotted : Bool) → Entries → Option Entries
  | [], isDotted, es => change isDotted es
  | key :: path, _, es =>
    match es.get? key with
    | none => do
      let inner ← changeAt viaDots change path viaDots []
      return es.put key (.table true viaDots inner)
    | some (.leaf _) => none
    | some (.table isImplicit isDotted inner) => do
      if viaDots && !isImplicit then none
      let inner ← changeAt viaDots change path isDotted inner
      return es.put key (.table isImplicit isDotted inner)
    | some (.tables ts) => do
      let last ← changeAt viaDots change path false (← ts.getLast?)
      return es.put key (.tables (ts.dropLast ++ [last]))

/-- Adds a key that must be new. It is dotted exactly if the table it ends in is. -/
def add (es : Entries) (kv : KeyValue) : Option Entries :=
  changeAt true
    (fun isDotted es =>
      if isDotted == kv.path.isEmpty || (es.get? kv.key).isSome then none
      else some (es.put kv.key (.leaf kv.value)))
    kv.path false es

def addAll (es : Entries) (kvs : List KeyValue) : Option Entries :=
  kvs.foldlM add es

end Entries

/-- A part of a document: the keys behind a header. -/
inductive Part where
  | table (path : List String) (key : String) (content : List KeyValue)
  | element (path : List String) (key : String) (content : List KeyValue)

namespace Part

/-- Adds a part to the document. A table may have one header, and none if dotted keys made it. -/
def addTo (document : Entries) : Part → Option Entries
  | table path key content =>
    Entries.changeAt false
      (fun _ es =>
        match es.get? key with
        | none => do return es.put key (.table false false (← Entries.addAll [] content))
        | some (.table true false inner) => do
          return es.put key (.table false false (← Entries.addAll inner content))
        | some _ => none)
      path false document
  | element path key content =>
    Entries.changeAt false
      (fun _ es =>
        match es.get? key with
        | none => do return es.put key (.tables [← Entries.addAll [] content])
        | some (.tables ts) => do
          return es.put key (.tables (ts ++ [← Entries.addAll [] content]))
        | some _ => none)
      path false document

end Part

mutual

def Item.toValue : Item → Value
  | .leaf v => v
  | .table _ _ entries => .record (entryFields entries)
  | .tables ts => .list (tableValues ts)

def entryFields : Entries → Fields
  | [] => []
  | (key, item) :: rest => (some key, item.toValue) :: entryFields rest

def tableValues : List Entries → List Value
  | [] => []
  | entries :: rest => .record (entryFields entries) :: tableValues rest

end

end SecurityLint.Data.Toml
