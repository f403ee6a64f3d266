import SecurityLint.Proofs.Ascent
import SecurityLint.Proofs.JsonText
import SecurityLint.Proofs.Paths
import SecurityLint.Proofs.Records
import SecurityLint.Scanner

/-!
Trees written as JSON read back. Each node reads back, whichever of its fields were left out,
as long as the positions it holds are words; in a tree they are positions of nodes. Linking the
table that was read finds the parents that were not written. Only a tree whose path is no text
cannot be written.
-/
namespace SecurityLint

open Data

/-- A span is read out of any record that has its fields. -/
theorem Span.ofRow?_object (s : Span) {fields : List (String × Value)}
    (h : ∀ name ∈ fieldNames, fields.lookup name = s.fields.lookup name) :
    ofRow? (Row.object fields) = some s := by
  have hslot : ∀ name ∈ fieldNames,
      (Row.object fields).slot name = (Row.object s.fields).slot name := by
    intro name hname
    rw [Row.slot_object, Row.slot_object, h name hname]
  simp only [fieldNames, List.forall_mem_cons] at hslot
  have hline := (readsBack_word s.line).required
  have hcolumn := (readsBack_word s.column).required
  have hendLine := nullable_ofOption _ _ s.endLine fun w _ => readsBack_word w
  have hendColumn := nullable_ofOption _ _ s.endColumn fun w _ => readsBack_word w
  simp [ofRow?, hslot, Row.slot_object, Slot.ofLookup, Span.fields, List.lookup_cons,
    Slot.optional, hline, hcolumn, hendLine, hendColumn]

namespace Path

theorem toValue_ofText (s : String) : (ofText s).toValue = .text s := by
  rw [toValue, text?_ofText]
  rfl

/-- A path reads back if it is a text. -/
theorem readsBack {p : Path} (h : p.IsText) : ReadsBack Path.toValue Path.ofValue? p := by
  obtain ⟨s, rfl⟩ := h
  refine ⟨by rw [toValue_ofText]; nofun, ?_⟩
  rw [toValue_ofText]
  rfl

theorem isWhole_toValue (p : Path) : p.toValue.isWhole ↔ p.IsText := by
  rw [isText_iff, toValue]
  cases p.text? with
  | none => exact Iff.rfl
  | some s => exact Iff.rfl

end Path

theorem Span.readsBack (s : Span) : ReadsBack Span.toValue Span.ofValue? s := by
  refine ⟨nofun, ?_⟩
  have hrow : Row.ofValue? .json Span.fieldNames s.toValue = some (Row.object s.fields) :=
    Row.ofValue?_object _ _ _ (by simp [Span.fields])
  rw [Span.ofValue?, hrow]
  exact s.ofRow?_object fun _ _ => rfl

theorem Kind.find?_name (k : Kind) : Kind.all.find? (Kind.name · == k.name) = some k := by
  cases k <;> rfl

theorem LiteralClass.find?_name (l : LiteralClass) :
    LiteralClass.all.find? (LiteralClass.name · == l.name) = some l := by
  cases l <;> rfl

theorem Language.find?_name (l : Language) :
    Language.all.find? (Language.name · == l.name) = some l := by
  cases l <;> rfl

namespace Node

/-- The children of a node that has some. -/
def children? (n : Node) : Option (List NodeId) :=
  if n.children.isEmpty then none else some n.children

/-- The fields that are written for a node. -/
def fields (n : Node) : List (String × Value) :=
  [("kind", Value.text n.kind.name), ("text", .text n.text)]
  ++ (n.name.map fun name => ("name", Value.text name)).toList
  ++ (n.literal.map fun l => ("literal", Value.text l.name)).toList
  ++ (n.children?.map fun ids => ("children", Value.list (ids.map .nat))).toList
  ++ (n.span.map fun s => ("span", s.toValue)).toList

theorem toValue_eq_object (n : Node) : n.toValue = .object n.fields := by
  unfold toValue fields children?
  cases n.children with
  | nil => rfl
  | cons q rest => rfl

theorem names_sublist (n : Node) : (n.fields.map Prod.fst).Sublist fieldNames := by
  simp only [fields, List.map_append]
  exact ((((List.Sublist.refl ["kind", "text"]).append (names_optional_sublist _ _ _)).append
    (names_optional_sublist _ _ _)).append (names_optional_sublist _ _ _)).append
    (names_optional_sublist _ _ _)

theorem slot_fields (n : Node) :
    (Row.object n.fields).slot "kind" = .given (.text n.kind.name) ∧
    (Row.object n.fields).slot "text" = .given (.text n.text) ∧
    (Row.object n.fields).slot "name" = .ofLookup (n.name.map Value.text) ∧
    (Row.object n.fields).slot "literal" =
      .ofLookup (n.literal.map fun l => Value.text l.name) ∧
    (Row.object n.fields).slot "children" =
      .ofLookup (n.children?.map fun ids => Value.list (ids.map .nat)) ∧
    (Row.object n.fields).slot "span" = .ofLookup (n.span.map Span.toValue) := by
  simp [Row.slot_object, Slot.ofLookup, fields, List.lookup_append, List.lookup_cons,
    lookup_optional]

theorem withDefault_children (n : Node) (h : ∀ q ∈ n.children, q < UInt64.size) :
    (Slot.ofLookup (n.children?.map fun ids => Value.list (ids.map .nat))).withDefault []
      (Value.listOf? Value.index?) = some n.children := by
  have hlist := readsBack_list Value.nat Value.index? n.children
    fun q hq => readsBack_index q (h q hq)
  unfold children?
  cases hchildren : n.children with
  | nil => rfl
  | cons q rest =>
    rw [hchildren] at hlist
    exact hlist.decoded

theorem isWhole_toValue (n : Node) : n.toValue.isWhole := by
  have hspan : ∀ s : Span, s.toValue.isWhole := by
    intro s
    simp [Span.toValue, Span.fields, Value.isWhole_object, Value.isWhole_ofOption, Value.ofWord,
      Value.isWhole]
  rw [toValue_eq_object, Value.isWhole_object]
  simp [fields, Value.isWhole, Value.isWholeItems_eq_all, hspan]

/-- A node reads back if its children are positions that a word can hold. -/
theorem readsBack (n : Node) (h : ∀ q ∈ n.children, q < UInt64.size) :
    ReadsBack Node.toValue Node.ofValue? n := by
  have hrow : Row.ofValue? .json fieldNames n.toValue = some (Row.object n.fields) := by
    rw [toValue_eq_object]
    exact Row.ofValue?_object _ _ _ (n.names_sublist.nodup (by decide))
  obtain ⟨hkind, htext, hname, hliteral, hchildren, hspan⟩ := n.slot_fields
  have hkindRead := (readsBack_oneOf .json Kind.all Kind.name n.kind n.kind.find?_name).required
  have htextRead := (readsBack_text n.text).required
  have hnameRead := Slot.withDefault_optional _ _ n.name fun s _ => readsBack_text s
  have hliteralRead := Slot.withDefault_optional _ _ n.literal fun l _ =>
    readsBack_oneOf .json LiteralClass.all LiteralClass.name l l.find?_name
  have hchildrenRead := n.withDefault_children h
  have hspanRead := Slot.withDefault_optional _ _ n.span fun s _ => s.readsBack
  refine ⟨by rw [toValue_eq_object]; nofun, ?_⟩
  rw [ofValue?, hrow]
  simp only [Option.bind_eq_bind, Option.bind_some, hkind, htext, hname, hliteral, hchildren,
    hspan, hkindRead, htextRead, hnameRead, hliteralRead, hchildrenRead, hspanRead,
    Option.pure_def]

end Node

namespace Table

/-- The fields that are written for a table. -/
def fields (t : Table) : List (String × Value) :=
  (t.path.map fun path => ("path", path.toValue)).toList
  ++ [("language", .text t.language.name), ("root", .nat t.root),
    ("nodes", .list (t.nodes.toList.map Node.toValue))]

theorem names_sublist (t : Table) : (t.fields.map Prod.fst).Sublist fieldNames := by
  simp only [fields, List.map_append]
  exact (names_optional_sublist _ _ _).append (List.Sublist.refl ["language", "root", "nodes"])

theorem slot_fields (t : Table) :
    (Row.object t.fields).slot "path" = .ofLookup (t.path.map Path.toValue) ∧
    (Row.object t.fields).slot "language" = .given (.text t.language.name) ∧
    (Row.object t.fields).slot "root" = .given (.nat t.root) ∧
    (Row.object t.fields).slot "nodes" = .given (.list (t.nodes.toList.map Node.toValue)) := by
  simp [Row.slot_object, Slot.ofLookup, fields, List.lookup_append, List.lookup_cons,
    lookup_optional]

theorem isWhole_toValue (t : Table) : t.toValue.isWhole ↔ ∀ p ∈ t.path, p.IsText := by
  rw [toValue, Value.isWhole_object]
  simp [Value.isWhole, Value.isWholeItems_eq_all, Node.isWhole_toValue, Path.isWhole_toValue]

/-- A table reads back if its path is a text, and the root and all children are positions that a
word can hold. -/
theorem ofValue?_toValue (t : Table) (hpath : ∀ p ∈ t.path, p.IsText)
    (hroot : t.root < UInt64.size) (hlisted : ∀ q ∈ t.listed, q < UInt64.size) :
    Table.ofValue? t.toValue = some t := by
  have hrow : Row.ofValue? .json fieldNames t.toValue = some (Row.object t.fields) :=
    Row.ofValue?_object _ _ t.fields (t.names_sublist.nodup (by decide))
  obtain ⟨hpathSlot, hlanguage, hrootSlot, hnodes⟩ := t.slot_fields
  have hpathRead := Slot.withDefault_optional _ _ t.path fun p hp => Path.readsBack (hpath p hp)
  have hlanguageRead := (readsBack_oneOf .json Language.all Language.name t.language
    t.language.find?_name).withDefault .unknown
  have hrootRead := (readsBack_index t.root hroot).required
  have hnodesRead := (readsBack_list Node.toValue Node.ofValue? t.nodes.toList fun n hn =>
    n.readsBack fun q hq => hlisted q (List.mem_flatMap.mpr ⟨n, hn, hq⟩)).required
  rw [ofValue?, hrow]
  simp only [Option.bind_eq_bind, Option.bind_some, hpathSlot, hlanguage, hrootSlot, hnodes,
    hpathRead, hlanguageRead, hrootRead, hnodesRead, Option.pure_def, Array.toArray_toList]

end Table

namespace SyntaxTree

theorem load_toUTF8 (json : String) : load (some json.toUTF8) = ofJson json := by
  rw [load, Option.bind_some, Text.fromUTF8?_toUTF8]

/-- A tree can be written exactly if its path, where it has one, is a text. -/
theorem toJson_eq_ok_iff (t : SyntaxTree) (json : String) :
    t.toJson = .ok json ↔
      (∀ p ∈ t.path, p.IsText) ∧ Data.Json.render t.table.toValue = json := by
  rw [path, ← Table.isWhole_toValue, toJson, Data.Json.write?]
  by_cases hwhole : t.table.toValue.isWhole = true
  · simp [hwhole]
  · simp [hwhole]

end SyntaxTree

/-- Positions are words, so a tree has no more nodes than there are words. If its path is a text it
can be written as JSON, and reads back with the parents that were not written; hence it is
written in the same way again, and a scan of the file with the text reports what a scan of the
tree does. -/
theorem SyntaxTree.ofJson_toJson (t : SyntaxTree) (hsize : t.size ≤ UInt64.size)
    (hpath : ∀ p ∈ t.path, p.IsText) :
    ∃ json, t.toJson = .ok json ∧ ofJson json = .ok t ∧
      (ofJson json).bind toJson = .ok json ∧
      (∀ s : Scanner, (ofJson json).map s.scan = .ok (s.scan t)) ∧
      ∀ s : Scanner, s.scanFile (some json.toUTF8) = .ok (s.scan t) := by
  have hroot : t.table.root < UInt64.size := Nat.lt_of_lt_of_le t.isTree.root_lt hsize
  have hlisted : ∀ q ∈ t.table.listed, q < UInt64.size := by
    intro q hq
    exact Nat.lt_of_lt_of_le (t.isTree.child_lt q hq) hsize
  obtain ⟨json, hrender⟩ : ∃ json, Json.render t.table.toValue = json := ⟨_, rfl⟩
  have hjson : t.toJson = .ok json := (t.toJson_eq_ok_iff json).mpr ⟨hpath, hrender⟩
  have hread : ofJson json = .ok t := by
    rw [ofJson, ← hrender, Json.parse?_render, Option.bind_some,
      t.table.ofValue?_toValue hpath hroot hlisted]
    simp only [(ofTable_eq_ok_iff t.table t).mpr rfl]
    rfl
  refine ⟨json, hjson, hread, ?_, ?_, ?_⟩
  · rw [hread]
    exact hjson
  · intro s
    rw [hread]
    rfl
  · intro s
    rw [Scanner.scanFile, load_toUTF8, hread]
    rfl

theorem SyntaxTree.callTree_reads_back :
    callTree.size ≤ UInt64.size ∧ (∀ p ∈ callTree.path, p.IsText) ∧
      ∃ json, callTree.toJson = .ok json ∧ ofJson json = .ok callTree ∧
        ∀ s : Scanner, s.scanFile (some json.toUTF8) = .ok (s.scan callTree) := by
  have hsize : callTree.size ≤ UInt64.size := by decide
  have hpath : ∀ p ∈ callTree.path, p.IsText := by
    intro p hp
    exact ⟨"app/User.php", (Option.some.inj hp).symm⟩
  obtain ⟨json, hjson, hread, _, _, hfile⟩ := ofJson_toJson callTree hsize hpath
  exact ⟨hsize, hpath, json, hjson, hread, hfile⟩

end SecurityLint
