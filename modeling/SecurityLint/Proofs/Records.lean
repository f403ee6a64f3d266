import Mathlib.Data.List.Nodup
import SecurityLint.Data.Schema

/-!
Typed data written as values and read again. A datum reads back if decoding what was written for
it gives it again; texts, words, members of a fixed choice and lists of such data do. Of a record
whose names are all different, each field finds its own value, and a field that was left out is
found missing. A value can be written if every string in it is whole.
-/
namespace SecurityLint.Data

variable {α β : Type}

theorem some_bind (a : α) (f : α → Option β) : (some a >>= f) = f a :=
  rfl

/-- As a congruence for simp it keeps out of what is done with a field until the field is known. -/
theorem bind_congr_left {o o' : Option α} {f : α → Option β} (h : o = o') :
    (o >>= f) = (o' >>= f) := by
  rw [h]

/-- What is written for `a` is read as `a`, and is not taken for nothing. -/
structure ReadsBack (encode : α → Value) (decode : Value → Option α) (a : α) : Prop where
  not_null : encode a ≠ .null
  decoded : decode (encode a) = some a

theorem readsBack_text (s : String) : ReadsBack .text Value.text? s :=
  ⟨nofun, rfl⟩

theorem readsBack_index (n : Nat) (hn : n < UInt64.size) : ReadsBack .nat Value.index? n := by
  refine ⟨nofun, ?_⟩
  simp [Value.index?, Value.nat?, hn]

theorem readsBack_word (w : UInt64) : ReadsBack Value.ofWord Value.word? w := by
  refine ⟨nofun, ?_⟩
  have hindex := (readsBack_index w.toNat w.toNat_lt_size).decoded
  rw [Value.word?, Value.ofWord, hindex]
  simp

theorem readsBack_oneOf (d : Dialect) (all : List α) (name : α → String) (a : α)
    (h : all.find? (name · == name a) = some a) :
    ReadsBack (fun a => .text (name a)) (Value.oneOf? d all name) a :=
  ⟨nofun, h⟩

theorem mapM_map_eq_some (encode : α → β) (decode : β → Option α) (l : List α)
    (h : ∀ a ∈ l, decode (encode a) = some a) : (l.map encode).mapM decode = some l := by
  induction l with
  | nil => rfl
  | cons a l ih =>
    have hrest := ih fun b hb => h b (List.mem_cons_of_mem _ hb)
    rw [List.map_cons, List.mapM_cons, h a List.mem_cons_self, hrest]
    rfl

/-- The same for an encoding that may fail. -/
theorem exists_mapM_eq_some (encode : α → Option β) (decode : β → Option α) (l : List α)
    (h : ∀ a ∈ l, ∃ b, encode a = some b ∧ decode b = some a) :
    ∃ bs, l.mapM encode = some bs ∧ bs.mapM decode = some l := by
  induction l with
  | nil => exact ⟨[], rfl, rfl⟩
  | cons a l ih =>
    obtain ⟨b, hencode, hdecode⟩ := h a List.mem_cons_self
    obtain ⟨bs, hbs, hl⟩ := ih fun c hc => h c (List.mem_cons_of_mem _ hc)
    refine ⟨b :: bs, ?_, ?_⟩
    · rw [List.mapM_cons, hencode, hbs]
      rfl
    · rw [List.mapM_cons, hdecode, hl]
      rfl

theorem readsBack_list (encode : α → Value) (decode : Value → Option α) (l : List α)
    (h : ∀ a ∈ l, ReadsBack encode decode a) :
    ReadsBack (fun l => .list (l.map encode)) (Value.listOf? decode) l :=
  ⟨nofun, mapM_map_eq_some encode decode l fun a ha => (h a ha).decoded⟩

theorem ReadsBack.nullable {encode : α → Value} {decode : Value → Option α} {a : α}
    (h : ReadsBack encode decode a) : (encode a).nullable decode = some (some a) := by
  rw [Value.nullable, h.decoded]
  · rfl
  · exact h.not_null

theorem ReadsBack.required {encode : α → Value} {decode : Value → Option α} {a : α}
    (h : ReadsBack encode decode a) : (Slot.given (encode a)).required decode = some a :=
  h.decoded

theorem ReadsBack.withDefault {encode : α → Value} {decode : Value → Option α} {a : α}
    (h : ReadsBack encode decode a) (default : α) :
    (Slot.given (encode a)).withDefault default decode = some a :=
  h.decoded

theorem nullable_ofOption (encode : α → Value) (decode : Value → Option α) (o : Option α)
    (h : ∀ a ∈ o, ReadsBack encode decode a) :
    (Value.ofOption encode o).nullable decode = some o := by
  cases o with
  | none => rfl
  | some a => exact (h a rfl).nullable

/-- The record with these fields, all of whose names are whole. -/
def Row.object (fields : List (String × Value)) : Row :=
  .named (fields.map fun f => (some f.1, f.2))

/-- A record may be read if no name comes twice in it. -/
theorem Row.ofValue?_object (d : Dialect) (names : List String) (fields : List (String × Value))
    (h : (fields.map Prod.fst).Nodup) :
    Row.ofValue? d names (.object fields) = some (Row.object fields) := by
  have hcount (n : String) :
      (fields.map fun f => (some f.1, f.2)).countP (·.1 == some n) ≤ 1 := by
    have honce := List.nodup_iff_count_le_one.mp h n
    rw [List.count, List.countP_map] at honce
    rw [List.countP_map]
    exact honce
  rw [Value.object, Row.ofValue?, if_pos]
  · rfl
  · simp only [Bool.and_eq_true, List.all_eq_true, decide_eq_true_eq]
    refine ⟨?_, fun n _ => hcount n⟩
    intro f hf
    obtain ⟨_, _, rfl⟩ := List.mem_map.mp hf
    rfl

/-- What a record with names says about a field that was looked up in it. -/
def Slot.ofLookup : Option Value → Slot
  | some v => .given v
  | none => .unnamed

theorem Row.slot_object (fields : List (String × Value)) (name : String) :
    (Row.object fields).slot name = .ofLookup (fields.lookup name) := by
  induction fields with
  | nil => rfl
  | cons f fields ih =>
    obtain ⟨key, v⟩ := f
    by_cases hkey : name = key
    · subst hkey
      simp [Row.object, Row.slot, Slot.ofLookup]
    · have hne : (name == key) = false := by simpa using hkey
      have hne' : (some key == some name) = false := by simpa using Ne.symm hkey
      rw [List.lookup_cons, hne]
      simpa [Row.object, Row.slot, hne'] using ih

theorem lookup_optional (key name : String) (encode : α → Value) (o : Option α) :
    (o.map fun a => (key, encode a)).toList.lookup name =
      if name = key then o.map encode else none := by
  cases o with
  | none => simp
  | some a =>
    by_cases hname : name = key
    · simp [hname]
    · have hne : (name == key) = false := by simpa using hname
      simp [hname, List.lookup_cons, hne]

theorem names_optional_sublist (key : String) (encode : α → Value) (o : Option α) :
    ((o.map fun a => (key, encode a)).toList.map Prod.fst).Sublist [key] := by
  cases o with
  | none => simp
  | some a => simp

theorem Slot.withDefault_optional (encode : α → Value) (decode : Value → Option α) (o : Option α)
    (h : ∀ a ∈ o, ReadsBack encode decode a) :
    (Slot.ofLookup (o.map encode)).withDefault none (Value.nullable decode) = some o := by
  cases o with
  | none => rfl
  | some a => exact (h a rfl).nullable

/-- A field that is always written, as null if there is nothing to say. -/
theorem Slot.optional_ofOption (encode : α → Value) (decode : Value → Option α) (o : Option α)
    (h : ∀ a ∈ o, ReadsBack encode decode a) :
    (Slot.given (.ofOption encode o)).optional decode = some o :=
  nullable_ofOption encode decode o h

namespace Value

theorem isWholeItems_eq_all (items : List Value) : isWholeItems items = items.all isWhole := by
  induction items with
  | nil => rfl
  | cons v items ih => rw [isWholeItems, ih, List.all_cons]

theorem isWhole_object (fields : List (String × Value)) :
    (object fields).isWhole = fields.all (·.2.isWhole) := by
  rw [object, isWhole]
  induction fields with
  | nil => rfl
  | cons f fields ih =>
    rw [List.map_cons, isWholeFields, ih, Option.isSome_some, Bool.true_and, List.all_cons]

theorem isWhole_ofOption (encode : α → Value) (o : Option α) :
    (ofOption encode o).isWhole ↔ ∀ a ∈ o, (encode a).isWhole := by
  cases o with
  | none => simp [ofOption, isWhole]
  | some a => simp [ofOption]

end Value

end SecurityLint.Data
