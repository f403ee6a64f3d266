import SecurityLint.Proofs.Records

/-!
Values with members deleted. A member is named by its path: the names of the records on the way to
it and its own. A record whose names are all different, written in any order, is read after a
deletion as one in which the deleted fields are missing and the others hold what is left of them.
-/
namespace SecurityLint.Data

variable {α : Type}

/-- A choice of members, by their paths. -/
abbrev Paths := List String → Bool

/-- The members chosen inside the field `name`, by their paths from there. -/
def within (gone : Paths) (name : String) : Paths :=
  fun path => gone (name :: path)

/-- What a field is read as after a deletion. -/
def kept (gone : Paths) (name : String) (value default : α) : α :=
  if gone [name] then default else value

namespace Value

mutual

/-- Deletes the members that are gone from a record and from the records in its fields. -/
def prune (gone : Paths) : Value → Value
  | record fields => record (pruneFields gone fields)
  | v => v

def pruneFields (gone : Paths) : Fields → Fields
  | [] => []
  | (none, v) :: rest => (none, v) :: pruneFields gone rest
  | (some name, v) :: rest =>
    if gone [name] then pruneFields gone rest
    else (some name, v.prune (within gone name)) :: pruneFields gone rest

end

mutual

theorem prune_nothing (v : Value) : v.prune (fun _ => false) = v := by
  cases v with
  | record fields => rw [prune, pruneFields_nothing fields]
  | _ => rfl

theorem pruneFields_nothing (fields : Fields) : pruneFields (fun _ => false) fields = fields := by
  match fields with
  | [] => rfl
  | (none, v) :: rest => rw [pruneFields, pruneFields_nothing rest]
  | (some name, v) :: rest =>
    have hv : v.prune (within (fun _ => false) name) = v := prune_nothing v
    rw [pruneFields, if_neg Bool.false_ne_true, hv, pruneFields_nothing rest]

end

/-- What is left of a field. -/
def pruneField (gone : Paths) (f : String × Value) : Option (String × Value) :=
  if gone [f.1] then none else some (f.1, f.2.prune (within gone f.1))

theorem prune_object (gone : Paths) (fields : List (String × Value)) :
    (object fields).prune gone = object (fields.filterMap (pruneField gone)) := by
  rw [object, prune, object, record.injEq]
  induction fields with
  | nil => rfl
  | cons f fields ih =>
    rw [List.map_cons, pruneFields, ih]
    by_cases hgone : gone [f.1] = true
    · simp [pruneField, hgone]
    · simp [pruneField, hgone]

theorem names_prune_sublist (gone : Paths) (fields : List (String × Value)) :
    ((fields.filterMap (pruneField gone)).map Prod.fst).Sublist (fields.map Prod.fst) := by
  induction fields with
  | nil => exact List.Sublist.refl []
  | cons f fields ih =>
    by_cases hgone : gone [f.1] = true
    · simpa [pruneField, hgone] using ih.cons f.1
    · simpa [pruneField, hgone] using ih

theorem lookup_prune (gone : Paths) (fields : List (String × Value)) (name : String) :
    (fields.filterMap (pruneField gone)).lookup name =
      if gone [name] then none else (fields.lookup name).map (prune (within gone name)) := by
  induction fields with
  | nil => simp
  | cons f fields ih =>
    obtain ⟨key, v⟩ := f
    by_cases hname : name = key
    · subst hname
      by_cases hgone : gone [name] = true
      · simp [pruneField, hgone, ih]
      · simp [pruneField, hgone]
    · have hne : (name == key) = false := beq_false_of_ne hname
      by_cases hgone : gone [key] = true
      · simp [pruneField, hgone, ih, List.lookup_cons, hne]
      · simp [pruneField, hgone, ih, List.lookup_cons, hne]

/-- A record with these fields, in any order. -/
def Lists (v : Value) (fields : List (String × Value)) : Prop :=
  ∃ listed, listed.Perm fields ∧ v = object listed

variable {v : Value} {fields : List (String × Value)}

theorem lists_object (fields : List (String × Value)) : (object fields).Lists fields :=
  ⟨fields, List.Perm.refl _, rfl⟩

theorem lookup_of_mem {f : String × Value} (h : (fields.map Prod.fst).Nodup) (hf : f ∈ fields) :
    fields.lookup f.1 = some f.2 := by
  induction fields with
  | nil => cases hf
  | cons g fields ih =>
    obtain ⟨key, w⟩ := g
    rw [List.map_cons, List.nodup_cons] at h
    cases List.mem_cons.mp hf with
    | inl hfirst =>
      rw [hfirst]
      exact List.lookup_cons_self
    | inr hrest =>
      have hne : (f.1 == key) = false := by
        apply beq_false_of_ne
        intro hname
        exact h.1 (List.mem_map.mpr ⟨f, hrest, hname⟩)
      rw [List.lookup_cons, hne]
      exact ih h.2 hrest

/-- A record can be read after a deletion. -/
theorem Lists.exists_row (hv : v.Lists fields) (h : (fields.map Prod.fst).Nodup) (d : Dialect)
    (names : List String) (gone : Paths) :
    ∃ row, Row.ofValue? d names (v.prune gone) = some row ∧
      ∀ f ∈ fields, row.slot f.1 =
        if gone [f.1] then .unnamed else .given (f.2.prune (within gone f.1)) := by
  obtain ⟨listed, hperm, rfl⟩ := hv
  have hlisted : (listed.map Prod.fst).Nodup := (hperm.map Prod.fst).nodup_iff.mpr h
  refine ⟨Row.object (listed.filterMap (pruneField gone)), ?_, ?_⟩
  · rw [prune_object]
    exact Row.ofValue?_object d names _ ((names_prune_sublist gone listed).nodup hlisted)
  · intro f hf
    rw [Row.slot_object, lookup_prune, lookup_of_mem hlisted (hperm.mem_iff.mpr hf)]
    by_cases hgone : gone [f.1] = true
    · rw [if_pos hgone, if_pos hgone]
      rfl
    · rw [if_neg hgone, if_neg hgone]
      rfl

end Value

theorem Slot.withDefault_kept {gone : Paths} {name : String} {v : Value} {value default : α}
    {decode : Value → Option α} (h : decode v = some value) :
    (if gone [name] then Slot.unnamed else .given v).withDefault default decode =
      some (kept gone name value default) := by
  by_cases hgone : gone [name] = true
  · simp [kept, hgone, withDefault]
  · simp [kept, hgone, withDefault, h]

end SecurityLint.Data
