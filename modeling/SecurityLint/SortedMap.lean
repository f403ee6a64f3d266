/-!
Maps from names to values, and sets of names. A map holds its entries in increasing order of
names, so that two maps with the same entries are equal and are written in the same way.
-/
namespace SecurityLint

structure SortedMap (α : Type) where
  entries : List (String × α)
  sorted : entries.Pairwise (·.1 < ·.1)
  deriving DecidableEq, Repr

namespace SortedMap

variable {α : Type}

def empty : SortedMap α where
  entries := []
  sorted := .nil

def get? (m : SortedMap α) (key : String) : Option α :=
  (m.entries.find? (·.1 == key)).map (·.2)

def contains (m : SortedMap α) (key : String) : Bool :=
  (m.get? key).isSome

def keys (m : SortedMap α) : List String :=
  m.entries.map (·.1)

/-- Puts an entry in its place; it replaces an entry of the same name. -/
def place (key : String) (value : α) : List (String × α) → List (String × α)
  | [] => [(key, value)]
  | (k, v) :: rest =>
    if key < k then (key, value) :: (k, v) :: rest
    else if key = k then (key, value) :: rest
    else (k, v) :: place key value rest

theorem mem_place {key : String} {value : α} {e : String × α} {entries : List (String × α)}
    (h : e ∈ place key value entries) : e = (key, value) ∨ e ∈ entries := by
  induction entries with
  | nil => simpa [place] using h
  | cons first rest ih =>
    obtain ⟨k, v⟩ := first
    simp only [place] at h
    split at h
    · simpa using h
    · split at h
      · rcases List.mem_cons.1 h with rfl | h
        · exact .inl rfl
        · exact .inr (List.mem_cons_of_mem _ h)
      · rcases List.mem_cons.1 h with rfl | h
        · exact .inr List.mem_cons_self
        · exact (ih h).imp_right (List.mem_cons_of_mem _)

theorem pairwise_place (key : String) (value : α) {entries : List (String × α)}
    (h : entries.Pairwise (·.1 < ·.1)) : (place key value entries).Pairwise (·.1 < ·.1) := by
  induction entries with
  | nil => simp [place]
  | cons first rest ih =>
    obtain ⟨k, v⟩ := first
    obtain ⟨above, tail⟩ := List.pairwise_cons.1 h
    simp only [place]
    split
    next before =>
      refine List.pairwise_cons.2 ⟨fun e he => ?_, h⟩
      rcases List.mem_cons.1 he with rfl | he
      · exact before
      · exact String.lt_trans before (above e he)
    next notBefore =>
      split
      next same => exact List.pairwise_cons.2 ⟨fun e he => same ▸ above e he, tail⟩
      next other =>
        refine List.pairwise_cons.2 ⟨fun e he => ?_, ih tail⟩
        rcases mem_place he with rfl | he
        · exact Std.lt_of_le_of_ne (String.not_lt.1 notBefore) (Ne.symm other)
        · exact above e he

/-- Sets the value of a name. -/
def put (m : SortedMap α) (key : String) (value : α) : SortedMap α where
  entries := place key value m.entries
  sorted := pairwise_place key value m.sorted

theorem find?_place (key : String) (value : α) (entries : List (String × α)) (k : String) :
    (place key value entries).find? (·.1 == k) =
      if key = k then some (key, value) else entries.find? (·.1 == k) := by
  induction entries with
  | nil => by_cases hk : key = k <;> simp [place, hk]
  | cons first rest ih =>
    obtain ⟨k', v⟩ := first
    simp only [place]
    split
    · by_cases hk : key = k <;> simp [hk]
    · split
      next same =>
        subst same
        by_cases hk : key = k <;> simp [hk]
      next other =>
        rw [List.find?_cons, List.find?_cons, ih]
        by_cases hk : key = k
        · have later : (k' == k) = false := beq_false_of_ne (hk ▸ Ne.symm other)
          simp [later, hk]
        · simp [hk]

theorem get?_put (m : SortedMap α) (key : String) (value : α) (k : String) :
    (m.put key value).get? k = if key = k then some value else m.get? k := by
  rw [get?, put, find?_place]
  by_cases hk : key = k
  · simp [hk]
  · simp [hk, get?]

/-- Counts one more occurrence of a name. -/
def bump (m : SortedMap Nat) (key : String) : SortedMap Nat :=
  m.put key ((m.get? key).getD 0 + 1)

end SortedMap

abbrev SortedSet := SortedMap Unit

namespace SortedSet

def insert (s : SortedSet) (name : String) : SortedSet :=
  s.put name ()

def ofList (names : List String) : SortedSet :=
  names.foldl insert SortedMap.empty

end SortedSet

end SecurityLint
