import Mathlib.Data.List.Sort
import SecurityLint.SortedMap

/-!
A sorted map is what it answers. A name has at most one entry, so the entries are those that can be
looked up; as their order is that of the names, maps with the same answers are equal. Taking a name
out of a map changes the answer for this name only. Putting the entries of a map one after another,
in any order, gives the map.
-/
namespace SecurityLint.SortedMap

variable {α : Type} {m n : SortedMap α} {key : String} {value : α}

theorem nodup_keys (m : SortedMap α) : m.keys.Nodup := by
  rw [keys, List.Nodup, List.pairwise_map]
  refine m.sorted.imp ?_
  intro e e' hlt hkey
  rw [hkey] at hlt
  exact String.lt_irrefl e'.1 hlt

theorem get?_eq_some_iff : m.get? key = some value ↔ (key, value) ∈ m.entries := by
  rw [get?, Option.map_eq_some_iff]
  constructor
  · intro h
    obtain ⟨e, hfind, rfl⟩ := h
    have hkey : e.1 = key := by simpa using List.find?_some hfind
    exact hkey ▸ List.mem_of_find?_eq_some hfind
  · intro hmem
    have hsome : (m.entries.find? (·.1 == key)).isSome = true := by
      rw [List.find?_isSome]
      exact ⟨(key, value), hmem, beq_self_eq_true key⟩
    obtain ⟨e, hfind⟩ := Option.isSome_iff_exists.mp hsome
    have hkey : e.1 = key := by simpa using List.find?_some hfind
    have hsame : e = (key, value) :=
      List.inj_on_of_nodup_map m.nodup_keys (List.mem_of_find?_eq_some hfind) hmem hkey
    exact ⟨e, hfind, by rw [hsame]⟩

theorem mem_keys_iff : key ∈ m.keys ↔ m.contains key = true := by
  rw [keys, List.mem_map, contains, Option.isSome_iff_exists]
  constructor
  · intro h
    obtain ⟨e, he, rfl⟩ := h
    exact ⟨e.2, get?_eq_some_iff.mpr he⟩
  · intro h
    obtain ⟨value, hvalue⟩ := h
    exact ⟨(key, value), get?_eq_some_iff.mp hvalue, rfl⟩

/-- Maps with the same answers are equal. -/
theorem ext_get? (h : ∀ key, m.get? key = n.get? key) : m = n := by
  have hmem : ∀ e, e ∈ m.entries ↔ e ∈ n.entries := by
    intro e
    rw [← get?_eq_some_iff, ← get?_eq_some_iff, h e.1]
  have hirrefl : Std.Irrefl fun a b : String × α => a.1 < b.1 := ⟨fun a => String.lt_irrefl a.1⟩
  have hantisymm : Std.Antisymm fun a b : String × α => a.1 < b.1 :=
    ⟨fun a b hab hba => absurd (String.lt_trans hab hba) (String.lt_irrefl a.1)⟩
  have hentries : m.entries = n.entries := m.sorted.eq_of_mem_iff n.sorted hmem
  cases m
  cases n
  cases hentries
  rfl

/-- Takes a name out of a map. -/
def erase (m : SortedMap α) (key : String) : SortedMap α where
  entries := m.entries.filter (·.1 ≠ key)
  sorted := m.sorted.filter _

theorem get?_erase (m : SortedMap α) (key k : String) :
    (m.erase key).get? k = if key = k then none else m.get? k := by
  apply Option.ext
  intro value
  rw [get?_eq_some_iff, erase, List.mem_filter]
  by_cases hkey : key = k
  · simp [hkey]
  · simp [hkey, Ne.symm hkey, get?_eq_some_iff]

/-- Takes out the names that are gone. -/
def prune (m : SortedMap α) (gone : String → Bool) : SortedMap α where
  entries := m.entries.filter (!gone ·.1)
  sorted := m.sorted.filter _

theorem prune_nothing (m : SortedMap α) : m.prune (fun _ => false) = m := by
  obtain ⟨entries, sorted⟩ := m
  simp [prune]

/-- Puts entries one after another. -/
def putAll (m : SortedMap α) (entries : List (String × α)) : SortedMap α :=
  entries.foldl (fun m e => m.put e.1 e.2) m

theorem get?_putAll_eq_some_iff {entries : List (String × α)}
    (h : (entries.map Prod.fst).Nodup) :
    (m.putAll entries).get? key = some value ↔
      (key, value) ∈ entries ∨ key ∉ entries.map Prod.fst ∧ m.get? key = some value := by
  induction entries generalizing m with
  | nil => simp [putAll]
  | cons e entries ih =>
    obtain ⟨k, v⟩ := e
    rw [List.map_cons, List.nodup_cons] at h
    have hstep : m.putAll ((k, v) :: entries) = (m.put k v).putAll entries := rfl
    rw [hstep, ih h.2, get?_put]
    by_cases hkey : k = key
    · subst hkey
      have hnot : (k, value) ∉ entries := fun hmem => h.1 (List.mem_map.mpr ⟨_, hmem, rfl⟩)
      simp [hnot, h.1, eq_comm]
    · simp [hkey, Ne.symm hkey]

/-- The order in which entries are put does not matter. -/
theorem putAll_eq_of_perm {entries : List (String × α)} (h : entries.Perm m.entries) :
    empty.putAll entries = m := by
  have hnodup : (entries.map Prod.fst).Nodup := (h.map Prod.fst).nodup_iff.mpr m.nodup_keys
  apply ext_get?
  intro key
  apply Option.ext
  intro value
  have hempty : (empty : SortedMap α).get? key = none := rfl
  rw [get?_putAll_eq_some_iff hnodup, h.mem_iff, ← get?_eq_some_iff]
  simp [hempty]

end SecurityLint.SortedMap

namespace SecurityLint.SortedSet

open SortedMap

theorem ofList_eq_of_perm {s : SortedSet} {names : List String} (h : names.Perm s.keys) :
    ofList names = s := by
  have hself : s.keys.map (fun name => (name, ())) = s.entries := by
    rw [keys, List.map_map]
    exact List.map_id'' (fun _ => rfl) s.entries
  have hentries : (names.map fun name => (name, ())).Perm s.entries := hself ▸ h.map _
  rw [← putAll_eq_of_perm hentries, putAll, List.foldl_map]
  rfl

end SecurityLint.SortedSet
