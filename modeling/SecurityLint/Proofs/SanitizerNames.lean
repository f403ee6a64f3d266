import Mathlib.Data.List.Forall2
import SecurityLint.Proofs.Lookups

/-!
Which occurrences of sanitizer names count. Reading takes names from left to right, and a name that
begins inside one taken before is passed over. So a text that calls on a sanitizer has an occurrence
that is not negated; but such an occurrence is missed if it begins inside a negated name that
was taken. Where no occurrence is hidden in this way, every one that is not negated counts.
-/
namespace SecurityLint.SanitizerSet

/-- The name stands in the text behind `place` characters, whatever the case. -/
def StandsAt (name text : List Char) (place : ℕ) : Prop :=
  ∃ part, part <+: text.drop place ∧
    List.Forall₂ (fun n c => Text.sameFold n c = true) name part

theorem beginsWith_iff (name text : List Char) :
    beginsWith name text = true ↔ ∃ part, part <+: text ∧
      List.Forall₂ (fun n c => Text.sameFold n c = true) name part := by
  fun_induction beginsWith name text with
  | case1 text => exact ⟨fun _ => ⟨[], List.nil_prefix, .nil⟩, fun _ => rfl⟩
  | case2 n name =>
    simp only [Bool.false_eq_true, false_iff, not_exists, not_and]
    intro part hpart hname
    rw [List.prefix_nil.mp hpart] at hname
    cases hname
  | case3 n name c text ih =>
    rw [Bool.and_eq_true, ih]
    constructor
    · rintro ⟨hfold, part, hpart, hname⟩
      exact ⟨c :: part, List.cons_prefix_cons.mpr ⟨rfl, hpart⟩, .cons hfold hname⟩
    · rintro ⟨_, hpart, hname⟩
      cases hname with
      | cons hfold hname =>
        obtain ⟨rfl, hrest⟩ := List.cons_prefix_cons.mp hpart
        exact ⟨hfold, _, hrest, hname⟩

/-- The first name of the list that stands behind `place` characters. -/
def nameAt? (names : List (List Char)) (text : List Char) (place : ℕ) : Option (List Char) :=
  names.find? fun name => beginsWith name (text.drop place)

/-- A name is taken behind `k` characters of the text, of which the first `skip` belong to the name
taken last. -/
inductive Takes (names : List (List Char)) : (skip : ℕ) → List Char → (k : ℕ) → Prop
  | skip {skip k : ℕ} {c : Char} {rest : List Char} (hrest : Takes names skip rest k) :
      Takes names (skip + 1) (c :: rest) (k + 1)
  | here {c : Char} {rest name : List Char} (hname : nameAt? names (c :: rest) 0 = some name) :
      Takes names 0 (c :: rest) 0
  | behind {k : ℕ} {c : Char} {rest name : List Char}
      (hname : nameAt? names (c :: rest) 0 = some name)
      (hrest : Takes names (name.length - 1) rest k) : Takes names 0 (c :: rest) (k + 1)
  | pass {k : ℕ} {c : Char} {rest : List Char} (hname : nameAt? names (c :: rest) 0 = none)
      (hrest : Takes names 0 rest k) : Takes names 0 (c :: rest) (k + 1)

section Reading

variable {names : List (List Char)} {skip j k : ℕ} {text name : List Char}

theorem isSome_nameAt?_iff :
    (nameAt? names text k).isSome = true ↔ ∃ name ∈ names, StandsAt name text k := by
  rw [nameAt?, List.find?_isSome]
  simp only [beginsWith_iff, StandsAt]

theorem standsAt_of_nameAt? (h : nameAt? names text k = some name) :
    name ∈ names ∧ StandsAt name text k := by
  have hbegins := List.find?_some h
  exact ⟨List.mem_of_find?_eq_some h, (beginsWith_iff _ _).mp hbegins⟩

theorem nameAt?_nil (hnames : [] ∉ names) (k : ℕ) : nameAt? names [] k = none := by
  rw [nameAt?, List.find?_eq_none, List.drop_nil]
  intro name hname
  cases name with
  | nil => exact absurd hname hnames
  | cons n name => simp [beginsWith]

theorem mem_takenFrom_iff (names : List (List Char)) (skip start place : ℕ) (text : List Char) :
    place ∈ takenFrom names skip start text ↔ ∃ k, place = start + k ∧ Takes names skip text k := by
  fun_induction takenFrom names skip start text with
  | case1 =>
    simp only [List.not_mem_nil, false_iff, not_exists, not_and]
    intro k _ h
    cases h
  | case2 start c rest skip ih =>
    rw [ih]
    constructor
    · rintro ⟨k, rfl, hrest⟩
      exact ⟨k + 1, by omega, .skip hrest⟩
    · rintro ⟨_, rfl, hall⟩
      cases hall with
      | skip hrest => exact ⟨_, by omega, hrest⟩
  | case3 start c rest name hname ih =>
    rw [List.mem_cons, ih]
    constructor
    · rintro (rfl | ⟨k, rfl, hrest⟩)
      · exact ⟨0, rfl, .here hname⟩
      · exact ⟨k + 1, by omega, .behind hname hrest⟩
    · rintro ⟨_, rfl, hall⟩
      cases hall with
      | here => exact .inl rfl
      | behind hname' hrest =>
        obtain rfl := Option.some.inj (hname.symm.trans hname')
        exact .inr ⟨_, by omega, hrest⟩
      | pass hnone => cases hname.symm.trans hnone
  | case4 start c rest hnone ih =>
    rw [ih]
    constructor
    · rintro ⟨k, rfl, hrest⟩
      exact ⟨k + 1, by omega, .pass hnone hrest⟩
    · rintro ⟨_, rfl, hall⟩
      cases hall with
      | here hname => cases hnone.symm.trans hname
      | behind hname => cases hnone.symm.trans hname
      | pass _ hrest => exact ⟨_, by omega, hrest⟩

namespace Takes

theorem skip_le (h : Takes names skip text k) : skip ≤ k := by
  induction h with
  | skip _ ih => omega
  | here => omega
  | behind => omega
  | pass => omega

/-- A name is taken only where one stands. -/
theorem isSome_nameAt? (h : Takes names skip text k) : (nameAt? names text k).isSome = true := by
  induction h with
  | skip _ ih => exact ih
  | here hname => rw [hname, Option.isSome_some]
  | behind _ _ ih => exact ih
  | pass _ _ ih => exact ih

/-- Names that are taken do not overlap. -/
theorem add_length_le (hj : Takes names skip text j) (hk : Takes names skip text k) (hjk : j < k)
    (hname : nameAt? names text j = some name) : j + name.length ≤ k := by
  induction hj generalizing k with
  | skip _ ih =>
    cases hk with
    | skip hk =>
      have hapart := ih hk (by omega) hname
      omega
  | here hfirst =>
    obtain rfl := Option.some.inj (hfirst.symm.trans hname)
    cases hk with
    | here => omega
    | behind hfirst' hk =>
      obtain rfl := Option.some.inj (hfirst.symm.trans hfirst')
      have hle := hk.skip_le
      omega
    | pass hnone => cases hfirst.symm.trans hnone
  | behind hfirst _ ih =>
    cases hk with
    | here => omega
    | behind hfirst' hk =>
      obtain rfl := Option.some.inj (hfirst.symm.trans hfirst')
      have hapart := ih hk (by omega) hname
      omega
    | pass hnone => cases hfirst.symm.trans hnone
  | pass hnone _ ih =>
    cases hk with
    | here => omega
    | behind hfirst => cases hnone.symm.trans hfirst
    | pass _ hk =>
      have hapart := ih hk (by omega) hname
      omega

end Takes

/-- A name that stands in the text is taken, or begins inside one that is. -/
theorem takes_or_covered (hnames : [] ∉ names) (hskip : skip ≤ k)
    (hstands : (nameAt? names text k).isSome = true) :
    Takes names skip text k ∨ ∃ j name, Takes names skip text j ∧
      nameAt? names text j = some name ∧ j < k ∧ k < j + name.length := by
  induction text generalizing skip k with
  | nil =>
    rw [nameAt?_nil hnames] at hstands
    cases hstands
  | cons c rest ih =>
    cases skip with
    | succ skip =>
      obtain ⟨k, rfl⟩ : ∃ i, k = i + 1 := ⟨k - 1, by omega⟩
      rcases ih (by omega : skip ≤ k) hstands with hk | ⟨j, name, hj, hname, hjk, hlt⟩
      · exact .inl (.skip hk)
      · exact .inr ⟨j + 1, name, .skip hj, hname, by omega, by omega⟩
    | zero =>
      cases hfirst : nameAt? names (c :: rest) 0 with
      | none =>
        cases k with
        | zero =>
          rw [hfirst] at hstands
          cases hstands
        | succ k =>
          rcases ih (Nat.zero_le k) hstands with hk | ⟨j, name, hj, hname, hjk, hlt⟩
          · exact .inl (.pass hfirst hk)
          · exact .inr ⟨j + 1, name, .pass hfirst hj, hname, by omega, by omega⟩
      | some first =>
        cases k with
        | zero => exact .inl (.here hfirst)
        | succ k =>
          by_cases hinside : k + 1 < first.length
          · exact .inr ⟨0, first, .here hfirst, hfirst, by omega, by omega⟩
          · rcases ih (by omega : first.length - 1 ≤ k) hstands with
              hk | ⟨j, name, hj, hname, hjk, hlt⟩
            · exact .inl (.behind hfirst hk)
            · exact .inr ⟨j + 1, name, .behind hfirst hj, hname, by omega, by omega⟩

end Reading

theorem mem_taken_iff_takes (s : SanitizerSet) (text : String) (place : ℕ) :
    place ∈ s.taken text ↔ Takes s.names 0 text.toList place := by
  rw [taken, mem_takenFrom_iff]
  simp

/-- The places where names are taken: a name stands there, and none that is taken before it reaches
so far. -/
theorem mem_taken_iff (s : SanitizerSet) (hnames : [] ∉ s.names) (text : String) (place : ℕ) :
    place ∈ s.taken text ↔ (nameAt? s.names text.toList place).isSome = true ∧
      ∀ start ∈ s.taken text, ∀ name, nameAt? s.names text.toList start = some name →
        start < place → start + name.length ≤ place := by
  simp only [mem_taken_iff_takes]
  constructor
  · intro hplace
    exact ⟨hplace.isSome_nameAt?, fun start hstart name hname hlt =>
      hstart.add_length_le hplace hlt hname⟩
  · rintro ⟨hstands, hapart⟩
    rcases takes_or_covered hnames (Nat.zero_le place) hstands with
      hplace | ⟨start, name, hstart, hname, hlt, hcovered⟩
    · exact hplace
    · have hle := hapart start hstart name hname hlt
      omega

theorem mem_names_ofList_iff (names : List String) (name : List Char) :
    name ∈ (ofList names).names ↔ ∃ n ∈ names, Text.trim n ≠ "" ∧ (Text.trim n).toList = name := by
  simp only [ofList, List.mem_filter, List.mem_map, Bool.not_eq_true', List.isEmpty_eq_false_iff]
  constructor
  · rintro ⟨⟨n, hn, rfl⟩, hne⟩
    exact ⟨n, hn, fun hblank => hne (by rw [hblank]; rfl), rfl⟩
  · rintro ⟨n, hn, hne, rfl⟩
    exact ⟨⟨n, hn, rfl⟩, fun hnil => hne (String.toList_eq_nil_iff.mp hnil)⟩

theorem nil_not_mem_names_ofList (names : List String) : [] ∉ (ofList names).names := by
  rw [mem_names_ofList_iff]
  rintro ⟨n, _, hne, hnil⟩
  exact hne (String.toList_eq_nil_iff.mp hnil)

/-- One of the names stands behind `place` characters of the text and is not negated there. Names
are trimmed, and blank ones left out. -/
def CountsAt (names : List String) (text : String) (place : ℕ) : Prop :=
  (∃ n ∈ names, Text.trim n ≠ "" ∧ StandsAt (Text.trim n).toList text.toList place) ∧
    ¬ NegatedAt text.toList place

/-- The place lies inside a name that stands before it and is negated. -/
def HiddenAt (names : List String) (text : String) (place : ℕ) : Prop :=
  ∃ n ∈ names, ∃ start, StandsAt (Text.trim n).toList text.toList start ∧
    NegatedAt text.toList start ∧ start < place ∧ place < start + (Text.trim n).toList.length

theorem countsAt_iff (names : List String) (text : String) (place : ℕ) :
    CountsAt names text place ↔
      (nameAt? (ofList names).names text.toList place).isSome = true ∧
        ¬ NegatedAt text.toList place := by
  rw [CountsAt, isSome_nameAt?_iff]
  refine and_congr_left fun _ => ?_
  constructor
  · rintro ⟨n, hn, hne, hstands⟩
    exact ⟨_, (mem_names_ofList_iff names _).mpr ⟨n, hn, hne, rfl⟩, hstands⟩
  · rintro ⟨_, hname, hstands⟩
    obtain ⟨n, hn, hne, rfl⟩ := (mem_names_ofList_iff names _).mp hname
    exact ⟨n, hn, hne, hstands⟩

/-- A text calls on a sanitizer exactly if an occurrence counts that no negated name, taken before
it, reaches over. So it does whenever an occurrence counts that is not hidden, and where none is
hidden, it does exactly if some occurrence counts. -/
theorem isCalledIn_iff_counts (names : List String) (text : String) :
    ((ofList names).isCalledIn text = true ↔ ∃ place, CountsAt names text place ∧
      ∀ start ∈ (ofList names).taken text, NegatedAt text.toList start →
        ∀ name, nameAt? (ofList names).names text.toList start = some name →
          start < place → start + name.length ≤ place) ∧
    ((∀ place, CountsAt names text place → ¬ HiddenAt names text place) →
      ((ofList names).isCalledIn text = true ↔ ∃ place, CountsAt names text place)) := by
  have htaken := (ofList names).mem_taken_iff (nil_not_mem_names_ofList names) text
  have hcalled := ((ofList names).isCalledIn_iff text).1
  have hexact : (ofList names).isCalledIn text = true ↔ ∃ place, CountsAt names text place ∧
      ∀ start ∈ (ofList names).taken text, NegatedAt text.toList start →
        ∀ name, nameAt? (ofList names).names text.toList start = some name →
          start < place → start + name.length ≤ place := by
    rw [hcalled]
    constructor
    · rintro ⟨place, hplace, hfree⟩
      obtain ⟨hstands, hapart⟩ := (htaken place).mp hplace
      exact ⟨place, (countsAt_iff names text place).mpr ⟨hstands, hfree⟩,
        fun start hstart _ => hapart start hstart⟩
    · rintro ⟨place, hcounts, hunhidden⟩
      obtain ⟨hstands, hfree⟩ := (countsAt_iff names text place).mp hcounts
      -- if every name that is taken were negated, none would reach over this one, and it would be
      -- taken as well
      by_contra hnone
      simp only [not_exists, not_and, not_not] at hnone
      have hplace := (htaken place).mpr ⟨hstands, fun start hstart =>
        hunhidden start hstart (hnone start hstart)⟩
      exact hfree (hnone place hplace)
  refine ⟨hexact, fun hclear => ?_⟩
  rw [hexact]
  refine exists_congr fun place => and_iff_left_of_imp fun hcounts => ?_
  intro start _ hnegated name hname hlt
  obtain ⟨hmem, hstands⟩ := standsAt_of_nameAt? hname
  obtain ⟨n, hn, _, rfl⟩ := (mem_names_ofList_iff names name).mp hmem
  by_contra hle
  exact hclear place hcounts ⟨n, hn, start, hstands, hnegated, hlt, by omega⟩

/-- The second `escape` begins with the last letter of the first, which is negated. It counts, but
reading goes on behind the first and finds no other. -/
theorem overlapped_name_not_called :
    CountsAt ["escape"] "unescapescape(svg)" 7 ∧
      (ofList ["escape"]).isCalledIn "unescapescape(svg)" = false := by
  refine ⟨?_, by decide +kernel⟩
  rw [countsAt_iff, ← negates_take_iff _ _ (by decide +kernel)]
  decide +kernel

end SecurityLint.SanitizerSet
