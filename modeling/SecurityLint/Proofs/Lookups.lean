import SecurityLint.Proofs.EngineScan
import SecurityLint.SanitizerSet

/-!
Every look-up hits. References in a linked tree lead to its nodes, so the steps to children and to
the parent leave none out; the memo keeps a cell for every node; and a name that is
taken in a text stands inside it, with as much before it as the test for a negation reads.
-/
namespace SecurityLint

namespace Table

/-- A linked table has an entry for the parent of each node. -/
theorem size_of_link_eq_ok {t : Table} {parents : Parents} (h : t.link = .ok parents) :
    parents.size = t.size := by
  obtain ⟨_, hpass, _⟩ := (link_eq_ok_iff t parents).mp h
  obtain ⟨_, _, rfl⟩ := (foldlM_adoptEdge_eq_ok_iff t _ _ parents).mp hpass
  rw [size_assign, Array.size_replicate]

end Table

namespace Cursor

variable {t : SyntaxTree}

/-- No child of a node is left out. -/
theorem ids_children (c : Cursor t) : c.children.map Cursor.id = c.node.children := by
  rw [children_eq_ids, table_children]

/-- The parent of a node is the one in the table, and it is in the tree. -/
theorem getElem?_parents (c : Cursor t) :
    t.parents[c.id]? = some (c.parent?.map Cursor.id) := by
  have hlt : c.id < t.parents.size := by
    rw [Table.size_of_link_eq_ok t.linked]
    exact c.inside
  have hread : t.parents[c.id]? = some t.parents[c.id] := Array.getElem?_eq_getElem hlt
  cases hentry : t.parents[c.id] with
  | none => simp [hread, hentry, parent?]
  | some p =>
    have hlink := (Table.parent_iff_of_link_eq_ok t.table t.parents t.linked p c.id).mp
      (hread.trans (congrArg some hentry))
    obtain ⟨d, rfl, hparent⟩ := exists_parent_of_link hlink
    rw [hread, hentry, hparent, Option.map_some]

end Cursor

variable {t : SyntaxTree}

namespace Answers

theorem size_learn (a : Answers t) (c : Cursor t) (answer : Option (Cursor t)) :
    (a.learn c answer).size = a.size :=
  Array.size_setIfInBounds

/-- A walk upwards adds no cell and removes none. -/
theorem size_find (kind : Kind) (n : ℕ) (c : Cursor t) (a : Answers t) :
    (a.find kind n c).2.size = a.size := by
  fun_induction find kind n c a with
  | case1 => rfl
  | case2 => rfl
  | case3 => rfl
  | case4 => exact size_learn _ _ _
  | case5 n c a _ _ p _ answer a' hfind ih =>
    rw [size_learn, ← ih, hfind]

end Answers

namespace Memo

/-- Both tables of the memo have a cell for every node. -/
def Full (m : Memo t) : Prop :=
  ∀ s : Scope, (m.answers s).size = t.size

theorem full_empty (t : SyntaxTree) : (Memo.empty t).Full := by
  intro s
  cases s with
  | ofClass => exact Array.size_replicate
  | ofMethod => exact Array.size_replicate

theorem Full.ask {m : Memo t} (h : m.Full) (s : Scope) (c : Cursor t) : (m.ask s c).2.Full := by
  have hsize := (Answers.size_find s.kind t.size c (m.answers s)).trans (h s)
  intro s'
  cases s with
  | ofClass =>
    cases s' with
    | ofClass => exact hsize
    | ofMethod => exact h .ofMethod
  | ofMethod =>
    cases s' with
    | ofClass => exact h .ofClass
    | ofMethod => exact hsize

end Memo

/-- An inquiry leaves a cell for every node, whatever it asks. -/
theorem Inquiry.full_run {α : Type} (q : Inquiry t α) (m : Memo t) (h : m.Full) :
    (q.run m).2.Full := by
  induction q generalizing m with
  | done a => exact h
  | fail failure => exact h
  | ask scope c next ih => exact ih (m.ask scope c).1 (m.ask scope c).2 (h.ask scope c)

namespace SanitizerSet

/-- The places where a name is taken, each as the number of characters before it. So far `place`
characters are read, and `skip` of the next ones belong to the name taken last. -/
def takenFrom (names : List (List Char)) (skip place : Nat) : List Char → List Nat
  | [] => []
  | c :: rest =>
    match skip with
    | skip + 1 => takenFrom names skip (place + 1) rest
    | 0 =>
      match names.find? (beginsWith · (c :: rest)) with
      | some name => place :: takenFrom names (name.length - 1) (place + 1) rest
      | none => takenFrom names 0 (place + 1) rest

/-- The places in a text where a name is taken. -/
def taken (s : SanitizerSet) (text : String) : List Nat :=
  takenFrom s.names 0 0 text.toList

/-- The characters before `place` end in an `un` that starts a word. -/
def NegatedAt (text : List Char) (place : ℕ) : Prop :=
  ∃ i u n, place = i + 2 ∧ text[i]? = some u ∧ text[i + 1]? = some n ∧
    u.toLower = 'u' ∧ n.toLower = 'n' ∧
    (u.isUpper = true ∨ i = 0 ∨ ∃ b, text[i - 1]? = some b ∧ b.isAlpha = false)

/-- Names are taken inside the text. -/
theorem lt_of_mem_takenFrom {names : List (List Char)} {skip place i : ℕ} {text : List Char}
    (h : i ∈ takenFrom names skip place text) : i < place + text.length := by
  fun_induction takenFrom names skip place text with
  | case1 => cases h
  | case2 place c rest skip ih =>
    have hlt := ih h
    simp only [List.length_cons]
    omega
  | case3 place c rest name _ ih =>
    simp only [List.length_cons]
    rcases List.mem_cons.mp h with rfl | h
    · omega
    · have hlt := ih h
      omega
  | case4 place c rest _ ih =>
    have hlt := ih h
    simp only [List.length_cons]
    omega

/-- Looking for a name that counts is looking through the places where names are taken. -/
theorem findFrom_eq_any (names : List (List Char)) (skip : ℕ) (before text : List Char) :
    findFrom names skip before text =
      (takenFrom names skip before.length text).any fun i =>
        !negates ((before.reverse ++ text).take i).reverse := by
  have hread (c : Char) (before rest : List Char) :
      (c :: before).reverse ++ rest = before.reverse ++ c :: rest := by
    rw [List.reverse_cons, List.append_assoc, List.singleton_append]
  fun_induction findFrom names skip before text with
  | case1 => rfl
  | case2 before c rest skip ih =>
    rw [takenFrom, ih, hread, List.length_cons]
  | case3 before c rest name hname ih =>
    have hbefore : ((before.reverse ++ c :: rest).take before.length).reverse = before := by
      rw [List.take_left' List.length_reverse, List.reverse_reverse]
    rw [takenFrom, hname, ih, hread, List.length_cons, List.any_cons, hbefore]
  | case4 before c rest hname ih =>
    rw [takenFrom, hname, ih, hread, List.length_cons]

/-- The test for a negation reads the last characters before the name. -/
theorem negates_take_iff (text : List Char) (place : ℕ) (h : place ≤ text.length) :
    negates (text.take place).reverse = true ↔ NegatedAt text place := by
  rcases place with _ | _ | i
  · simp [negates, NegatedAt]
  · cases text with
    | nil => simp [negates, NegatedAt]
    | cons c text => simp [negates, NegatedAt]
  · have hu : i < text.length := by omega
    have hn : i + 1 < text.length := by omega
    -- the two characters before the place come first when the text is read backwards
    have hsplit :
        (text.take (i + 2)).reverse = text[i + 1] :: text[i] :: (text.take i).reverse := by
      rw [List.take_succ_eq_append_getElem hn, List.take_succ_eq_append_getElem hu]
      simp
    have hhead : (text.take i).reverse.head?.all (!·.isAlpha) = true ↔
        i = 0 ∨ ∃ b, text[i - 1]? = some b ∧ b.isAlpha = false := by
      rw [List.head?_reverse, List.getLast?_take]
      cases i with
      | zero => simp
      | succ i =>
        have hb : i < text.length := by omega
        simp [hb]
    rw [hsplit, negates, NegatedAt]
    simp only [Bool.and_eq_true, Bool.or_eq_true, beq_iff_eq, hhead]
    constructor
    · rintro ⟨⟨hlowerN, hlowerU⟩, hstart⟩
      exact ⟨i, text[i], text[i + 1], rfl, List.getElem?_eq_getElem hu,
        List.getElem?_eq_getElem hn, hlowerU, hlowerN, hstart⟩
    · rintro ⟨j, u, n, hj, hreadU, hreadN, hlowerU, hlowerN, hstart⟩
      obtain rfl : i = j := by omega
      rw [List.getElem?_eq_getElem hu, Option.some.injEq] at hreadU
      rw [List.getElem?_eq_getElem hn, Option.some.injEq] at hreadN
      rw [hreadU, hreadN]
      exact ⟨⟨hlowerN, hlowerU⟩, hstart⟩

/-- A text calls on a sanitizer if a name is taken that is not negated; all of the places are
inside the text. -/
theorem isCalledIn_iff (s : SanitizerSet) (text : String) :
    (s.isCalledIn text = true ↔ ∃ i ∈ s.taken text, ¬ NegatedAt text.toList i) ∧
      ∀ i ∈ s.taken text, i < text.toList.length := by
  have hinside : ∀ i ∈ s.taken text, i < text.toList.length := by
    intro i hi
    have hlt := lt_of_mem_takenFrom hi
    rwa [Nat.zero_add] at hlt
  refine ⟨?_, hinside⟩
  rw [isCalledIn, findFrom_eq_any, List.any_eq_true]
  refine exists_congr fun i => and_congr_right fun hi => ?_
  rw [← negates_take_iff _ _ (Nat.le_of_lt (hinside i hi))]
  simp

end SanitizerSet

end SecurityLint
