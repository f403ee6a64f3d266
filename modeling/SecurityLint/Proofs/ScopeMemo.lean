import SecurityLint.Proofs.Ascent
import SecurityLint.Scope

/-!
The memo never changes an answer. A walk upwards may end early at a known answer, and leaves one
answer at all nodes on its way; both are right because nodes without the kind have the answer of
their parent. That every known answer is right is kept by each question, hence by all
questions in any order.
-/
namespace SecurityLint

variable {t : SyntaxTree}

/-- A node that is no declaration of the kind has the answer of its parent. -/
theorem Scope.enclosing_eq (s : Scope) (c : Cursor t) :
    s.enclosing c = if c.is s.kind then some c else c.parent?.bind s.enclosing := by
  unfold enclosing
  by_cases hkind : c.is s.kind
  · simp [hkind]
  · cases hparent : c.parent? with
    | none => simp [hkind, Cursor.ancestors_of_parent?_eq_none hparent]
    | some p => simp [hkind, Cursor.ancestors_of_parent?_eq_some hparent]

namespace Answers

/-- Every known answer is the one found by walking up. -/
def Sound (a : Answers t) (s : Scope) : Prop :=
  ∀ c answer, a.known? c = some answer → answer = s.enclosing c

theorem sound_none (s : Scope) : (Answers.none t).Sound s := by
  intro c answer h
  have hlt : c.id < t.size := c.inside
  simp [known?, none, hlt] at h

theorem known?_learn {a : Answers t} {c d : Cursor t} {answer found : Option (Cursor t)}
    (h : (a.learn c answer).known? d = some found) :
    (d = c ∧ found = answer) ∨ a.known? d = some found := by
  unfold known? learn at h
  rw [Array.getElem?_setIfInBounds] at h
  by_cases hd : c.id = d.id
  · left
    obtain rfl := Cursor.eq_of_id_eq hd
    by_cases hlt : c.id < a.size
    · simp only [hlt, if_true, Option.join_some, Option.some.injEq] at h
      exact ⟨rfl, h.symm⟩
    · simp [hlt] at h
  · right
    simpa [known?, hd] using h

theorem Sound.learn {a : Answers t} {s : Scope} (h : a.Sound s) (c : Cursor t)
    (answer : Option (Cursor t)) (hanswer : answer = s.enclosing c) :
    (a.learn c answer).Sound s := by
  intro d found hfound
  rcases known?_learn hfound with ⟨rfl, rfl⟩ | hold
  · exact hanswer
  · exact h d found hold

/-- One walk finds the right answer and leaves only right answers behind. -/
theorem Sound.find {a : Answers t} {s : Scope} (h : a.Sound s) (n : ℕ) (c : Cursor t)
    (hn : c.ancestors.length < n) :
    (a.find s.kind n c).1 = s.enclosing c ∧ (a.find s.kind n c).2.Sound s := by
  induction n generalizing c with
  | zero => omega
  | succ n ih =>
    rw [Scope.enclosing_eq, Answers.find]
    cases hknown : a.known? c with
    | some answer =>
      rw [← Scope.enclosing_eq]
      exact ⟨h c answer hknown, h⟩
    | none =>
      by_cases hkind : c.is s.kind
      · simpa [hkind] using h
      · cases hparent : c.parent? with
        | none =>
          have hnone : Option.none = s.enclosing c := by
            rw [Scope.enclosing_eq]
            simp [hkind, hparent]
          simpa [hkind] using h.learn c Option.none hnone
        | some p =>
          rw [Cursor.ancestors_of_parent?_eq_some hparent, List.length_cons] at hn
          obtain ⟨hanswer, hsound⟩ := ih p (by omega)
          have hsame : (a.find s.kind n p).1 = s.enclosing c := by
            rw [Scope.enclosing_eq, hanswer]
            simp [hkind, hparent]
          simpa [hkind, hanswer] using hsound.learn c _ hsame

end Answers

namespace Memo

/-- Both tables of the memo hold right answers only. -/
def Sound (m : Memo t) : Prop :=
  ∀ s : Scope, (m.answers s).Sound s

theorem sound_empty (t : SyntaxTree) : (Memo.empty t).Sound := by
  intro s
  cases s with
  | ofClass => exact Answers.sound_none _
  | ofMethod => exact Answers.sound_none _

theorem Sound.ask {m : Memo t} (h : m.Sound) (s : Scope) (c : Cursor t) :
    (m.ask s c).1 = s.enclosing c ∧ (m.ask s c).2.Sound := by
  have hbound : c.ancestors.length < t.size := (Cursor.ascent_ancestors c).length_lt_size
  obtain ⟨hanswer, hsound⟩ := (h s).find t.size c hbound
  cases s with
  | ofClass =>
    refine ⟨hanswer, fun s => ?_⟩
    cases s with
    | ofClass => exact hsound
    | ofMethod => exact h .ofMethod
  | ofMethod =>
    refine ⟨hanswer, fun s => ?_⟩
    cases s with
    | ofClass => exact h .ofClass
    | ofMethod => exact hsound

/-- Asks one question after the other. -/
def askAll (m : Memo t) : List (Scope × Cursor t) → List (Option (Cursor t)) × Memo t
  | [] => ([], m)
  | (s, c) :: rest =>
    let (answer, m) := m.ask s c
    let (answers, m) := m.askAll rest
    (answer :: answers, m)

theorem Sound.askAll {m : Memo t} (h : m.Sound) (questions : List (Scope × Cursor t)) :
    (m.askAll questions).1 = questions.map (fun q => q.1.enclosing q.2) ∧
      (m.askAll questions).2.Sound := by
  induction questions generalizing m with
  | nil => exact ⟨rfl, h⟩
  | cons q rest ih =>
    obtain ⟨s, c⟩ := q
    obtain ⟨hanswer, hsound⟩ := h.ask s c
    obtain ⟨hanswers, hsound⟩ := ih hsound
    refine ⟨?_, hsound⟩
    change (m.ask s c).1 :: ((m.ask s c).2.askAll rest).1 = _
    rw [hanswer, hanswers, List.map_cons]

end Memo

end SecurityLint
