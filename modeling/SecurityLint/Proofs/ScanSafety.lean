import Mathlib.Data.List.Induction
import SecurityLint.Proofs.Lookups
import SecurityLint.Proofs.ScannerRules

/-!
A scan does not fail. The rules of a scanner succeed on every node, so no visit leaves a
diagnostic; all they look up is there, and what they report is about nodes at or below the one
that they were shown.
-/
namespace SecurityLint

variable {t : SyntaxTree}

namespace Engine

variable {σ : Type}

/-- The state of a scan after some visits. -/
def after (report : σ → Finding → σ) (sink : σ) (vs : List (Visit t)) : Progress σ t :=
  vs.foldl (fun p v => present report v.node p v.rule) { memo := Memo.empty t, sink }

/-- A visit leaves right answers and a cell for every node. -/
theorem present_keeps_memo (report : σ → Finding → σ) (v : Visit t) (p : Progress σ t)
    (hsound : p.memo.Sound) (hfull : p.memo.Full) :
    (present report v.node p v.rule).memo.Sound ∧ (present report v.node p v.rule).memo.Full := by
  refine ⟨(present_of_sound report v p hsound).1, ?_⟩
  have hrun := Inquiry.full_run (v.rule.visit t v.node) p.memo hfull
  unfold present
  split
  · next heq => rwa [heq] at hrun
  · next heq => rwa [heq] at hrun

/-- Before every visit of a scan, the memo has right answers and a cell for every node. -/
theorem after_keeps_memo (report : σ → Finding → σ) (sink : σ) (vs : List (Visit t)) :
    (after report sink vs).memo.Sound ∧ (after report sink vs).memo.Full := by
  induction vs using List.reverseRecOn with
  | nil => exact ⟨Memo.sound_empty t, Memo.full_empty t⟩
  | append_singleton vs v ih =>
    rw [after, List.foldl_append]
    exact present_keeps_memo report v _ ih.1 ih.2

end Engine

namespace Rule.Lawful

variable {rule : Rule}

/-- A lawful rule has its result on every node, and leaves the memo as good as it was. -/
theorem run_eq (h : rule.Lawful) (c : Cursor t) {m : Memo t} (hsound : m.Sound) (hfull : m.Full) :
    ∃ m' : Memo t, (rule.visit t c).run m = (.ok (rule.findings c), m') ∧ m'.Sound ∧ m'.Full := by
  obtain ⟨hresult, hsound'⟩ := Inquiry.run_of_sound (rule.visit t c) m hsound
  rw [h.succeeds] at hresult
  exact ⟨_, Prod.ext hresult rfl, hsound', Inquiry.full_run _ m hfull⟩

theorem diagnostic?_eq_none {v : Visit t} (h : v.rule.Lawful) : v.diagnostic? = none := by
  have hresult : v.result = .ok (v.rule.findings v.node) := h.succeeds v.node
  rw [Visit.diagnostic?, hresult]

end Rule.Lawful

theorem rule_mem_of_mem_visits {rules : List Rule} {v : Visit t} (h : v ∈ visits rules t) :
    v.rule ∈ rules :=
  List.mem_of_getElem? ((mem_visits_iff rules v).mp h).1

namespace Scanner

variable {config : Config} {s : Scanner}

theorem engine_eq (h : Scanner.ofConfig config = .ok s) :
    s.engine = Engine.ofRules s.engine.rules := by
  obtain ⟨rules, _, hengine, _⟩ := exists_of_ofConfig h
  rw [hengine]
  rfl

theorem lawful_of_mem (h : Scanner.ofConfig config = .ok s) :
    ∀ rule ∈ s.engine.rules, rule.Lawful := by
  obtain ⟨rules, hrules, hengine, _⟩ := exists_of_ofConfig h
  rw [hengine]
  exact RuleSettings.lawful_of_mem_rules hrules

theorem lawful_of_mem_visits (h : Scanner.ofConfig config = .ok s) {v : Visit t}
    (hv : v ∈ visits s.engine.rules t) : v.rule.Lawful :=
  lawful_of_mem h v.rule (rule_mem_of_mem_visits hv)

theorem scan_eq_visits (h : Scanner.ofConfig config = .ok s) (t : SyntaxTree) :
    s.engine.scan t =
      { findings := (visits s.engine.rules t).flatMap Visit.findings, diagnostics := [] } := by
  have hnone : (visits s.engine.rules t).filterMap Visit.diagnostic? = [] := by
    rw [List.filterMap_eq_nil_iff]
    intro v hv
    exact (lawful_of_mem_visits h hv).diagnostic?_eq_none
  rw [engine_eq h, Engine.scan_ofRules, ← engine_eq h, hnone]

/-- No rule of a scanner fails. Steps to children and parents lead to nodes of the tree and leave
none out, and names of sanitizers are taken inside a text. Given a memo of right answers with a cell
for every node, a rule has a result on every node; such a memo is kept by each question and
is there before every visit of a scan. So there is no diagnostic, and each finding shows nodes at
or below the one visited, with their own locations and texts. -/
theorem visits_succeed_within (h : Scanner.ofConfig config = .ok s) (t : SyntaxTree) :
    (∀ c : Cursor t, c.children.map Cursor.id = c.node.children ∧
      t.parents[c.id]? = some (c.parent?.map Cursor.id)) ∧
    (∀ (names : SanitizerSet) (text : String),
      (names.isCalledIn text = true ↔
        ∃ i ∈ names.taken text, ¬ SanitizerSet.NegatedAt text.toList i) ∧
      ∀ i ∈ names.taken text, i < text.toList.length) ∧
    (∀ (m : Memo t) (scope : Scope) (c : Cursor t), m.Full →
      c.id < (m.answers scope).size ∧ (m.ask scope c).2.Full) ∧
    (∀ rule ∈ s.engine.rules, ∀ (c : Cursor t) (m : Memo t), m.Sound → m.Full →
      ∃ m' : Memo t, (rule.visit t c).run m = (.ok (rule.findings c), m') ∧ m'.Sound ∧ m'.Full) ∧
    (∀ before after : List (Visit t), visits s.engine.rules t = before ++ after →
      (Engine.after Array.push #[] before).memo.Sound ∧
      (Engine.after Array.push #[] before).memo.Full) ∧
    (s.engine.scan t).diagnostics = [] ∧ (s.scan t).diagnostics = [] ∧
    (s.engine.scan t).findings = (visits s.engine.rules t).flatMap Visit.findings ∧
    ∀ v ∈ visits s.engine.rules t, ∀ f ∈ v.findings, f.Within v.node := by
  have hscan := scan_eq_visits h t
  refine ⟨fun c => ⟨c.ids_children, c.getElem?_parents⟩, SanitizerSet.isCalledIn_iff,
    fun m scope c hfull => ⟨?_, hfull.ask scope c⟩, ?_, ?_, ?_, ?_, ?_, ?_⟩
  · rw [hfull scope]
    exact c.inside
  · intro rule hrule c m hsound hfull
    exact (lawful_of_mem h rule hrule).run_eq c hsound hfull
  · intro before _ _
    exact Engine.after_keeps_memo Array.push #[] before
  · rw [hscan]
  · rw [Scanner.scan, hscan]
  · rw [hscan]
  · intro v hv f hf
    rw [Visit.findings_eq] at hf
    exact (lawful_of_mem_visits h hv).within v.node f hf

/-- All kinds of rules succeed on a call that stores secrets. -/
theorem storageTree_visits_succeed : ∃ s, Scanner.ofConfig wordConfig = .ok s ∧
    s.engine.rules.map (·.info.id) = RuleSettings.allIds ∧
    (s.scan storageTree).diagnostics = [] ∧
    ∀ v ∈ visits s.engine.rules storageTree, ∀ f ∈ v.findings, f.Within v.node := by
  obtain ⟨s, hs, hids⟩ := exists_ofConfig_word
  obtain ⟨_, _, _, _, _, _, hdiagnostics, _, hwithin⟩ := visits_succeed_within hs storageTree
  exact ⟨s, hs, hids, hdiagnostics, hwithin⟩

end Scanner

end SecurityLint
