import SecurityLint.Engine
import SecurityLint.Proofs.DocumentOrder
import SecurityLint.Proofs.ScopeMemo

/-!
What a scan does, said without its tables. The dispatch table lists for each kind the rules that
want it, each once and in their order; a memo of right answers leaves every inquiry with the
result that walking up would give. A scan is therefore a run over plain visits: each node in
document order, with the rules that want its kind.
-/
namespace SecurityLint

namespace Dispatch

theorem get_nil (k : Kind) : Dispatch.get [] k = [] :=
  rfl

theorem get_cons (kind k : Kind) (rules : List Nat) (rest : Dispatch) :
    Dispatch.get ((kind, rules) :: rest) k = if kind = k then rules else Dispatch.get rest k := by
  by_cases hk : kind = k
  · simp [get, hk]
  · simp [get, hk]

/-- A rule goes behind the rules of its kind, unless it is there already. -/
theorem get_subscribe (d : Dispatch) (kind k : Kind) (i : Nat) :
    (d.subscribe kind i).get k =
      if k = kind ∧ i ∉ d.get k then d.get k ++ [i] else d.get k := by
  induction d with
  | nil => simp [subscribe, get_cons, get_nil, eq_comm]
  | cons entry rest ih =>
    obtain ⟨k', rules⟩ := entry
    rw [subscribe]
    by_cases hkind : k' = kind
    · subst hkind
      rw [if_pos rfl, get_cons, get_cons]
      by_cases hk : k' = k
      · by_cases hi : i ∈ rules
        · simp [hk, hi]
        · simp [hk, hi]
      · simp [hk, Ne.symm hk]
    · rw [if_neg hkind, get_cons, get_cons, ih]
      by_cases hk : k' = k
      · simp [hk, hk ▸ hkind]
      · simp [hk]

/-- A kind that a rule lists more than once is subscribed to once. -/
theorem get_foldl_subscribe (kinds : List Kind) (d : Dispatch) (k : Kind) (i : Nat) :
    (kinds.foldl (fun d kind => d.subscribe kind i) d).get k =
      if k ∈ kinds ∧ i ∉ d.get k then d.get k ++ [i] else d.get k := by
  induction kinds generalizing d with
  | nil => simp
  | cons kind kinds ih =>
    rw [List.foldl_cons, ih, get_subscribe]
    by_cases hi : i ∈ d.get k
    · simp [hi]
    · by_cases hk : k = kind
      · subst hk
        simp [hi]
      · simp [hi, hk]

theorem get_foldl_rules (rules : List Rule) (n : Nat) (d : Dispatch) (k : Kind)
    (hbelow : ∀ i ∈ d.get k, i < n) :
    ((rules.zipIdx n).foldl (fun d (rule, i) => rule.kinds.foldl (fun d k => d.subscribe k i) d)
        d).get k =
      d.get k ++ ((rules.zipIdx n).filter fun r => k ∈ r.1.kinds).map Prod.snd := by
  induction rules generalizing n d with
  | nil => simp
  | cons rule rules ih =>
    have hnew : n ∉ d.get k := fun hn => Nat.lt_irrefl n (hbelow n hn)
    rw [List.zipIdx_cons, List.foldl_cons, ih]
    · rw [get_foldl_subscribe]
      by_cases hk : k ∈ rule.kinds
      · simp [hk, hnew]
      · simp [hk]
    · intro i hi
      rw [get_foldl_subscribe] at hi
      split at hi
      · rcases List.mem_append.mp hi with hold | hi
        · exact Nat.lt_succ_of_lt (hbelow i hold)
        · rw [List.mem_singleton.mp hi]
          exact Nat.lt_succ_self n
      · exact Nat.lt_succ_of_lt (hbelow i hi)

/-- The rules for a kind are those that want it, each once and in their order. -/
theorem get_ofRules (rules : List Rule) (k : Kind) :
    (ofRules rules).get k = (rules.zipIdx.filter fun r => k ∈ r.1.kinds).map Prod.snd := by
  rw [ofRules, get_foldl_rules rules 0 [] k (by simp [get_nil]), get_nil, List.nil_append]

end Dispatch

theorem Engine.subscribers_ofRules (rules : List Rule) (k : Kind) :
    (Engine.ofRules rules).subscribers k =
      (rules.zipIdx.filter fun r => k ∈ r.1.kinds).map Prod.fst := by
  have hrules : ∀ r ∈ rules.zipIdx.filter fun r => k ∈ r.1.kinds, rules[r.2]? = some r.1 := by
    intro r hr
    exact List.mem_zipIdx_iff_getElem?.mp (List.mem_filter.mp hr).1
  rw [subscribers, Engine.ofRules, Dispatch.get_ofRules]
  generalize (rules.zipIdx.filter fun r => k ∈ r.1.kinds) = found at hrules
  induction found with
  | nil => rfl
  | cons r found ih =>
    rw [List.map_cons, List.map_cons, List.filterMap_cons_some (hrules r List.mem_cons_self),
      ih (fun r hr => hrules r (List.mem_cons_of_mem _ hr))]

/-- Numbering the rules does not show in what is kept of them. -/
theorem map_fst_filter_zipIdx (rules : List Rule) (k : Kind) :
    (rules.zipIdx.filter fun r => k ∈ r.1.kinds).map Prod.fst =
      rules.filter fun rule => k ∈ rule.kinds := by
  rw [← List.zipIdx_map_fst 0 rules, List.filter_map, List.zipIdx_map_fst]
  rfl

theorem Engine.subscribers_eq_filter (rules : List Rule) (k : Kind) :
    (Engine.ofRules rules).subscribers k = rules.filter fun rule => k ∈ rule.kinds := by
  rw [subscribers_ofRules, map_fst_filter_zipIdx]

variable {t : SyntaxTree}

/-- With right answers in the memo, an inquiry has the result that it has without one, and leaves
right answers for the next. -/
theorem Inquiry.run_of_sound {α : Type} (q : Inquiry t α) (m : Memo t) (h : m.Sound) :
    (q.run m).1 = q.eval ∧ (q.run m).2.Sound := by
  induction q generalizing m with
  | done a => exact ⟨rfl, h⟩
  | fail failure => exact ⟨rfl, h⟩
  | ask scope c next ih =>
    obtain ⟨hanswer, hsound⟩ := h.ask scope c
    have hnext := ih (m.ask scope c).1 (m.ask scope c).2 hsound
    rw [hanswer] at hnext
    simpa only [run, eval, hanswer] using hnext

/-- A rule, known by its number, is shown a node. -/
structure Visit (t : SyntaxTree) where
  node : Cursor t
  index : Nat
  rule : Rule

namespace Visit

/-- What the rule makes of the node if each of its questions is answered by walking up. -/
def result (v : Visit t) : Except Failure (List Finding) :=
  (v.rule.visit t v.node).eval

def findings (v : Visit t) : List Finding :=
  match v.result with
  | .ok found => found
  | .error _ => []

/-- What a visit that fails leaves behind. A failure without text is still told in words. -/
def diagnostic? (v : Visit t) : Option Diagnostic :=
  match v.result with
  | .ok _ => none
  | .error (.message text) =>
    some { ruleId := v.rule.info.id, node := v.node.id, message := text }
  | .error .silent =>
    some { ruleId := v.rule.info.id, node := v.node.id, message := "rule panicked" }

theorem diagnostic?_eq_some_iff (v : Visit t) (d : Diagnostic) :
    v.diagnostic? = some d ↔ d.ruleId = v.rule.info.id ∧ d.node = v.node.id ∧
      (v.result = .error (.message d.message) ∨
        v.result = .error .silent ∧ d.message = "rule panicked") := by
  obtain ⟨ruleId, node, message⟩ := d
  unfold diagnostic?
  cases v.result with
  | ok found => simp
  | error failure =>
    cases failure with
    | message text => simp [eq_comm]
    | silent => simp [eq_comm]

end Visit

/-- The nodes in document order, each with the rules that want its kind in their order. -/
def visits (rules : List Rule) (t : SyntaxTree) : List (Visit t) :=
  t.rootCursor.order.flatMap fun c =>
    (rules.zipIdx.filter fun r => c.kind ∈ r.1.kinds).map fun r => ⟨c, r.2, r.1⟩

theorem mem_visits_iff (rules : List Rule) (v : Visit t) :
    v ∈ visits rules t ↔ rules[v.index]? = some v.rule ∧ v.node.kind ∈ v.rule.kinds := by
  obtain ⟨c, i, rule⟩ := v
  simp only [visits, List.mem_flatMap, List.mem_map, List.mem_filter, decide_eq_true_eq,
    Visit.mk.injEq, Prod.exists, List.mem_zipIdx_iff_getElem?]
  constructor
  · rintro ⟨_, _, _, _, ⟨hrule, hkind⟩, rfl, rfl, rfl⟩
    exact ⟨hrule, hkind⟩
  · rintro ⟨hrule, hkind⟩
    exact ⟨c, t.mem_order_rootCursor c, rule, i, ⟨hrule, hkind⟩, rfl, rfl, rfl⟩

theorem nodup_visits (rules : List Rule) (t : SyntaxTree) :
    ((visits rules t).map fun v => (v.node, v.index)).Nodup := by
  have hnumbers (c : Cursor t) :
      ((rules.zipIdx.filter fun r => c.kind ∈ r.1.kinds).map Prod.snd).Nodup := by
    have hall : (rules.zipIdx.map Prod.snd).Nodup := by
      rw [List.zipIdx_map_snd]
      exact List.nodup_range'
    exact hall.sublist ((List.filter_sublist ..).map Prod.snd)
  simp only [visits, List.map_flatMap, List.map_map, Function.comp_def]
  refine List.nodup_flatMap.mpr ⟨fun c _ => ?_, ?_⟩
  · have hpairs := (hnumbers c).map (f := Prod.mk c) fun _ _ heq => (Prod.mk.inj heq).2
    rwa [List.map_map] at hpairs
  · refine List.Pairwise.imp ?_ (Cursor.nodup_order t.rootCursor)
    intro c d hne x hc hd
    obtain ⟨_, _, rfl⟩ := List.mem_map.mp hc
    obtain ⟨_, _, heq⟩ := List.mem_map.mp hd
    exact hne (congrArg Prod.fst heq).symm

namespace Engine

variable {σ : Type}

/-- A scan shows the visits one after the other. -/
theorem scanInto_eq_foldl_visits (rules : List Rule) (t : SyntaxTree)
    (report : σ → Finding → σ) (sink : σ) :
    (Engine.ofRules rules).scanInto t report sink =
      let p : Progress σ t := (visits rules t).foldl (fun p v => present report v.node p v.rule)
        { memo := Memo.empty t, sink }
      (p.sink, p.diagnostics.toList) := by
  simp only [scanInto, subscribers_ofRules, SyntaxTree.cursors_eq_order, visits,
    List.foldl_flatMap, List.foldl_map]

/-- One visit reports the findings or leaves the diagnostic, and keeps the memo right. -/
theorem present_of_sound (report : σ → Finding → σ) (v : Visit t) (p : Progress σ t)
    (h : p.memo.Sound) :
    let q := present report v.node p v.rule
    q.memo.Sound ∧ q.sink = v.findings.foldl report p.sink ∧
      q.diagnostics.toList = p.diagnostics.toList ++ v.diagnostic?.toList := by
  obtain ⟨hresult, hsound⟩ := Inquiry.run_of_sound (v.rule.visit t v.node) p.memo h
  cases hrun : (v.rule.visit t v.node).run p.memo with
  | mk outcome memo =>
    rw [hrun] at hresult hsound
    cases outcome with
    | ok found =>
      simpa [present, hrun, Visit.findings, Visit.diagnostic?, Visit.result, ← hresult]
        using hsound
    | error failure =>
      cases failure with
      | message text =>
        simpa [present, hrun, Visit.findings, Visit.diagnostic?, Visit.result, ← hresult,
          Failure.text] using hsound
      | silent =>
        simpa [present, hrun, Visit.findings, Visit.diagnostic?, Visit.result, ← hresult,
          Failure.text] using hsound

theorem foldl_present_of_sound (report : σ → Finding → σ) (vs : List (Visit t))
    (p : Progress σ t) (h : p.memo.Sound) :
    let q := vs.foldl (fun p v => present report v.node p v.rule) p
    q.sink = (vs.flatMap Visit.findings).foldl report p.sink ∧
      q.diagnostics.toList = p.diagnostics.toList ++ vs.filterMap Visit.diagnostic? := by
  induction vs generalizing p with
  | nil => simp
  | cons v vs ih =>
    obtain ⟨hsound, hsink, hdiagnostics⟩ := present_of_sound report v p h
    obtain ⟨hrest, hrestDiagnostics⟩ := ih _ hsound
    refine ⟨?_, ?_⟩
    · rw [List.foldl_cons, hrest, hsink, List.flatMap_cons, List.foldl_append]
    · rw [List.foldl_cons, hrestDiagnostics, hdiagnostics, List.append_assoc]
      cases hv : v.diagnostic? with
      | none => simp [hv]
      | some diagnostic => simp [hv]

theorem scanInto_ofRules (rules : List Rule) (t : SyntaxTree) (report : σ → Finding → σ)
    (sink : σ) :
    (Engine.ofRules rules).scanInto t report sink =
      (((visits rules t).flatMap Visit.findings).foldl report sink,
        (visits rules t).filterMap Visit.diagnostic?) := by
  obtain ⟨hsink, hdiagnostics⟩ := foldl_present_of_sound report (visits rules t)
    { memo := Memo.empty t, sink } (Memo.sound_empty t)
  rw [scanInto_eq_foldl_visits]
  simp only [hsink, hdiagnostics, List.nil_append]

theorem scan_ofRules (rules : List Rule) (t : SyntaxTree) :
    (Engine.ofRules rules).scan t =
      { findings := (visits rules t).flatMap Visit.findings
        diagnostics := (visits rules t).filterMap Visit.diagnostic? } := by
  rw [scan, scanInto_ofRules]
  simp

/-- A scan with a list of rules shows each node once to each rule that wants its kind, in document
order and then in the order of the rules. The sink is told all findings of the visits that
succeed, in that order, and the visits that fail give the diagnostics, with the text of the
failure or with words of the engine's own where it has none; the memo shared by the rules does
not show. -/
theorem scanInto_eq_visits (rules : List Rule) (t : SyntaxTree) (report : σ → Finding → σ)
    (sink : σ) :
    ((Engine.ofRules rules).scanInto t report sink =
      let p : Progress σ t := (visits rules t).foldl (fun p v => present report v.node p v.rule)
        { memo := Memo.empty t, sink }
      (p.sink, p.diagnostics.toList)) ∧
    ((visits rules t).map fun v => (v.node, v.index)).Nodup ∧
    (∀ v : Visit t,
      v ∈ visits rules t ↔ rules[v.index]? = some v.rule ∧ v.node.kind ∈ v.rule.kinds) ∧
    (Engine.ofRules rules).scanInto t report sink =
      (((visits rules t).flatMap Visit.findings).foldl report sink,
        (visits rules t).filterMap Visit.diagnostic?) ∧
    (∀ (v : Visit t) (d : Diagnostic),
      v.diagnostic? = some d ↔ d.ruleId = v.rule.info.id ∧ d.node = v.node.id ∧
        (v.result = .error (.message d.message) ∨
          v.result = .error .silent ∧ d.message = "rule panicked")) ∧
    (Engine.ofRules rules).scan t =
      { findings := (visits rules t).flatMap Visit.findings
        diagnostics := (visits rules t).filterMap Visit.diagnostic? } := by
  refine ⟨scanInto_eq_foldl_visits rules t report sink, nodup_visits rules t, ?_, ?_, ?_, ?_⟩
  · intro v
    exact mem_visits_iff rules v
  · exact scanInto_ofRules rules t report sink
  · intro v d
    exact Visit.diagnostic?_eq_some_iff v d
  · exact scan_ofRules rules t

end Engine

end SecurityLint
