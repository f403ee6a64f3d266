import SecurityLint.Proofs.Counterparts
import SecurityLint.Rule.PlaintextSecret

/-!
What plaintext secrets reports. Pairs of secret keys and values are reported together, about the
first of them and with the others as evidence. Everything reported is a child of the node that
was visited, but for the pairs of an array that is passed to a storage call: they are children of
the array, and their message names the call. The rule is uniform: whether an array is passed to a
storage call is asked of its parent, where counterparts stand in the same place.
-/
namespace SecurityLint.PlaintextSecret

variable {t : SyntaxTree} {r : PlaintextSecret} {c : Cursor t} {f : Finding}

attribute [local irreducible] snippet?

theorem eval_visit (r : PlaintextSecret) (c : Cursor t) :
    (r.rule.visit t c).eval = .ok (r.visit c) :=
  rfl

/-- What a finding about several pairs says about one of the further pairs. -/
def pairEvidence (p : PlainPair t) : Evidence where
  description := s!"Plaintext key '{p.key}'"
  node := p.anchor.id
  location := p.anchor.location?
  snippet := snippet? p.anchor.text

/-- The message about pairs found in a place; it lists their keys. -/
def pairsMessage (pairs : List (PlainPair t)) (place : String) : String :=
  let keys := ", ".intercalate (pairs.map fun p => s!"'{p.key}'")
  if pairs.any (·.isRaw) then
    s!"OTP should not be stored in plaintext {place} (key {keys}). " ++
      "Use a secure hashing function with a salt."
  else
    s!"Potential plaintext OTP detected {place} (key {keys}). Use a secure hashing function."

/-- The finding about a pair and further pairs in a place. -/
def pairsFinding (first : PlainPair t) (more : List (PlainPair t)) (place : String) : Finding :=
  { Finding.new info first.anchor (pairsMessage (first :: more) place) with
    confidence := if (first :: more).any (·.isRaw) then .high else .medium
    remediation := some hashRemediation
    evidence := more.map pairEvidence }

theorem foldl_withEvidence (more : List (PlainPair t)) (f : Finding) :
    more.foldl (fun f p => f.withEvidence s!"Plaintext key '{p.key}'" p.anchor) f =
      { f with evidence := f.evidence ++ more.map pairEvidence } := by
  induction more generalizing f with
  | nil => simp only [List.foldl_nil, List.map_nil, List.append_nil]
  | cons p more ih =>
    have hone : f.withEvidence s!"Plaintext key '{p.key}'" p.anchor =
        { f with evidence := f.evidence ++ [pairEvidence p] } := rfl
    rw [List.foldl_cons, ih, hone]
    simp only [List.map_cons, List.append_assoc, List.cons_append, List.nil_append]

theorem reportPairs_nil (place : String) : reportPairs ([] : List (PlainPair t)) place = none :=
  rfl

theorem reportPairs_cons (first : PlainPair t) (more : List (PlainPair t)) (place : String) :
    reportPairs (first :: more) place = some (pairsFinding first more place) := by
  simp only [reportPairs, foldl_withEvidence, pairsFinding, pairsMessage, Finding.new,
    Finding.withConfidence, Finding.withRemediation, List.nil_append]

theorem reportPairs_eq_some_iff {pairs : List (PlainPair t)} {place : String} :
    reportPairs pairs place = some f ↔
      ∃ first more, pairs = first :: more ∧ f = pairsFinding first more place := by
  cases pairs with
  | nil => simp [reportPairs_nil]
  | cons first more =>
    rw [reportPairs_cons, Option.some.injEq]
    constructor
    · intro hf
      exact ⟨first, more, rfl, hf.symm⟩
    · rintro ⟨first', more', hpairs, rfl⟩
      obtain ⟨rfl, rfl⟩ := List.cons.inj hpairs
      rfl

theorem reports_pairsFinding (first : PlainPair t) (more : List (PlainPair t)) (place : String) :
    (pairsFinding first more place).Reports info first.anchor
      (pairsMessage (first :: more) place) (more.map (·.anchor)) where
  ruleId := rfl
  anchor := rfl
  location := rfl
  snippet := rfl
  message := rfl
  evidence e he := by
    obtain ⟨p, hp, rfl⟩ := List.mem_map.mp he
    exact ⟨p.anchor, List.mem_map_of_mem hp, rfl, rfl, rfl⟩

/-- How messages about pairs in a place begin. -/
def pairsLeads (place : String) : List String :=
  ["OTP should not be stored in plaintext " ++ place, "Potential plaintext OTP detected " ++ place]

theorem opensWith_pairsMessage (pairs : List (PlainPair t)) (place rest : String) :
    Text.opensWith (pairsLeads place) (pairsMessage pairs (place ++ rest)) = true := by
  have hopens (leads : List String) (first middle keys last : String)
      (h : first ++ place ∈ leads) :
      Text.opensWith leads (first ++ (place ++ rest) ++ middle ++ keys ++ last) = true := by
    apply Text.opensWith_append
    apply Text.opensWith_append
    apply Text.opensWith_append
    rw [← String.append_assoc]
    apply Text.opensWith_append
    exact List.any_eq_true.mpr ⟨_, h, List.isPrefixOf_iff_prefix.mpr (List.prefix_refl _)⟩
  unfold pairsMessage
  dsimp only
  split
  · apply Text.opensWith_append
    exact hopens _ _ _ _ _ List.mem_cons_self
  · exact hopens _ _ _ _ _ (List.mem_cons_of_mem _ List.mem_cons_self)

theorem opensWith_storageMessage (pairs : List (PlainPair t)) (method : String) :
    Text.opensWith (pairsLeads "when using ")
      (pairsMessage pairs s!"when using {method}()") = true := by
  have hplace : s!"when using {method}()" = "when using " ++ (method ++ "()") :=
    String.append_assoc
  rw [hplace]
  exact opensWith_pairsMessage pairs _ _

theorem opensWith_arrayMessage (pairs : List (PlainPair t)) :
    Text.opensWith (pairsLeads "in array literal")
      (pairsMessage pairs "in array literal") = true := by
  have hopens := opensWith_pairsMessage pairs "in array literal" ""
  rwa [String.append_empty] at hopens

theorem storage_clash_array :
    Text.clash (pairsLeads "when using ") (pairsLeads "in array literal") = true := by
  decide +kernel

theorem anchor_of_plainPair? {anchor value : Cursor t} {key : String} {p : PlainPair t}
    (h : r.plainPair? anchor key value = some p) : p.anchor = anchor := by
  simp only [plainPair?, Option.ite_none_right_eq_some, Option.some.injEq] at h
  obtain ⟨_, rfl⟩ := h
  rfl

theorem anchor_of_offendingPair? {pair : Cursor t} {p : PlainPair t}
    (h : r.offendingPair? pair = some p) : p.anchor = pair := by
  simp only [offendingPair?, Option.bind_eq_bind, Option.bind_none, Option.bind_eq_some_iff,
    Option.ite_none_left_eq_some] at h
  obtain ⟨_, _, _, _, _, _, _, hplain⟩ := h
  exact anchor_of_plainPair? hplain

theorem anchor_mem_children {array : Cursor t} {pairs : List (PlainPair t)}
    (h : r.plainPairs array = pairs) {p : PlainPair t} (hp : p ∈ pairs) :
    p.anchor ∈ array.children := by
  rw [← h] at hp
  obtain ⟨pair, hpair, hoffending⟩ := List.mem_filterMap.mp hp
  rwa [anchor_of_offendingPair? hoffending]

theorem anchor_mem_arguments {p : PlainPair t} (h : r.positionalPair? c = some p) :
    p.anchor ∈ c.arguments := by
  unfold positionalPair? at h
  split at h
  · cases h
  · next first rest harguments =>
    rw [harguments]
    apply List.mem_cons_of_mem
    split at h
    · obtain ⟨value, hvalue, hplain⟩ := Option.bind_eq_some_iff.mp h
      rw [anchor_of_plainPair? hplain]
      exact List.mem_of_mem_head? hvalue
    · obtain ⟨arg, harg, rfl⟩ := Option.map_eq_some_iff.mp h
      exact List.mem_of_find?_eq_some harg

/-- What a visit of `c` can report: a child of `c`, or a pair in an array that is a child of `c`.
Only the message of the second kind names a call, and an array reports no child in that way. -/
inductive Target (c : Cursor t) : Cursor t → String → Prop
  | child {d : Cursor t} {text : String} (hd : d ∈ c.children)
      (hlead : c.kind = .arrayLiteral →
        Text.opensWith (pairsLeads "in array literal") text = true) : Target c d text
  | pair {array d : Cursor t} {text : String} (harray : array ∈ c.children)
      (hkind : array.kind = .arrayLiteral) (hd : d ∈ array.children)
      (hlead : Text.opensWith (pairsLeads "when using ") text = true) : Target c d text

/-- The node that was visited can be told from the node and the message of a finding. -/
theorem Target.unique {c c' d : Cursor t} {text : String} (h : Target c d text)
    (h' : Target c' d text) : c = c' := by
  cases h with
  | child hd hlead =>
    cases h' with
    | child hd' _ => exact Cursor.eq_of_mem_children hd hd'
    | pair _ hkind hd' hlead' =>
      obtain rfl := Cursor.eq_of_mem_children hd hd'
      exact absurd rfl (Text.ne_of_clash storage_clash_array hlead' (hlead hkind))
  | pair harray hkind hd hlead =>
    cases h' with
    | child hd' hlead' =>
      obtain rfl := Cursor.eq_of_mem_children hd hd'
      exact absurd rfl (Text.ne_of_clash storage_clash_array hlead (hlead' hkind))
    | pair harray' _ hd' _ =>
      obtain rfl := Cursor.eq_of_mem_children hd hd'
      exact Cursor.eq_of_mem_children harray harray'

/-- A visit of `c` can give the finding. -/
def Gives (c : Cursor t) (f : Finding) : Prop :=
  ∃ d support, Target c d f.message ∧ f.Reports info d f.message support ∧
    ∀ e ∈ support, c.Covers e

theorem gives_of_reports_child {d : Cursor t} {text : String} (hkind : c.kind ≠ .arrayLiteral)
    (hd : d ∈ c.children) (hf : f.Reports info d text []) : Gives c f := by
  refine ⟨d, [], .child hd fun harray => absurd harray hkind, ?_, fun _ he => absurd he (by simp)⟩
  rw [hf.message]
  exact hf

theorem gives_of_stored {array : Cursor t} {first : PlainPair t} {more : List (PlainPair t)}
    (harray : array ∈ c.children) (hkind : array.kind = .arrayLiteral)
    (hpairs : r.plainPairs array = first :: more) (method : String) :
    Gives c (pairsFinding first more s!"when using {method}()") := by
  refine ⟨first.anchor, _, ?_, reports_pairsFinding first more _, ?_⟩
  · exact .pair harray hkind (anchor_mem_children hpairs List.mem_cons_self)
      (opensWith_storageMessage _ method)
  · intro e he
    obtain ⟨p, hp, rfl⟩ := List.mem_map.mp he
    exact (Cursor.covers_of_mem_children harray).child
      (anchor_mem_children hpairs (List.mem_cons_of_mem _ hp))

/-- A storage call is reported for the pairs of an array or for one pair among its arguments. -/
theorem checkStorageCall_eq_some_iff : r.checkStorageCall c = some f ↔
    ∃ method first more, r.storageMethod? c = some method ∧
      f = pairsFinding first more s!"when using {method}()" ∧
      ∃ arg, c.firstArgument? = some arg ∧
        ((arg.kind = .arrayLiteral ∧ r.plainPairs arg = first :: more) ∨
          (arg.kind ≠ .arrayLiteral ∧ more = [] ∧ r.positionalPair? c = some first)) := by
  have hpairs (arg : Cursor t) (first : PlainPair t) (more : List (PlainPair t)) :
      (if arg.is .arrayLiteral then r.plainPairs arg else (r.positionalPair? c).toList) =
          first :: more ↔
        (arg.kind = .arrayLiteral ∧ r.plainPairs arg = first :: more) ∨
          (arg.kind ≠ .arrayLiteral ∧ more = [] ∧ r.positionalPair? c = some first) := by
    by_cases hkind : arg.kind = .arrayLiteral
    · simp [Cursor.is, hkind]
    · cases r.positionalPair? c with
      | none => simp [Cursor.is, hkind]
      | some p =>
        simp only [Cursor.is, hkind, beq_iff_eq, if_false, Option.toList_some, List.cons.injEq,
          false_and, false_or, ne_eq, not_false_eq_true, true_and, Option.some.injEq]
        rw [and_comm, eq_comm (a := more)]
  simp only [checkStorageCall, Option.bind_eq_bind, Option.bind_eq_some_iff,
    reportPairs_eq_some_iff, hpairs]
  constructor
  · rintro ⟨method, hmethod, arg, harg, first, more, hfound, rfl⟩
    exact ⟨method, first, more, hmethod, rfl, arg, harg, hfound⟩
  · rintro ⟨method, first, more, hmethod, rfl, arg, harg, hfound⟩
    exact ⟨method, hmethod, arg, harg, first, more, hfound, rfl⟩

theorem gives_of_checkStorageCall (hkind : c.kind ≠ .arrayLiteral)
    (h : r.checkStorageCall c = some f) : Gives c f := by
  obtain ⟨method, first, more, _, rfl, arg, harg, hfound⟩ := checkStorageCall_eq_some_iff.mp h
  rcases hfound with ⟨harray, hpairs⟩ | ⟨_, rfl, hpair⟩
  · exact gives_of_stored (Cursor.mem_children_of_firstArgument? harg) harray hpairs method
  · exact gives_of_reports_child hkind
      (Cursor.mem_children_of_mem_arguments (anchor_mem_arguments hpair))
      (reports_pairsFinding first [] _)

theorem opensWith_of_checkStorageCall (h : r.checkStorageCall c = some f) :
    Text.opensWith (pairsLeads "") f.message = true := by
  obtain ⟨method, first, more, _, rfl, _⟩ := checkStorageCall_eq_some_iff.mp h
  have hopens := opensWith_pairsMessage (first :: more) "" s!"when using {method}()"
  rwa [String.empty_append] at hopens

theorem reports_of_checkLogCall (h : r.checkLogCall c = some f) :
    ∃ arg ∈ c.arguments, f.Reports info arg f.message [] ∧
      Text.opensWith ["OTP values"] f.message = true := by
  simp only [checkLogCall, Option.bind_eq_bind, Option.bind_none, Option.bind_eq_some_iff,
    Option.ite_none_left_eq_some, Option.pure_def, Option.some.injEq] at h
  obtain ⟨name, _, _, arg, harg, rfl⟩ := h
  refine ⟨arg, List.mem_of_find?_eq_some harg,
    (Finding.reports_new info arg _ []).withRemediation _, ?_⟩
  apply Text.opensWith_append
  apply Text.opensWith_append
  apply Text.opensWith_append
  apply Text.opensWith_append
  exact Text.opensWith_append (by decide +kernel) _

theorem reports_of_checkQuery (h : r.checkQuery c = some f) :
    ∃ arg ∈ c.arguments, f.Reports info arg f.message [] ∧
      Text.opensWith ["SQL"] f.message = true := by
  simp only [checkQuery, Option.bind_eq_bind, Option.bind_none, Option.bind_eq_some_iff,
    Option.ite_none_left_eq_some, Option.pure_def, Option.some.injEq] at h
  obtain ⟨callee, _, _, arg, harg, rfl⟩ := h
  exact ⟨arg, List.mem_of_find?_eq_some harg,
    ((Finding.reports_new info arg _ []).withConfidence _).withRemediation _,
    Text.opensWith_append (by decide +kernel) _⟩

theorem reports_of_checkSessionWrite (h : r.checkSessionWrite c = some f) :
    ∃ d text, c.child? 0 = some d ∧ f.Reports info d text [] := by
  simp only [checkSessionWrite, Option.bind_eq_bind, Option.bind_none, Option.bind_eq_some_iff,
    Option.ite_none_left_eq_some, Option.pure_def, Option.some.injEq] at h
  obtain ⟨target, htarget, _, _, rfl⟩ := h
  exact ⟨target, _, htarget, (Finding.reports_new info target _ []).withRemediation _⟩

theorem reports_of_checkCookieWrite (h : r.checkCookieWrite c = some f) :
    ∃ d text, c.child? 1 = some d ∧ f.Reports info d text [] := by
  simp only [checkCookieWrite, Option.bind_eq_bind, Option.bind_none, Option.bind_eq_some_iff,
    Option.ite_none_left_eq_some, Option.pure_def, Option.some.injEq] at h
  obtain ⟨_, _, value, hvalue, _, rfl⟩ := h
  exact ⟨value, _, hvalue, (Finding.reports_new info value _ []).withRemediation _⟩

theorem gives_of_checkArray (h : r.checkArray c = some f) : Gives c f := by
  simp only [checkArray, Option.ite_none_left_eq_some, reportPairs_eq_some_iff] at h
  obtain ⟨_, first, more, hpairs, rfl⟩ := h
  refine ⟨first.anchor, _, ?_, reports_pairsFinding first more _, ?_⟩
  · exact .child (anchor_mem_children hpairs List.mem_cons_self) fun _ => opensWith_arrayMessage _
  · intro e he
    obtain ⟨p, hp, rfl⟩ := List.mem_map.mp he
    exact Cursor.covers_of_mem_children (anchor_mem_children hpairs (List.mem_cons_of_mem _ hp))

theorem gives_of_mem_visit (h : f ∈ r.visit c) : Gives c f := by
  unfold visit at h
  split at h
  · next hkind =>
    have hcall : c.kind ≠ .arrayLiteral := by simp [hkind]
    simp only [List.mem_filterMap, List.mem_cons, List.not_mem_nil, or_false, id_eq,
      exists_eq_or_imp, exists_eq_left] at h
    rcases h with hstorage | hlog | hquery
    · exact gives_of_checkStorageCall hcall hstorage
    · obtain ⟨arg, harg, hf, _⟩ := reports_of_checkLogCall hlog
      exact gives_of_reports_child hcall (Cursor.mem_children_of_mem_arguments harg) hf
    · obtain ⟨arg, harg, hf, _⟩ := reports_of_checkQuery hquery
      exact gives_of_reports_child hcall (Cursor.mem_children_of_mem_arguments harg) hf
  · next hkind =>
    have hassignment : c.kind ≠ .arrayLiteral := by simp [hkind]
    simp only [List.mem_filterMap, List.mem_cons, List.not_mem_nil, or_false, id_eq,
      exists_eq_or_imp, exists_eq_left] at h
    rcases h with hsession | hcookie
    · obtain ⟨d, _, hd, hf⟩ := reports_of_checkSessionWrite hsession
      exact gives_of_reports_child hassignment (Cursor.mem_children_of_child? hd) hf
    · obtain ⟨d, _, hd, hf⟩ := reports_of_checkCookieWrite hcookie
      exact gives_of_reports_child hassignment (Cursor.mem_children_of_child? hd) hf
  · exact gives_of_checkArray (by simpa using h)
  · cases h

theorem storage_clash_log : Text.clash (pairsLeads "") ["OTP values"] = true := by
  decide +kernel

theorem storage_clash_query : Text.clash (pairsLeads "") ["SQL"] = true := by
  decide +kernel

theorem log_clash_query : Text.clash ["OTP values"] ["SQL"] = true := by
  decide +kernel

/-- The checks of one call have messages that begin differently. -/
theorem pairwise_callChecks (r : PlaintextSecret) (c : Cursor t) :
    ([r.checkStorageCall c, r.checkLogCall c, r.checkQuery c].filterMap id).Pairwise
      Finding.Differs := by
  rw [List.pairwise_filterMap]
  simp only [List.pairwise_cons, List.mem_cons, List.not_mem_nil, or_false, forall_eq_or_imp,
    forall_eq, id_eq, List.Pairwise.nil, and_true, false_implies, implies_true]
  refine ⟨⟨?_, ?_⟩, ?_⟩
  · intro f hstorage g hlog _
    obtain ⟨_, _, _, hopens⟩ := reports_of_checkLogCall hlog
    exact Text.ne_of_clash storage_clash_log (opensWith_of_checkStorageCall hstorage) hopens
  · intro f hstorage g hquery _
    obtain ⟨_, _, _, hopens⟩ := reports_of_checkQuery hquery
    exact Text.ne_of_clash storage_clash_query (opensWith_of_checkStorageCall hstorage) hopens
  · intro f hlog g hquery _
    obtain ⟨_, _, _, hopens⟩ := reports_of_checkLogCall hlog
    obtain ⟨_, _, _, hopens'⟩ := reports_of_checkQuery hquery
    exact Text.ne_of_clash log_clash_query hopens hopens'

/-- The checks of one assignment are about its two sides. -/
theorem pairwise_assignmentChecks (r : PlaintextSecret) (c : Cursor t) :
    ([r.checkSessionWrite c, r.checkCookieWrite c].filterMap id).Pairwise Finding.Differs := by
  rw [List.pairwise_filterMap]
  simp only [List.pairwise_cons, List.mem_cons, List.not_mem_nil, or_false,
    forall_eq, id_eq, List.Pairwise.nil, and_true, false_implies, implies_true]
  intro f hsession g hcookie
  obtain ⟨target, _, htarget, hf⟩ := reports_of_checkSessionWrite hsession
  obtain ⟨value, _, hvalue, hg⟩ := reports_of_checkCookieWrite hcookie
  apply hf.differs_of_anchor_ne hg
  rintro rfl
  exact absurd (Cursor.eq_of_child? htarget hvalue) (by decide)

theorem pairwise_visit (r : PlaintextSecret) (c : Cursor t) :
    (r.visit c).Pairwise Finding.Differs := by
  unfold visit
  split
  · exact r.pairwise_callChecks c
  · exact r.pairwise_assignmentChecks c
  · cases r.checkArray c with
    | none => exact .nil
    | some f => exact List.pairwise_singleton _ _
  · exact .nil

theorem Target.covers {d : Cursor t} {text : String} (h : Target c d text) : c.Covers d := by
  cases h with
  | child hd _ => exact Cursor.covers_of_mem_children hd
  | pair harray _ hd _ => exact (Cursor.covers_of_mem_children harray).child hd

theorem lawful (r : PlaintextSecret) : r.rule.Lawful := by
  apply Rule.lawful_of_target Target Target.unique r.eval_visit
  · intro t c f hf
    obtain ⟨d, support, htarget, hreports, hsupport⟩ := gives_of_mem_visit hf
    exact ⟨d, f.message, support, htarget, hreports, htarget.covers, hsupport⟩
  · exact r.pairwise_visit

theorem visit_eq_nil (h : c.kind ∉ kinds) : r.visit c = [] := by
  unfold visit
  split
  · next hkind => simp [hkind, kinds] at h
  · next hkind => simp [hkind, kinds] at h
  · next hkind => simp [hkind, kinds] at h
  · rfl

theorem selective (r : PlaintextSecret) : r.rule.Selective :=
  fun _ hkind => congrArg pure (visit_eq_nil hkind)

section Uniform

variable {u : SyntaxTree} {R : Cursor t → Cursor u → Prop} {d : Cursor u}

/-- Pairs with the same key about counterparts. -/
structure LikePair (R : Cursor t → Cursor u → Prop) (p : PlainPair t) (q : PlainPair u) :
    Prop where
  anchor : R p.anchor q.anchor
  key : q.key = p.key
  isRaw : q.isRaw = p.isRaw

theorem storageMethod?_eq (r : PlaintextSecret) (h : Counterparts R) (hcd : R c d) :
    r.storageMethod? d = r.storageMethod? c := by
  unfold storageMethod?
  obtain ⟨hnone, hnone'⟩ | ⟨call, call', hcall, hcall', hpair⟩ := cases_of_rel (h.memberCall? hcd)
  · rw [hnone, hnone', h.calleeName? hcd]
  · rw [hcall, hcall']
    simp only [hpair.method, h.text hpair.receiver]

theorem like_plainPair? (r : PlaintextSecret) (h : Counterparts R) {anchor value : Cursor t}
    {anchor' value' : Cursor u} (hanchor : R anchor anchor') (hvalue : R value value')
    (key : String) :
    Option.Rel (LikePair R) (r.plainPair? anchor key value) (r.plainPair? anchor' key value') := by
  simp only [plainPair?, h.origin hvalue, h.callsOneOf hvalue]
  split
  · exact .some ⟨hanchor, rfl, rfl⟩
  · exact .none

theorem like_offendingPair? (r : PlaintextSecret) (h : Counterparts R) (hcd : R c d) :
    Option.Rel (LikePair R) (r.offendingPair? c) (r.offendingPair? d) := by
  simp only [offendingPair?, Option.bind_eq_bind, Option.bind_none, h.is hcd]
  split
  · exact .none
  · refine rel_bind (h.child? hcd 0) fun hkey => ?_
    refine rel_bind (h.child? hcd 1) fun hvalue => ?_
    rw [h.stringValue? hkey]
    cases Cursor.stringValue? _ with
    | none => exact .none
    | some key => exact r.like_plainPair? h hcd hvalue key

theorem like_plainPairs (r : PlaintextSecret) (h : Counterparts R) (hcd : R c d) :
    List.Forall₂ (LikePair R) (r.plainPairs c) (r.plainPairs d) :=
  List.rel_filterMap (fun _ _ hab => r.like_offendingPair? h hab) (h.children hcd)

theorem like_secretVariable? (r : PlaintextSecret) (h : Counterparts R) {args : List (Cursor t)}
    {args' : List (Cursor u)} (hargs : List.Forall₂ R args args') :
    Option.Rel (LikePair R) (r.secretVariable? args) (r.secretVariable? args') := by
  refine rel_map (rel_find? hargs fun hab => ?_) fun hab => ⟨hab, h.nameOrText hab, rfl⟩
  rw [h.is hab, h.nameOrText hab]

theorem like_positionalPair? (r : PlaintextSecret) (h : Counterparts R) (hcd : R c d) :
    Option.Rel (LikePair R) (r.positionalPair? c) (r.positionalPair? d) := by
  have hargs := h.arguments hcd
  unfold positionalPair?
  generalize c.arguments = args at hargs
  generalize d.arguments = args' at hargs
  cases hargs with
  | nil => exact .none
  | cons hfirst hrest =>
    simp only [h.stringValue? hfirst, List.head?_eq_getElem?]
    split
    · exact rel_bind (rel_getElem? hrest 0) fun hvalue => r.like_plainPair? h hvalue hvalue _
    · exact r.like_secretVariable? h hrest

theorem pairsMessage_eq {pairs : List (PlainPair t)} {pairs' : List (PlainPair u)}
    (h : List.Forall₂ (LikePair R) pairs pairs') (place : String) :
    pairsMessage pairs' place = pairsMessage pairs place := by
  have hkeys := map_eq_of_forall₂ (f := fun p => s!"'{p.key}'") (g := fun p => s!"'{p.key}'") h
    fun hab => by rw [hab.key]
  rw [pairsMessage, pairsMessage, hkeys, any_eq_of_forall₂ h LikePair.isRaw]

theorem like_pairsFinding (h : Counterparts R) {first : PlainPair t} {first' : PlainPair u}
    {more : List (PlainPair t)} {more' : List (PlainPair u)} (hfirst : LikePair R first first')
    (hmore : List.Forall₂ (LikePair R) more more') (place : String) :
    Finding.Like R (pairsFinding first more place) (pairsFinding first' more' place) where
  gist := by
    have hall : List.Forall₂ (LikePair R) (first :: more) (first' :: more') := .cons hfirst hmore
    rw [pairsFinding, pairsFinding, pairsMessage_eq hall, any_eq_of_forall₂ hall LikePair.isRaw]
    simp only [Finding.new, Finding.gist, h.text hfirst.anchor]
  anchor := ⟨_, _, hfirst.anchor, rfl, rfl, rfl, rfl⟩
  evidence := by
    refine List.rel_map (fun p q hpq => ?_) hmore
    refine ⟨?_, p.anchor, q.anchor, hpq.anchor, ⟨rfl, rfl, rfl⟩, ⟨rfl, rfl, rfl⟩⟩
    exact congrArg (fun key => s!"Plaintext key '{key}'") hpq.key

theorem like_reportPairs (h : Counterparts R) {pairs : List (PlainPair t)}
    {pairs' : List (PlainPair u)} (hpairs : List.Forall₂ (LikePair R) pairs pairs')
    (place : String) :
    Option.Rel (Finding.Like R) (reportPairs pairs place) (reportPairs pairs' place) := by
  cases hpairs with
  | nil => exact .none
  | cons hfirst hmore =>
    rw [reportPairs_cons, reportPairs_cons]
    exact .some (like_pairsFinding h hfirst hmore place)

theorem like_checkStorageCall (r : PlaintextSecret) (h : Counterparts R) (hcd : R c d) :
    Option.Rel (Finding.Like R) (r.checkStorageCall c) (r.checkStorageCall d) := by
  simp only [checkStorageCall, Option.bind_eq_bind, r.storageMethod?_eq h hcd]
  cases r.storageMethod? c with
  | none => exact .none
  | some method =>
    rw [Option.bind_some, Option.bind_some]
    refine rel_bind (h.firstArgument? hcd) fun hfirst => ?_
    rw [h.is hfirst]
    split
    · exact like_reportPairs h (r.like_plainPairs h hfirst) _
    · exact like_reportPairs h (rel_toList (r.like_positionalPair? h hcd)) _

theorem like_checkLogCall (r : PlaintextSecret) (h : Counterparts R) (hcd : R c d) :
    Option.Rel (Finding.Like R) (r.checkLogCall c) (r.checkLogCall d) := by
  simp only [checkLogCall, Option.bind_eq_bind, Option.bind_none, h.calleeName? hcd]
  cases c.calleeName? with
  | none => exact .none
  | some name =>
    simp only [Option.bind_some]
    split
    · exact .none
    · have harg := rel_find? (p := fun a => r.secret.matchesIn a.text)
        (q := fun a => r.secret.matchesIn a.text) (h.arguments hcd) fun hab => by rw [h.text hab]
      refine rel_bind harg fun harg => ?_
      rw [h.text harg]
      exact .some ((Finding.like_new h harg info _).withRemediation _)

theorem isPlainQuery_eq (r : PlaintextSecret) (h : Counterparts R) (hcd : R c d) :
    r.isPlainQuery d = r.isPlainQuery c := by
  rw [isPlainQuery, isPlainQuery, h.stringValue? hcd, h.is hcd, h.text hcd]

theorem like_checkQuery (r : PlaintextSecret) (h : Counterparts R) (hcd : R c d) :
    Option.Rel (Finding.Like R) (r.checkQuery c) (r.checkQuery d) := by
  simp only [checkQuery, Option.bind_eq_bind, Option.bind_none]
  refine rel_bind (h.callee? hcd) fun hcallee => ?_
  rw [h.text hcallee]
  split
  · exact .none
  · refine rel_bind (rel_find? (h.arguments hcd) (r.isPlainQuery_eq h)) fun harg => ?_
    exact .some (((Finding.like_new h harg info _).withConfidence _).withRemediation _)

theorem like_checkSessionWrite (r : PlaintextSecret) (h : Counterparts R) (hcd : R c d) :
    Option.Rel (Finding.Like R) (r.checkSessionWrite c) (r.checkSessionWrite d) := by
  simp only [checkSessionWrite, Option.bind_eq_bind, Option.bind_none]
  refine rel_bind (h.child? hcd 0) fun htarget => ?_
  rw [h.is htarget, h.text htarget]
  split
  · exact .none
  · split
    · exact .none
    · exact .some ((Finding.like_new h htarget info _).withRemediation _)

theorem like_checkCookieWrite (r : PlaintextSecret) (h : Counterparts R) (hcd : R c d) :
    Option.Rel (Finding.Like R) (r.checkCookieWrite c) (r.checkCookieWrite d) := by
  simp only [checkCookieWrite, Option.bind_eq_bind, Option.bind_none]
  refine rel_bind (h.child? hcd 0) fun htarget => ?_
  refine rel_bind (h.child? hcd 1) fun hvalue => ?_
  rw [h.text htarget, h.text hvalue]
  split
  · exact .none
  · exact .some ((Finding.like_new h hvalue info _).withRemediation _)

theorem isStored_of_atTop (r : PlaintextSecret) (h : c.AtTop) : r.isStored c = false := by
  unfold isStored
  cases hparent : c.parent? with
  | none => rfl
  | some p =>
    have hno : p.firstArgument? = none := by
      simp [Cursor.firstArgument?, Cursor.arguments, Cursor.is, (h p hparent).1]
    simp [hno]

/-- An array and its counterpart are both stored or both not: where the one is the first argument
of its parent, so is the other. -/
theorem isStored_eq (r : PlaintextSecret) (h : Counterparts R) (hcd : R c d) :
    r.isStored d = r.isStored c := by
  obtain ⟨p, q, hp, hq, hpq⟩ | ⟨hc, hd⟩ := h.parent? hcd
  · have hfirst := any_eq_of_rel (p := fun a => a.id == c.id) (q := fun b => b.id == d.id)
      (h.firstArgument? hpq) fun {a b} hab => by
        have hsame : a = c ↔ b = d := Relator.rel_eq h.unique hab hcd
        rw [Bool.eq_iff_iff, beq_iff_eq, beq_iff_eq]
        constructor
        · intro hid
          rw [hsame.mpr (Cursor.eq_of_id_eq hid)]
        · intro hid
          rw [hsame.mp (Cursor.eq_of_id_eq hid)]
    simp only [isStored, hp, hq, Option.any_some, hfirst, r.storageMethod?_eq h hpq]
  · rw [r.isStored_of_atTop hc, r.isStored_of_atTop hd]

theorem like_checkArray (r : PlaintextSecret) (h : Counterparts R) (hcd : R c d) :
    Option.Rel (Finding.Like R) (r.checkArray c) (r.checkArray d) := by
  rw [checkArray, checkArray, r.isStored_eq h hcd]
  split
  · exact .none
  · exact like_reportPairs h (r.like_plainPairs h hcd) _

theorem like_visit (r : PlaintextSecret) (h : Counterparts R) (hcd : R c d) :
    List.Forall₂ (Finding.Like R) (r.visit c) (r.visit d) := by
  rw [visit, visit, h.kind hcd]
  split
  · exact List.rel_filterMap (fun _ _ hfound => hfound) <|
      .cons (r.like_checkStorageCall h hcd) <| .cons (r.like_checkLogCall h hcd) <|
        .cons (r.like_checkQuery h hcd) .nil
  · exact List.rel_filterMap (fun _ _ hfound => hfound) <|
      .cons (r.like_checkSessionWrite h hcd) <| .cons (r.like_checkCookieWrite h hcd) .nil
  · exact rel_toList (r.like_checkArray h hcd)
  · exact .nil

end Uniform

theorem uniform (r : PlaintextSecret) : r.rule.Uniform :=
  fun h _ _ hcd => r.like_visit h hcd

end SecurityLint.PlaintextSecret
