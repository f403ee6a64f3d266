import SecurityLint.Proofs.DistinctReports

/-!
Secrets in arrays are reported once. The pairs of an array are looked at twice: down from a
storage call that has the array as its first argument, and up from the array itself. The second
look passes over the arrays of the first, so every array with an offending pair is reported by
exactly one of them, or by none if it is not stored and the settings ask for no more.
-/
namespace SecurityLint.PlaintextSecret

variable {t : SyntaxTree} {r : PlaintextSecret} {array c : Cursor t} {f : Finding}

/-- The text of the key of a pair, without quotes. -/
def keyOf (pair : Cursor t) : String :=
  (pair.child? 0).elim "" fun key => Text.strip Cursor.isQuote (Text.trim key.text)

/-- Whether the value of a pair is a literal or a variable. -/
def hasRawValue (pair : Cursor t) : Bool :=
  (pair.child? 1).any fun value => value.is .literal || value.is .identifier

/-- The value is a call whose callee mentions a hash function. -/
def Hashed (r : PlaintextSecret) (value : Cursor t) : Prop :=
  value.kind = .functionCall ∧
    ∃ callee, value.child? 0 = some callee ∧ r.hashFunctions.occursIn callee.text = true

/-- A pair of a key and a value whose key is a string that names a secret, and whose value is a
literal, a variable or anything else but a hashed value. -/
structure Offending (r : PlaintextSecret) (pair : Cursor t) : Prop where
  isPair : pair.kind = .keyValuePair
  key : ∃ key, pair.child? 0 = some key ∧ key.kind = .literal ∧
    (key.node.literal = some .string ∨ key.node.literal = none)
  secret : r.secret.matchesIn (keyOf pair) = true
  value : ∃ value, pair.child? 1 = some value ∧
    (value.kind = .literal ∨ value.kind = .identifier ∨ ¬ r.Hashed value)

/-- What is reported about an offending pair. -/
def asPair (pair : Cursor t) : PlainPair t where
  anchor := pair
  key := keyOf pair
  isRaw := hasRawValue pair

theorem callsOneOf_iff (value : Cursor t) :
    value.callsOneOf r.hashFunctions = true ↔ r.Hashed value := by
  unfold Cursor.callsOneOf Cursor.callee? Hashed
  by_cases hcall : value.kind = .functionCall
  · simp [Cursor.is, hcall, Option.any_eq_true]
  · simp [Cursor.is, hcall]

theorem stringValue?_eq_some_iff (key : Cursor t) (text : String) :
    key.stringValue? = some text ↔
      key.kind = .literal ∧ (key.node.literal = some .string ∨ key.node.literal = none) ∧
        Text.strip Cursor.isQuote (Text.trim key.text) = text := by
  unfold Cursor.stringValue?
  by_cases hkind : key.kind = .literal
  · cases hclass : key.node.literal with
    | none => simp [Cursor.is, hkind]
    | some literalClass => cases literalClass <;> simp [Cursor.is, hkind]
  · simp [Cursor.is, hkind]

theorem origin_ne_other (value : Cursor t) :
    (value.origin != .other) = (value.is .literal || value.is .identifier) := by
  unfold Cursor.origin Cursor.is
  cases value.kind <;> rfl

theorem keyOf_eq {pair key : Cursor t} (h : pair.child? 0 = some key) :
    keyOf pair = Text.strip Cursor.isQuote (Text.trim key.text) := by
  rw [keyOf, h, Option.elim_some]

theorem hasRawValue_eq {pair value : Cursor t} (h : pair.child? 1 = some value) :
    hasRawValue pair = (value.is .literal || value.is .identifier) := by
  rw [hasRawValue, h, Option.any_some]

/-- A pair is taken exactly if it is offending. -/
theorem offendingPair?_eq_some_iff (pair : Cursor t) (p : PlainPair t) :
    r.offendingPair? pair = some p ↔ r.Offending pair ∧ asPair pair = p := by
  have hplain (value : Cursor t) :
      (value.is .literal || value.is .identifier || !value.callsOneOf r.hashFunctions) = true ↔
        value.kind = .literal ∨ value.kind = .identifier ∨ ¬ r.Hashed value := by
    simp [Cursor.is, ← callsOneOf_iff, or_assoc]
  simp only [offendingPair?, plainPair?, Option.bind_eq_bind, Option.bind_none,
    Option.bind_eq_some_iff, Option.ite_none_left_eq_some, Option.ite_none_right_eq_some,
    stringValue?_eq_some_iff, origin_ne_other, Option.some.injEq, Bool.and_eq_true, hplain]
  constructor
  · rintro ⟨hpair, key, hkey, value, hvalue, _, ⟨hkind, hclass, rfl⟩, ⟨hsecret, hplain⟩, rfl⟩
    refine ⟨⟨by simpa [Cursor.is] using hpair, ⟨key, hkey, hkind, hclass⟩, ?_,
      ⟨value, hvalue, hplain⟩⟩, ?_⟩
    · rwa [keyOf_eq hkey]
    · rw [asPair, keyOf_eq hkey, hasRawValue_eq hvalue]
  · rintro ⟨⟨hpair, ⟨key, hkey, hkind, hclass⟩, hsecret, ⟨value, hvalue, hplain⟩⟩, rfl⟩
    rw [keyOf_eq hkey] at hsecret
    refine ⟨by simp [Cursor.is, hpair], key, hkey, value, hvalue, _, ⟨hkind, hclass, rfl⟩,
      ⟨hsecret, hplain⟩, ?_⟩
    rw [asPair, keyOf_eq hkey, hasRawValue_eq hvalue]

theorem isSome_offendingPair?_iff (pair : Cursor t) :
    (r.offendingPair? pair).isSome = true ↔ r.Offending pair := by
  simp [Option.isSome_iff_exists, offendingPair?_eq_some_iff]

instance (r : PlaintextSecret) (pair : Cursor t) : Decidable (r.Offending pair) :=
  decidable_of_iff _ (isSome_offendingPair?_iff pair)

/-- The offending children of an array, in order. -/
def offending (r : PlaintextSecret) (array : Cursor t) : List (Cursor t) :=
  array.children.filter fun pair => r.Offending pair

theorem plainPairs_eq_map_offending (r : PlaintextSecret) (array : Cursor t) :
    r.plainPairs array = (r.offending array).map asPair := by
  unfold plainPairs offending
  induction array.children with
  | nil => rfl
  | cons pair rest ih =>
    by_cases hpair : r.Offending pair
    · have htaken := (offendingPair?_eq_some_iff pair _).mpr ⟨hpair, rfl⟩
      rw [List.filterMap_cons_some htaken, List.filter_cons_of_pos (by simpa using hpair),
        List.map_cons, ih]
    · have hleft : r.offendingPair? pair = none := by
        rw [← Option.not_isSome_iff_eq_none, isSome_offendingPair?_iff]
        exact hpair
      rw [List.filterMap_cons_none hleft, List.filter_cons_of_neg (by simpa using hpair), ih]

/-- The array is the first argument of a storage call. -/
def Stored (r : PlaintextSecret) (array : Cursor t) : Prop :=
  ∃ (call : Cursor t) (method : String),
    call.firstArgument? = some array ∧ r.storageMethod? call = some method

theorem isStored_iff (array : Cursor t) : r.isStored array = true ↔ r.Stored array := by
  simp only [isStored, Option.any_eq_true, Bool.and_eq_true, beq_iff_eq, Option.isSome_iff_exists]
  constructor
  · rintro ⟨call, _, ⟨arg, harg, hid⟩, method, hmethod⟩
    rw [Cursor.eq_of_id_eq hid] at harg
    exact ⟨call, method, harg, hmethod⟩
  · rintro ⟨call, method, harg, hmethod⟩
    have hparent := (Cursor.mem_children_iff call array).mp
      (Cursor.mem_children_of_firstArgument? harg)
    exact ⟨call, hparent, ⟨array, harg, rfl⟩, method, hmethod⟩

/-- Which node reports the pairs of an array, and with which place in the message: the storage call
that has the array as its first argument, or the array itself if there is no such call and arrays
are checked on their own. -/
inductive Reporting (r : PlaintextSecret) (array : Cursor t) : Cursor t → String → Prop
  | stored {call : Cursor t} {method : String} (harg : call.firstArgument? = some array)
      (hmethod : r.storageMethod? call = some method) :
      Reporting r array call s!"when using {method}()"
  | standalone (hcheck : r.checkStandaloneArrays = true) (hfree : ¬ r.Stored array) :
      Reporting r array array "in array literal"

namespace Reporting

theorem unique {c d : Cursor t} {place place' : String} (h : r.Reporting array c place)
    (h' : r.Reporting array d place') : c = d ∧ place = place' := by
  cases h with
  | stored harg hmethod =>
    cases h' with
    | stored harg' hmethod' =>
      obtain rfl := Cursor.eq_of_mem_children (Cursor.mem_children_of_firstArgument? harg)
        (Cursor.mem_children_of_firstArgument? harg')
      obtain rfl := Option.some.inj (hmethod.symm.trans hmethod')
      exact ⟨rfl, rfl⟩
    | standalone _ hfree => exact absurd ⟨_, _, harg, hmethod⟩ hfree
  | standalone _ hfree =>
    cases h' with
    | stored harg' hmethod' => exact absurd ⟨_, _, harg', hmethod'⟩ hfree
    | standalone _ _ => exact ⟨rfl, rfl⟩

/-- Arrays are reported by some node if they are stored or if all of them are checked. -/
theorem exists_iff (r : PlaintextSecret) (array : Cursor t) :
    (∃ c place, r.Reporting array c place) ↔
      r.Stored array ∨ r.checkStandaloneArrays = true := by
  constructor
  · rintro ⟨c, place, h⟩
    cases h with
    | stored harg hmethod => exact .inl ⟨c, _, harg, hmethod⟩
    | standalone hcheck _ => exact .inr hcheck
  · intro h
    by_cases hstored : r.Stored array
    · obtain ⟨call, method, harg, hmethod⟩ := hstored
      exact ⟨call, _, .stored harg hmethod⟩
    · exact ⟨array, _, .standalone (h.resolve_left hstored) hstored⟩

end Reporting

/-- The finding is about a child of the array. -/
def OnChildOf (array : Cursor t) (f : Finding) : Prop :=
  ∃ d ∈ array.children, f.anchor = d.id

theorem eq_of_onChildOf {d : Cursor t} {text : String} {support : List (Cursor t)}
    (h : OnChildOf array f) (hf : f.Reports info d text support) (hd : d ∈ c.children) :
    c = array := by
  obtain ⟨e, he, hanchor⟩ := h
  obtain rfl : d = e := Cursor.eq_of_id_eq (hf.anchor.symm.trans hanchor)
  exact Cursor.eq_of_mem_children hd he

theorem not_onChildOf {d : Cursor t} {text : String} {support : List (Cursor t)}
    (harray : array.kind = .arrayLiteral) (hkind : c.kind ≠ .arrayLiteral)
    (hf : f.Reports info d text support) (hd : d ∈ c.children) : ¬ OnChildOf array f := by
  intro hchild
  rw [eq_of_onChildOf hchild hf hd] at hkind
  exact hkind harray

theorem reporting_of_checkStorageCall (harray : array.kind = .arrayLiteral)
    (hkind : c.kind ≠ .arrayLiteral) (h : r.checkStorageCall c = some f)
    (hchild : OnChildOf array f) :
    ∃ place first more, r.Reporting array c place ∧ r.plainPairs array = first :: more ∧
      f = pairsFinding first more place := by
  obtain ⟨method, first, more, hmethod, rfl, arg, harg, hfound⟩ :=
    checkStorageCall_eq_some_iff.mp h
  have hreports := reports_pairsFinding first more s!"when using {method}()"
  rcases hfound with ⟨_, hpairs⟩ | ⟨_, rfl, hpair⟩
  · have hfirst := anchor_mem_children hpairs List.mem_cons_self
    obtain rfl := eq_of_onChildOf hchild hreports hfirst
    exact ⟨_, first, more, .stored harg hmethod, hpairs, rfl⟩
  · have hfirst := Cursor.mem_children_of_mem_arguments (anchor_mem_arguments hpair)
    exact absurd hchild (not_onChildOf harray hkind hreports hfirst)

theorem checkStorageCall_not_onChildOf (harray : array.kind = .arrayLiteral)
    (hfree : ¬ r.Stored array) (h : r.checkStorageCall c = some f) : ¬ OnChildOf array f := by
  intro hchild
  obtain ⟨_, _, _, hmethod, _, arg, harg, _⟩ := checkStorageCall_eq_some_iff.mp h
  have hkind : c.kind ≠ .arrayLiteral := by simp [Cursor.kind_of_firstArgument? harg]
  obtain ⟨_, _, _, hreporting, _⟩ := reporting_of_checkStorageCall harray hkind h hchild
  cases hreporting with
  | stored harg hmethod => exact hfree ⟨c, _, harg, hmethod⟩
  | standalone _ _ => exact hkind harray

theorem checkArray_eq_some_iff : r.checkArray array = some f ↔
    ∃ first more, r.checkStandaloneArrays = true ∧ ¬ r.Stored array ∧
      r.plainPairs array = first :: more ∧ f = pairsFinding first more "in array literal" := by
  simp only [checkArray, Option.ite_none_left_eq_some, reportPairs_eq_some_iff, Bool.or_eq_true,
    not_or, isStored_iff, Bool.not_eq_true', Bool.not_eq_false]
  constructor
  · rintro ⟨⟨hcheck, hfree⟩, first, more, hpairs, rfl⟩
    exact ⟨first, more, hcheck, hfree, hpairs, rfl⟩
  · rintro ⟨first, more, hcheck, hfree, hpairs, rfl⟩
    exact ⟨⟨hcheck, hfree⟩, first, more, hpairs, rfl⟩

theorem checkArray_eq_none_of_stored (h : r.Stored array) : r.checkArray array = none := by
  rw [Option.eq_none_iff_forall_ne_some]
  intro f hf
  obtain ⟨_, _, _, hfree, _⟩ := checkArray_eq_some_iff.mp hf
  exact hfree h

theorem checkStorageCall_eq_some_of_firstArgument? {method : String} {first : PlainPair t}
    {more : List (PlainPair t)} (harray : array.kind = .arrayLiteral)
    (harg : c.firstArgument? = some array) (hmethod : r.storageMethod? c = some method)
    (hpairs : r.plainPairs array = first :: more) :
    r.checkStorageCall c = some (pairsFinding first more s!"when using {method}()") :=
  checkStorageCall_eq_some_iff.mpr
    ⟨method, first, more, hmethod, rfl, array, harg, .inl ⟨harray, hpairs⟩⟩

/-- Only the node that reports the pairs of an array has a finding about one of its children. -/
theorem reporting_of_mem_visit (harray : array.kind = .arrayLiteral) (hf : f ∈ r.visit c)
    (hchild : OnChildOf array f) :
    ∃ place first more, r.Reporting array c place ∧ r.plainPairs array = first :: more ∧
      f = pairsFinding first more place := by
  -- the other checks are about children of a call or an assignment, which is no array
  unfold visit at hf
  split at hf
  · next hkind =>
    have hcall : c.kind ≠ .arrayLiteral := by simp [hkind]
    simp only [List.mem_filterMap, List.mem_cons, List.not_mem_nil, or_false, id_eq,
      exists_eq_or_imp, exists_eq_left] at hf
    rcases hf with hstorage | hlog | hquery
    · exact reporting_of_checkStorageCall harray hcall hstorage hchild
    · obtain ⟨arg, harg, hreports, _⟩ := reports_of_checkLogCall hlog
      have hd := Cursor.mem_children_of_mem_arguments harg
      exact absurd hchild (not_onChildOf harray hcall hreports hd)
    · obtain ⟨arg, harg, hreports, _⟩ := reports_of_checkQuery hquery
      have hd := Cursor.mem_children_of_mem_arguments harg
      exact absurd hchild (not_onChildOf harray hcall hreports hd)
  · next hkind =>
    have hassignment : c.kind ≠ .arrayLiteral := by simp [hkind]
    simp only [List.mem_filterMap, List.mem_cons, List.not_mem_nil, or_false, id_eq,
      exists_eq_or_imp, exists_eq_left] at hf
    rcases hf with hsession | hcookie
    · obtain ⟨d, _, hd, hreports⟩ := reports_of_checkSessionWrite hsession
      have hd := Cursor.mem_children_of_child? hd
      exact absurd hchild (not_onChildOf harray hassignment hreports hd)
    · obtain ⟨d, _, hd, hreports⟩ := reports_of_checkCookieWrite hcookie
      have hd := Cursor.mem_children_of_child? hd
      exact absurd hchild (not_onChildOf harray hassignment hreports hd)
  · rw [Option.mem_toList] at hf
    obtain ⟨first, more, hcheck, hfree, hpairs, rfl⟩ := checkArray_eq_some_iff.mp hf
    have hfirst := anchor_mem_children hpairs List.mem_cons_self
    obtain rfl := eq_of_onChildOf hchild (reports_pairsFinding first more _) hfirst
    exact ⟨_, first, more, .standalone hcheck hfree, hpairs, rfl⟩
  · cases hf

/-- The node that reports the pairs of an array has the finding about them. -/
theorem Reporting.mem_visit {place : String} {first : PlainPair t} {more : List (PlainPair t)}
    (h : r.Reporting array c place) (harray : array.kind = .arrayLiteral)
    (hpairs : r.plainPairs array = first :: more) : pairsFinding first more place ∈ r.visit c := by
  cases h with
  | stored harg hmethod =>
    have hfound := checkStorageCall_eq_some_of_firstArgument? harray harg hmethod hpairs
    rw [visit, Cursor.kind_of_firstArgument? harg]
    exact List.mem_filterMap.mpr ⟨_, List.mem_cons_self, hfound⟩
  | standalone hcheck hfree =>
    have hfound := checkArray_eq_some_iff.mpr ⟨first, more, hcheck, hfree, hpairs, rfl⟩
    rw [visit, harray, hfound]
    exact List.mem_singleton.mpr rfl

instance (array : Cursor t) (f : Finding) : Decidable (OnChildOf array f) :=
  inferInstanceAs (Decidable (∃ d ∈ array.children, f.anchor = d.id))

/-- The findings of the rule about the pairs of an array, among all findings of a scan. -/
def aboutPairs (array : Cursor t) (raw : List Finding) : List Finding :=
  raw.filter fun f => f.ruleId = info.id ∧ OnChildOf array f

/-- The raw findings of a scan with the rule: on its own, or in a scanner that enables it. -/
inductive Scans (settings : PlaintextSecretSettings) (r : PlaintextSecret) (t : SyntaxTree) :
    List Finding → Prop
  | alone : Scans settings r t ((Engine.ofRules [r.rule]).scan t).findings
  | scanner {config : Config} {s : Scanner} (hs : Scanner.ofConfig config = .ok s)
      (hsettings : config.rules.plaintextSecret = settings) (henabled : settings.enabled = true) :
      Scans settings r t (s.engine.scan t).findings

variable {settings : PlaintextSecretSettings} {raw : List Finding}

theorem Scans.exists_rules (h : ofSettings settings = .ok r) (hraw : Scans settings r t raw) :
    ∃ rules : List Rule, (∀ rule ∈ rules, rule.Lawful) ∧ (rules.map (·.info.id)).Nodup ∧
      r.rule ∈ rules ∧ raw = (visits rules t).flatMap Visit.findings := by
  cases hraw with
  | alone =>
    refine ⟨[r.rule], ?_, List.nodup_singleton _, List.mem_singleton.mpr rfl, ?_⟩
    · intro rule hrule
      rw [List.mem_singleton.mp hrule]
      exact r.lawful
    · rw [Engine.scan_ofRules]
  | @scanner config s hs hsettings henabled =>
    obtain ⟨rules, hrules, hengine, _⟩ := Scanner.exists_of_ofConfig hs
    obtain ⟨r', hr', hmem⟩ := RuleSettings.exists_plaintextSecret hrules
      (by rw [hsettings, henabled])
    obtain rfl : r = r' := by
      rw [hsettings, h] at hr'
      exact Except.ok.inj hr'
    refine ⟨rules, RuleSettings.lawful_of_mem_rules hrules, RuleSettings.nodup_ids hrules, hmem, ?_⟩
    rw [Scanner.scan_eq_visits hs, hengine]
    rfl

theorem kind_mem_kinds_of_mem_visit (h : f ∈ r.visit c) : c.kind ∈ kinds := by
  by_contra hkind
  rw [visit_eq_nil hkind] at h
  cases h

theorem mem_aboutPairs_iff (h : ofSettings settings = .ok r) (hraw : Scans settings r t raw)
    (harray : array.kind = .arrayLiteral) :
    f ∈ aboutPairs array raw ↔ ∃ c place first more, r.Reporting array c place ∧
      r.plainPairs array = first :: more ∧ f = pairsFinding first more place := by
  obtain ⟨rules, hlawful, hids, hrule, rfl⟩ := hraw.exists_rules h
  have hmem : (f ∈ (visits rules t).flatMap Visit.findings ∧ f.ruleId = info.id) ↔
      ∃ c : Cursor t, f ∈ r.visit c := by
    refine (mem_findings_visits_iff hlawful hids hrule f).trans (exists_congr fun c => ?_)
    exact ⟨And.right, fun hf => ⟨kind_mem_kinds_of_mem_visit hf, hf⟩⟩
  rw [aboutPairs, List.mem_filter, decide_eq_true_eq, ← and_assoc, hmem]
  constructor
  · rintro ⟨⟨c, hf⟩, hchild⟩
    exact ⟨c, reporting_of_mem_visit harray hf hchild⟩
  · rintro ⟨c, place, first, more, hreporting, hpairs, rfl⟩
    have hfirst := anchor_mem_children hpairs List.mem_cons_self
    exact ⟨⟨c, hreporting.mem_visit harray hpairs⟩, first.anchor, hfirst, rfl⟩

theorem nodup_aboutPairs (h : ofSettings settings = .ok r) (hraw : Scans settings r t raw)
    (array : Cursor t) : (aboutPairs array raw).Nodup := by
  obtain ⟨rules, hlawful, hids, _, rfl⟩ := hraw.exists_rules h
  exact (List.Nodup.of_map _ (nodup_keys_visits hlawful hids t)).filter _

/-- The node that reports the pairs of an array does so once, and no other node does. -/
theorem aboutPairs_eq_singleton (h : ofSettings settings = .ok r)
    (hraw : Scans settings r t raw) (harray : array.kind = .arrayLiteral) {place : String}
    {first : PlainPair t} {more : List (PlainPair t)} (hreporting : r.Reporting array c place)
    (hpairs : r.plainPairs array = first :: more) :
    aboutPairs array raw = [pairsFinding first more place] := by
  have hmem : ∀ f, f ∈ aboutPairs array raw ↔ f ∈ [pairsFinding first more place] := by
    intro f
    rw [mem_aboutPairs_iff h hraw harray, List.mem_singleton]
    constructor
    · rintro ⟨c', place', first', more', hreporting', hpairs', rfl⟩
      obtain ⟨rfl, rfl⟩ := hreporting.unique hreporting'
      obtain ⟨rfl, rfl⟩ := List.cons.inj (hpairs.symm.trans hpairs')
      rfl
    · rintro rfl
      exact ⟨c, place, first, more, hreporting, hpairs, rfl⟩
  have hperm := (List.perm_ext_iff_of_nodup (nodup_aboutPairs h hraw array)
    (List.nodup_singleton _)).mpr hmem
  exact List.perm_singleton.mp hperm

theorem confidence_pairsFinding_eq_high_iff (first : PlainPair t) (more : List (PlainPair t))
    (place : String) :
    (pairsFinding first more place).confidence = .high ↔
      ∃ p ∈ first :: more, p.isRaw = true := by
  rw [← List.any_eq_true]
  change (if (first :: more).any (·.isRaw) then Confidence.high else .medium) = .high ↔ _
  split
  · next hraw => simp [hraw]
  · next hraw => simp [hraw]

theorem of_ofSettings_eq_ok (h : ofSettings settings = .ok r) :
    NamePattern.compile? settings.secretPattern = some r.secret ∧
      r.hashFunctions = .ofList settings.hashFunctions ∧
      r.checkStandaloneArrays = settings.checkStandaloneArrays := by
  unfold ofSettings at h
  split at h
  · next secret hsecret =>
    cases h
    exact ⟨hsecret, rfl, rfl⟩
  · cases h

/-- Every array is reported at most once for its pairs. It is reported if it has an offending pair
and is stored or all arrays are checked, and then by exactly one of the two checks. The finding is
about the first offending pair, has the others as evidence, lists all of their keys in order, and
is certain if one of the values is a literal or a variable. -/
theorem array_reported_once (h : ofSettings settings = .ok r) (hraw : Scans settings r t raw)
    (array : Cursor t) (harray : array.kind = .arrayLiteral) :
    (NamePattern.compile? settings.secretPattern = some r.secret ∧
      r.hashFunctions = .ofList settings.hashFunctions) ∧
    (r.offending array = [] ∨ ¬ (r.Stored array ∨ settings.checkStandaloneArrays = true) →
      aboutPairs array raw = []) ∧
    ∀ first more, r.offending array = first :: more →
      r.Stored array ∨ settings.checkStandaloneArrays = true →
      ∃ f place, aboutPairs array raw = [f] ∧
        f.anchor = first.id ∧
        f.evidence = more.map (fun pair => pairEvidence (asPair pair)) ∧
        f.message = pairsMessage ((first :: more).map asPair) place ∧
        (f.confidence = .high ↔ ∃ pair ∈ first :: more, hasRawValue pair = true) ∧
        ((∃ call method, call.firstArgument? = some array ∧
            r.storageMethod? call = some method ∧ place = s!"when using {method}()" ∧
            r.checkStorageCall call = some f ∧ r.checkArray array = none) ∨
          (¬ r.Stored array ∧ place = "in array literal" ∧ r.checkArray array = some f ∧
            ∀ (call : Cursor t) (g : Finding),
              r.checkStorageCall call = some g → ¬ OnChildOf array g)) := by
  obtain ⟨hsecret, hhash, hcheck⟩ := of_ofSettings_eq_ok h
  refine ⟨⟨hsecret, hhash⟩, ?_, ?_⟩
  · intro hnone
    apply List.eq_nil_iff_forall_not_mem.mpr
    intro f hf
    obtain ⟨c, place, first, more, hreporting, hpairs, _⟩ :=
      (mem_aboutPairs_iff h hraw harray).mp hf
    rcases hnone with hempty | hunseen
    · rw [plainPairs_eq_map_offending, hempty] at hpairs
      cases hpairs
    · rw [← hcheck, ← Reporting.exists_iff] at hunseen
      exact hunseen ⟨c, place, hreporting⟩
  · intro first more hoffending hseen
    have hpairs : r.plainPairs array = asPair first :: more.map asPair := by
      rw [plainPairs_eq_map_offending, hoffending, List.map_cons]
    rw [← hcheck, ← Reporting.exists_iff] at hseen
    obtain ⟨c, place, hreporting⟩ := hseen
    refine ⟨pairsFinding (asPair first) (more.map asPair) place, place,
      aboutPairs_eq_singleton h hraw harray hreporting hpairs, rfl, List.map_map, rfl, ?_, ?_⟩
    · rw [confidence_pairsFinding_eq_high_iff, ← List.map_cons]
      simp only [List.mem_map, exists_exists_and_eq_and, asPair]
    · cases hreporting with
      | @stored _ method harg hmethod =>
        left
        exact ⟨c, method, harg, hmethod, rfl,
          checkStorageCall_eq_some_of_firstArgument? harray harg hmethod hpairs,
          checkArray_eq_none_of_stored ⟨c, method, harg, hmethod⟩⟩
      | standalone hcheck hfree =>
        right
        exact ⟨hfree, rfl, checkArray_eq_some_iff.mpr ⟨_, _, hcheck, hfree, hpairs, rfl⟩,
          fun call g hg => checkStorageCall_not_onChildOf harray hfree hg⟩

def storageArray : Cursor storageTree :=
  ⟨13, by decide⟩

/-- Of the pairs in the array, those with a variable and with a literal are offending, and the one
with a hashed value is not. -/
theorem offending_storageArray (hotp : r.secret.matchesIn "otp" = true)
    (hcode : r.secret.matchesIn "code" = true) (hhash : r.hashFunctions.occursIn "hash" = true) :
    r.offending storageArray = [⟨5, by decide⟩, ⟨12, by decide⟩] := by
  let node (id : NodeId) (h : id < 16) : Cursor storageTree := ⟨id, h⟩
  have hvariable : r.Offending (node 5 (by decide)) :=
    { isPair := rfl
      key := ⟨node 3 (by decide), rfl, rfl, .inl rfl⟩
      secret := hotp
      value := ⟨node 4 (by decide), rfl, .inr (.inl rfl)⟩ }
  have hliteral : r.Offending (node 12 (by decide)) :=
    { isPair := rfl
      key := ⟨node 10 (by decide), rfl, rfl, .inr rfl⟩
      secret := hcode
      value := ⟨node 11 (by decide), rfl, .inl rfl⟩ }
  have hhashed : ¬ r.Offending (node 9 (by decide)) := by
    intro hoffending
    obtain ⟨value, hvalue, hplain⟩ := hoffending.value
    obtain rfl : node 8 (by decide) = value := Option.some.inj hvalue
    rcases hplain with hkind | hkind | hplain
    · cases hkind
    · cases hkind
    · exact hplain ⟨rfl, node 7 (by decide), rfl, hhash⟩
  have hchildren : storageArray.children =
      [node 5 (by decide), node 9 (by decide), node 12 (by decide)] := rfl
  rw [offending, hchildren]
  simp [hvariable, hhashed, hliteral, node]

/-- An array with two offending pairs, stored by a call, is reported once by a scanner with all
rules, and the report is about both. -/
theorem storageArray_reported_once : ∃ r s,
    ofSettings wordConfig.rules.plaintextSecret = .ok r ∧ Scanner.ofConfig wordConfig = .ok s ∧
    ∃ f, aboutPairs storageArray (s.engine.scan storageTree).findings = [f] ∧
      f.anchor = 5 ∧ f.evidence.map (·.node) = [12] ∧ f.confidence = .high := by
  obtain ⟨s, hs, _⟩ := Scanner.exists_ofConfig_word
  obtain ⟨rules, hrules, _⟩ := Scanner.exists_of_ofConfig hs
  obtain ⟨r, hr, _⟩ := RuleSettings.exists_plaintextSecret hrules rfl
  obtain ⟨hsecret, hhash, _⟩ := of_ofSettings_eq_ok hr
  obtain ⟨hotp, hcode⟩ :
      r.secret.matchesIn "otp" = true ∧ r.secret.matchesIn "code" = true := by
    have hmatches : ((NamePattern.compile? "(?-i)otp|code").all fun p =>
        p.matchesIn "otp" && p.matchesIn "code") = true := by decide +kernel
    rw [show NamePattern.compile? "(?-i)otp|code" = some r.secret from hsecret] at hmatches
    simpa using hmatches
  have hwords : r.hashFunctions.occursIn "hash" = true := by
    rw [hhash]
    decide +kernel
  obtain ⟨_, _, hreported⟩ :=
    array_reported_once hr (.scanner hs rfl rfl) storageArray rfl
  obtain ⟨f, _, habout, hanchor, hevidence, _, hhigh, _⟩ :=
    hreported _ _ (offending_storageArray hotp hcode hwords) (.inr rfl)
  refine ⟨r, s, hr, hs, f, habout, hanchor, ?_, ?_⟩
  · rw [hevidence]
    rfl
  · exact hhigh.mpr ⟨_, List.mem_cons_self, rfl⟩

end SecurityLint.PlaintextSecret
