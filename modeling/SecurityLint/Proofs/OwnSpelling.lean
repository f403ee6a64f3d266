import SecurityLint.Proofs.LoweredTexts

/-!
Words in their own spelling. A list keeps its words in lower case; a name is compared with them up
to the case of ASCII letters only, and a text is put in lower case as a whole before it is searched.
So the spelling of a word is one of its names exactly if it has no capitals but those of
ASCII, and the word is found in every text around its spelling exactly if its sigmas are settled.
A name that a list has is in lower case one of its words, so the search finds it too.
-/
namespace SecurityLint

namespace Text

theorem toLower_of_not_ascii {c : Char} (h : ¬ c.toNat < 128) : c.toLower = c := by
  apply dif_neg
  intro hupper
  exact h (Nat.lt_of_le_of_lt (UInt32.le_iff_toNat_le.mp hupper.2) (by decide))

theorem lowerChar_ascii (c : Char) (h : c.toNat < 128) : lowerChar c = [c.toLower] :=
  forall_ascii (P := fun c => lowerChar c = [c.toLower]) (by decide +kernel) c h

/-- Nothing but the character itself goes to one outside ASCII. -/
theorem eq_of_toLower_eq {c d : Char} (h : d.toLower = c) (hc : ¬ c.toNat < 128) : d = c := by
  by_cases hd : d.toNat < 128
  · have hlt : d.toLower.toNat < 128 :=
      forall_ascii (P := fun d => d.toLower.toNat < 128) (by decide +kernel) d hd
    rw [h] at hlt
    exact absurd hlt hc
  · rwa [toLower_of_not_ascii hd] at h

theorem IsLowered.toLower_eq {c : Char} (h : IsLowered c) : c.toLower = c := by
  by_cases hascii : c.toNat < 128
  · rw [IsLowered, lowerChar_ascii c hascii] at h
    exact (List.cons.inj h).1
  · exact toLower_of_not_ascii hascii

/-- A text in lower case has no capitals left. -/
theorem toLower_lower (text : String) :
    (lower text).toList.map Char.toLower = (lower text).toList := by
  refine (List.map_congr_left fun c hc => ?_).trans (List.map_id _)
  rw [lower, String.toList_ofList] at hc
  exact (isLowered_of_mem_lowerFrom hc).toLower_eq

/-- A text has no capitals but those of ASCII. -/
def OnlyAsciiCapitals (text : List Char) : Prop :=
  ∀ c ∈ text, c.toNat < 128 ∨ IsLowered c

theorem OnlyAsciiCapitals.not_mem_sigma {text : List Char} (h : OnlyAsciiCapitals text) :
    'Σ' ∉ text := by
  intro hmem
  have hsigma : ¬ ('Σ'.toNat < 128 ∨ IsLowered 'Σ') := by decide +kernel
  exact hsigma (h 'Σ' hmem)

theorem OnlyAsciiCapitals.lowerFrom_eq {text : List Char} (h : OnlyAsciiCapitals text)
    (before : List Char) : lowerFrom before text = text.map Char.toLower := by
  induction text generalizing before with
  | nil => rfl
  | cons c rest ih =>
    have hsigma : c ≠ 'Σ' := by
      intro hc
      exact h.not_mem_sigma (by simp [hc])
    have hfirst : lowerChar c = [c.toLower] := by
      by_cases hascii : c.toNat < 128
      · exact lowerChar_ascii c hascii
      · rw [toLower_of_not_ascii hascii]
        exact (h c List.mem_cons_self).resolve_left hascii
    rw [lowerFrom, if_neg hsigma, hfirst, ih fun d hd => h d (List.mem_cons_of_mem _ hd)]
    rfl

end Text

open Text

namespace Keywords

theorem containsName_iff (k : Keywords) (name : String) :
    k.containsName name = true ↔
      ∃ word ∈ k.words, word.toList.map Char.toLower = name.toList.map Char.toLower := by
  simp only [containsName, List.any_eq_true, sameAsciiName, beq_iff_eq]

variable {words : List String} {w : String}

/-- A name that a list has cannot have other capitals than those of ASCII, as its words do not. -/
theorem onlyAsciiCapitals_of_containsName {name : String}
    (h : (ofList words).containsName name = true) : OnlyAsciiCapitals name.toList := by
  obtain ⟨word, hword, hsame⟩ := (containsName_iff _ _).mp h
  obtain ⟨w, _, _, rfl⟩ := (mem_words_ofList_iff words word).mp hword
  intro c hc
  by_cases hascii : c.toNat < 128
  · exact .inl hascii
  · have hmem : c ∈ name.toList.map Char.toLower :=
      List.mem_map.mpr ⟨c, hc, toLower_of_not_ascii hascii⟩
    rw [← hsame] at hmem
    obtain ⟨d, hd, hdc⟩ := List.mem_map.mp hmem
    rw [eq_of_toLower_eq hdc hascii, lower, String.toList_ofList] at hd
    exact .inr (isLowered_of_mem_lowerFrom hd)

/-- A list has a name exactly if the name has no capitals but those of ASCII and is in lower case
one of the words. -/
theorem containsName_iff_lower (name : String) :
    (ofList words).containsName name = true ↔
      OnlyAsciiCapitals name.toList ∧ lower name ∈ (ofList words).words := by
  constructor
  · intro h
    have hcapitals := onlyAsciiCapitals_of_containsName h
    obtain ⟨word, hword, hsame⟩ := (containsName_iff _ _).mp h
    have hself : word.toList.map Char.toLower = word.toList := by
      obtain ⟨w, _, _, rfl⟩ := (mem_words_ofList_iff words word).mp hword
      exact toLower_lower (trim w)
    have hlower : lower name = word := by
      rw [lower, hcapitals.lowerFrom_eq, ← hsame, hself, String.ofList_toList]
    exact ⟨hcapitals, hlower ▸ hword⟩
  · intro h
    obtain ⟨hcapitals, hword⟩ := h
    refine (containsName_iff _ _).mpr ⟨_, hword, ?_⟩
    rw [toLower_lower, lower, String.toList_ofList, hcapitals.lowerFrom_eq]

theorem containsName_of_onlyAsciiCapitals (hw : w ∈ words) (hblank : isBlankText w = false)
    (h : OnlyAsciiCapitals (trim w).toList) : (ofList words).containsName (trim w) = true :=
  (containsName_iff_lower _).mpr ⟨h, (mem_words_ofList_iff words _).mpr ⟨w, hw, hblank, rfl⟩⟩

/-- A word is found in a text if its lower case stands in that of the text. -/
theorem occursIn_of_infix (hw : w ∈ words) (hblank : isBlankText w = false) {text : String}
    (h : lowerFrom [] (trim w).toList <:+: lowerFrom [] text.toList) :
    (ofList words).occursIn text = true := by
  refine (occursIn_iff _ _).mpr
    ⟨?_, _, (mem_words_ofList_iff words _).mpr ⟨w, hw, hblank, rfl⟩, ?_⟩
  · intro hempty
    rw [hempty] at h
    have hnil := (lowerFrom_eq_nil_iff _ _).mp (List.infix_nil.mp h)
    rw [String.toList_eq_nil_iff, trim_eq_empty_iff, hblank] at hnil
    cases hnil
  · rw [contains, Text.occursIn_iff, lower, lower, String.toList_ofList, String.toList_ofList]
    exact h

theorem occursIn_singleton_iff (hblank : isBlankText w = false) (text : String) :
    (ofList [w]).occursIn text = true ↔
      lowerFrom [] (trim w).toList <:+: lowerFrom [] text.toList := by
  constructor
  · intro h
    obtain ⟨_, word, hword, hcontains⟩ := (occursIn_iff _ _).mp h
    obtain ⟨w', hw', _, rfl⟩ := (mem_words_ofList_iff _ _).mp hword
    rw [List.mem_singleton.mp hw', contains, Text.occursIn_iff, lower, lower,
      String.toList_ofList, String.toList_ofList] at hcontains
    exact hcontains
  · intro h
    exact occursIn_of_infix List.mem_cons_self hblank h

/-- Which words a list knows in their own spelling. As a name, the spelling is known exactly if its
only capitals are those of ASCII. In a text, it is found whatever stands around it if its
sigmas are settled, which they are if it has none; and if they are not, the list of this one word
misses it in some text. -/
theorem own_spelling_known_iff (hw : w ∈ words) (hblank : isBlankText w = false) :
    ((ofList words).containsName (trim w) = true ↔ OnlyAsciiCapitals (trim w).toList) ∧
    (SigmasSettled (trim w).toList →
      ∀ x y, (ofList words).occursIn (x ++ trim w ++ y) = true) ∧
    ((∀ x y, (ofList [w]).occursIn (x ++ trim w ++ y) = true) ↔
      SigmasSettled (trim w).toList) ∧
    (OnlyAsciiCapitals (trim w).toList → SigmasSettled (trim w).toList) := by
  refine ⟨⟨onlyAsciiCapitals_of_containsName, containsName_of_onlyAsciiCapitals hw hblank⟩,
    ?_, ?_, ?_⟩
  · intro h x y
    apply occursIn_of_infix hw hblank
    rw [String.toList_append, String.toList_append]
    exact h.lowerFrom_infix _ _
  · rw [sigmasSettled_iff]
    constructor
    · intro h before after
      have hfound := (occursIn_singleton_iff hblank _).mp
        (h (String.ofList before) (String.ofList after))
      rwa [String.toList_append, String.toList_append, String.toList_ofList,
        String.toList_ofList] at hfound
    · intro h x y
      apply (occursIn_singleton_iff hblank _).mpr
      rw [String.toList_append, String.toList_append]
      exact h _ _
  · intro h
    exact sigmasSettled_of_not_mem h.not_mem_sigma

theorem sigmasSettled_sema : SigmasSettled "ΣΗΜΑ".toList := by
  intro before after htext
  have hletters : "ΣΗΜΑ".toList = 'Σ' :: "ΗΜΑ".toList := by decide +kernel
  rw [hletters] at htext
  cases before with
  | nil =>
    obtain ⟨_, rfl⟩ := List.cons.inj htext
    exact .inl (by decide +kernel)
  | cons c before =>
    have hmem : 'Σ' ∈ "ΗΜΑ".toList := by
      rw [(List.cons.inj htext).2]
      simp
    exact absurd hmem (by decide +kernel)

/-- A small umlaut does no harm. A word that begins with a sigma is found everywhere, but not known
as a name. -/
theorem umlaut_and_sigma_known :
    let k := ofList ["prüfeOTP", " ΣΗΜΑ "]
    k.containsName "prüfeOTP" = true ∧ k.containsName "ΣΗΜΑ" = false ∧
      ∀ x y, k.occursIn (x ++ "prüfeOTP" ++ y) = true ∧ k.occursIn (x ++ "ΣΗΜΑ" ++ y) = true := by
  intro k
  have hname := @own_spelling_known_iff ["prüfeOTP", " ΣΗΜΑ "] "prüfeOTP" (by simp)
    (by decide +kernel)
  have hsigma := @own_spelling_known_iff ["prüfeOTP", " ΣΗΜΑ "] " ΣΗΜΑ " (by simp)
    (by decide +kernel)
  have htrim : trim "prüfeOTP" = "prüfeOTP" := by decide +kernel
  have htrim' : trim " ΣΗΜΑ " = "ΣΗΜΑ" := by decide +kernel
  rw [htrim] at hname
  rw [htrim'] at hsigma
  have hascii : OnlyAsciiCapitals "prüfeOTP".toList := by
    have hall : "prüfeOTP".toList.all
        (fun c => decide (c.toNat < 128) || decide (IsLowered c)) = true := by decide +kernel
    intro c hc
    have hchecked := List.all_eq_true.mp hall c hc
    rwa [Bool.or_eq_true, decide_eq_true_iff, decide_eq_true_iff] at hchecked
  have hnot : ¬ OnlyAsciiCapitals "ΣΗΜΑ".toList := by
    intro h
    exact h.not_mem_sigma (by decide +kernel)
  refine ⟨hname.1.mpr hascii, ?_, fun x y => ⟨?_, ?_⟩⟩
  · rw [← Bool.not_eq_true]
    exact fun h => hnot (hsigma.1.mp h)
  · exact hname.2.1 (hname.2.2.2 hascii) x y
  · exact hsigma.2.1 sigmasSettled_sema x y

/-- A word with another capital is not known as a name in its own spelling, and a word that ends in
a sigma is not found in its own spelling before a letter. -/
theorem capital_and_final_sigma_unknown :
    let words := ["Ünlock", "ΑΣ"]
    (∀ w ∈ words, isBlankText w = false) ∧
      (ofList words).containsName (trim "Ünlock") = false ∧
      (ofList words).occursIn ("" ++ trim "ΑΣ" ++ "Α") = false := by
  refine ⟨?_, by decide +kernel, by decide +kernel⟩
  intro w hw
  have hall : ["Ünlock", "ΑΣ"].all (fun w => !isBlankText w) = true := by decide +kernel
  simpa using List.all_eq_true.mp hall w hw

theorem ne_empty_of_mem_words {word : String} (h : word ∈ (ofList words).words) : word ≠ "" := by
  obtain ⟨w, _, hblank, rfl⟩ := (mem_words_ofList_iff words word).mp h
  rw [ne_eq, lower_eq_empty_iff, trim_eq_empty_iff, hblank]
  decide

/-- Every name that a list has is found by the search in lower case. In lower case the name is one
of the words, whatever stands in it besides ASCII letters. -/
theorem occursIn_of_containsName {name : String} (h : (ofList words).containsName name = true) :
    (ofList words).occursIn name = true := by
  obtain ⟨_, hword⟩ := (containsName_iff_lower name).mp h
  refine (occursIn_iff _ _).mpr ⟨?_, lower name, hword, ?_⟩
  · intro hempty
    exact ne_empty_of_mem_words hword ((lower_eq_empty_iff name).mpr hempty)
  · rw [contains, Text.occursIn_iff]

/-- The dotted capital of a word is kept as two characters and the sigma at its end in its final
form. -/
theorem dotted_sigma_name_occurs :
    let k := ofList ["İDΑΣ"]
    k.containsName "I\u0307Dας" = true ∧ k.occursIn "I\u0307Dας" = true := by
  have hname : (ofList ["İDΑΣ"]).containsName "I\u0307Dας" = true := by decide +kernel
  exact ⟨hname, occursIn_of_containsName hname⟩

end Keywords

end SecurityLint
