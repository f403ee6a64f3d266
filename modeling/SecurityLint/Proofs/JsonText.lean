import SecurityLint.Data.Json
import SecurityLint.Proofs.Numerals

/-!
JSON text reads back. The reader takes what the printer wrote for a value off the front of any
text that goes on as JSON does behind a value; this is first said of strings and numbers, then of
lists and records whose parts read back, and so of every value. The fuel is twice the length of
the text.
-/
namespace SecurityLint.Data.Json

attribute [local simp] readUnits unescape? print printItems printFields

/-- No character is half of a surrogate pair. -/
theorem toNat_not_surrogate (c : Char) :
    isHighSurrogate c.toNat = false ∧ isLowSurrogate c.toNat = false := by
  have hvalid := c.valid
  simp only [UInt32.isValidChar, Nat.isValidChar, Char.toNat_val] at hvalid
  simp only [isHighSurrogate, isLowSurrogate, Bool.and_eq_false_iff, decide_eq_false_iff_not]
  omega

theorem pairUp_map_toNat (cs : List Char) : pairUp (cs.map Char.toNat) = some cs := by
  induction cs with
  | nil => rfl
  | cons c cs ih =>
    obtain ⟨hhigh, hlow⟩ := toNat_not_surrogate c
    cases cs with
    | nil => simp [pairUp, hhigh, hlow]
    | cons d cs =>
      rw [List.map_cons] at ih
      simp [pairUp, hhigh, hlow, ih]

theorem hexValue?_digitChar (n : Nat) (hn : n < 16) : Text.hexValue? n.digitChar = some n := by
  have hall : ∀ n < 16, Text.hexValue? n.digitChar = some n := by decide
  exact hall n hn

theorem hexNumber?_control (n : Nat) (hn : n < 0x20) :
    Text.hexNumber? ['0', '0', (n / 16).digitChar, (n % 16).digitChar] = some n := by
  have hzero : Text.hexValue? '0' = some 0 := rfl
  have hhigh := hexValue?_digitChar (n / 16) (by omega)
  have hlow := hexValue?_digitChar (n % 16) (by omega)
  simp only [Text.hexNumber?, List.isEmpty_cons, List.foldlM_cons, List.foldlM_nil, hzero, hhigh,
    hlow]
  simp only [Bool.false_eq_true, if_false, Option.map_some, Option.bind_some, Option.bind_eq_bind,
    Option.pure_def]
  congr 1
  omega

theorem readUnits_plain (c : Char) (rest tail : List Char) (units : List Nat)
    (hquote : c ≠ '"') (hslash : c ≠ '\\') (hplain : ¬ c.toNat < 0x20)
    (h : readUnits rest = some (units, tail)) :
    readUnits (c :: rest) = some (c.toNat :: units, tail) := by
  rw [readUnits]
  · simp [hplain, hslash, h]
  · intro heq
    exact hquote heq
  · intro _ _ _ _ _ heq _
    exact hslash heq
  · intro _ _ heq _
    exact hslash heq

/-- An escaped character reads as its code unit. -/
theorem readUnits_escapeChar (c : Char) (rest tail : List Char) (units : List Nat)
    (h : readUnits rest = some (units, tail)) :
    readUnits (escapeChar c ++ rest) = some (c.toNat :: units, tail) := by
  unfold escapeChar
  split
  · simp [h]
  · simp [h]
  · simp [h]
  · simp [h]
  · simp [h]
  · simp [h]
  · simp [h]
  · next hquote hslash _ _ _ _ _ =>
    split
    · next hcontrol =>
      have hunit := hexNumber?_control c.toNat hcontrol
      simp [hunit, h]
    · next hplain => exact readUnits_plain c rest tail units hquote hslash hplain h

theorem readUnits_escaped (cs rest : List Char) :
    readUnits (cs.flatMap escapeChar ++ '"' :: rest) = some (cs.map Char.toNat, rest) := by
  induction cs with
  | nil => simp
  | cons c cs ih =>
    rw [List.flatMap_cons, List.append_assoc, List.map_cons]
    exact readUnits_escapeChar c _ _ _ ih

/-- A name is written behind a quote, and reads back from there; so does a broken one. -/
theorem exists_nameText_eq (name : Option String) :
    ∃ body, nameText name = '"' :: body ∧
      ∀ rest, readString (body ++ rest) = some (name, rest) := by
  cases name with
  | none =>
    refine ⟨"\\ud800\"".toList, rfl, fun rest => ?_⟩
    rfl
  | some s =>
    refine ⟨s.toList.flatMap escapeChar ++ ['"'], rfl, fun rest => ?_⟩
    have hunits := readUnits_escaped s.toList rest
    rw [List.append_assoc, List.singleton_append, readString, hunits]
    simp [pairUp_map_toNat]

/-- What may stand behind a value: nothing, or a comma or a closing bracket. -/
def Closes (rest : List Char) : Prop :=
  ∀ c ∈ rest.head?, c = ',' ∨ c = ']' ∨ c = '\x7d'

theorem closes_nil : Closes [] := by
  simp [Closes]

theorem closes_cons {c : Char} (rest : List Char) (h : c = ',' ∨ c = ']' ∨ c = '\x7d') :
    Closes (c :: rest) := by
  simpa [Closes] using h

theorem exists_toDigits_eq (n : Nat) : ∃ d ds, Nat.toDigits 10 n = d :: ds ∧ d.isDigit := by
  cases hds : Nat.toDigits 10 n with
  | nil => exact absurd hds Nat.toDigits_ne_nil
  | cons d ds =>
    refine ⟨d, ds, rfl, ?_⟩
    apply Nat.isDigit_of_mem_toDigits (b := 10) (n := n) (by decide) (by decide)
    simp [hds]

/-- Only the zero is written with a zero in front. -/
theorem head?_toDigits_ne (n : Nat) (hn : 0 < n) : (Nat.toDigits 10 n).head? ≠ some '0' := by
  induction n using Nat.base_induction 10 (by decide) with
  | single m hm =>
    rw [Nat.toDigits_of_lt_base hm]
    simp only [List.head?_cons, ne_eq, Option.some.injEq, Nat.digitChar_eq_zero]
    omega
  | digit m k hk hm ih =>
    rw [← Nat.toDigits_append_toDigits (by decide) hm hk]
    cases hds : Nat.toDigits 10 m with
    | nil => exact absurd hds Nat.toDigits_ne_nil
    | cons d ds => simpa [hds] using ih hm

theorem Closes.not_digit {rest : List Char} (h : Closes rest) :
    ∀ c ∈ rest.head?, c.isDigit = false := by
  intro c hc
  rcases h c hc with rfl | rfl | rfl <;> rfl

theorem readWhole_toDigits (n : Nat) (rest : List Char) (hrest : Closes rest) :
    readWhole (Nat.toDigits 10 n ++ rest) = some (Nat.toDigits 10 n, rest) := by
  by_cases hn : n = 0
  · subst hn
    rfl
  · have hdigits : ∀ d ∈ Nat.toDigits 10 n, d.isDigit := fun _ => Text.isDigit_of_mem_digits
    have hspan := Text.span_append hdigits hrest.not_digit
    have hhead := head?_toDigits_ne n (Nat.pos_of_ne_zero hn)
    rw [readWhole]
    · simp [hspan, Nat.toDigits_ne_nil]
    · intro tail htail
      apply hhead
      have hfirst := congrArg List.head? htail
      cases hds : Nat.toDigits 10 n with
      | nil => exact absurd hds Nat.toDigits_ne_nil
      | cons d ds => simpa [hds] using hfirst

theorem readNumber_toDigits (n : Nat) (rest : List Char) (hrest : Closes rest) :
    readNumber (Nat.toDigits 10 n ++ rest) = some (.nat n, rest) := by
  have hwhole := readWhole_toDigits n rest hrest
  rw [readNumber]
  · rw [hwhole]
    cases rest with
    | nil => simp
    | cons c rest =>
      rcases hrest c (by simp) with rfl | rfl | rfl <;> simp
  · intro tail htail
    obtain ⟨d, ds, hds, hd⟩ := exists_toDigits_eq n
    rw [hds, List.cons_append] at htail
    rw [(List.cons.inj htail).1] at hd
    simp at hd

/-- The value reads back from the front of every text that goes on behind it as JSON does. -/
def Reads (v : Value) : Prop :=
  ∀ fuel rest, 2 * (print v).length ≤ fuel → Closes rest →
    readValue fuel (print v ++ rest) = some (v, rest)

theorem reads_name (name : Option String) (v : Value) (hprint : print v = nameText name)
    (hvalue : textValue name = v) : Reads v := by
  intro fuel rest hfuel _
  obtain ⟨body, hbody, hread⟩ := exists_nameText_eq name
  rw [hprint, hbody] at hfuel ⊢
  cases fuel with
  | zero => simp at hfuel
  | succ fuel =>
    change (readString (body ++ rest)).bind _ = _
    rw [hread, ← hvalue]
    rfl

theorem isSpace_of_isDigit (d : Char) (hd : d.isDigit) : isSpace d = false := by
  by_contra hspace
  simp only [isSpace, Bool.not_eq_false, Bool.or_eq_true, beq_iff_eq] at hspace
  rcases hspace with ((rfl | rfl) | rfl) | rfl <;> simp at hd

theorem readValue_digit (fuel : Nat) (d : Char) (rest : List Char) (hd : d.isDigit) :
    readValue (fuel + 1) (d :: rest) = readNumber (d :: rest) := by
  have hskip : skipSpace (d :: rest) = d :: rest := by
    simp [skipSpace, isSpace_of_isDigit d hd]
  rw [readValue, hskip]
  split
  case h_7 => rfl
  all_goals
    next heq =>
      rw [(List.cons.inj heq).1] at hd
      simp at hd

theorem reads_nat (n : Nat) : Reads (.nat n) := by
  intro fuel rest hfuel hrest
  have hnumber := readNumber_toDigits n rest hrest
  rw [print] at hfuel ⊢
  obtain ⟨d, ds, hds, hd⟩ := exists_toDigits_eq n
  rw [hds] at hfuel hnumber ⊢
  cases fuel with
  | zero => simp at hfuel
  | succ fuel => rw [List.cons_append, readValue_digit fuel d _ hd, ← List.cons_append, hnumber]

/-- The texts that are read by comparing them, letter by letter. -/
theorem reads_constant (v : Value) (hprint : print v ≠ [])
    (hread : ∀ fuel rest, Closes rest → readValue (fuel + 1) (print v ++ rest) = some (v, rest)) :
    Reads v := by
  intro fuel rest hfuel hrest
  cases fuel with
  | zero =>
    have hpos := List.length_pos_of_ne_nil hprint
    omega
  | succ fuel => exact hread fuel rest hrest

theorem reads_null : Reads .null :=
  reads_constant _ (by simp) fun _ _ _ => rfl

theorem reads_bool (b : Bool) : Reads (.bool b) := by
  cases b with
  | false => exact reads_constant _ (by simp) fun _ _ _ => rfl
  | true => exact reads_constant _ (by simp) fun _ _ _ => rfl

theorem reads_number : Reads .number := by
  refine reads_constant _ (by simp) fun fuel rest hrest => ?_
  change readNumber ('0' :: '.' :: '0' :: rest) = _
  cases rest with
  | nil => rfl
  | cons c rest => rcases hrest c (by simp) with rfl | rfl | rfl <;> rfl

/-- No text begins with a blank or a closing bracket. -/
theorem exists_print_eq (v : Value) :
    ∃ c cs, print v = c :: cs ∧ isSpace c = false ∧ c ≠ ']' := by
  cases v with
  | null => exact ⟨'n', _, rfl, rfl, by decide⟩
  | bool b =>
    cases b with
    | false => exact ⟨'f', _, rfl, rfl, by decide⟩
    | true => exact ⟨'t', _, rfl, rfl, by decide⟩
  | nat n =>
    obtain ⟨d, ds, hds, hd⟩ := exists_toDigits_eq n
    refine ⟨d, ds, by rw [print, hds], isSpace_of_isDigit d hd, ?_⟩
    rintro rfl
    simp at hd
  | number => exact ⟨'0', _, rfl, rfl, by decide⟩
  | text s => exact ⟨'"', _, rfl, rfl, by decide⟩
  | broken => exact ⟨'"', _, rfl, rfl, by decide⟩
  | list items =>
    cases items with
    | nil => exact ⟨'[', _, rfl, rfl, by decide⟩
    | cons v items => exact ⟨'[', _, rfl, rfl, by decide⟩
  | record fields =>
    cases fields with
    | nil => exact ⟨'\x7b', _, rfl, rfl, by decide⟩
    | cons f fields => exact ⟨'\x7b', _, rfl, rfl, by decide⟩

theorem readItems_print (v : Value) (items : List Value) (hv : Reads v)
    (hitems : ∀ w ∈ items, Reads w) (fuel : Nat) (rest : List Char)
    (hfuel : 2 * ((print v).length + (printItems items).length) ≤ fuel) :
    readItems fuel (print v ++ (printItems items ++ rest)) = some (v :: items, rest) := by
  induction items generalizing v fuel with
  | nil =>
    cases fuel with
    | zero => simp at hfuel
    | succ fuel =>
      have hfirst := hv fuel (']' :: rest)
        (by simp only [printItems, List.length_singleton] at hfuel; omega)
        (closes_cons rest (.inr (.inl rfl)))
      rw [printItems, List.singleton_append, readItems, hfirst]
      rfl
  | cons w items ih =>
    cases fuel with
    | zero => simp at hfuel
    | succ fuel =>
      simp only [printItems, List.length_cons, List.length_append] at hfuel
      have hfirst := hv fuel (',' :: (print w ++ (printItems items ++ rest))) (by omega)
        (closes_cons _ (.inl rfl))
      have hnext := ih w (hitems w List.mem_cons_self)
        (fun x hx => hitems x (List.mem_cons_of_mem _ hx)) fuel (by omega)
      rw [printItems, List.cons_append, List.append_assoc, readItems, hfirst]
      change (readItems fuel (print w ++ (printItems items ++ rest))).bind _ = _
      rw [hnext]
      rfl

/-- The name, the colon and the value of a field, off the front of the fields. -/
theorem readFields_field (name : Option String) (v : Value) (fuel : Nat) (rest : List Char)
    (hvalue : readValue fuel (print v ++ rest) = some (v, rest)) :
    readFields (fuel + 1) (nameText name ++ ':' :: (print v ++ rest)) =
      match skipSpace rest with
      | '\x7d' :: rest => some ([(name, v)], rest)
      | ',' :: rest => (readFields fuel rest).bind fun r => some ((name, v) :: r.1, r.2)
      | _ => none := by
  obtain ⟨body, hbody, hread⟩ := exists_nameText_eq name
  rw [hbody, List.cons_append, readFields]
  change (readString (body ++ ':' :: (print v ++ rest))).bind _ = _
  rw [hread]
  change (readValue fuel (print v ++ rest)).bind _ = _
  rw [hvalue]
  rfl

theorem readFields_print (name : Option String) (v : Value) (fields : Fields) (hv : Reads v)
    (hfields : ∀ f ∈ fields, Reads f.2) (fuel : Nat) (rest : List Char)
    (hfuel : 2 * ((print v).length + (printFields fields).length) ≤ fuel) :
    readFields fuel (nameText name ++ ':' :: (print v ++ (printFields fields ++ rest))) =
      some ((name, v) :: fields, rest) := by
  induction fields generalizing name v fuel with
  | nil =>
    cases fuel with
    | zero => simp at hfuel
    | succ fuel =>
      have hfirst := hv fuel ('\x7d' :: rest)
        (by simp only [printFields, List.length_singleton] at hfuel; omega)
        (closes_cons rest (.inr (.inr rfl)))
      rw [printFields, List.singleton_append, readFields_field name v fuel _ hfirst]
      rfl
  | cons f fields ih =>
    obtain ⟨nextName, w⟩ := f
    cases fuel with
    | zero => simp at hfuel
    | succ fuel =>
      simp only [printFields, List.length_cons, List.length_append] at hfuel
      have hfirst := hv fuel
        (',' :: (nameText nextName ++ ':' :: (print w ++ (printFields fields ++ rest)))) (by omega)
        (closes_cons _ (.inl rfl))
      have hnext := ih nextName w (hfields _ List.mem_cons_self)
        (fun x hx => hfields x (List.mem_cons_of_mem _ hx)) fuel (by omega)
      rw [printFields, List.cons_append, List.append_assoc, List.cons_append, List.append_assoc,
        readFields_field name v fuel _ hfirst]
      change (readFields fuel _).bind _ = _
      rw [hnext]
      rfl

/-- Behind an opening bracket, what does not close it is read as items. -/
theorem readValue_items (fuel : Nat) (c : Char) (cs : List Char) (hspace : isSpace c = false)
    (hclose : c ≠ ']') :
    readValue (fuel + 1) ('[' :: c :: cs) =
      (readItems fuel (c :: cs)).bind fun r => some (.list r.1, r.2) := by
  have hskip : skipSpace (c :: cs) = c :: cs := by simp [skipSpace, hspace]
  have hopen : skipSpace ('[' :: c :: cs) = '[' :: c :: cs := rfl
  rw [readValue, hopen]
  simp only [hskip]
  split
  · next heq => exact absurd (List.cons.inj heq).1 hclose
  · rfl

theorem reads_list (items : List Value) (h : ∀ v ∈ items, Reads v) : Reads (.list items) := by
  intro fuel rest hfuel _
  cases fuel with
  | zero =>
    obtain ⟨c, cs, hprint, _⟩ := exists_print_eq (.list items)
    simp [hprint] at hfuel
  | succ fuel =>
    cases items with
    | nil => rfl
    | cons v items =>
      simp only [print, List.length_cons, List.length_append] at hfuel
      have hitems := readItems_print v items (h v List.mem_cons_self)
        (fun w hw => h w (List.mem_cons_of_mem _ hw)) fuel rest (by omega)
      obtain ⟨c, cs, hprint, hspace, hclose⟩ := exists_print_eq v
      rw [print, List.cons_append, List.append_assoc]
      rw [hprint, List.cons_append] at hitems ⊢
      rw [readValue_items fuel c _ hspace hclose, hitems]
      rfl

theorem reads_record (fields : Fields) (h : ∀ f ∈ fields, Reads f.2) :
    Reads (.record fields) := by
  intro fuel rest hfuel _
  cases fuel with
  | zero =>
    obtain ⟨c, cs, hprint, _⟩ := exists_print_eq (.record fields)
    simp [hprint] at hfuel
  | succ fuel =>
    cases fields with
    | nil => rfl
    | cons f fields =>
      obtain ⟨name, v⟩ := f
      simp only [print, List.length_cons, List.length_append] at hfuel
      have hfields := readFields_print name v fields (h _ List.mem_cons_self)
        (fun w hw => h w (List.mem_cons_of_mem _ hw)) fuel rest (by omega)
      obtain ⟨body, hbody, _⟩ := exists_nameText_eq name
      rw [print, List.cons_append, List.append_assoc, List.cons_append, List.append_assoc]
      rw [hbody] at hfields ⊢
      change
        (readFields fuel ('"' :: body ++ ':' :: (print v ++ (printFields fields ++ rest)))).bind _ =
          _
      rw [hfields]
      rfl

/-- Every value reads back. -/
theorem reads (v : Value) : Reads v :=
  match v with
  | .null => reads_null
  | .bool b => reads_bool b
  | .nat n => reads_nat n
  | .number => reads_number
  | .text s => reads_name (some s) _ rfl rfl
  | .broken => reads_name none _ rfl rfl
  | .list items => reads_list items fun w _hw => reads w
  | .record fields => reads_record fields fun f _hf => reads f.2
termination_by sizeOf v
decreasing_by
  · have hlt := List.sizeOf_lt_of_mem _hw
    simp only [Value.list.sizeOf_spec]
    omega
  · have hlt := List.sizeOf_lt_of_mem _hf
    obtain ⟨name, w⟩ := f
    simp only [Value.record.sizeOf_spec, Prod.mk.sizeOf_spec] at hlt ⊢
    omega

theorem parse?_render (v : Value) : parse? (render v) = some v := by
  have hread := reads v (2 * (print v).length + 2) [] (by omega) closes_nil
  rw [List.append_nil] at hread
  simp only [parse?, render, String.toList_ofList, hread]
  rfl

end SecurityLint.Data.Json
