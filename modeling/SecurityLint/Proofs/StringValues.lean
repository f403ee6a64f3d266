import Mathlib.Data.List.DropRight
import SecurityLint.Call
import SecurityLint.Proofs.RenderedTexts

/-!
Values of string literals. A literal is rendered with a quote at either end and read by taking white
space and then quotes off both ends. The quotes of the rendering keep the white space of the value;
those of the value itself that stand at its ends go with them, and all others stay.
-/
namespace SecurityLint

namespace Text

/-- What is left of a text without the characters of some class that stand at its ends. -/
structure Stripped (p : Char → Bool) (text core : List Char) : Prop where
  ends : ∃ lead trail, text = lead ++ core ++ trail ∧
    (∀ c ∈ lead, p c = true) ∧ ∀ c ∈ trail, p c = true
  opens : ∀ c ∈ core.head?, p c = false
  closes : ∀ c ∈ core.getLast?, p c = false

variable {p : Char → Bool} {text core : List Char}

theorem stripped_stripEnds (p : Char → Bool) (text : List Char) :
    Stripped p text (stripEnds p text) where
  ends := by
    refine ⟨text.takeWhile p, (text.dropWhile p).rtakeWhile p, ?_, fun _ => List.mem_takeWhile_imp,
      fun _ => List.mem_rtakeWhile_imp⟩
    change text = text.takeWhile p ++ (text.dropWhile p).rdropWhile p ++ _
    rw [List.append_assoc, List.rdropWhile_append_rtakeWhile, List.takeWhile_append_dropWhile]
  opens := by
    intro c hc
    have hprefix : stripEnds p text <+: text.dropWhile p := List.rdropWhile_prefix p _
    obtain ⟨rest, hrest⟩ := hprefix
    have hhead := List.head?_dropWhile_not p text
    rw [← hrest, List.head?_append, hc] at hhead
    simpa using hhead
  closes := by
    intro c hc
    have hne : (text.dropWhile p).rdropWhile p ≠ [] := by
      intro hnil
      rw [stripEnds, ← List.rdropWhile, hnil] at hc
      cases hc
    have hlast := List.rdropWhile_last_not p _ hne
    rw [(List.getLast_eq_iff_getLast?_eq_some hne).mpr hc] at hlast
    simpa using hlast

theorem stripped_self (hopens : ∀ c ∈ text.head?, p c = false)
    (hcloses : ∀ c ∈ text.getLast?, p c = false) : Stripped p text text :=
  ⟨⟨[], [], by simp, by simp, by simp⟩, hopens, hcloses⟩

namespace Stripped

/-- A text has one part that is left of it. -/
theorem eq_stripEnds (h : Stripped p text core) : core = stripEnds p text := by
  obtain ⟨⟨lead, trail, rfl, hlead, htrail⟩, hopens, hcloses⟩ := h
  rw [stripEnds, List.append_assoc, List.dropWhile_append_of_pos hlead]
  cases core with
  | nil => rw [List.nil_append, List.dropWhile_eq_nil_iff.mpr htrail]; rfl
  | cons c rest =>
    have hfirst : p c = false := hopens c rfl
    have hkept : (c :: rest).rdropWhile p = c :: rest := by
      apply List.rdropWhile_eq_self_iff.mpr
      intro hne
      simpa using hcloses _ ((List.getLast_eq_iff_getLast?_eq_some hne).mp rfl)
    rw [List.cons_append, List.dropWhile_cons_of_neg (by simp [hfirst]), ← List.cons_append,
      List.reverse_append, List.dropWhile_append_of_pos (by simpa using htrail)]
    exact hkept.symm

/-- Characters of the class make no difference at the ends. -/
theorem between {p : Char → Bool} {text core : List Char} {c : Char} (h : Stripped p text core)
    (hc : p c = true) : Stripped p (c :: text ++ [c]) core := by
  obtain ⟨⟨lead, trail, rfl, hlead, htrail⟩, hopens, hcloses⟩ := h
  refine ⟨⟨c :: lead, trail ++ [c], by simp, ?_, ?_⟩, hopens, hcloses⟩
  · exact List.forall_mem_cons.mpr ⟨hc, hlead⟩
  · intro d hd
    rcases List.mem_append.mp hd with hd | hd
    · exact htrail d hd
    · rwa [List.mem_singleton.mp hd]

/-- Nothing is taken off exactly if no character of the class stands at an end. -/
theorem eq_self_iff (h : Stripped p text core) :
    core = text ↔ (∀ c ∈ text.head?, p c = false) ∧ ∀ c ∈ text.getLast?, p c = false := by
  constructor
  · rintro rfl
    exact ⟨h.opens, h.closes⟩
  · rintro ⟨hopens, hcloses⟩
    rw [h.eq_stripEnds, ← (stripped_self hopens hcloses).eq_stripEnds]

end Stripped

theorem isBlank_of_isQuote {q : Char} (h : Cursor.isQuote q = true) : isBlank q = false := by
  simp only [Cursor.isQuote, Bool.or_eq_true, beq_iff_eq] at h
  rcases h with (rfl | rfl) | rfl <;> decide +kernel

/-- Quotes at its ends keep a text as it is when white space is taken off. -/
theorem trim_quoted {q : Char} (h : Cursor.isQuote q = true) (value : String) :
    trim (String.singleton q ++ value ++ String.singleton q) =
      String.singleton q ++ value ++ String.singleton q := by
  have hself : Stripped isBlank (q :: value.toList ++ [q]) (q :: value.toList ++ [q]) := by
    apply stripped_self
    · simp [isBlank_of_isQuote h]
    · rw [List.getLast?_concat]
      simp [isBlank_of_isQuote h]
  apply String.toList_injective
  simpa [trim, strip] using hself.eq_stripEnds.symm

theorem stripped_quoted {q : Char} (h : Cursor.isQuote q = true) (value : String) :
    Stripped Cursor.isQuote value.toList
      (strip Cursor.isQuote (trim (String.singleton q ++ value ++ String.singleton q))).toList := by
  have hvalue := stripped_stripEnds Cursor.isQuote value.toList
  rw [trim_quoted h, strip, String.toList_ofList]
  simpa [(hvalue.between h).eq_stripEnds] using hvalue

end Text

theorem isQuote_quote (l : Language) : Cursor.isQuote l.quote = true := by
  cases l <;> rfl

namespace Builder

variable {b b' : Builder} {steps : List Step}

/-- A node that was added stays in every run, but for its span. -/
theorem node_stays (h : b.run? steps = some b') {id : NodeId} {node : Node}
    (hnode : b.nodes[id]? = some node) :
    ∃ span, b'.nodes[id]? = some { node with span := span } := by
  apply run?_keeps_of_added (P := fun c => ∃ span, c.nodes[id]? = some { node with span := span })
    ?_ ?_ h ⟨node.span, hnode⟩
  · rintro c new _ ⟨span, hc⟩
    exact ⟨span, getElem?_add_of_eq_some hc new⟩
  · rintro c id' placed line column _ hplaced ⟨span, hc⟩
    obtain ⟨span', hkept, _⟩ := exists_span_of_place hplaced hc { line, column }
    exact ⟨span', hkept⟩

/-- The node that a step for a string adds. -/
def stringNode (l : Language) (value : String) : Node where
  kind := .literal
  text := String.singleton l.quote ++ value ++ String.singleton l.quote
  literal := some .string

theorem run_string (b : Builder) (value : String) :
    (Step.string value).build.run b =
      some (b.nodes.size, b.add (stringNode b.language value)) :=
  rfl

theorem stringValue?_of_node {t : SyntaxTree} {c : Cursor t} {l : Language} {value : String}
    {span : Option Span} (h : c.node = { stringNode l value with span := span }) :
    c.stringValue? =
      some (Text.strip Cursor.isQuote (Text.trim (stringNode l value).text)) := by
  simp [Cursor.stringValue?, Cursor.is, Cursor.kind, Cursor.text, h, stringNode]

/-- Whatever is built besides it, the node that was added for a string reads as the value of the
string without the quotes at its ends. So it reads as the value itself exactly if no quote stands
there; white space at the ends and quotes inside make no difference. -/
theorem string_value_unquoted (b : Builder) (value : String) :
    ∃ id c, (Step.string value).build.run b = some (id, c) ∧
      ∀ steps b' root t, c.run? steps = some b' → b'.finish root = .ok t →
        ∃ node : Cursor t, node.id = id ∧ ∃ read, node.stringValue? = some read ∧
          Text.Stripped Cursor.isQuote value.toList read.toList ∧
          (read = value ↔ (∀ q ∈ value.toList.head?, Cursor.isQuote q = false) ∧
            ∀ q ∈ value.toList.getLast?, Cursor.isQuote q = false) := by
  refine ⟨_, _, run_string b value, ?_⟩
  intro steps b' root t hrun hfinish
  have hadded : (b.add (stringNode b.language value)).nodes[b.nodes.size]? =
      some (stringNode b.language value) :=
    (getElem?_add_eq_some_iff _ _ _ _).mpr (.inr ⟨rfl, rfl⟩)
  obtain ⟨span, hnode⟩ := node_stays hrun hadded
  have htable : t.table = b'.table root := (SyntaxTree.ofTable_eq_ok_iff _ t).mp hfinish
  have hentry : t.table.nodes[b.nodes.size]? = some { stringNode b.language value with span } := by
    rw [htable]
    exact hnode
  obtain ⟨hinside, hread⟩ := Array.getElem?_eq_some_iff.mp hentry
  have hstripped := Text.stripped_quoted (isQuote_quote b.language) value
  refine ⟨⟨b.nodes.size, hinside⟩, rfl, _, stringValue?_of_node hread, hstripped, ?_⟩
  rw [← hstripped.eq_self_iff]
  exact String.toList_inj.symm

/-- A file with a string that has quotes and then blanks at its ends. -/
def quotedTree : SyntaxTree where
  table := {
    language := .php
    root := 1
    nodes := #[
      { kind := .literal, text := "''' otp '''", literal := some .string },
      { kind := .file, text := "''' otp '''", children := [0] }] }
  parents := #[some 1, none]
  linked := by cbv

/-- The quotes of the value go with those of the literal, and its blanks stay. -/
theorem quotedTree_value : ∃ id c b',
    (Step.string "'' otp ''").build.run { language := .php } = some (id, c) ∧
      c.run? [.file [0]] = some b' ∧ b'.finish 1 = .ok quotedTree ∧
      ∃ node : Cursor quotedTree, node.id = id ∧ node.stringValue? = some " otp " := by
  have htable : ((run? { language := .php } [.string "'' otp ''", .file [0]]).map
      fun b => b.table 1) = some quotedTree.table := by
    decide +kernel
  obtain ⟨b', hrun, hb'⟩ := Option.map_eq_some_iff.mp htable
  obtain ⟨id, c, hstring, hfile⟩ := (run?_cons_eq_some_iff _ _ _ _).mp hrun
  obtain ⟨id', c', hstring', hvalue⟩ :=
    string_value_unquoted { language := .php } "'' otp ''"
  obtain ⟨rfl, rfl⟩ := Prod.mk.inj (Option.some.inj (hstring.symm.trans hstring'))
  have hfinish := (SyntaxTree.ofTable_eq_ok_iff (b'.table 1) quotedTree).mpr hb'.symm
  obtain ⟨node, hid, read, hread, hstripped, _⟩ := hvalue _ b' 1 quotedTree hfile hfinish
  refine ⟨id, c, b', hstring, hfile, hfinish, node, hid, ?_⟩
  rw [hread, Option.some.injEq]
  apply String.toList_injective
  rw [hstripped.eq_stripEnds]
  decide

end Builder

end SecurityLint
