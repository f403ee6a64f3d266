import Mathlib.Data.List.Forall2
import Mathlib.Logic.Relation
import SecurityLint.Tree.Builder

/-!
What a step of building does. But for raw nodes, which may say anything, a step adds nodes one
after the other, each rendered from nodes that are there already, or it records where a node
stands. Whatever is kept by adding a rendered node and by placing a node is kept by every step,
and so by every run.
-/
namespace SecurityLint

/-- How the text of a node is made from the texts of its children, by its kind and name. The
texts of literals, markup and echo tags are free. -/
inductive Renders (l : Language) : Kind → Option String → List String → String → Prop
  | identifier (name : String) : Renders l .identifier (some name) [] name
  | literal (text : String) : Renders l .literal none [] text
  | field (name : String) : Renders l .fieldDecl (some name) []
      ("private " ++ (if l.isPhp then "$" else "") ++ name ++ ";")
  | markup (html : String) : Renders l .inlineMarkup none [] html
  | echo (text : String) : Renders l .echoTag none [] text
  | member (receiver name : String) : Renders l .memberAccess none [receiver, name]
      (receiver ++ l.memberSeparator ++ name)
  | staticMember (receiver name : String) : Renders l .memberAccess none [receiver, name]
      (receiver ++ "::" ++ name)
  | call (callee : String) (args : List String) : Renders l .functionCall none (callee :: args)
      (callee ++ "(" ++ ", ".intercalate args ++ ")")
  | pair (key value : String) : Renders l .keyValuePair none [key, value]
      (key ++ l.pairSeparator ++ value)
  | array (elements : List String) : Renders l .arrayLiteral none elements
      ("[" ++ ", ".intercalate elements ++ "]")
  | arrayAccess (base index : String) : Renders l .arrayAccess none [base, index]
      (base ++ "[" ++ index ++ "]")
  | assignment (target value : String) : Renders l .assignment none [target, value]
      (target ++ " = " ++ value)
  | concatenation (parts : List String) : Renders l .concatenation none parts
      (l.concatOperator.intercalate parts)
  | statement (expr : String) : Renders l .statement none [expr] (expr ++ ";")
  | block (statements : List String) : Renders l .block none statements
      ("\x7b " ++ " ".intercalate statements ++ " \x7d")
  | method (name body : String) : Renders l .methodDecl (some name) [body]
      (name ++ "() " ++ body)
  | classDecl (name : String) (members : List String) : Renders l .classDecl (some name) members
      ("class " ++ name ++ " \x7b " ++ " ".intercalate members ++ " \x7d")
  | file (items : List String) : Renders l .file none items ("\n".intercalate items)

namespace Builder

def text? (b : Builder) (id : NodeId) : Option String :=
  b.nodes[id]?.map (·.text)

/-- The texts of nodes, if all of them are there. -/
def texts? (b : Builder) (ids : List NodeId) : Option (List String) :=
  ids.mapM b.text?

/-- The children of the node are there, and its text is rendered from theirs. -/
def Fits (b : Builder) (node : Node) : Prop :=
  ∃ texts, b.texts? node.children = some texts ∧
    Renders b.language node.kind node.name texts node.text

/-- Adds a node behind the others. -/
def add (b : Builder) (node : Node) : Builder :=
  { b with nodes := b.nodes.push node }

/-- Records where the node at `id` stands. -/
def place (b : Builder) (id : NodeId) (node : Node) (span : Span) : Builder :=
  { b with nodes := b.nodes.setIfInBounds id { node with span := some span } }

/-- Nodes that fit were added, one after the other. -/
def Grows : Builder → Builder → Prop :=
  Relation.ReflTransGen fun b b' => ∃ node, b.Fits node ∧ b' = b.add node

variable {b c : Builder} {id : NodeId} {ids : List NodeId} {node : Node} {text : String}
  {texts : List String}

theorem getElem?_add_eq_some_iff (b : Builder) (node found : Node) (id : NodeId) :
    (b.add node).nodes[id]? = some found ↔
      b.nodes[id]? = some found ∨ (id = b.nodes.size ∧ node = found) := by
  rw [add, Array.getElem?_push]
  by_cases hid : id = b.nodes.size
  · simp [hid]
  · simp [hid]

theorem getElem?_add_of_eq_some (h : b.nodes[id]? = some node) (new : Node) :
    (b.add new).nodes[id]? = some node :=
  (getElem?_add_eq_some_iff b new node id).mpr (.inl h)

theorem getElem?_place (h : b.nodes[id]? = some node) (span : Span) (id' : NodeId) :
    (b.place id node span).nodes[id']? =
      if id' = id then some { node with span := some span } else b.nodes[id']? := by
  have hlt : id < b.nodes.size := (Array.getElem?_eq_some_iff.mp h).1
  rw [place, Array.getElem?_setIfInBounds]
  by_cases hid : id = id'
  · simp [hid, hid ▸ hlt]
  · simp [hid, Ne.symm hid]

/-- A node stays when a node is placed, but for its span if it is the one. -/
theorem exists_span_of_place {id' : NodeId} {placed : Node} (hplaced : b.nodes[id']? = some placed)
    (h : b.nodes[id]? = some node) (span : Span) :
    ∃ span', (b.place id' placed span).nodes[id]? = some { node with span := span' } ∧
      (id ≠ id' → span' = node.span) := by
  rw [getElem?_place hplaced]
  by_cases hid : id = id'
  · subst hid
    obtain rfl := Option.some.inj (hplaced.symm.trans h)
    exact ⟨some span, if_pos rfl, fun hne => absurd rfl hne⟩
  · rw [if_neg hid]
    exact ⟨node.span, h, fun _ => rfl⟩

/-- Placing a node changes a span and nothing else. -/
theorem exists_of_getElem?_place (h : b.nodes[id]? = some node) {span : Span} {id' : NodeId}
    {found : Node} (hfound : (b.place id node span).nodes[id']? = some found) :
    ∃ old span', b.nodes[id']? = some old ∧ found = { old with span := span' } := by
  rw [getElem?_place h] at hfound
  split at hfound
  · next hid => exact ⟨node, some span, hid ▸ h, (Option.some.inj hfound).symm⟩
  · exact ⟨found, found.span, hfound, rfl⟩

theorem text?_eq_some_iff (b : Builder) (id : NodeId) (text : String) :
    b.text? id = some text ↔ ∃ node, b.nodes[id]? = some node ∧ node.text = text := by
  rw [text?, Option.map_eq_some_iff]

theorem text?_add_of_eq_some (h : b.text? id = some text) (new : Node) :
    (b.add new).text? id = some text := by
  obtain ⟨node, hnode, rfl⟩ := (text?_eq_some_iff b id text).mp h
  exact (text?_eq_some_iff _ id _).mpr ⟨node, getElem?_add_of_eq_some hnode new, rfl⟩

theorem text?_add_size (b : Builder) (node : Node) :
    (b.add node).text? b.nodes.size = some node.text := by
  rw [text?, add, Array.getElem?_push_size]
  rfl

theorem text?_place (h : b.nodes[id]? = some node) (span : Span) (id' : NodeId) :
    (b.place id node span).text? id' = b.text? id' := by
  rw [text?, text?, getElem?_place h]
  by_cases hid : id' = id
  · rw [if_pos hid, hid, h]
    rfl
  · rw [if_neg hid]

theorem texts?_eq_some_iff (b : Builder) (ids : List NodeId) (texts : List String) :
    b.texts? ids = some texts ↔
      List.Forall₂ (fun id text => b.text? id = some text) ids texts := by
  induction ids generalizing texts with
  | nil => simp [texts?, eq_comm]
  | cons id ids ih =>
    rw [texts?, List.mapM_cons, Option.bind_eq_bind, Option.bind_eq_some_iff,
      List.forall₂_cons_left_iff]
    simp only [Option.bind_eq_bind, Option.bind_eq_some_iff, Option.pure_def, Option.some.injEq]
    constructor
    · rintro ⟨text, htext, rest, hrest, rfl⟩
      exact ⟨text, rest, htext, (ih rest).mp hrest, rfl⟩
    · rintro ⟨text, rest, htext, hrest, rfl⟩
      exact ⟨text, htext, rest, (ih rest).mpr hrest, rfl⟩

theorem texts?_nil (b : Builder) : b.texts? [] = some [] :=
  rfl

theorem texts?_cons (hid : b.text? id = some text) (hids : b.texts? ids = some texts) :
    b.texts? (id :: ids) = some (text :: texts) := by
  rw [texts?_eq_some_iff] at hids ⊢
  exact .cons hid hids

theorem texts?_pair {id' : NodeId} {text' : String} (hid : b.text? id = some text)
    (hid' : b.text? id' = some text') : b.texts? [id, id'] = some [text, text'] :=
  texts?_cons hid (texts?_cons hid' b.texts?_nil)

theorem texts?_of_text? (htext : ∀ id text, b.text? id = some text → c.text? id = some text)
    (h : b.texts? ids = some texts) : c.texts? ids = some texts := by
  rw [texts?_eq_some_iff] at h ⊢
  exact h.imp htext

theorem exists_text_of_mem (h : b.texts? ids = some texts) (hid : id ∈ ids) :
    ∃ text ∈ texts, b.text? id = some text := by
  rw [texts?_eq_some_iff] at h
  induction h with
  | nil => cases hid
  | cons hfirst hrest ih =>
    rcases List.mem_cons.mp hid with rfl | hid
    · exact ⟨_, List.mem_cons_self, hfirst⟩
    · obtain ⟨text, hmem, htext⟩ := ih hid
      exact ⟨text, List.mem_cons_of_mem _ hmem, htext⟩

namespace Fits

theorem grows (h : b.Fits node) : b.Grows (b.add node) :=
  .single ⟨node, h, rfl⟩

theorem add (h : b.Fits node) (new : Node) : (b.add new).Fits node := by
  obtain ⟨texts, htexts, hrenders⟩ := h
  exact ⟨texts, texts?_of_text? (fun _ _ hid => text?_add_of_eq_some hid new) htexts, hrenders⟩

theorem place (h : b.Fits node) {placed : Node} (hplaced : b.nodes[id]? = some placed)
    (span : Span) : (b.place id placed span).Fits node := by
  obtain ⟨texts, htexts, hrenders⟩ := h
  refine ⟨texts, texts?_of_text? ?_ htexts, hrenders⟩
  intro id' text hid'
  rwa [text?_place hplaced]

theorem child_lt (h : b.Fits node) : ∀ q ∈ node.children, q < b.nodes.size := by
  obtain ⟨texts, htexts, _⟩ := h
  intro q hq
  obtain ⟨text, _, htext⟩ := exists_text_of_mem htexts hq
  obtain ⟨child, hchild, _⟩ := (text?_eq_some_iff b q text).mp htext
  exact (Array.getElem?_eq_some_iff.mp hchild).1

end Fits

end Builder

namespace Build

open Builder

variable {α β : Type} {b b' : Builder} {id : NodeId}

/-- An action in two parts succeeds if both do, the second where the first has ended. -/
theorem run_bind_eq_some_iff (first : Build α) (next : α → Build β) (r : β × Builder) :
    (first >>= next).run b = some r ↔
      ∃ a c, first.run b = some (a, c) ∧ (next a).run c = some r := by
  rw [StateT.run_bind, Option.bind_eq_bind, Option.bind_eq_some_iff, Prod.exists]

theorem run_get_bind (next : Builder → Build β) : (get >>= next).run b = (next b).run b := by
  rw [StateT.run_bind, StateT.run_get]
  rfl

theorem run_push_eq_some_iff (node : Node) :
    (push node).run b = some (id, b') ↔ b.nodes.size = id ∧ b.add node = b' := by
  change some (b.nodes.size, b.add node) = some (id, b') ↔ _
  rw [Option.some.injEq, Prod.mk.injEq]

theorem run_read (id : NodeId) (b : Builder) :
    (read id).run b = b.nodes[id]?.map fun node => (node, b) := by
  rw [read, run_get_bind]
  cases b.nodes[id]? with
  | none => rfl
  | some node => rfl

theorem run_text (id : NodeId) (b : Builder) :
    (text id).run b = (b.text? id).map fun text => (text, b) := by
  rw [text, StateT.run_bind, run_read, text?]
  cases b.nodes[id]? with
  | none => rfl
  | some node => rfl

theorem run_mapM_text (ids : List NodeId) (b : Builder) :
    (ids.mapM text).run b = (b.texts? ids).map fun texts => (texts, b) := by
  induction ids with
  | nil => rfl
  | cons id ids ih =>
    rw [texts?, List.mapM_cons, List.mapM_cons, StateT.run_bind, run_text]
    cases b.text? id with
    | none => rfl
    | some text =>
      simp only [Option.map_some, Option.bind_eq_bind, Option.bind_some, StateT.run_bind, ih,
        texts?]
      cases ids.mapM b.text? with
      | none => rfl
      | some texts => rfl

/-- Reading a text leaves the builder as it is. -/
theorem run_text_bind_eq_some_iff (id : NodeId) (next : String → Build β) (r : β × Builder) :
    (text id >>= next).run b = some r ↔
      ∃ text, b.text? id = some text ∧ (next text).run b = some r := by
  rw [StateT.run_bind, run_text, Option.bind_eq_bind, Option.bind_map, Option.bind_eq_some_iff]
  rfl

theorem run_joined_bind_eq_some_iff (ids : List NodeId) (separator : String)
    (next : String → Build β) (r : β × Builder) :
    (joined ids separator >>= next).run b = some r ↔ ∃ texts, b.texts? ids = some texts ∧
      (next (separator.intercalate texts)).run b = some r := by
  rw [joined, bind_assoc, StateT.run_bind, run_mapM_text, Option.bind_eq_bind, Option.bind_map,
    Option.bind_eq_some_iff]
  rfl

/-- A node without children fits everywhere, if its text may stand for itself. -/
theorem grows_of_leaf {node : Node} (hleaf : node.children = [])
    (hnode : Renders b.language node.kind node.name [] node.text)
    (h : (push node).run b = some (id, b')) : b.Grows b' := by
  obtain ⟨rfl, rfl⟩ := (run_push_eq_some_iff _).mp h
  refine Fits.grows ⟨[], ?_, hnode⟩
  rw [hleaf, texts?_nil]

theorem grows_of_ident {name : String} (h : (ident name).run b = some (id, b')) :
    b.Grows b' :=
  grows_of_leaf rfl (.identifier name) h

theorem grows_of_literal {kind : LiteralClass} {text : String}
    (h : (literal kind text).run b = some (id, b')) : b.Grows b' :=
  grows_of_leaf rfl (.literal text) h

/-- The receiver is read before the member is added behind it. -/
theorem grows_of_access {receiver : NodeId} {operator name : String}
    (hoperator : operator = b.language.memberSeparator ∨ operator = "::")
    (h : (access receiver operator name).run b = some (id, b')) : b.Grows b' := by
  simp only [access, run_text_bind_eq_some_iff] at h
  obtain ⟨text, htext, h⟩ := h
  obtain ⟨_, c, hmember, h⟩ := (run_bind_eq_some_iff _ _ _).mp h
  have hident := grows_of_ident hmember
  obtain ⟨rfl, rfl⟩ := (run_push_eq_some_iff _).mp hmember
  obtain ⟨rfl, rfl⟩ := (run_push_eq_some_iff _).mp h
  refine hident.trans (Fits.grows ⟨[text, name], ?_, ?_⟩)
  · exact texts?_pair (text?_add_of_eq_some htext _) (text?_add_size b _)
  · rcases hoperator with rfl | rfl
    · exact .member text name
    · exact .staticMember text name

theorem grows_of_member {receiver : NodeId} {name : String}
    (h : (member receiver name).run b = some (id, b')) : b.Grows b' := by
  rw [member, run_get_bind] at h
  exact grows_of_access (.inl rfl) h

theorem grows_of_staticMember {receiver : NodeId} {name : String}
    (h : (staticMember receiver name).run b = some (id, b')) : b.Grows b' :=
  grows_of_access (.inr rfl) h

theorem grows_of_call {callee : NodeId} {args : List NodeId}
    (h : (call callee args).run b = some (id, b')) : b.Grows b' := by
  simp only [call, run_text_bind_eq_some_iff, run_joined_bind_eq_some_iff,
    run_push_eq_some_iff] at h
  obtain ⟨text, htext, texts, htexts, rfl, rfl⟩ := h
  exact Fits.grows ⟨text :: texts, texts?_cons htext htexts, .call text texts⟩

theorem grows_of_block {statements : List NodeId}
    (h : (block statements).run b = some (id, b')) : b.Grows b' := by
  simp only [block, run_joined_bind_eq_some_iff, run_push_eq_some_iff] at h
  obtain ⟨texts, htexts, rfl, rfl⟩ := h
  exact Fits.grows ⟨texts, htexts, .block texts⟩

theorem eq_place_of_locate {target : NodeId} {line column : UInt64}
    (h : (locate target line column).run b = some (id, b')) :
    ∃ node, b.nodes[target]? = some node ∧ b' = b.place target node { line, column } := by
  rw [locate, StateT.run_bind, run_read, Option.bind_eq_bind, Option.bind_map,
    Option.bind_eq_some_iff] at h
  obtain ⟨node, hnode, h⟩ := h
  obtain ⟨rfl, rfl⟩ := Prod.mk.inj (Option.some.inj h)
  exact ⟨node, hnode, rfl⟩

end Build

namespace Step

/-- Whether the step adds a node just as it is told. -/
def isRaw : Step → Bool
  | push .. | named .. => true
  | _ => false

open Build Builder

variable {step : Step} {b b' : Builder} {id : NodeId}

theorem exists_add_of_build (hraw : step.isRaw = true)
    (h : step.build.run b = some (id, b')) : ∃ node, b' = b.add node := by
  cases step with
  | push kind text children => exact ⟨_, ((run_push_eq_some_iff _).mp h).2.symm⟩
  | named kind name text children => exact ⟨_, ((run_push_eq_some_iff _).mp h).2.symm⟩
  | _ => cases hraw

/-- A step that neither adds a raw node nor places one adds nodes that fit. -/
theorem grows_of_build (hraw : step.isRaw = false)
    (hlocate : ∀ target line column, step ≠ .locate target line column)
    (h : step.build.run b = some (id, b')) : b.Grows b' := by
  cases step with
  | push | named => cases hraw
  | locate target line column => exact absurd rfl (hlocate target line column)
  | ident name => exact grows_of_ident h
  | string value =>
    rw [build, Build.string, run_get_bind] at h
    exact grows_of_literal h
  | number text => exact grows_of_literal h
  | boolean value => exact grows_of_literal h
  | null => exact grows_of_literal h
  | member receiver name => exact grows_of_member h
  | staticMember receiver name => exact grows_of_staticMember h
  | call callee args => exact grows_of_call h
  | methodCall receiver name args =>
    obtain ⟨_, c, hcallee, h⟩ := (run_bind_eq_some_iff _ _ _).mp h
    exact (grows_of_member hcallee).trans (grows_of_call h)
  | staticCall className name args =>
    obtain ⟨_, c, hreceiver, h⟩ := (run_bind_eq_some_iff _ _ _).mp h
    obtain ⟨_, d, hcallee, h⟩ := (run_bind_eq_some_iff _ _ _).mp h
    have hmember := (grows_of_ident hreceiver).trans (grows_of_staticMember hcallee)
    exact hmember.trans (grows_of_call h)
  | functionCall name args =>
    obtain ⟨_, c, hcallee, h⟩ := (run_bind_eq_some_iff _ _ _).mp h
    exact (grows_of_ident hcallee).trans (grows_of_call h)
  | pair key value =>
    simp only [build, run_get_bind, run_text_bind_eq_some_iff, run_push_eq_some_iff] at h
    obtain ⟨text, hkey, text', hvalue, rfl, rfl⟩ := h
    exact Fits.grows ⟨[text, text'], texts?_pair hkey hvalue, .pair text text'⟩
  | array elements =>
    simp only [build, run_joined_bind_eq_some_iff, run_push_eq_some_iff] at h
    obtain ⟨texts, htexts, rfl, rfl⟩ := h
    exact Fits.grows ⟨texts, htexts, .array texts⟩
  | arrayAccess base index =>
    simp only [build, run_text_bind_eq_some_iff, run_push_eq_some_iff] at h
    obtain ⟨text, hbase, text', hindex, rfl, rfl⟩ := h
    exact Fits.grows ⟨[text, text'], texts?_pair hbase hindex, .arrayAccess text text'⟩
  | assign target value =>
    simp only [build, run_text_bind_eq_some_iff, run_push_eq_some_iff] at h
    obtain ⟨text, htarget, text', hvalue, rfl, rfl⟩ := h
    exact Fits.grows ⟨[text, text'], texts?_pair htarget hvalue, .assignment text text'⟩
  | concat parts =>
    simp only [build, run_get_bind, run_joined_bind_eq_some_iff, run_push_eq_some_iff] at h
    obtain ⟨texts, htexts, rfl, rfl⟩ := h
    exact Fits.grows ⟨texts, htexts, .concatenation texts⟩
  | markup html => exact grows_of_leaf rfl (.markup html) h
  | echo text => exact grows_of_leaf rfl (.echo text) h
  | statement expr =>
    simp only [build, run_text_bind_eq_some_iff, run_push_eq_some_iff] at h
    obtain ⟨text, hexpr, rfl, rfl⟩ := h
    exact Fits.grows ⟨[text], texts?_cons hexpr b.texts?_nil, .statement text⟩
  | block statements => exact grows_of_block h
  | field name =>
    rw [build, run_get_bind] at h
    exact grows_of_leaf rfl (.field name) h
  | method name statements =>
    -- the body is read again, from the node that was added for it
    obtain ⟨body, c, hbody, h⟩ := (run_bind_eq_some_iff _ _ _).mp h
    simp only [run_text_bind_eq_some_iff, run_push_eq_some_iff] at h
    obtain ⟨text, htext, rfl, rfl⟩ := h
    refine (grows_of_block hbody).trans (Fits.grows ?_)
    exact ⟨[text], texts?_cons htext c.texts?_nil, .method name text⟩
  | classDecl name members =>
    simp only [build, run_joined_bind_eq_some_iff, run_push_eq_some_iff] at h
    obtain ⟨texts, htexts, rfl, rfl⟩ := h
    exact Fits.grows ⟨texts, htexts, .classDecl name texts⟩
  | file items =>
    simp only [build, run_joined_bind_eq_some_iff, run_push_eq_some_iff] at h
    obtain ⟨texts, htexts, rfl, rfl⟩ := h
    exact Fits.grows ⟨texts, htexts, .file texts⟩

end Step

namespace Builder

theorem run?_cons_eq_some_iff (b b' : Builder) (step : Step) (steps : List Step) :
    b.run? (step :: steps) = some b' ↔
      ∃ id c, step.build.run b = some (id, c) ∧ c.run? steps = some b' := by
  rw [run?, List.foldlM_cons, Option.bind_eq_bind, Option.bind_map, Option.bind_eq_some_iff,
    Prod.exists]
  rfl

theorem run?_append_eq_some_iff (b b' : Builder) (before after : List Step) :
    b.run? (before ++ after) = some b' ↔
      ∃ c, b.run? before = some c ∧ c.run? after = some b' := by
  rw [run?, List.foldlM_append, Option.bind_eq_bind, Option.bind_eq_some_iff]
  rfl

theorem Grows.keeps {P : Builder → Prop}
    (hadd : ∀ b node, b.Fits node → P b → P (b.add node)) {b b' : Builder} (h : b.Grows b')
    (hb : P b) : P b' := by
  induction h with
  | refl => exact hb
  | tail _ hlast ih =>
    obtain ⟨node, hnode, rfl⟩ := hlast
    exact hadd _ node hnode ih

/-- What is kept by adding nodes, and by placing a node that one of the steps places, is kept by a
run. Only if one of its steps is raw can a node be added that does not fit. -/
theorem run?_keeps_of_added {P : Builder → Prop} {steps : List Step}
    (hadd : ∀ b node, b.Fits node ∨ (∃ step ∈ steps, step.isRaw = true) → P b → P (b.add node))
    (hplace : ∀ b id node line column, .locate id line column ∈ steps →
      b.nodes[id]? = some node → P b → P (b.place id node { line, column }))
    {b b' : Builder} (h : b.run? steps = some b') (hb : P b) : P b' := by
  induction steps generalizing b with
  | nil =>
    obtain rfl := Option.some.inj h
    exact hb
  | cons step steps ih =>
    obtain ⟨_, c, hstep, h⟩ := (run?_cons_eq_some_iff b b' step steps).mp h
    refine ih (fun b node hnode => ?_) (fun b id node line column hmem => ?_) h ?_
    · exact hadd b node (hnode.imp_right fun ⟨raw, hmem, hraw⟩ =>
        ⟨raw, List.mem_cons_of_mem _ hmem, hraw⟩)
    · exact hplace b id node line column (List.mem_cons_of_mem _ hmem)
    · by_cases hlocate : ∃ id line column, step = .locate id line column
      · obtain ⟨id, line, column, rfl⟩ := hlocate
        obtain ⟨node, hnode, rfl⟩ := Build.eq_place_of_locate hstep
        exact hplace b id node line column List.mem_cons_self hnode hb
      · simp only [not_exists] at hlocate
        cases hraw : step.isRaw with
        | true =>
          obtain ⟨node, rfl⟩ := Step.exists_add_of_build hraw hstep
          exact hadd b node (.inr ⟨step, List.mem_cons_self, hraw⟩) hb
        | false =>
          exact (Step.grows_of_build hraw hlocate hstep).keeps
            (fun b node hnode => hadd b node (.inl hnode)) hb

/-- What is kept by adding a node that fits, and by placing a node that one of the steps places,
is kept by a run of steps without raw nodes. -/
theorem run?_keeps {P : Builder → Prop} {steps : List Step}
    (hraw : ∀ step ∈ steps, step.isRaw = false)
    (hadd : ∀ b node, b.Fits node → P b → P (b.add node))
    (hplace : ∀ b id node line column, .locate id line column ∈ steps →
      b.nodes[id]? = some node → P b → P (b.place id node { line, column }))
    {b b' : Builder} (h : b.run? steps = some b') (hb : P b) : P b' := by
  refine run?_keeps_of_added (fun c node hnode => ?_) hplace h hb
  rcases hnode with hnode | ⟨step, hmem, hstep⟩
  · exact hadd c node hnode
  · rw [hraw step hmem] at hstep
    cases hstep

theorem language_of_run? {steps : List Step} (hraw : ∀ step ∈ steps, step.isRaw = false)
    {b b' : Builder} (h : b.run? steps = some b') : b'.language = b.language := by
  apply run?_keeps (P := fun c => c.language = b.language) hraw ?_ ?_ h rfl
  · intro c node _ hc
    exact hc
  · intro c id node line column _ _ hc
    exact hc

/-- Every node has its children below it and is rendered from them. -/
structure Composed (b : Builder) : Prop where
  below : ∀ (id : NodeId) (node : Node), b.nodes[id]? = some node → ∀ q ∈ node.children, q < id
  rendered : ∀ (id : NodeId) (node : Node), b.nodes[id]? = some node → b.Fits node

theorem composed_empty (language : Language) (path : Option Path) :
    Composed { language, path } where
  below _ _ h := by simp at h
  rendered _ _ h := by simp at h

theorem Composed.add {b : Builder} (h : b.Composed) {node : Node} (hnode : b.Fits node) :
    (b.add node).Composed where
  below id found hfound := by
    rcases (getElem?_add_eq_some_iff b node found id).mp hfound with hold | ⟨rfl, rfl⟩
    · exact h.below id found hold
    · exact hnode.child_lt
  rendered id found hfound := by
    rcases (getElem?_add_eq_some_iff b node found id).mp hfound with hold | ⟨rfl, rfl⟩
    · exact (h.rendered id found hold).add node
    · exact hnode.add _

theorem Composed.place {b : Builder} (h : b.Composed) {id : NodeId} {node : Node}
    (hnode : b.nodes[id]? = some node) (span : Span) : (b.place id node span).Composed where
  below id' found hfound := by
    obtain ⟨old, _, hold, rfl⟩ := exists_of_getElem?_place hnode hfound
    exact h.below id' old hold
  rendered id' found hfound := by
    obtain ⟨old, _, hold, rfl⟩ := exists_of_getElem?_place hnode hfound
    exact (h.rendered id' old hold).place hnode span

theorem composed_of_run? {language : Language} {path : Option Path} {steps : List Step}
    {b : Builder} (hraw : ∀ step ∈ steps, step.isRaw = false)
    (h : run? { language, path } steps = some b) : b.Composed := by
  apply run?_keeps hraw ?_ ?_ h (composed_empty language path)
  · intro c node hnode hc
    exact hc.add hnode
  · intro c id node line column _ hnode hc
    exact hc.place hnode _

end Builder

end SecurityLint
