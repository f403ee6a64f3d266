import SecurityLint.Proofs.UniformScan

/-!
Nodes under other numbers. Where the nodes of a tree are found again in a second one, under new
numbers and with the same looks, what the rules report there is reported here under the new
numbers. A table whose links are those of some trees, with their roots made one, is a tree itself.
-/
namespace SecurityLint

/-- The node with the new numbers of its children. -/
def Node.renumber (φ : NodeId → NodeId) (n : Node) : Node :=
  { n with children := n.children.map φ }

/-- The node without its span; a literal of no class is taken for a string. -/
def Node.outline (n : Node) : Node :=
  { n with literal := some (n.literal.getD .string), span := none }

def Evidence.readdress (number : NodeId → NodeId)
    (place : NodeId → Option Location → Option Location) (e : Evidence) : Evidence :=
  { e with node := number e.node, location := place e.node e.location }

/-- The finding with other numbers and locations of the nodes that it shows. -/
def Finding.readdress (number : NodeId → NodeId)
    (place : NodeId → Option Location → Option Location) (f : Finding) : Finding :=
  { f with
    anchor := number f.anchor
    location := place f.anchor f.location
    evidence := f.evidence.map (Evidence.readdress number place) }

/-- The finding with the new numbers of the nodes that it shows, each at its old location. -/
def Finding.renumber (φ : NodeId → NodeId) : Finding → Finding :=
  Finding.readdress φ fun _ location => location

theorem Finding.blindTo_readdress (number : NodeId → NodeId)
    (place : NodeId → Option Location → Option Location) :
    Policy.BlindTo (Finding.readdress number place) where
  ruleId _ := rfl
  severity _ := rfl
  confidence _ := rfl
  withSeverity _ _ := rfl

variable {t u : SyntaxTree} {φ : NodeId → NodeId}

section Like

variable {R : Cursor t → Cursor u → Prop} {number : NodeId → NodeId}
  {place : NodeId → Option Location → Option Location}

theorem Evidence.Like.eq_readdress {e e' : Evidence} (h : Evidence.Like R e e')
    (hpairs : Counterparts R)
    (haddress : ∀ {c d}, R c d → d.id = number c.id ∧ d.location? = place c.id c.location?) :
    e' = e.readdress number place := by
  obtain ⟨c, d, hcd, hshows, hshows'⟩ := h.shows
  obtain ⟨hid, hplace⟩ := haddress hcd
  have hnode : e'.node = number e.node := by rw [hshows'.node, hshows.node, hid]
  have hlocation : e'.location = place e.node e.location := by
    rw [hshows'.location, hshows.node, hshows.location]
    exact hplace
  have hsnippet : e'.snippet = e.snippet := by
    rw [hshows'.snippet, hshows.snippet, hpairs.text hcd]
  calc e' = ⟨e'.description, e'.node, e'.location, e'.snippet⟩ := rfl
    _ = ⟨e.description, number e.node, place e.node e.location, e.snippet⟩ := by
      rw [h.description, hnode, hlocation, hsnippet]

/-- Findings that say the same differ in nothing but the numbers and locations of the nodes that
they show. -/
theorem Finding.Like.eq_readdress {f g : Finding} (h : Finding.Like R f g)
    (hpairs : Counterparts R)
    (haddress : ∀ {c d}, R c d → d.id = number c.id ∧ d.location? = place c.id c.location?) :
    g = f.readdress number place := by
  obtain ⟨c, d, hcd, hanchor, hlocation, hanchor', hlocation'⟩ := h.anchor
  obtain ⟨hid, hplace⟩ := haddress hcd
  have hnumber : g.anchor = number f.anchor := by rw [hanchor', hanchor, hid]
  have hplaced : g.location = place f.anchor f.location := by
    rw [hlocation', hanchor, hlocation]
    exact hplace
  have hevidence : g.evidence = f.evidence.map (Evidence.readdress number place) := by
    have hmap := map_eq_of_forall₂ (g := id) h.evidence fun he =>
      he.eq_readdress hpairs haddress
    rwa [List.map_id] at hmap
  calc g = { g.gist with anchor := g.anchor, location := g.location, evidence := g.evidence } := rfl
    _ = { f.gist with
          anchor := number f.anchor
          location := place f.anchor f.location
          evidence := f.evidence.map (Evidence.readdress number place) } := by
      rw [h.gist, hnumber, hplaced, hevidence]
    _ = f.readdress number place := rfl

/-- So do lists of findings. -/
theorem eq_map_readdress {l l' : List Finding} (h : List.Forall₂ (Finding.Like R) l l')
    (hpairs : Counterparts R)
    (haddress : ∀ {c d}, R c d → d.id = number c.id ∧ d.location? = place c.id c.location?) :
    l' = l.map (Finding.readdress number place) := by
  have hmap := map_eq_of_forall₂ (g := id) h fun hfg => hfg.eq_readdress hpairs haddress
  rwa [List.map_id] at hmap

end Like

theorem Cursor.location?_eq (c : Cursor t) :
    c.location? = c.node.span.map fun span => { file := t.path.getD .empty, span } := by
  rw [Cursor.location?, SyntaxTree.location?, c.getElem?_nodes, Option.bind_eq_bind,
    Option.bind_some]
  cases c.node.span <;> rfl

theorem Cursor.node_eq_renumber {c : Cursor t} {d : Cursor u} (hid : d.id = φ c.id)
    (hnode : u.table.nodes[φ c.id]? = t.table.nodes[c.id]?.map (Node.renumber φ)) :
    d.node = c.node.renumber φ := by
  have hd := d.getElem?_nodes
  rw [hid, hnode, c.getElem?_nodes] at hd
  exact (Option.some.inj hd).symm

theorem Cursor.location?_eq_of_renumber {c : Cursor t} {d : Cursor u} (hpath : u.path = t.path)
    (hnode : d.node = c.node.renumber φ) : d.location? = c.location? := by
  rw [location?_eq, location?_eq, hnode, hpath]
  rfl

theorem Cursor.atTop_of_parent?_eq_none {c : Cursor t} (h : c.parent? = none) : c.AtTop := by
  intro p hp
  rw [h] at hp
  cases hp

/-- The nodes of `t` with `P` are found in `u` under new numbers. With a node come all nodes below
it, and the one above it unless both stand at the top of a file. -/
structure Renumbers (φ : NodeId → NodeId) (P : Cursor t → Prop) (u : SyntaxTree) : Prop where
  inside : ∀ {c}, P c → φ c.id < u.size
  injective : ∀ {c c'}, P c → P c' → φ c.id = φ c'.id → c = c'
  outline : ∀ {c} {d : Cursor u}, P c → d.id = φ c.id →
    d.node.outline = (c.node.renumber φ).outline
  children : ∀ {c c'}, P c → c' ∈ c.children → P c'
  parent? : ∀ {c} {d : Cursor u}, P c → d.id = φ c.id →
    (∃ p, c.parent? = some p ∧ P p) ∨ (c.AtTop ∧ d.AtTop)

/-- All nodes of a tree are found again if the root is. -/
theorem renumbers_all (hroot : φ t.root = u.root) (hinside : ∀ c : Cursor t, φ c.id < u.size)
    (hinjective : ∀ c c' : Cursor t, φ c.id = φ c'.id → c = c')
    (houtline : ∀ (c : Cursor t) (d : Cursor u), d.id = φ c.id →
      d.node.outline = (c.node.renumber φ).outline) :
    Renumbers φ (fun _ : Cursor t => True) u where
  inside _ := hinside _
  injective _ _ := hinjective _ _
  outline _ := houtline _ _
  children _ _ := trivial
  parent? := by
    intro c d _ hid
    cases hparent : c.parent? with
    | some p => exact .inl ⟨p, rfl, trivial⟩
    | none =>
      rw [(Cursor.parent?_eq_none_iff c).mp hparent, hroot] at hid
      have hnone := (Cursor.parent?_eq_none_iff d).mpr hid
      exact .inr ⟨Cursor.atTop_of_parent?_eq_none hparent, Cursor.atTop_of_parent?_eq_none hnone⟩

namespace Renumbers

variable {P : Cursor t → Prop} {c : Cursor t} {d : Cursor u}

/-- Lists of nodes whose numbers are the new ones pair up in order. -/
theorem forall₂_of_ids {l : List (Cursor t)} {l' : List (Cursor u)} (hl : ∀ c ∈ l, P c)
    (hids : l'.map Cursor.id = (l.map Cursor.id).map φ) :
    List.Forall₂ (fun c d => P c ∧ d.id = φ c.id) l l' := by
  refine (List.forall₂_and_left _ _).mpr ⟨hl, ?_⟩
  rw [List.map_map, ← List.forall₂_eq_eq_eq, List.forall₂_map_left_iff,
    List.forall₂_map_right_iff] at hids
  exact hids.flip

theorem ids_children (h : Renumbers φ P u) (hc : P c) (hid : d.id = φ c.id) :
    d.node.children = c.node.children.map φ :=
  congrArg Node.children (h.outline hc hid)

theorem forall₂_children (h : Renumbers φ P u) (hc : P c) (hid : d.id = φ c.id) :
    List.Forall₂ (fun c d => P c ∧ d.id = φ c.id) c.children d.children := by
  apply forall₂_of_ids fun _ hc' => h.children hc hc'
  rw [Cursor.ids_children, h.ids_children hc hid, ← Cursor.ids_children]

theorem parent?_eq_some (h : Renumbers φ P u) {p : Cursor t} (hp : P p)
    (hparent : c.parent? = some p) (hid : d.id = φ c.id) :
    ∃ q : Cursor u, d.parent? = some q ∧ q.id = φ p.id := by
  let q : Cursor u := ⟨φ p.id, h.inside hp⟩
  refine ⟨q, ?_, rfl⟩
  rw [Cursor.parent?_eq_some_iff] at hparent ⊢
  rw [h.ids_children (d := q) hp rfl, hid]
  exact List.mem_map_of_mem hparent

/-- A node and the one with its new number are counterparts. -/
theorem counterparts (h : Renumbers φ P u) :
    Counterparts fun (c : Cursor t) (d : Cursor u) => P c ∧ d.id = φ c.id where
  kind hcd := (congrArg Node.kind (h.outline hcd.1 hcd.2) :)
  text hcd := (congrArg Node.text (h.outline hcd.1 hcd.2) :)
  name? hcd := (congrArg Node.name (h.outline hcd.1 hcd.2) :)
  literal hcd := Option.some.inj (congrArg Node.literal (h.outline hcd.1 hcd.2))
  children hcd := h.forall₂_children hcd.1 hcd.2
  parent? := by
    rintro c d ⟨hc, hid⟩
    obtain ⟨p, hparent, hp⟩ | htop := h.parent? hc hid
    · obtain ⟨q, hq, hqid⟩ := h.parent?_eq_some hp hparent hid
      exact .inl ⟨p, q, hparent, hq, hp, hqid⟩
    · exact .inr htop
  unique := by
    constructor
    · rintro c c' d ⟨hc, hid⟩ ⟨hc', hid'⟩
      exact h.injective hc hc' (hid.symm.trans hid')
    · rintro c d d' ⟨_, hid⟩ ⟨_, hid'⟩
      exact Cursor.eq_of_id_eq (hid.trans hid'.symm)

/-- The rules report on nodes with new numbers what they report on the nodes themselves, under the
new numbers, if all of them stand where they stood. -/
theorem flatMap_findingsAt (h : Renumbers φ P u) {rules : List Rule}
    (huniform : ∀ rule ∈ rules, rule.Uniform)
    (hplace : ∀ {c} {d : Cursor u}, P c → d.id = φ c.id → d.location? = c.location?)
    {nodes : List (Cursor t)} {nodes' : List (Cursor u)}
    (hnodes : List.Forall₂ (fun c d => P c ∧ d.id = φ c.id) nodes nodes') :
    nodes'.flatMap (findingsAt rules) =
      (nodes.flatMap (findingsAt rules)).map (Finding.renumber φ) := by
  have hlike := like_flatMap_findingsAt huniform h.counterparts hnodes
  exact eq_map_readdress hlike h.counterparts fun hcd => ⟨hcd.2, hplace hcd.1 hcd.2⟩

end Renumbers

namespace Table

/-- A node that was renumbered has the children that it had, under their new numbers. -/
theorem children_eq_map {part whole : Table} {i k : NodeId}
    (h : whole.nodes[k]? = part.nodes[i]?.map (Node.renumber φ)) :
    whole.children k = (part.children i).map φ := by
  rw [children, children, h]
  cases part.nodes[i]? <;> rfl

theorem IsTree.nodup_map_children {part : Table} (h : part.IsTree)
    (hinjective : ∀ i < part.size, ∀ j < part.size, φ i = φ j → i = j) {i : NodeId}
    (hi : i < part.size) : ((part.children i).map φ).Nodup := by
  refine List.Nodup.map_on ?_ (h.nodup_children hi)
  intro j hj j' hj'
  exact hinjective j (h.link_lt hj) j' (h.link_lt hj')

/-- A table is a tree if its links are those of some trees whose roots are made one, the node `i`
of `parts a` being the node `φ a i` of the table. -/
theorem isTree_of_parts {ι : Type} (parts : ι → Table) (φ : ι → NodeId → NodeId) {whole : Table}
    (htrees : ∀ a, (parts a).IsTree) (hroot_lt : whole.root < whole.size)
    (hroot : ∀ a, φ a (parts a).root = whole.root)
    (hlt : ∀ a, ∀ i < (parts a).size, φ a i < whole.size)
    (hcovers : ∀ q < whole.size, ∃ a, ∃ i < (parts a).size, φ a i = q)
    (hapart : ∀ a b, ∀ i < (parts a).size, ∀ j < (parts b).size, φ a i = φ b j →
      (i = (parts a).root ∧ j = (parts b).root) ∨ (a = b ∧ i = j))
    (hlink : ∀ p q, whole.Link p q ↔ ∃ a i j, (parts a).Link i j ∧ φ a i = p ∧ φ a j = q)
    (hnodup : ∀ p < whole.size, (whole.children p).Nodup) : whole.IsTree := by
  refine ⟨hroot_lt, ?_, ?_, whole.listed_once_iff.mpr ⟨hnodup, ?_⟩, ?_⟩
  · intro q hq
    obtain ⟨p, hpq⟩ := (whole.mem_listed_iff q).mp hq
    obtain ⟨a, _, j, hij, _, rfl⟩ := (hlink p q).mp hpq
    exact hlt a j ((htrees a).link_lt hij)
  · intro hmem
    obtain ⟨p, hp⟩ := (whole.mem_listed_iff _).mp hmem
    obtain ⟨a, _, j, hij, _, hj⟩ := (hlink p _).mp hp
    rw [← hroot a] at hj
    rcases hapart a a j ((htrees a).link_lt hij) _ (htrees a).root_lt hj with h | h
    · exact (htrees a).link_ne_root hij h.1
    · exact (htrees a).link_ne_root hij h.2
  · intro p p' q hp hp'
    obtain ⟨a, i, j, hij, rfl, rfl⟩ := (hlink p q).mp hp
    obtain ⟨b, i', j', hij', rfl, heq⟩ := (hlink p' _).mp hp'
    have hends := hapart b a j' ((htrees b).link_lt hij') j ((htrees a).link_lt hij) heq
    rcases hends with ⟨hroot, _⟩ | ⟨rfl, rfl⟩
    · exact absurd hroot ((htrees b).link_ne_root hij')
    · have hunique := ((parts b).listed_once_iff.mp (htrees b).listed_once).2
      rw [hunique i i' j' hij hij']
  · intro q hq
    obtain ⟨a, i, hi, rfl⟩ := hcovers q hq
    have hreach := (htrees a).reaches i hi
    rw [← hroot a]
    exact hreach.lift (φ a) fun i j hij => (hlink _ _).mpr ⟨a, i, j, hij, rfl, rfl⟩

end Table

end SecurityLint
