import SecurityLint.Proofs.Renumbering

/-!
Where the nodes stand in the source shows in the locations of a report and nowhere else. Trees
whose nodes have the same outline get the same findings, each with the locations of its own tree,
and the same verdict; language, path and spans play no part in it. A fingerprint is taken of
the file and not of the place in it, so it stays while code is moved to other lines.
-/
namespace SecurityLint

/-- What the rules see of a table: its nodes in outline, below their root. -/
def Table.outline (t : Table) : Table where
  root := t.root
  nodes := t.nodes.map Node.outline

/-- The finding with the locations that its nodes have in the tree. -/
def Finding.placedIn (u : SyntaxTree) : Finding → Finding :=
  Finding.readdress id fun id _ => u.location? id

variable {t u : SyntaxTree}

/-- Arrays that agree in a view of their nodes agree in it at each place. -/
theorem Cursor.view_eq {α : Type} {view : Node → α}
    (h : u.table.nodes.map view = t.table.nodes.map view) {c : Cursor t} {d : Cursor u}
    (hid : d.id = c.id) : view d.node = view c.node := by
  have hviews : (u.table.nodes.map view)[d.id]? = (t.table.nodes.map view)[c.id]? := by
    rw [h, hid]
  rw [Array.getElem?_map, Array.getElem?_map, c.getElem?_nodes, d.getElem?_nodes] at hviews
  exact Option.some.inj hviews

theorem renumbers_of_outline_eq (h : u.table.outline = t.table.outline) :
    Renumbers id (fun _ : Cursor t => True) u := by
  have hnodes : u.table.nodes.map Node.outline = t.table.nodes.map Node.outline :=
    congrArg Table.nodes h
  apply renumbers_all
  case hroot => exact (congrArg Table.root h).symm
  case hinside =>
    intro c
    have hsize := congrArg Array.size hnodes
    rw [Array.size_map, Array.size_map] at hsize
    exact Nat.lt_of_lt_of_eq c.inside hsize.symm
  case hinjective => exact fun c c' hid => Cursor.eq_of_id_eq hid
  case houtline =>
    intro c d hid
    rw [Cursor.view_eq hnodes hid, Node.renumber, List.map_id]

/-- Findings that say the same about nodes of one number in one file have one fingerprint. -/
theorem Finding.Like.fingerprint_eq {R : Cursor t → Cursor u → Prop} {f g : Finding}
    (h : Finding.Like R f g) (hplace : ∀ {c d}, R c d → d.id = c.id)
    (hfile : ∀ {c d}, R c d →
      d.location?.elim .empty Location.file = c.location?.elim .empty Location.file) :
    g.fingerprint = f.fingerprint := by
  obtain ⟨c, d, hcd, hanchor, hlocation, hanchor', hlocation'⟩ := h.anchor
  have hrule : g.ruleId = f.ruleId := (congrArg Finding.ruleId h.gist :)
  have hmessage : g.message = f.message := (congrArg Finding.message h.gist :)
  have hsame : g.anchor = f.anchor := by rw [hanchor', hanchor, hplace hcd]
  have hfile : g.file = f.file := by
    rw [Finding.file, Finding.file, hlocation, hlocation']
    exact hfile hcd
  rw [Finding.fingerprint, Finding.fingerprint, Finding.identity, Finding.identity, hrule,
    hmessage, hsame, hfile]

/-- The file of a node is that of its tree, if the node has a span. -/
theorem Cursor.file_eq (hpath : u.path = t.path) {c : Cursor t} {d : Cursor u}
    (hspan : d.node.span.isSome = c.node.span.isSome) :
    d.location?.elim .empty Location.file = c.location?.elim .empty Location.file := by
  rw [location?_eq, location?_eq, hpath]
  cases hc : c.node.span with
  | none =>
    rw [hc, Option.isSome_none, Option.isSome_eq_false_iff, Option.isNone_iff_eq_none] at hspan
    rw [hspan]
  | some span =>
    rw [hc, Option.isSome_some, Option.isSome_iff_exists] at hspan
    obtain ⟨span', hd⟩ := hspan
    rw [hd]
    rfl

/-- A scan reads of a tree its nodes in outline. Trees with the same outline have the same raw
findings and reports, but for the locations, which are those of the nodes in each tree; the
verdicts are equal. If the two trees are of one file and the same nodes have spans, all
fingerprints are equal too. -/
theorem scan_of_outline_eq {config : Config} {s : Scanner} (h : Scanner.ofConfig config = .ok s)
    (t u : SyntaxTree) (houtline : u.table.outline = t.table.outline) :
    (s.engine.scan u).findings = (s.engine.scan t).findings.map (Finding.placedIn u) ∧
    s.scan u = { s.scan t with findings := (s.scan t).findings.map (Finding.placedIn u) } ∧
    (u.path = t.path →
      u.table.nodes.map (·.span.isSome) = t.table.nodes.map (·.span.isSome) →
      (s.engine.scan u).findings.map Finding.fingerprint =
        (s.engine.scan t).findings.map Finding.fingerprint ∧
      (s.scan u).findings.map Finding.fingerprint =
        (s.scan t).findings.map Finding.fingerprint) := by
  have hrenumbers := renumbers_of_outline_eq houtline
  have hroot : u.rootCursor.id = t.rootCursor.id := (congrArg Table.root houtline :)
  have hlike := Scanner.like_scan h hrenumbers.counterparts ⟨trivial, hroot⟩
  have hraw : (s.engine.scan u).findings =
      (s.engine.scan t).findings.map (Finding.placedIn u) := by
    apply eq_map_readdress hlike hrenumbers.counterparts
    rintro c d ⟨_, hid⟩
    exact ⟨hid, congrArg u.location? hid⟩
  have hblind : Policy.BlindTo (Finding.placedIn u) := Finding.blindTo_readdress _ _
  refine ⟨hraw, Scanner.scan_eq_of_findings h hblind hraw, ?_⟩
  intro hpath hspans
  have hprints : (s.engine.scan u).findings.map Finding.fingerprint =
      (s.engine.scan t).findings.map Finding.fingerprint :=
    map_eq_of_forall₂ hlike fun hfg => hfg.fingerprint_eq (fun hcd => hcd.2)
      fun hcd => Cursor.file_eq hpath (Cursor.view_eq hspans hcd.2)
  have hsame : ∀ f ∈ (s.engine.scan t).findings, (f.placedIn u).fingerprint = f.fingerprint := by
    rw [hraw, List.map_map] at hprints
    exact List.map_inj_left.mp hprints
  refine ⟨hprints, ?_⟩
  rw [Scanner.scan, Scanner.scan, hraw]
  exact s.policy.map_fingerprint_apply_map hblind hsame

/-- The call that stores secrets forty lines further down, from a parser of another language that
gives strings no class. -/
def movedStorageTree : SyntaxTree where
  table := { storageTable with
    language := .javaScript
    nodes := storageTable.nodes.map fun n =>
      { n with literal := none, span := n.span.map fun s => { s with line := s.line + 40 } } }
  parents := storageTree.parents
  linked := by
    dsimp only [storageTree, storageTable]
    generalize some (Path.ofText "app/User.php") = path
    cbv

theorem movedStorageTree_scan : ∃ s, Scanner.ofConfig wordConfig = .ok s ∧
    movedStorageTree.table.outline = storageTree.table.outline ∧
    movedStorageTree.location? 5 ≠ storageTree.location? 5 ∧
    (s.engine.scan movedStorageTree).findings =
      (s.engine.scan storageTree).findings.map (Finding.placedIn movedStorageTree) ∧
    (s.scan movedStorageTree).verdict = (s.scan storageTree).verdict ∧
    (s.scan movedStorageTree).findings.map Finding.fingerprint =
      (s.scan storageTree).findings.map Finding.fingerprint := by
  obtain ⟨s, hs, _⟩ := Scanner.exists_ofConfig_word
  have houtline : movedStorageTree.table.outline = storageTree.table.outline := by decide +kernel
  have hspans : movedStorageTree.table.nodes.map (·.span.isSome) =
      storageTree.table.nodes.map (·.span.isSome) := by decide +kernel
  obtain ⟨hraw, hscan, hprints⟩ := scan_of_outline_eq hs storageTree movedStorageTree houtline
  exact ⟨s, hs, houtline, by decide +kernel, hraw, by rw [hscan], (hprints rfl hspans).2⟩

end SecurityLint
