import SecurityLint.Fingerprint
import SecurityLint.Proofs.Paths

/-!
What a fingerprint is taken of can be read back. A byte of zero ends the rule and the file, as the
bytes of a text without NUL have none; the anchor takes eight bytes, and the message is the rest.
The digits of a fingerprint show the whole hash, so nothing is lost behind the hash either. Of
the file only the text is hashed: paths that differ in malformed bytes are taken for one, and
two spellings of one path are told apart.
-/
namespace SecurityLint

namespace Hash

theorem length_littleEndian (n x : ℕ) : (littleEndian n x).length = n := by
  induction n generalizing x with
  | zero => rfl
  | succ n ih => rw [littleEndian, List.length_cons, ih]

theorem littleEndian_inj {n x y : ℕ} (hx : x < Nat.pow 256 n) (hy : y < Nat.pow 256 n)
    (h : littleEndian n x = littleEndian n y) : x = y := by
  induction n generalizing x y with
  | zero =>
    simp only [Nat.pow] at hx hy
    omega
  | succ n ih =>
    have hpow : Nat.pow 256 (n + 1) = Nat.pow 256 n * 256 := rfl
    rw [hpow] at hx hy
    obtain ⟨hlow, hhigh⟩ := List.cons.inj h
    have hdiv : x / 256 = y / 256 := ih (by omega) (by omega) hhigh
    have hmod : x % 256 = y % 256 := by simpa using congrArg UInt8.toNat hlow
    omega

end Hash

/-- Lists that are cut at the first place of a separator have equal parts. -/
theorem append_cons_inj {α : Type} {sep : α} {a b c d : List α} (ha : sep ∉ a) (hc : sep ∉ c)
    (h : a ++ sep :: b = c ++ sep :: d) : a = c ∧ b = d := by
  induction a generalizing c with
  | nil =>
    cases c with
    | nil => exact ⟨rfl, (List.cons.inj h).2⟩
    | cons x c =>
      obtain ⟨rfl, _⟩ := List.cons.inj h
      simp at hc
  | cons x a ih =>
    cases c with
    | nil =>
      obtain ⟨rfl, _⟩ := List.cons.inj h
      simp at ha
    | cons y c =>
      obtain ⟨rfl, htail⟩ := List.cons.inj h
      obtain ⟨rfl, rfl⟩ := ih (fun hx => ha (List.mem_cons_of_mem _ hx))
        (fun hx => hc (List.mem_cons_of_mem _ hx)) htail
      exact ⟨rfl, rfl⟩

/-- The parts of the identity can be told apart: no byte of rule and file can be taken for a
separator, and the anchor has 64 bits. -/
structure Finding.Framed (f : Finding) : Prop where
  ruleId : '\x00' ∉ f.ruleId.toList
  file : 0 ∉ f.file.bytes
  anchor : f.anchor < UInt64.size

/-- Rule, text of the file, anchor and message can be told from the bytes that are hashed. -/
theorem Finding.eq_of_identity_eq {f g : Finding} (hf : f.Framed) (hg : g.Framed)
    (h : f.identity = g.identity) :
    f.ruleId = g.ruleId ∧ f.file.lossy = g.file.lossy ∧ f.anchor = g.anchor ∧
      f.message = g.message := by
  obtain ⟨hrule, hrest⟩ := append_cons_inj (Text.zero_not_mem_utf8 hf.ruleId)
    (Text.zero_not_mem_utf8 hg.ruleId) h
  obtain ⟨hfile, hrest⟩ := append_cons_inj
    (Text.zero_not_mem_utf8 (Path.nul_not_mem_lossy hf.file))
    (Text.zero_not_mem_utf8 (Path.nul_not_mem_lossy hg.file)) hrest
  obtain ⟨hanchor, hmessage⟩ := List.append_inj hrest
    ((Hash.length_littleEndian 8 _).trans (Hash.length_littleEndian 8 _).symm)
  exact ⟨Text.utf8_injective hrule, Text.utf8_injective hfile,
    Hash.littleEndian_inj (n := 8) hf.anchor hg.anchor hanchor, Text.utf8_injective hmessage⟩

theorem hexByte_injective {a b : UInt8} (h : hexByte a = hexByte b) : a = b := by
  have hdigit : ∀ m < 16, ∀ n < 16, m.digitChar = n.digitChar → m = n := by decide
  simp only [hexByte, List.cons.injEq, and_true] at h
  obtain ⟨hhigh, hlow⟩ := h
  have ha := a.toNat_lt
  have hb := b.toNat_lt
  have hdiv : a.toNat / 16 = b.toNat / 16 := hdigit _ (by omega) _ (by omega) hhigh
  have hmod : a.toNat % 16 = b.toNat % 16 := hdigit _ (by omega) _ (by omega) hlow
  apply UInt8.toNat_inj.mp
  omega

theorem flatMap_hexByte_injective {xs ys : List UInt8}
    (h : xs.flatMap hexByte = ys.flatMap hexByte) : xs = ys := by
  induction xs generalizing ys with
  | nil =>
    cases ys with
    | nil => rfl
    | cons b ys => cases h
  | cons a xs ih =>
    cases ys with
    | nil => cases h
    | cons b ys =>
      rw [List.flatMap_cons, List.flatMap_cons] at h
      obtain ⟨hbyte, hrest⟩ := List.append_inj h rfl
      rw [hexByte_injective hbyte, ih hrest]

namespace Finding

theorem fingerprint_eq_iff (f g : Finding) :
    f.fingerprint = g.fingerprint ↔
      Hash.Sha256.digest f.identity = Hash.Sha256.digest g.identity := by
  unfold fingerprint
  rw [String.ofList_inj]
  constructor
  · intro h
    exact flatMap_hexByte_injective h
  · intro h
    rw [h]

theorem identity_eq_of_agree {f g : Finding} (hrule : f.ruleId = g.ruleId)
    (hfile : f.file.lossy = g.file.lossy) (hanchor : f.anchor = g.anchor)
    (hmessage : f.message = g.message) : f.identity = g.identity := by
  unfold identity
  rw [hrule, hfile, hanchor, hmessage]

/-- The bytes that are hashed are the same exactly if rule, text of the file, anchor and message
are; a missing location is that of the file with the empty path, and there may be anything in
the message. The text of a file is what its bytes show as, and tells the file from every other
unless a replacement character stands in it; among files in UTF-8 it always does. Nothing else
in a finding has a part in its fingerprint, and two fingerprints are the same exactly if the
hashes of these bytes are. -/
theorem identity_eq_iff_agree :
    (∀ f g : Finding, f.Framed → g.Framed →
      (f.identity = g.identity ↔
        f.ruleId = g.ruleId ∧ f.file.lossy = g.file.lossy ∧ f.anchor = g.anchor ∧
          f.message = g.message)) ∧
    (∀ (f : Finding) (s : String), f.file.lossy = s ↔ Text.Shows f.file.bytes s.toList) ∧
    (∀ f g : Finding, f.file.IsText → g.file.IsText →
      (f.file.lossy = g.file.lossy ↔ f.file = g.file)) ∧
    (∀ f g : Finding, '\uFFFD' ∉ f.file.lossy.toList →
      (f.file.lossy = g.file.lossy ↔ f.file = g.file)) ∧
    (∀ f g : Finding, f.ruleId = g.ruleId → f.file.lossy = g.file.lossy → f.anchor = g.anchor →
      f.message = g.message → f.fingerprint = g.fingerprint) ∧
    ∀ f g : Finding, f.fingerprint = g.fingerprint ↔
      Hash.Sha256.digest f.identity = Hash.Sha256.digest g.identity := by
  refine ⟨?_, ?_, ?_, ?_, ?_, fingerprint_eq_iff⟩
  · intro f g hf hg
    constructor
    · intro h
      exact eq_of_identity_eq hf hg h
    · intro h
      obtain ⟨hrule, hfile, hanchor, hmessage⟩ := h
      exact identity_eq_of_agree hrule hfile hanchor hmessage
  · intro f s
    exact Path.lossy_eq_iff_shows
  · intro f g hf hg
    exact Path.lossy_inj hf hg
  · intro f g hwhole
    exact ⟨Path.eq_of_lossy_eq hwhole, congrArg Path.lossy⟩
  · intro f g hrule hfile hanchor hmessage
    rw [fingerprint_eq_iff, identity_eq_of_agree hrule hfile hanchor hmessage]

/-- A finding without location, a message that begins with NUL and an anchor that ends in zeros. -/
def nulFinding : Finding where
  ruleId := "mass-assignment"
  ruleName := "Unsafe Mass Assignment"
  severity := .high
  confidence := .high
  category := .massAssignment
  message := "\x00all"
  anchor := 1
  location := none
  snippet := none
  evidence := []
  remediation := none
  cwe := none

theorem nul_not_mem_ruleId_nulFinding : '\x00' ∉ nulFinding.ruleId.toList := by
  decide +kernel

/-- A place in the file with the empty path and another severity keep the fingerprint; an anchor
that moves a byte up does not keep the bytes, and neither does another name of the file. -/
theorem nulFinding_identity :
    let span : Span := { line := 3, column := 4 }
    let placed : Finding := { nulFinding with severity := .low, location := some ⟨.empty, span⟩ }
    let moved : Finding := { nulFinding with anchor := 256 }
    let named : Finding := { nulFinding with location := some ⟨.ofText "ключ.php", span⟩ }
    nulFinding.Framed ∧ placed.Framed ∧ moved.Framed ∧ named.Framed ∧
      nulFinding.identity = placed.identity ∧ nulFinding.fingerprint = placed.fingerprint ∧
      nulFinding.identity ≠ moved.identity ∧ nulFinding.identity ≠ named.identity := by
  intro span placed moved named
  obtain ⟨hidentity, _, hfiles, _, hfingerprint, _⟩ := identity_eq_iff_agree
  have hruleId := nul_not_mem_ruleId_nulFinding
  have hnul : nulFinding.Framed := ⟨hruleId, List.not_mem_nil, by decide⟩
  have hplaced : placed.Framed := ⟨hruleId, List.not_mem_nil, by decide⟩
  have hmoved : moved.Framed := ⟨hruleId, List.not_mem_nil, by decide⟩
  have hnamed : named.Framed := ⟨hruleId, by decide +kernel, by decide⟩
  refine ⟨hnul, hplaced, hmoved, hnamed, ?_, hfingerprint _ _ rfl rfl rfl rfl, ?_, ?_⟩
  · exact (hidentity _ _ hnul hplaced).mpr ⟨rfl, rfl, rfl, rfl⟩
  · intro hsame
    obtain ⟨_, _, hanchor, _⟩ := (hidentity _ _ hnul hmoved).mp hsame
    have hne : nulFinding.anchor ≠ moved.anchor := by decide
    exact hne hanchor
  · intro hsame
    obtain ⟨_, hlossy, _⟩ := (hidentity _ _ hnul hnamed).mp hsame
    have hfile : nulFinding.file = named.file :=
      (hfiles nulFinding named ⟨"", by decide +kernel⟩ ⟨"ключ.php", rfl⟩).mp hlossy
    have hne : nulFinding.file ≠ named.file := by decide +kernel
    exact hne hfile

end Finding

namespace Path

/-- Whether a path begins at the root of the file system. -/
def isAbsolute (p : Path) : Bool :=
  p.bytes.head? == some 0x2f

/-- The names on a path. Slashes that follow each other count once, one at the end does not count,
and neither does a dot that stands for a name, unless a relative path begins with it. -/
def names (p : Path) : List (List UInt8) :=
  match p.bytes.splitOn 0x2f with
  | [] => []
  | first :: rest => (first :: rest.filter (· ≠ [0x2e])).filter (· ≠ [])

/-- Spellings of one path. -/
def SameNames (p q : Path) : Prop :=
  p.isAbsolute = q.isAbsolute ∧ p.names = q.names

end Path

namespace Finding

def inFile (path : Path) : Finding :=
  { nulFinding with location := some ⟨path, { line := 3, column := 4 }⟩ }

theorem framed_inFile {path : Path} (h : 0 ∉ path.bytes) : (inFile path).Framed where
  ruleId := nul_not_mem_ruleId_nulFinding
  file := h
  anchor := by
    have hone : nulFinding.anchor < UInt64.size := by decide
    exact hone

/-- Agreement in the file is not what the bytes tell, neither as equality of paths nor as equality
of the names on them. Two paths that are no texts can have one text, and two spellings of one
path have two. -/
theorem not_identity_eq_iff_file_agrees :
    (inFile ⟨[0xff]⟩).identity = (inFile ⟨[0xfe]⟩).identity ∧
    (Path.ofText "a/b").SameNames (Path.ofText "a//b") ∧
    (inFile (Path.ofText "a/b")).identity ≠ (inFile (Path.ofText "a//b")).identity ∧
    (¬ ∀ f g : Finding, f.Framed → g.Framed →
      (f.identity = g.identity ↔
        f.ruleId = g.ruleId ∧ f.file = g.file ∧ f.anchor = g.anchor ∧ f.message = g.message)) ∧
    ¬ ∀ f g : Finding, f.Framed → g.Framed →
      (f.identity = g.identity ↔
        f.ruleId = g.ruleId ∧ f.file.SameNames g.file ∧ f.anchor = g.anchor ∧
          f.message = g.message) := by
  have hsame : (inFile ⟨[0xff]⟩).identity = (inFile ⟨[0xfe]⟩).identity := by decide +kernel
  have hnames : (Path.ofText "a/b").SameNames (Path.ofText "a//b") :=
    ⟨by decide +kernel, by decide +kernel⟩
  have hdiffer :
      (inFile (Path.ofText "a/b")).identity ≠ (inFile (Path.ofText "a//b")).identity := by
    decide +kernel
  refine ⟨hsame, hnames, hdiffer, ?_, ?_⟩
  · intro h
    have hff : (inFile ⟨[0xff]⟩).Framed := framed_inFile (by decide)
    have hfe : (inFile ⟨[0xfe]⟩).Framed := framed_inFile (by decide)
    obtain ⟨_, hfile, _⟩ := (h _ _ hff hfe).mp hsame
    have hne : (inFile ⟨[0xff]⟩).file ≠ (inFile ⟨[0xfe]⟩).file := by decide
    exact hne hfile
  · intro h
    have hplain : (inFile (Path.ofText "a/b")).Framed := framed_inFile (by decide +kernel)
    have hdoubled : (inFile (Path.ofText "a//b")).Framed := framed_inFile (by decide +kernel)
    exact hdiffer ((h _ _ hplain hdoubled).mpr ⟨rfl, hnames, rfl, rfl⟩)

end Finding

end SecurityLint
