import SecurityLint.Text.CaseFold

/-!
Sets of characters, kept as the code points at which membership changes: going up from zero, a set
is outside until its first edge, inside until the second, and so on. As the edges are in increasing
order, a set has one such form only, and two sets are combined in one sweep over both. The main
statement is that a sweep combines the sets point by point.
-/
namespace SecurityLint.Pattern

structure CharSet where
  edges : List Nat
  increasing : edges.Pairwise (· < ·)
deriving DecidableEq

namespace CharSet

/-- Whether `c` is a member, where `now` tells what holds below the first edge. -/
def inside (now : Bool) : (edges : List Nat) → (c : Nat) → Bool
  | [], _ => now
  | e :: es, c => if c < e then now else inside (!now) es c

def contains (s : CharSet) (c : Char) : Bool :=
  inside false s.edges c.toNat

/-- An edge at `e`, if there is a change. -/
def edgeIf (change : Bool) (e : Nat) (es : List Nat) : List Nat :=
  if change then e :: es else es

/-- The edges of a combination of two sets, of which `a` and `b` tell what holds now. -/
def sweep (f : Bool → Bool → Bool) : (a b : Bool) → (xs ys : List Nat) → List Nat
  | _, _, [], [] => []
  | a, b, x :: xs, [] => edgeIf (f a b != f (!a) b) x (sweep f (!a) b xs [])
  | a, b, [], y :: ys => edgeIf (f a b != f a (!b)) y (sweep f a (!b) [] ys)
  | a, b, x :: xs, y :: ys =>
    if x < y then edgeIf (f a b != f (!a) b) x (sweep f (!a) b xs (y :: ys))
    else if y < x then edgeIf (f a b != f a (!b)) y (sweep f a (!b) (x :: xs) ys)
    else edgeIf (f a b != f (!a) (!b)) x (sweep f (!a) (!b) xs ys)
termination_by _ _ xs ys => xs.length + ys.length

theorem inside_of_lt {now : Bool} {c : Nat} {es : List Nat} (h : ∀ e ∈ es, c < e) :
    inside now es c = now := by
  cases es with
  | nil => rfl
  | cons e es => simp [inside, h e]

theorem inside_edgeIf {f g : Bool} {c e : Nat} {es : List Nat}
    (h : c < e → inside g es c = g) :
    inside f (edgeIf (f != g) e es) c = if c < e then f else inside g es c := by
  by_cases hc : c < e
  · cases f <;> cases g <;> simp [edgeIf, inside, hc, h hc]
  · cases f <;> cases g <;> simp [edgeIf, inside, hc]

theorem mem_edgeIf {change : Bool} {e d : Nat} {es : List Nat} (h : d ∈ edgeIf change e es) :
    d = e ∨ d ∈ es := by
  cases change <;> simp_all [edgeIf]

theorem mem_of_mem_sweep {f : Bool → Bool → Bool} {a b : Bool} {xs ys : List Nat} {e : Nat}
    (h : e ∈ sweep f a b xs ys) : e ∈ xs ∨ e ∈ ys := by
  fun_induction sweep f a b xs ys with
  | case1 => simp at h
  | _ => rcases mem_edgeIf h with h | h <;> grind

theorem inside_sweep_of_lt (f : Bool → Bool → Bool) {a b : Bool} {xs ys : List Nat} {c e : Nat}
    (h : c < e) (hx : ∀ d ∈ xs, e < d) (hy : ∀ d ∈ ys, e < d) :
    inside (f a b) (sweep f a b xs ys) c = f a b := by
  apply inside_of_lt
  intro d hd
  rcases mem_of_mem_sweep hd with hd | hd
  · exact Nat.lt_trans h (hx d hd)
  · exact Nat.lt_trans h (hy d hd)

/-- Sweeping over two sets combines them point by point. -/
theorem inside_sweep (f : Bool → Bool → Bool) (a b : Bool) (xs ys : List Nat) (c : Nat)
    (hx : xs.Pairwise (· < ·)) (hy : ys.Pairwise (· < ·)) :
    inside (f a b) (sweep f a b xs ys) c = f (inside a xs c) (inside b ys c) := by
  fun_induction sweep f a b xs ys with
  | case1 => rfl
  | case2 a b x xs ih =>
    obtain ⟨hhead, htail⟩ := List.pairwise_cons.mp hx
    rw [inside_edgeIf fun h => inside_sweep_of_lt f h hhead (List.forall_mem_nil _),
      ih htail hy]
    by_cases h : c < x
    · simp [inside, h]
    · simp [inside, h]
  | case3 a b y ys ih =>
    obtain ⟨hhead, htail⟩ := List.pairwise_cons.mp hy
    rw [inside_edgeIf fun h => inside_sweep_of_lt f h (List.forall_mem_nil _) hhead,
      ih hx htail]
    by_cases h : c < y
    · simp [inside, h]
    · simp [inside, h]
  | case4 a b x xs y ys hxy ih =>
    obtain ⟨hhead, htail⟩ := List.pairwise_cons.mp hx
    have hbehind : ∀ d ∈ y :: ys, x < d :=
      List.forall_mem_cons.mpr ⟨hxy, fun d hd => Nat.lt_trans hxy (List.rel_of_pairwise_cons hy hd)⟩
    rw [inside_edgeIf fun h => inside_sweep_of_lt f h hhead hbehind, ih htail hy]
    by_cases h : c < x
    · simp [inside, h, Nat.lt_trans h hxy]
    · simp [inside, h]
  | case5 a b x xs y ys hxy hyx ih =>
    obtain ⟨hhead, htail⟩ := List.pairwise_cons.mp hy
    have hbehind : ∀ d ∈ x :: xs, y < d :=
      List.forall_mem_cons.mpr ⟨hyx, fun d hd => Nat.lt_trans hyx (List.rel_of_pairwise_cons hx hd)⟩
    rw [inside_edgeIf fun h => inside_sweep_of_lt f h hbehind hhead, ih hx htail]
    by_cases h : c < y
    · simp [inside, h, Nat.lt_trans h hyx]
    · simp [inside, h]
  | case6 a b x xs y ys hxy hyx ih =>
    obtain rfl : x = y := by omega
    obtain ⟨hxhead, hxtail⟩ := List.pairwise_cons.mp hx
    obtain ⟨hyhead, hytail⟩ := List.pairwise_cons.mp hy
    rw [inside_edgeIf fun h => inside_sweep_of_lt f h hxhead hyhead, ih hxtail hytail]
    by_cases h : c < x
    · simp [inside, h]
    · simp [inside, h]

theorem pairwise_edgeIf {change : Bool} {e : Nat} {es : List Nat} (h : ∀ d ∈ es, e < d)
    (hes : es.Pairwise (· < ·)) : (edgeIf change e es).Pairwise (· < ·) := by
  cases change <;> simp_all [edgeIf]

/-- A sweep keeps the edges in increasing order. -/
theorem pairwise_sweep (f : Bool → Bool → Bool) (a b : Bool) (xs ys : List Nat)
    (hx : xs.Pairwise (· < ·)) (hy : ys.Pairwise (· < ·)) :
    (sweep f a b xs ys).Pairwise (· < ·) := by
  fun_induction sweep f a b xs ys with
  | case1 => exact List.Pairwise.nil
  | _ =>
    refine pairwise_edgeIf (fun d hd => ?_) (by grind [List.pairwise_cons])
    have := mem_of_mem_sweep hd
    grind [List.pairwise_cons]

/-- The set of what `f` makes of membership in two sets. What is in neither is not in it. -/
def combine (f : Bool → Bool → Bool) (s t : CharSet) : CharSet where
  edges := sweep f false false s.edges t.edges
  increasing := pairwise_sweep f false false s.edges t.edges s.increasing t.increasing

theorem contains_combine (f : Bool → Bool → Bool) (s t : CharSet) (c : Char)
    (hf : f false false = false) :
    (combine f s t).contains c = f (s.contains c) (t.contains c) := by
  have hsweep := inside_sweep f false false s.edges t.edges c.toNat s.increasing t.increasing
  rwa [hf] at hsweep

def none : CharSet := ⟨[], List.Pairwise.nil⟩

/-- All characters: the code points without the surrogates. -/
def all : CharSet := ⟨[0, 0xd800, 0xe000, 0x110000], by decide⟩

def ascii : CharSet := ⟨[0, 0x80], by decide⟩

def union (s t : CharSet) : CharSet := combine (· || ·) s t

def inter (s t : CharSet) : CharSet := combine (· && ·) s t

def diff (s t : CharSet) : CharSet := combine (fun a b => a && !b) s t

def symmDiff (s t : CharSet) : CharSet := combine (· != ·) s t

def compl (s : CharSet) : CharSet := all.diff s

def unions (sets : List CharSet) : CharSet :=
  sets.foldl union none

theorem contains_union (s t : CharSet) (c : Char) :
    (s.union t).contains c = (s.contains c || t.contains c) :=
  contains_combine _ s t c rfl

theorem contains_unions (sets : List CharSet) (c : Char) :
    (unions sets).contains c = sets.any (·.contains c) := by
  have hfold (first : CharSet) : (sets.foldl union first).contains c =
      (first.contains c || sets.any (·.contains c)) := by
    induction sets generalizing first with
    | nil => rw [List.foldl_nil, List.any_nil, Bool.or_false]
    | cons s sets ih => rw [List.foldl_cons, ih, contains_union, List.any_cons, Bool.or_assoc]
  exact hfold none

/-- Whether ranges are listed in increasing order with gaps between them. -/
def apart : List (Nat × Nat) → Bool
  | [] => true
  | [r] => r.1 ≤ r.2
  | r :: next :: rest => r.1 ≤ r.2 && r.2 + 1 < next.1 && apart (next :: rest)

theorem apart_cons {r : Nat × Nat} {ranges : List (Nat × Nat)} (h : apart (r :: ranges) = true) :
    r.1 ≤ r.2 ∧ apart ranges = true ∧ ∀ next ∈ ranges, r.2 + 1 < next.1 ∧ next.1 ≤ next.2 := by
  induction ranges generalizing r with
  | nil => exact ⟨of_decide_eq_true h, rfl, nofun⟩
  | cons next ranges ih =>
    simp only [apart, Bool.and_eq_true, decide_eq_true_eq] at h
    obtain ⟨⟨hle, hgap⟩, hrest⟩ := h
    obtain ⟨hnext, _, hbehind⟩ := ih hrest
    refine ⟨hle, hrest, ?_⟩
    intro later hlater
    rcases List.mem_cons.mp hlater with rfl | hlater
    · exact ⟨hgap, hnext⟩
    · obtain ⟨hfar, hlater⟩ := hbehind later hlater
      exact ⟨by omega, hlater⟩

/-- Edges that stay within their ranges and increase in each of them increase throughout. -/
theorem pairwise_flatMap_of_apart {ranges : List (Nat × Nat)} (h : apart ranges = true)
    {f : Nat × Nat → List Nat}
    (hf : ∀ r, r.1 ≤ r.2 → (f r).Pairwise (· < ·) ∧ ∀ e ∈ f r, r.1 ≤ e ∧ e ≤ r.2 + 1) :
    (ranges.flatMap f).Pairwise (· < ·) := by
  induction ranges with
  | nil => exact List.Pairwise.nil
  | cons r ranges ih =>
    obtain ⟨hle, hrest, hbehind⟩ := apart_cons h
    obtain ⟨hfirst, hwithin⟩ := hf r hle
    rw [List.flatMap_cons, List.pairwise_append]
    refine ⟨hfirst, ih hrest, ?_⟩
    intro e he e' he'
    obtain ⟨next, hnext, he'⟩ := List.mem_flatMap.mp he'
    obtain ⟨hgap, hnext⟩ := hbehind next hnext
    have hlow := (hwithin e he).2
    have hhigh := ((hf next hnext).2 e' he').1
    omega

/-- The set of some ranges. -/
def ofRanges (ranges : List (Nat × Nat)) (h : apart ranges = true := by decide +kernel) :
    CharSet where
  edges := ranges.flatMap fun (first, last) => [first, last + 1]
  increasing := by
    apply pairwise_flatMap_of_apart h
    intro r hr
    constructor
    · simpa using Nat.lt_succ_of_le hr
    · intro e he
      simp only [List.mem_cons, List.not_mem_nil, or_false] at he
      omega

/-- The ranges of a set. -/
def toRanges (s : CharSet) : List (Nat × Nat) :=
  pairUp s.edges
where
  pairUp : List Nat → List (Nat × Nat)
    | first :: next :: rest => (first, next - 1) :: pairUp rest
    | _ => []

/-- Every second character of some ranges, from the first to the last. Membership changes at each
of them and at each of their successors. -/
def everyOther (ranges : List (Nat × Nat)) (h : apart ranges = true := by decide +kernel) :
    CharSet where
  edges := ranges.flatMap fun (first, last) => List.range' first (last + 2 - first)
  increasing := by
    apply pairwise_flatMap_of_apart h
    intro r hr
    constructor
    · exact List.pairwise_lt_range'
    · intro e he
      rw [List.mem_range'_1] at he
      omega

def range (first last : Char) (h : first ≤ last) : CharSet :=
  inter all ⟨[first.toNat, last.toNat + 1], by simpa using Nat.lt_succ_of_le h⟩

def single (c : Char) : CharSet := ⟨[c.toNat, c.toNat + 1], by simp⟩

/-- The edges of the set of some code points in increasing order. -/
def runs : List Nat → List Nat
  | [] => []
  | c :: cs =>
    match runs cs with
    | [] => [c, c + 1]
    | e :: es => if e == c then e :: es else if e == c + 1 then c :: es else c :: (c + 1) :: e :: es

theorem head?_runs (cs : List Nat) : (runs cs).head? = cs.head? := by
  cases cs with
  | nil => rfl
  | cons c cs =>
    rw [runs]
    cases runs cs with
    | nil => rfl
    | cons e es =>
      by_cases hsame : e = c
      · simp [hsame]
      · by_cases hnext : e = c + 1
        · simp [hnext]
        · simp [hsame, hnext]

theorem pairwise_runs {cs : List Nat} (h : cs.Pairwise (· ≤ ·)) :
    (runs cs).Pairwise (· < ·) := by
  induction cs with
  | nil => exact List.Pairwise.nil
  | cons c cs ih =>
    obtain ⟨hfirst, hrest⟩ := List.pairwise_cons.mp h
    have hincreasing := ih hrest
    have hhead := head?_runs cs
    rw [runs]
    cases hruns : runs cs with
    | nil => simp
    | cons e es =>
      rw [hruns] at hhead hincreasing
      obtain ⟨hbehind, hes⟩ := List.pairwise_cons.mp hincreasing
      have hce : c ≤ e := hfirst e (List.mem_of_head? hhead.symm)
      by_cases hsame : e = c
      · subst hsame
        simpa using hincreasing
      · by_cases hnext : e = c + 1
        · have hlater : ∀ d ∈ es, c < d := fun d hd => Nat.lt_of_le_of_lt hce (hbehind d hd)
          simpa [hnext, hes] using hlater
        · have hfar : ∀ d ∈ e :: es, c + 1 < d := by
            intro d hd
            rcases List.mem_cons.mp hd with rfl | hd
            · omega
            · have := hbehind d hd
              omega
          have hlast := List.pairwise_cons.mpr ⟨hfar, hincreasing⟩
          have hnear : ∀ d ∈ (c + 1) :: e :: es, c < d := by
            intro d hd
            rcases List.mem_cons.mp hd with rfl | hd
            · exact Nat.lt_succ_self c
            · exact Nat.lt_of_succ_lt (hfar d hd)
          simpa [hsame, hnext] using List.pairwise_cons.mpr ⟨hnear, hlast⟩

def ofCodePoints (cs : List Nat) : CharSet where
  edges := runs (cs.mergeSort (· ≤ ·))
  increasing := by
    have hsorted : (cs.mergeSort (· ≤ ·)).Pairwise fun a b => decide (a ≤ b) :=
      List.pairwise_mergeSort (by simpa using fun a b c => Nat.le_trans)
        (by simpa using Nat.le_total) cs
    exact pairwise_runs (hsorted.imp of_decide_eq_true)

/-- The second components of the pairs of which the first is a member. The pairs are listed in
increasing order of the first. -/
def images (now : Bool) : (edges : List Nat) → (pairs : List (Nat × Nat)) → List Nat
  | _, [] => []
  | [], pairs => if now then pairs.map Prod.snd else []
  | e :: es, (c, d) :: pairs =>
    if c < e then
      if now then d :: images now (e :: es) pairs else images now (e :: es) pairs
    else images (!now) es ((c, d) :: pairs)
termination_by es pairs => es.length + pairs.length

/-- The set with the second component of every pair whose first is a member. -/
def withImages (pairs : List (Nat × Nat)) (s : CharSet) : CharSet :=
  s.union (ofCodePoints (images false s.edges pairs))

/-- All characters that differ at most in case from a member. -/
def foldCase (s : CharSet) : CharSet :=
  s.withImages Text.caseVariants

def asciiUpper : CharSet := ofRanges [(0x41, 0x5a)]

def asciiLower : CharSet := ofRanges [(0x61, 0x7a)]

/-- The ASCII letters, each with itself in the other case. -/
def asciiVariants : List (Nat × Nat) :=
  (List.range' 0x41 26).map (fun c => (c, c + 32)) ++
    (List.range' 0x61 26).map fun c => (c, c - 32)

/-- All characters that differ at most in case from a member, where only ASCII letters have case. -/
def foldAsciiCase (s : CharSet) : CharSet :=
  s.withImages asciiVariants

def isEmpty (s : CharSet) : Bool := s.edges.isEmpty

def isAscii (s : CharSet) : Bool := s.edges.all (· ≤ 0x80)

/-- The only member of a set with one member. -/
def theOnly? (s : CharSet) : Option Char :=
  match s.edges with
  | [first, next] => if next == first + 1 then some (Char.ofNat first) else Option.none
  | _ => Option.none

end CharSet

end SecurityLint.Pattern
