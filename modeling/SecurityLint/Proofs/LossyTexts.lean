import Mathlib.Data.List.Basic
import SecurityLint.Text.Utf8

/-!
Bytes that are read as a text. Each character is read from its own bytes, and where none begins, one
replacement character stands for the longest stretch that opens one, or for a single byte that
opens none. Nothing is lost of bytes that show without a replacement character, and only a
byte of zero shows as NUL.
-/
namespace SecurityLint.Text

/-- The bytes are the beginning of some character. -/
def Opens (w : List UInt8) : Prop :=
  ∃ c, w <+: String.utf8EncodeChar c

/-- No character stands in front of the bytes `w ++ rest`, and `w` is their longest beginning
that opens one; a byte that opens none is on its own. -/
structure Broken (w rest : List UInt8) : Prop where
  no_char : ∀ c, ¬ String.utf8EncodeChar c <+: w ++ rest
  opens : w.length = 1 ∨ 1 < w.length ∧ Opens w
  longest : ∀ v, v <+: w ++ rest → Opens v → v.length ≤ w.length

/-- The bytes show as these characters, with one replacement character for each broken stretch. -/
inductive Shows : List UInt8 → List Char → Prop
  | nil : Shows [] []
  | char (c : Char) {bytes : List UInt8} {cs : List Char} (h : Shows bytes cs) :
    Shows (String.utf8EncodeChar c ++ bytes) (c :: cs)
  | lost {w rest : List UInt8} {cs : List Char} (hw : Broken w rest) (h : Shows rest cs) :
    Shows (w ++ rest) ('\uFFFD' :: cs)

theorem utf8_eq_flatMap (s : String) : utf8 s = s.toList.flatMap String.utf8EncodeChar := by
  rw [utf8, String.toUTF8_eq_toByteArray, ← String.utf8Encode_toList, List.utf8Encode,
    List.toList_data_toByteArray]

theorem utf8_injective {a b : String} (h : utf8 a = utf8 b) : a = b := by
  have hdata : a.toUTF8.data = b.toUTF8.data := Array.toList_inj.mp h
  exact String.toByteArray_inj.mp (ByteArray.ext hdata)

theorem fromUTF8?_toUTF8 (s : String) : String.fromUTF8? s.toUTF8 = some s := by
  have hvalid : s.toUTF8.IsValidUTF8 := s.isValidUTF8
  rw [String.fromUTF8?, dif_pos hvalid]
  rfl

/-- Only NUL has a byte of zero. -/
theorem eq_nul_of_zero_mem_utf8EncodeChar {c : Char} (h : 0 ∈ String.utf8EncodeChar c) :
    c = '\x00' := by
  have hhigh : ∀ a b : UInt8, b ≠ 0 → (0 : UInt8) ≠ a ||| b := by
    intro a b hb heq
    exact hb (UInt8.or_eq_zero_iff.mp heq.symm).2
  rcases c.utf8Size_eq with hsize | hsize | hsize | hsize
  · rw [String.utf8EncodeChar_eq_singleton hsize, List.mem_singleton] at h
    have hle : c.val.toNat ≤ 127 := UInt32.le_iff_toNat_le.mp (Char.utf8Size_eq_one_iff.mp hsize)
    have hbyte : c.val.toNat % 256 = 0 := by
      exact (UInt32.toNat_toUInt8 c.val).symm.trans (congrArg UInt8.toNat h).symm
    apply Char.ext
    apply UInt32.toNat_inj.mp
    change c.val.toNat = 0
    omega
  · rw [String.utf8EncodeChar_eq_cons_cons hsize] at h
    simp [hhigh] at h
  · rw [String.utf8EncodeChar_eq_cons_cons_cons hsize] at h
    simp [hhigh] at h
  · rw [String.utf8EncodeChar_eq_cons_cons_cons_cons hsize] at h
    simp [hhigh] at h

theorem zero_not_mem_utf8 {s : String} (h : '\x00' ∉ s.toList) : 0 ∉ utf8 s := by
  rw [utf8_eq_flatMap]
  intro hzero
  obtain ⟨c, hc, hbyte⟩ := List.mem_flatMap.mp hzero
  rw [eq_nul_of_zero_mem_utf8EncodeChar hbyte] at hc
  exact h hc

theorem lossyChars_eq_drop (skip : ℕ) (bytes : List UInt8) :
    lossyChars skip bytes = lossyChars 0 (bytes.drop skip) := by
  induction bytes generalizing skip with
  | nil => rw [List.drop_nil, lossyChars, lossyChars]
  | cons b bytes ih =>
    cases skip with
    | zero => rfl
    | succ skip =>
      rw [lossyChars, List.drop_succ_cons]
      exact ih skip

/-- The bytes of a character are read as that character. -/
theorem lossyChars_append (c : Char) (bytes : List UInt8) :
    lossyChars 0 (String.utf8EncodeChar c ++ bytes) = c :: lossyChars 0 bytes := by
  have hdecode : (String.utf8EncodeChar c ++ bytes).toByteArray.utf8DecodeChar? 0 = some c := by
    rw [List.toByteArray_append]
    exact ByteArray.utf8DecodeChar?_utf8EncodeChar_append
  have hlength := String.length_utf8EncodeChar c
  cases hbytes : String.utf8EncodeChar c with
  | nil => exact absurd hbytes String.utf8EncodeChar_ne_nil
  | cons lead tail =>
    rw [hbytes, List.cons_append] at hdecode
    rw [hbytes, List.length_cons] at hlength
    have hskip : c.utf8Size - 1 = tail.length := by omega
    rw [List.cons_append, lossyChars, hdecode]
    simp only [hskip]
    rw [lossyChars_eq_drop, List.drop_left]

theorem exists_append_of_utf8DecodeChar? {bytes : List UInt8} {c : Char}
    (h : bytes.toByteArray.utf8DecodeChar? 0 = some c) :
    ∃ tail, bytes = String.utf8EncodeChar c ++ tail := by
  obtain ⟨tail, htail⟩ := ByteArray.exists_of_utf8DecodeChar?_eq_some h
  have hlist := congrArg (fun b : ByteArray => b.data.toList) htail
  exact ⟨tail.data.toList, by simpa using hlist⟩

/-! The bytes of a character beyond the ASCII ones, as numbers. -/

theorem toUInt8_or_eq (x : UInt32) :
    x.toUInt8 &&& 63 ||| 128 = UInt8.ofNat (0x80 + x.toNat % 64) ∧
    x.toUInt8 &&& 15 ||| 224 = UInt8.ofNat (0xe0 + x.toNat % 16) ∧
    x.toUInt8 &&& 7 ||| 240 = UInt8.ofNat (0xf0 + x.toNat % 8) := by
  have hall : ∀ n < 256,
      UInt8.ofNat n &&& 63 ||| 128 = UInt8.ofNat (0x80 + n % 64) ∧
      UInt8.ofNat n &&& 15 ||| 224 = UInt8.ofNat (0xe0 + n % 16) ∧
      UInt8.ofNat n &&& 7 ||| 240 = UInt8.ofNat (0xf0 + n % 8) := by decide +kernel
  have hbyte := hall x.toUInt8.toNat x.toUInt8.toNat_lt
  have h64 : x.toNat % 2 ^ 8 % 64 = x.toNat % 64 := by omega
  have h16 : x.toNat % 2 ^ 8 % 16 = x.toNat % 16 := by omega
  have h8 : x.toNat % 2 ^ 8 % 8 = x.toNat % 8 := by omega
  rwa [UInt8.ofNat_toNat, UInt32.toNat_toUInt8, h64, h16, h8] at hbyte

theorem toNat_lt_or (c : Char) :
    c.toNat < 0xd800 ∨ 0xdfff < c.toNat ∧ c.toNat < 0x110000 := by
  have hvalid := c.valid
  simpa only [UInt32.isValidChar, Nat.isValidChar, Char.toNat_val] using hvalid

theorem toNat_of_three {c : Char} (h : c.utf8Size = 3) : 0x7ff < c.toNat ∧ c.toNat ≤ 0xffff := by
  obtain ⟨hlow, hhigh⟩ := Char.utf8Size_eq_three_iff.mp h
  exact ⟨UInt32.lt_iff_toNat_lt.mp hlow, UInt32.le_iff_toNat_le.mp hhigh⟩

theorem toNat_of_four {c : Char} (h : c.utf8Size = 4) : 0xffff < c.toNat :=
  UInt32.lt_iff_toNat_lt.mp (Char.utf8Size_eq_four_iff.mp h)

theorem utf8EncodeChar_of_three {c : Char} (h : c.utf8Size = 3) :
    String.utf8EncodeChar c = [UInt8.ofNat (0xe0 + c.toNat / 4096),
      UInt8.ofNat (0x80 + c.toNat / 64 % 64), UInt8.ofNat (0x80 + c.toNat % 64)] := by
  have hrange := toNat_of_three h
  have hlead : c.toNat / 4096 % 16 = c.toNat / 4096 := by omega
  have hhigh : (c.val >>> 12).toNat = c.toNat / 4096 := by
    simp [Nat.shiftRight_eq_div_pow]
  have hmiddle : (c.val >>> 6).toNat = c.toNat / 64 := by
    simp [Nat.shiftRight_eq_div_pow]
  simp only [String.utf8EncodeChar_eq_cons_cons_cons h, toUInt8_or_eq, hhigh, hmiddle, hlead,
    Char.toNat_val]

theorem utf8EncodeChar_of_four {c : Char} (h : c.utf8Size = 4) :
    String.utf8EncodeChar c = [UInt8.ofNat (0xf0 + c.toNat / 262144),
      UInt8.ofNat (0x80 + c.toNat / 4096 % 64), UInt8.ofNat (0x80 + c.toNat / 64 % 64),
      UInt8.ofNat (0x80 + c.toNat % 64)] := by
  have hrange := toNat_lt_or c
  have hlead : c.toNat / 262144 % 8 = c.toNat / 262144 := by omega
  have htop : (c.val >>> 18).toNat = c.toNat / 262144 := by
    simp [Nat.shiftRight_eq_div_pow]
  have hhigh : (c.val >>> 12).toNat = c.toNat / 4096 := by
    simp [Nat.shiftRight_eq_div_pow]
  have hmiddle : (c.val >>> 6).toNat = c.toNat / 64 := by
    simp [Nat.shiftRight_eq_div_pow]
  simp only [String.utf8EncodeChar_eq_cons_cons_cons_cons h, toUInt8_or_eq, htop, hhigh, hmiddle,
    hlead, Char.toNat_val]

theorem toNat_ofNat {n : ℕ} (h : n < 256) : (UInt8.ofNat n).toNat = n :=
  UInt8.toNat_ofNat_of_lt' h

theorem ofNat_eq {n : ℕ} {b : UInt8} (h : n = b.toNat) : UInt8.ofNat n = b := by
  rw [h, UInt8.ofNat_toNat]

theorem maySecond_iff (lead c : UInt8) : maySecond lead c ↔
    (lead.toNat = 0xe0 ∧ 0xa0 ≤ c.toNat ∧ c.toNat ≤ 0xbf) ∨
    (lead.toNat = 0xed ∧ 0x80 ≤ c.toNat ∧ c.toNat ≤ 0x9f) ∨
    (lead.toNat = 0xf0 ∧ 0x90 ≤ c.toNat ∧ c.toNat ≤ 0xbf) ∨
    (lead.toNat = 0xf4 ∧ 0x80 ≤ c.toNat ∧ c.toNat ≤ 0x8f) ∨
    (0xe1 ≤ lead.toNat ∧ lead.toNat ≤ 0xf3 ∧ lead.toNat ≠ 0xed ∧ lead.toNat ≠ 0xf0 ∧
      0x80 ≤ c.toNat ∧ c.toNat ≤ 0xbf) := by
  unfold maySecond isContinuation
  simp only [beq_iff_eq, UInt8.le_iff_toNat_le, ← UInt8.toNat_inj]
  split_ifs
  all_goals
    simp_all
    try omega

theorem isContinuation_iff (b : UInt8) : isContinuation b ↔ 0x80 ≤ b.toNat ∧ b.toNat ≤ 0xbf := by
  simp [isContinuation, UInt8.le_iff_toNat_le]

/-- The bytes that a character of three or four bytes begins with. -/
theorem maySecond_of_char {c : Char} {lead second third : UInt8} {rest : List UInt8}
    (h : String.utf8EncodeChar c = lead :: second :: third :: rest) :
    maySecond lead second ∧ (rest ≠ [] → 0xf0 ≤ lead ∧ isContinuation third) := by
  have hlength := String.length_utf8EncodeChar c
  rw [h] at hlength
  simp only [List.length_cons] at hlength
  have hrange := toNat_lt_or c
  rcases c.utf8Size_eq with hsize | hsize | hsize | hsize
  · omega
  · omega
  · have hthree := toNat_of_three hsize
    rw [utf8EncodeChar_of_three hsize] at h
    obtain ⟨rfl, rfl, rfl, rfl⟩ := by simpa only [List.cons.injEq] using h
    refine ⟨?_, nofun⟩
    rw [maySecond_iff, toNat_ofNat (by omega), toNat_ofNat (by omega)]
    omega
  · have hfour := toNat_of_four hsize
    rw [utf8EncodeChar_of_four hsize] at h
    obtain ⟨rfl, rfl, rfl, rfl⟩ := by simpa only [List.cons.injEq] using h
    refine ⟨?_, fun _ => ⟨?_, ?_⟩⟩
    · rw [maySecond_iff, toNat_ofNat (by omega), toNat_ofNat (by omega)]
      omega
    · rw [UInt8.le_iff_toNat_le, toNat_ofNat (by omega)]
      exact Nat.le_add_right _ _
    · rw [isContinuation_iff, toNat_ofNat (by omega)]
      omega

/-- A character with this number, which its bytes spell. -/
theorem exists_toNat_eq {n : ℕ} (h : n < 0xd800 ∨ 0xdfff < n ∧ n < 0x110000) :
    ∃ c : Char, c.toNat = n := by
  have hvalid : n.isValidChar := h
  refine ⟨Char.ofNat n, ?_⟩
  rw [Char.ofNat, dif_pos hvalid]
  rfl

/-- The second byte may stand behind the first in a character of three bytes. -/
theorem opens_of_three {lead second : UInt8} (h : maySecond lead second)
    (hlead : lead.toNat < 0xf0) : Opens [lead, second] := by
  rw [maySecond_iff] at h
  obtain ⟨c, hc⟩ := exists_toNat_eq
    (n := (lead.toNat - 0xe0) * 4096 + (second.toNat - 0x80) * 64) (by omega)
  have hsize : c.utf8Size = 3 := by
    rw [Char.utf8Size_eq_three_iff, UInt32.lt_iff_toNat_lt, UInt32.le_iff_toNat_le, Char.toNat_val]
    change 0x7ff < c.toNat ∧ c.toNat ≤ 0xffff
    omega
  have hfirst : UInt8.ofNat (0xe0 + c.toNat / 4096) = lead := ofNat_eq (by omega)
  have hsecond : UInt8.ofNat (0x80 + c.toNat / 64 % 64) = second := ofNat_eq (by omega)
  refine ⟨c, [UInt8.ofNat (0x80 + c.toNat % 64)], ?_⟩
  rw [utf8EncodeChar_of_three hsize, hfirst, hsecond]
  rfl

theorem opens_of_four {lead second third : UInt8} (h : maySecond lead second)
    (hlead : 0xf0 ≤ lead.toNat) (hthird : isContinuation third) : Opens [lead, second, third] := by
  rw [maySecond_iff] at h
  rw [isContinuation_iff] at hthird
  obtain ⟨c, hc⟩ := exists_toNat_eq
    (n := (lead.toNat - 0xf0) * 262144 + (second.toNat - 0x80) * 4096 +
      (third.toNat - 0x80) * 64) (by omega)
  have hsize : c.utf8Size = 4 := by
    rw [Char.utf8Size_eq_four_iff, UInt32.lt_iff_toNat_lt, Char.toNat_val]
    change 0xffff < c.toNat
    omega
  have hfirst : UInt8.ofNat (0xf0 + c.toNat / 262144) = lead := ofNat_eq (by omega)
  have hsecond : UInt8.ofNat (0x80 + c.toNat / 4096 % 64) = second := ofNat_eq (by omega)
  have hthird : UInt8.ofNat (0x80 + c.toNat / 64 % 64) = third := ofNat_eq (by omega)
  refine ⟨c, [UInt8.ofNat (0x80 + c.toNat % 64)], ?_⟩
  rw [utf8EncodeChar_of_four hsize, hfirst, hsecond, hthird]
  rfl

theorem Opens.of_prefix {v w : List UInt8} (h : Opens w) (hv : v <+: w) : Opens v := by
  obtain ⟨c, hc⟩ := h
  exact ⟨c, hv.trans hc⟩

theorem opens_pair {lead second : UInt8} (h : maySecond lead second) : Opens [lead, second] := by
  by_cases hlead : lead.toNat < 0xf0
  · exact opens_of_three h hlead
  · have hthird : isContinuation 0x80 := by decide
    have hopens := opens_of_four h (by omega) hthird
    exact hopens.of_prefix ⟨[0x80], rfl⟩

/-! What is skipped is the longest stretch that opens a character. -/

theorem opens_torn (lead : UInt8) (rest : List UInt8) (h : 0 < torn lead rest) :
    torn lead rest ≤ rest.length ∧ Opens (lead :: rest.take (torn lead rest)) := by
  unfold torn at h ⊢
  split at h
  · simp at h
  · next second =>
    split_ifs at h ⊢ with hsecond
    · exact ⟨Nat.le_refl 1, opens_pair hsecond⟩
    · simp at h
  · next second third tail =>
    split_ifs at h ⊢ with hsecond hfour
    · rw [Bool.and_eq_true, decide_eq_true_eq] at hfour
      have hlead : 0xf0 ≤ lead.toNat := UInt8.le_iff_toNat_le.mp hfour.1
      exact ⟨by simp, opens_of_four hsecond hlead hfour.2⟩
    · exact ⟨by simp, opens_pair hsecond⟩
    · simp at h

/-- A stretch that opens a character and does not end it goes no further. -/
theorem length_le_torn {lead : UInt8} {v rest : List UInt8} {c : Char} (hv : v <+: lead :: rest)
    (hc : v <+: String.utf8EncodeChar c) (hshort : v.length < (String.utf8EncodeChar c).length) :
    v.length ≤ torn lead rest + 1 := by
  have hsize : (String.utf8EncodeChar c).length ≤ 4 := by
    rw [String.length_utf8EncodeChar]
    rcases c.utf8Size_eq with h | h | h | h
    all_goals omega
  obtain ⟨behind, hbehind⟩ := hv
  obtain ⟨missing, hbytes⟩ := hc
  have hmissing : missing ≠ [] := by
    intro hnil
    rw [← hbytes, hnil, List.append_nil] at hshort
    exact Nat.lt_irrefl _ hshort
  obtain ⟨next, missing, rfl⟩ := List.exists_cons_of_ne_nil hmissing
  match v with
  | [] => exact Nat.zero_le _
  | [_] => exact Nat.le_add_left 1 _
  | [first, second] =>
    obtain ⟨rfl, rfl⟩ := List.cons.inj hbehind
    have hsecond := (maySecond_of_char hbytes.symm).1
    have htorn : 1 ≤ torn first (second :: behind) := by
      cases behind with
      | nil => simp [torn, hsecond]
      | cons third behind =>
        rw [torn, if_pos hsecond]
        split_ifs
        all_goals omega
    exact Nat.succ_le_succ htorn
  | first :: second :: third :: v =>
    obtain ⟨rfl, rfl⟩ := List.cons.inj hbehind
    have hlast : v = [] := by
      rw [← hbytes] at hsize
      simp only [List.length_append, List.length_cons] at hsize
      exact List.length_eq_zero_iff.mp (by omega)
    subst hlast
    obtain ⟨hsecond, hfour⟩ := maySecond_of_char hbytes.symm
    have hthird := hfour (List.cons_ne_nil next missing)
    have htorn : torn first (second :: third :: behind) = 2 := by
      simp [torn, hsecond, hthird]
    exact Nat.le_of_eq (congrArg Nat.succ htorn.symm)

/-- Where no character can be read, the bytes up to those that are skipped are broken. -/
theorem broken_torn {lead : UInt8} {rest : List UInt8}
    (h : (lead :: rest).toByteArray.utf8DecodeChar? 0 = none) :
    Broken (lead :: rest.take (torn lead rest)) (rest.drop (torn lead rest)) := by
  have hjoin : lead :: rest.take (torn lead rest) ++ rest.drop (torn lead rest) = lead :: rest := by
    rw [List.cons_append, List.take_append_drop]
  have hno : ∀ c, ¬ String.utf8EncodeChar c <+: lead :: rest := by
    intro c hc
    obtain ⟨tail, htail⟩ := hc
    rw [← htail, List.toByteArray_append, ByteArray.utf8DecodeChar?_utf8EncodeChar_append] at h
    exact Option.some_ne_none c h
  have hlength : (lead :: rest.take (torn lead rest)).length = torn lead rest + 1 := by
    rw [List.length_cons, List.length_take]
    by_cases hzero : torn lead rest = 0
    · rw [hzero, Nat.zero_min]
    · rw [Nat.min_eq_left (opens_torn lead rest (by omega)).1]
  constructor
  case no_char =>
    rw [hjoin]
    exact hno
  case opens =>
    rw [hlength]
    by_cases hzero : torn lead rest = 0
    · left
      omega
    · right
      exact ⟨by omega, (opens_torn lead rest (by omega)).2⟩
  case longest =>
    intro v hv hopens
    rw [hjoin] at hv
    rw [hlength]
    obtain ⟨c, hc⟩ := hopens
    apply length_le_torn hv hc
    have hne : v.length ≠ (String.utf8EncodeChar c).length := by
      intro heq
      exact hno c (hc.eq_of_length heq ▸ hv)
    have hle := hc.length_le
    omega

/-- There is only one way to take a broken stretch off the front. -/
theorem Broken.length_eq {w rest w' rest' : List UInt8} (h : Broken w rest)
    (h' : Broken w' rest') (heq : w ++ rest = w' ++ rest') : w.length = w'.length := by
  have hle : ∀ {v r v' r' : List UInt8}, Broken v r → Broken v' r' → v ++ r = v' ++ r' →
      v'.length ≤ v.length := by
    intro v r v' r' hv hv' heq
    obtain hone | ⟨_, hopens⟩ := hv'.opens
    · obtain hone' | ⟨hlong, _⟩ := hv.opens
      all_goals omega
    · exact hv.longest v' (heq ▸ List.prefix_append v' r') hopens
  exact Nat.le_antisymm (hle h' h heq.symm) (hle h h' heq)

theorem shows_lossyChars (bytes : List UInt8) : Shows bytes (lossyChars 0 bytes) := by
  induction hn : bytes.length using Nat.strongRecOn generalizing bytes with
  | _ n ih =>
    subst hn
    cases bytes with
    | nil => exact .nil
    | cons lead rest =>
      cases hdecode : (lead :: rest).toByteArray.utf8DecodeChar? 0 with
      | some c =>
        obtain ⟨tail, htail⟩ := exists_append_of_utf8DecodeChar? hdecode
        have hshort : tail.length < (lead :: rest).length := by
          have hpos := List.length_pos_of_ne_nil (String.utf8EncodeChar_ne_nil (c := c))
          rw [htail, List.length_append]
          omega
        rw [htail, lossyChars_append]
        exact .char c (ih _ hshort tail rfl)
      | none =>
        have hshort : (rest.drop (torn lead rest)).length < (lead :: rest).length := by
          rw [List.length_drop, List.length_cons]
          omega
        have hlost := Shows.lost (broken_torn hdecode) (ih _ hshort _ rfl)
        rw [List.cons_append, List.take_append_drop] at hlost
        rwa [lossyChars, hdecode, lossyChars_eq_drop]

/-- Reading is as described: any bytes show as one text, which is the one that is read. -/
theorem shows_iff (bytes : List UInt8) (cs : List Char) :
    Shows bytes cs ↔ lossyChars 0 bytes = cs := by
  constructor
  · intro h
    induction h with
    | nil => rfl
    | char c h ih => rw [lossyChars_append, ih]
    | @lost w rest cs hw h ih =>
      obtain ⟨lead, tail, rfl⟩ : ∃ lead tail, w = lead :: tail := by
        apply List.exists_cons_of_length_pos
        obtain hone | ⟨hlong, _⟩ := hw.opens
        all_goals omega
      rw [List.cons_append, lossyChars]
      cases hdecode : (lead :: (tail ++ rest)).toByteArray.utf8DecodeChar? 0 with
      | some c =>
        obtain ⟨after, hafter⟩ := exists_append_of_utf8DecodeChar? hdecode
        exact absurd ⟨after, hafter.symm⟩ (hw.no_char c)
      | none =>
        have hjoin : lead :: tail ++ rest =
            lead :: (tail ++ rest).take (torn lead (tail ++ rest)) ++
              (tail ++ rest).drop (torn lead (tail ++ rest)) := by simp
        have hlength := hw.length_eq (broken_torn hdecode) hjoin
        rw [lossyChars_eq_drop, ← (List.append_inj hjoin hlength).2, ih]
  · intro h
    rw [← h]
    exact shows_lossyChars bytes

-- a character that breaks off shows as one sign, half of a surrogate pair as one for each byte
example : lossyChars 0 [0xf0, 0x9f, 0x98, 0xed, 0xa0, 0x80, 0x62] =
    ['\uFFFD', '\uFFFD', '\uFFFD', '\uFFFD', 'b'] := by decide +kernel

theorem shows_utf8 (s : String) : Shows (utf8 s) s.toList := by
  rw [utf8_eq_flatMap]
  induction s.toList with
  | nil => exact .nil
  | cons c cs ih => exact .char c ih

theorem lossy_utf8 (s : String) : lossy (utf8 s) = s := by
  rw [lossy, (shows_iff _ _).mp (shows_utf8 s), String.ofList_toList]

namespace Shows

variable {bytes : List UInt8} {cs : List Char}

/-- What shows without a replacement character is a text. -/
theorem flatMap_eq (h : Shows bytes cs) (hwhole : '\uFFFD' ∉ cs) :
    cs.flatMap String.utf8EncodeChar = bytes := by
  induction h with
  | nil => rfl
  | char c h ih => rw [List.flatMap_cons, ih fun hmem => hwhole (List.mem_cons_of_mem c hmem)]
  | lost hw h ih => exact absurd List.mem_cons_self hwhole

theorem nul_not_mem (h : Shows bytes cs) (hzero : 0 ∉ bytes) : '\x00' ∉ cs := by
  induction h with
  | nil => exact List.not_mem_nil
  | char c h ih =>
    rw [List.mem_append, not_or] at hzero
    refine List.not_mem_cons_of_ne_of_not_mem ?_ (ih hzero.2)
    intro hc
    have hnul : 0 ∈ String.utf8EncodeChar '\x00' := by decide
    rw [← hc] at hzero
    exact hzero.1 hnul
  | lost hw h ih =>
    rw [List.mem_append, not_or] at hzero
    exact List.not_mem_cons_of_ne_of_not_mem (by decide) (ih hzero.2)

end Shows

theorem utf8_lossy {bytes : List UInt8} (h : '\uFFFD' ∉ (lossy bytes).toList) :
    utf8 (lossy bytes) = bytes := by
  rw [utf8_eq_flatMap]
  rw [lossy, String.toList_ofList] at h ⊢
  exact (shows_lossyChars bytes).flatMap_eq h

end SecurityLint.Text
