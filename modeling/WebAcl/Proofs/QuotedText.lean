import Mathlib.Algebra.Group.Nat.Defs
import WebAcl.Text.Quoted

namespace WebAcl

namespace Text

def hexDigitValue (c : Char) : Nat :=
  if c.isDigit then c.toNat - 48 else c.toNat - 87

def hexValue (cs : List Char) : Nat :=
  cs.foldl (fun n c ↦ 16 * n + hexDigitValue c) 0

theorem hexValue_toDigits (n : Nat) : hexValue (Nat.toDigits 16 n) = n := by
  have hdigit : ∀ d < 16, hexDigitValue d.digitChar = d := by decide
  induction n using Nat.strongRecOn with
  | ind n ih =>
    rw [Nat.toDigits_eq_if (by decide)]
    split
    · simp [hexValue, hdigit n ‹_›]
    · have hrest : n / 16 < n := by omega
      have hlast := hdigit (n % 16) (by omega)
      rw [hexValue, List.foldl_append, ← hexValue, ih _ hrest, List.foldl_cons, List.foldl_nil,
        hlast]
      omega

theorem hexValue_hexDigits (width n : Nat) : hexValue (hexDigits width n) = n := by
  have hzeros : ∀ k : Nat, (List.replicate k '0').foldl (fun n c ↦ 16 * n + hexDigitValue c) 0
      = 0 := by
    intro k
    induction k with
    | zero => rfl
    | succ k ih => exact ih
  rw [hexDigits, hexValue, List.foldl_append, hzeros, ← hexValue, hexValue_toDigits]

theorem length_hexDigits {width n : Nat} (hwidth : 0 < width) (hn : n < 16 ^ width) :
    (hexDigits width n).length = width := by
  have hlength := (Nat.length_toDigits_le_iff (by decide) hwidth).mpr hn
  rw [hexDigits, List.length_append, List.length_replicate]
  omega

def readHex (width : Nat) (cs : List Char) : Nat × List Char :=
  (hexValue (cs.take width), cs.drop width)

theorem readHex_hexDigits {width n : Nat} (hwidth : 0 < width) (hn : n < 16 ^ width)
    (rest : List Char) : readHex width (hexDigits width n ++ rest) = (n, rest) := by
  have hlength := length_hexDigits hwidth hn
  rw [readHex, List.take_left' hlength, List.drop_left' hlength, hexValue_hexDigits]

theorem toNat_valid (c : Char) : c.toNat < 0xd800 ∨ 0xdfff < c.toNat ∧ c.toNat < 0x110000 :=
  c.valid

theorem toNat_lt_loneMark (c : Char) : c.toNat < loneMark := by
  have hvalid := toNat_valid c
  unfold loneMark
  omega

def readEscape : List Char → Nat × List Char
  | [] => (0, [])
  | c :: cs =>
    if c = 't' then (9, cs)
    else if c = 'n' then (10, cs)
    else if c = 'r' then (13, cs)
    else if c = 'x' then readHex 2 cs
    else if c = 'u' then readHex 4 cs
    else if c = 'U' then readHex 8 cs
    else (c.toNat, cs)

def readCode : List Char → Nat × List Char
  | [] => (0, [])
  | c :: cs => if c = '\\' then readEscape cs else (c.toNat, cs)

theorem readCode_escapeCode {n : Nat} (hn : n ≤ loneMark) (rest : List Char) :
    readCode (escapeCode n ++ rest) = (n, rest) := by
  unfold loneMark at hn
  unfold escapeCode
  split
  · exact readHex_hexDigits (by decide) (by omega) rest
  · split
    · exact readHex_hexDigits (by decide) (by omega) rest
    · exact readHex_hexDigits (by decide) (by omega) rest

theorem readCode_quoteChar {q : Char} (hq : q = '\'' ∨ q = '"') (c : Char) (rest : List Char) :
    readCode (quoteChar q c ++ rest) = (c.toNat, rest) := by
  unfold quoteChar
  split
  next h =>
    have hplain : c = '\'' ∨ c = '"' ∨ c = '\\' := by
      obtain rfl | rfl := h
      · exact hq.imp_right .inl
      · exact .inr (.inr rfl)
    obtain rfl | rfl | rfl := hplain <;> rfl
  next h =>
    have hslash : c ≠ '\\' := fun hc ↦ h (.inr hc)
    split
    next ht => rw [ht]; rfl
    split
    next hn => rw [hn]; rfl
    split
    next hr => rw [hr]; rfl
    split
    · rw [List.singleton_append, readCode, if_neg hslash]
    · exact readCode_escapeCode (Nat.le_of_lt (toNat_lt_loneMark c)) rest

theorem toNat_ofNat {n : Nat} (h : n.isValidChar) : (Char.ofNat n).toNat = n := by
  have hchar : Char.ofNat n = Char.ofNatAux n h := dif_pos h
  rw [hchar]
  rfl

theorem isHalfCode_iff {n : Nat} : isHalfCode n = true ↔ 0xd800 ≤ n ∧ n < 0xe000 := by
  simp [isHalfCode]

variable {q : Char}

theorem readCode_quoteCode (hq : q = '\'' ∨ q = '"') {n : Nat} (hn : n ≤ loneMark)
    (rest : List Char) : readCode (quoteCode q n ++ rest) = (n, rest) := by
  unfold quoteCode
  split
  · exact readCode_escapeCode hn rest
  next hplain =>
    have hvalid : n.isValidChar := by
      simp only [Bool.or_eq_true, isHalfCode_iff, beq_iff_eq, loneMark] at hplain hn
      unfold Nat.isValidChar
      omega
    rw [readCode_quoteChar hq, toNat_ofNat hvalid]

theorem head_quoteCode_ne (hq : q = '\'' ∨ q = '"') (n : Nat) :
    ∃ c cs, quoteCode q n = c :: cs ∧ c ≠ q := by
  have hslash : '\\' ≠ q := by
    rintro rfl
    simp at hq
  have hescape : ∀ m, ∃ c cs, escapeCode m = c :: cs ∧ c ≠ q := by
    intro m
    unfold escapeCode
    split
    · exact ⟨_, _, rfl, hslash⟩
    · split <;> exact ⟨_, _, rfl, hslash⟩
  unfold quoteCode
  split
  · exact hescape n
  · unfold quoteChar
    split
    · exact ⟨_, _, rfl, hslash⟩
    next h =>
      split
      · exact ⟨_, _, rfl, hslash⟩
      split
      · exact ⟨_, _, rfl, hslash⟩
      split
      · exact ⟨_, _, rfl, hslash⟩
      split
      · exact ⟨_, _, rfl, fun hc ↦ h (.inl hc)⟩
      · exact hescape _

theorem quoteCodes_append_inj (hq : q = '\'' ∨ q = '"') {ms ns : List Nat} {cs ds : List Char}
    (hms : ∀ m ∈ ms, m ≤ loneMark) (hns : ∀ n ∈ ns, n ≤ loneMark)
    (h : ms.flatMap (quoteCode q) ++ q :: cs = ns.flatMap (quoteCode q) ++ q :: ds) :
    ms = ns ∧ cs = ds := by
  induction ms generalizing ns with
  | nil =>
    cases ns with
    | nil => exact ⟨rfl, (List.cons.inj h).2⟩
    | cons n ns =>
      obtain ⟨c, tail, hn, hc⟩ := head_quoteCode_ne hq n
      rw [List.flatMap_cons, hn] at h
      exact absurd (List.cons.inj h).1.symm hc
  | cons m ms ih =>
    cases ns with
    | nil =>
      obtain ⟨c, tail, hm, hc⟩ := head_quoteCode_ne hq m
      rw [List.flatMap_cons, hm] at h
      exact absurd (List.cons.inj h).1 hc
    | cons n ns =>
      obtain ⟨hm, hms⟩ := List.forall_mem_cons.mp hms
      obtain ⟨hn, hns⟩ := List.forall_mem_cons.mp hns
      rw [List.flatMap_cons, List.flatMap_cons, List.append_assoc, List.append_assoc] at h
      have hread := congrArg readCode h
      rw [readCode_quoteCode hq hm, readCode_quoteCode hq hn, Prod.mk.injEq] at hread
      obtain ⟨rfl, hrest⟩ := ih hms hns hread.2
      exact ⟨by rw [hread.1], hrest⟩

theorem isHalf_iff {c : Char} :
    isHalf c = true ↔ halfShift + 0xd800 ≤ c.toNat ∧ c.toNat < halfShift + 0xe000 := by
  rw [isHalf, Bool.and_eq_true, decide_eq_true_eq, isHalfCode_iff]
  omega

theorem charsOfCode_toNat (c : Char) : charsOfCode c.toNat = hold c := by
  have hhalf : ¬ isHalfCode c.toNat = true := by
    have hvalid := toNat_valid c
    rw [isHalfCode_iff]
    omega
  rw [charsOfCode, if_neg hhalf, if_neg (Nat.ne_of_lt (toNat_lt_loneMark c)), Char.ofNat_toNat]

theorem charsOfCode_codeOf (c : Char) : charsOfCode (codeOf c) = [c] := by
  unfold codeOf
  split
  next h =>
    have hbounds := isHalf_iff.mp h
    have hcode : isHalfCode (c.toNat - halfShift) = true := by
      rw [isHalfCode_iff]
      omega
    have hshift : c.toNat - halfShift + halfShift = c.toNat := by omega
    rw [charsOfCode, if_pos hcode, hshift, Char.ofNat_toNat]
  next h =>
    split
    next hmark => rw [hmark]; rfl
    next hmark =>
      have hfree : ¬ isMarked c = true := by simp [isMarked, h, hmark]
      rw [charsOfCode_toNat, hold, if_neg hfree]

theorem flatMap_charsOfCode_codesOf (cs : List Char) : (codesOf cs).flatMap charsOfCode = cs := by
  fun_induction codesOf cs with
  | case1 c d cs h ih =>
    rw [List.flatMap_cons, ih, charsOfCode_toNat, hold, if_pos h.2, h.1]
    rfl
  | case2 c d cs h ih => rw [List.flatMap_cons, charsOfCode_codeOf, ih]; rfl
  | case3 c => rw [List.flatMap_cons, charsOfCode_codeOf]; rfl
  | case4 => rfl

theorem codeOf_le (c : Char) : codeOf c ≤ loneMark := by
  have hlt := toNat_lt_loneMark c
  unfold codeOf
  split
  · omega
  · split <;> omega

theorem le_of_mem_codesOf {cs : List Char} {n : Nat} (hn : n ∈ codesOf cs) : n ≤ loneMark := by
  fun_induction codesOf cs with
  | case1 c d cs h ih =>
    obtain rfl | hn := List.mem_cons.mp hn
    · exact Nat.le_of_lt (toNat_lt_loneMark d)
    · exact ih hn
  | case2 c d cs h ih =>
    obtain rfl | hn := List.mem_cons.mp hn
    · exact codeOf_le c
    · exact ih hn
  | case3 c =>
    obtain rfl := List.mem_singleton.mp hn
    exact codeOf_le c
  | case4 => simp at hn

theorem quoted_append_inj {s t : String} {cs ds : List Char}
    (h : (quoted s).toList ++ cs = (quoted t).toList ++ ds) : s = t ∧ cs = ds := by
  obtain ⟨q, hq, hs⟩ : ∃ q, (q = '\'' ∨ q = '"') ∧
      (quoted s).toList = q :: ((codesOf s.toList).flatMap (quoteCode q) ++ [q]) := by
    refine ⟨_, ?_, String.toList_ofList⟩
    split <;> simp
  obtain ⟨q', hq', ht⟩ : ∃ q, (q = '\'' ∨ q = '"') ∧
      (quoted t).toList = q :: ((codesOf t.toList).flatMap (quoteCode q) ++ [q]) := by
    refine ⟨_, ?_, String.toList_ofList⟩
    split <;> simp
  rw [hs, ht, List.cons_append, List.cons_append, List.cons.injEq] at h
  obtain ⟨rfl, h⟩ := h
  rw [List.append_assoc, List.append_assoc] at h
  obtain ⟨hcodes, hrest⟩ := quoteCodes_append_inj hq (fun _ ↦ le_of_mem_codesOf)
    (fun _ ↦ le_of_mem_codesOf) h
  have hchars := congrArg (List.flatMap charsOfCode) hcodes
  rw [flatMap_charsOfCode_codesOf, flatMap_charsOfCode_codesOf] at hchars
  exact ⟨String.toList_inj.mp hchars, hrest⟩

theorem exists_quote (s : String) :
    ∃ q cs, (quoted s).toList = q :: cs ∧ (q = '\'' ∨ q = '"') := by
  refine ⟨_, _, String.toList_ofList, ?_⟩
  split <;> simp

end Text

end WebAcl
