import WebAcl.Hcl.OfValue
import Mathlib.Data.List.Basic

namespace WebAcl.Text

/-- An ASCII character that stands between names rather than in them. -/
def isSeparator (d : Char) : Bool :=
  0 < d.toNat && d.toNat < 0x80 && !d.isAlphanum && d != '_'

variable {d : Char}

theorem forall_ascii {P : Char → Prop} (h : ∀ n < 0x80, P (Char.ofNat n))
    (hd : d.toNat < 0x80) : P d := by
  have hchar := h d.toNat hd
  rwa [Char.ofNat_toNat] at hchar

theorem toNat_lt_of_isAlphanum (h : d.isAlphanum = true) : d.toNat < 0x80 := by
  have hkinds : (d.isUpper || d.isLower || d.isDigit) = true := h
  rw [Bool.or_eq_true, Bool.or_eq_true] at hkinds
  change d.val.toNat < 0x80
  obtain (hupper | hlower) | hdigit := hkinds
  · exact Nat.lt_of_le_of_lt (of_decide_eq_true hupper).2 (by decide)
  · exact Nat.lt_of_le_of_lt (of_decide_eq_true (Bool.and_eq_true_iff.mp hlower).2) (by decide)
  · exact Nat.lt_of_le_of_lt (of_decide_eq_true (Bool.and_eq_true_iff.mp hdigit).2) (by decide)

theorem ofNat_ne {n : Nat} (hd : d.toNat ≠ 0) (h : n ≠ d.toNat) : Char.ofNat n ≠ d := by
  intro heq
  by_cases hvalid : n.isValidChar
  · have hchar : Char.ofNat n = Char.ofNatAux n hvalid := dif_pos hvalid
    exact h (congrArg Char.toNat (hchar.symm.trans heq))
  · have hzero : Char.ofNat n = Char.ofNat 0 := dif_neg hvalid
    exact hd (congrArg Char.toNat (hzero.symm.trans heq)).symm

/-- Of the characters outside ASCII only the sign for kelvin has a small letter in ASCII. -/
theorem lookupRun_lowerRuns {n m : Nat} (h : lookupRun lowerRuns n = some m) :
    m = 0x6b ∨ 0x80 ≤ m := by
  have hall : ∀ r ∈ lowerRuns, r.first = r.last ∧ r.image = 0x6b ∨ 0x80 ≤ r.image := by
    decide +kernel
  obtain ⟨r, hr, himage⟩ := List.exists_of_findSome?_eq_some h
  have := hall r hr
  unfold CaseRun.image? at himage
  split at himage
  · obtain rfl := Option.some.inj himage
    omega
  · simp at himage

theorem isSeparator_toNat (hd : isSeparator d = true) :
    0 < d.toNat ∧ d.toNat < 0x61 ∨ 0x7b ≤ d.toNat ∧ d.toNat < 0x80 := by
  have hascii : d.toNat < 0x80 := by
    simp only [isSeparator, Bool.and_eq_true, decide_eq_true_eq] at hd
    exact hd.1.1.2
  exact forall_ascii (P := fun d ↦ isSeparator d = true →
    0 < d.toNat ∧ d.toNat < 0x61 ∨ 0x7b ≤ d.toNat ∧ d.toNat < 0x80) (by decide) hascii hd

theorem not_mem_lowerChars (hd : isSeparator d = true) {c : Char} (hc : c ≠ d) :
    d ∉ lowerChars c := by
  have hnat := isSeparator_toNat hd
  have hsmall : ∀ {c' : Char}, c'.isLower = true → c' ≠ d := by
    rintro c' hlower rfl
    have halpha : c'.isAlpha = true :=
      (congrArg (c'.isUpper || ·) hlower).trans (Bool.or_true _)
    simp [isSeparator, Char.isAlphanum, halpha] at hd
  unfold lowerChars
  split
  next hascii =>
    have hlower := forall_ascii (P := fun c ↦ c.toLower = c ∨ c.toLower.isLower = true)
      (by decide) hascii
    rw [List.mem_singleton]
    obtain hsame | hlower := hlower
    · rw [hsame]
      exact hc.symm
    · exact (hsmall hlower).symm
  next =>
    split
    · have hletter : 'i' ≠ d := hsmall (by decide)
      have hdot : Char.ofNat 0x307 ≠ d := ofNat_ne (by omega) (by omega)
      simp [hletter.symm, hdot.symm]
    · cases hrun : lookupRun lowerRuns c.toNat with
      | none => simpa using hc.symm
      | some m =>
        have hm := lookupRun_lowerRuns hrun
        simpa using (ofNat_ne (by omega) (by omega)).symm

theorem not_mem_lowerFrom (hd : isSeparator d = true) {before cs : List Char} (h : d ∉ cs) :
    d ∉ lowerFrom before cs := by
  have hnat := isSeparator_toNat hd
  induction cs generalizing before with
  | nil => simp [lowerFrom]
  | cons c cs ih =>
    obtain ⟨hc, hcs⟩ := not_or.mp (List.mem_cons.not.mp h)
    rw [lowerFrom, List.mem_append, not_or]
    refine ⟨?_, ih hcs⟩
    split
    · split <;> simpa using (ofNat_ne (by omega) (by omega)).symm
    · exact not_mem_lowerChars hd (Ne.symm hc)

theorem not_mem_lower (hd : isSeparator d = true) {s : String} (h : d ∉ s.toList) :
    d ∉ (lower s).toList := by
  simpa [lower] using not_mem_lowerFrom hd h

theorem forall_mem_joinIpVersions {P : Char → Prop} (hp : P 'p') {cs : List Char}
    (h : ∀ c ∈ cs, P c) : ∀ c ∈ joinIpVersions cs, P c := by
  fun_induction joinIpVersions cs <;> simp_all

theorem forall_mem_separateWords {P : Char → Prop} (hunderscore : P '_') {before : Char}
    {cs : List Char} (h : ∀ c ∈ cs, P c) : ∀ c ∈ separateWords before cs, P c := by
  fun_induction separateWords before cs <;> simp_all

theorem not_mem_joinIpVersions (hd : isSeparator d = true) {cs : List Char} (h : d ∉ cs) :
    d ∉ joinIpVersions cs := by
  have hp : 'p' ≠ d := by
    rintro rfl
    exact absurd hd (by decide)
  have hne : ∀ c ∈ cs, c ≠ d := fun c hc heq ↦ h (heq ▸ hc)
  exact fun hmem ↦ forall_mem_joinIpVersions hp hne d hmem rfl

theorem not_mem_separateWords (hd : isSeparator d = true) {before : Char} {cs : List Char}
    (h : d ∉ cs) : d ∉ separateWords before cs := by
  have hunderscore : '_' ≠ d := by
    rintro rfl
    exact absurd hd (by decide)
  have hne : ∀ c ∈ cs, c ≠ d := fun c hc heq ↦ h (heq ▸ hc)
  exact fun hmem ↦ forall_mem_separateWords hunderscore hne d hmem rfl

theorem not_mem_snakeCase (hd : isSeparator d = true) {s : String} (h : d ∉ s.toList) :
    d ∉ (snakeCase s).toList := by
  have hjoined := not_mem_joinIpVersions hd h
  unfold snakeCase
  split
  next => simp
  next c cs heq =>
    rw [heq, List.mem_cons, not_or] at hjoined
    refine not_mem_lower hd ?_
    rw [String.toList_ofList, List.mem_cons, not_or]
    exact ⟨hjoined.1, not_mem_separateWords hd hjoined.2⟩

theorem lowerChars_ne_nil (c : Char) : lowerChars c ≠ [] := by
  unfold lowerChars
  split
  · simp
  · split <;> simp

theorem length_le_lowerFrom (before cs : List Char) :
    cs.length ≤ (lowerFrom before cs).length := by
  induction cs generalizing before with
  | nil => exact Nat.zero_le _
  | cons c cs ih =>
    have himage := List.length_pos_iff.mpr (lowerChars_ne_nil c)
    have htail := ih (c :: before)
    rw [lowerFrom, List.length_append, List.length_cons]
    split
    · split <;> simp only [List.length_singleton] <;> omega
    · omega

theorem length_joinIpVersions (cs : List Char) : (joinIpVersions cs).length = cs.length := by
  fun_induction joinIpVersions cs <;> simp_all

theorem length_le_separateWords (before : Char) (cs : List Char) :
    cs.length ≤ (separateWords before cs).length := by
  fun_induction separateWords before cs with
  | case1 => exact Nat.zero_le _
  | case2 before c cs hword ih => exact Nat.succ_le_succ (Nat.le_succ_of_le ih)
  | case3 before c cs hword ih => exact Nat.succ_le_succ ih

theorem length_le_snakeCase (s : String) :
    s.toList.length ≤ (snakeCase s).toList.length := by
  have hjoined := length_joinIpVersions s.toList
  unfold snakeCase
  split
  next heq => simp [← hjoined, heq]
  next c cs heq =>
    have hwords := length_le_separateWords c cs
    have hlower := length_le_lowerFrom [] (c :: separateWords c cs)
    rw [heq, List.length_cons] at hjoined
    rw [List.length_cons] at hlower
    rw [lower, String.toList_ofList, String.toList_ofList]
    omega

theorem snakeCase_ne_nil {s : String} (h : s.toList ≠ []) : (snakeCase s).toList ≠ [] :=
  List.length_pos_iff.mp (Nat.lt_of_lt_of_le (List.length_pos_iff.mpr h) (length_le_snakeCase s))

end WebAcl.Text

namespace WebAcl.Hcl

theorem not_mem_singular {d : Char} {s : String} (h : d ∉ s.toList) :
    d ∉ (singular s).toList := by
  unfold singular
  split
  · rw [String.toList_ofList]
    exact fun hmem ↦ h (List.dropLast_subset _ hmem)
  · exact h

end WebAcl.Hcl
