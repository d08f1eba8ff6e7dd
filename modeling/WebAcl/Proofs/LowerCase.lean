import WebAcl.Proofs.NameChars

namespace WebAcl.Text

variable {c d : Char} {before cs : List Char} {n m : Nat}

/-- The second run maps no code point that the first one has as an image. Runs that cover every
other code point may lie in one interval. -/
def CaseRun.spares (r r' : CaseRun) : Bool :=
  (r.image + (r.last - r.first)).blt r'.first || r'.last.blt r.image ||
    (r.stride == 2 || r.first == r.last) && r'.stride == 2 && (r.image + r'.first) % 2 == 1

theorem CaseRun.image?_eq_some {r : CaseRun} (h : r.image? n = some m) :
    r.first ≤ n ∧ n ≤ r.last ∧ (n - r.first) % r.stride = 0 ∧ m = r.image + (n - r.first) := by
  unfold CaseRun.image? at h
  split at h
  next hcovered => exact ⟨hcovered.1, hcovered.2.1, hcovered.2.2, (Option.some.inj h).symm⟩
  next => exact absurd h (by simp)

theorem CaseRun.image?_eq_none {r r' : CaseRun} (h : r.spares r' = true)
    (himage : r.image? n = some m) : r'.image? m = none := by
  obtain ⟨hfirst, hlast, hstride, rfl⟩ := CaseRun.image?_eq_some himage
  simp only [CaseRun.spares, Bool.or_eq_true, Bool.and_eq_true, Nat.blt_eq, beq_iff_eq] at h
  refine if_neg fun hcovered ↦ ?_
  obtain ⟨hfirst', hlast', hstride'⟩ := hcovered
  obtain (hbelow | habove) | ⟨⟨hsteps, htwo⟩, hparity⟩ := h
  · omega
  · omega
  · have heven : (n - r.first) % 2 = 0 := by
      obtain htwo | hsingle := hsteps
      · rwa [htwo] at hstride
      · omega
    rw [htwo] at hstride'
    omega

theorem lowerRuns_spare : (lowerRuns.all fun r ↦ lowerRuns.all r.spares) = true := by
  decide +kernel

theorem lookupRun_image (h : lookupRun lowerRuns n = some m) : lookupRun lowerRuns m = none := by
  obtain ⟨r, hr, himage⟩ := List.exists_of_findSome?_eq_some h
  refine List.findSome?_eq_none_iff.mpr fun r' hr' ↦ ?_
  have hspared := List.all_eq_true.mp (List.all_eq_true.mp lowerRuns_spare r hr) r' hr'
  exact CaseRun.image?_eq_none hspared himage

theorem lookupRun_ne_dotted (h : lookupRun lowerRuns n = some m) : m ≠ 0x130 := by
  have hall : ∀ r ∈ lowerRuns, r.image + (r.last - r.first) < 0x130 ∨ 0x130 < r.image := by
    decide +kernel
  obtain ⟨r, hr, himage⟩ := List.exists_of_findSome?_eq_some h
  have hrun := hall r hr
  have hcovered := CaseRun.image?_eq_some himage
  omega

/-- Lower case leaves the character as it is, wherever it stands. -/
def IsSettled (c : Char) : Prop := lowerChars c = [c] ∧ c.toNat ≠ 0x3a3

instance (c : Char) : Decidable (IsSettled c) := inferInstanceAs (Decidable (_ ∧ _))

theorem isSettled_of_not_mapped (hascii : 0x80 ≤ c.toNat) (hdotted : c.toNat ≠ 0x130)
    (hrun : lookupRun lowerRuns c.toNat = none) : IsSettled c := by
  constructor
  · rw [lowerChars, if_neg (by omega), if_neg hdotted, hrun, Option.getD_none, Char.ofNat_toNat]
  · intro hsigma
    rw [hsigma] at hrun
    exact absurd hrun (by decide +kernel)

theorem isSettled_ofNat (hascii : 0x80 ≤ m) (hdotted : m ≠ 0x130)
    (hrun : lookupRun lowerRuns m = none) : IsSettled (Char.ofNat m) := by
  by_cases hvalid : m.isValidChar
  · have hnat : (Char.ofNat m).toNat = m := by
      rw [Char.ofNat, dif_pos hvalid]
      rfl
    exact isSettled_of_not_mapped (hnat.symm ▸ hascii) (hnat.symm ▸ hdotted) (hnat.symm ▸ hrun)
  · have hzero : Char.ofNat m = Char.ofNat 0 := dif_neg hvalid
    rw [hzero]
    decide

theorem isSettled_of_mem_lowerChars (h : d ∈ lowerChars c) : IsSettled d := by
  unfold lowerChars at h
  split at h
  next hascii =>
    obtain rfl := List.mem_singleton.mp h
    exact forall_ascii (P := fun c ↦ IsSettled c.toLower) (by decide) hascii
  next hascii =>
    split at h
    next => obtain rfl | rfl := List.mem_pair.mp h <;> decide +kernel
    next hdotted =>
      obtain rfl := List.mem_singleton.mp h
      cases hrun : lookupRun lowerRuns c.toNat with
      | none =>
        rw [Option.getD_none, Char.ofNat_toNat]
        exact isSettled_of_not_mapped (by omega) hdotted hrun
      | some m =>
        rw [Option.getD_some]
        obtain rfl | hm := lookupRun_lowerRuns hrun
        · exact (by decide : IsSettled 'k')
        · exact isSettled_ofNat hm (lookupRun_ne_dotted hrun) (lookupRun_image hrun)

theorem isSettled_of_mem_lowerFrom (h : d ∈ lowerFrom before cs) : IsSettled d := by
  induction cs generalizing before with
  | nil => exact absurd h List.not_mem_nil
  | cons c cs ih =>
    rw [lowerFrom, List.mem_append] at h
    obtain himage | hrest := h
    · split at himage
      next =>
        -- both small sigmas are settled
        split at himage <;> obtain rfl := List.mem_singleton.mp himage <;> decide +kernel
      next => exact isSettled_of_mem_lowerChars himage
    · exact ih hrest

theorem isSettled_of_mem_lower {s : String} (h : d ∈ (lower s).toList) : IsSettled d := by
  rw [lower, String.toList_ofList] at h
  exact isSettled_of_mem_lowerFrom h

theorem lowerFrom_of_settled (h : ∀ c ∈ cs, IsSettled c) : lowerFrom before cs = cs := by
  induction cs generalizing before with
  | nil => rfl
  | cons c cs ih =>
    obtain ⟨hc, hcs⟩ := List.forall_mem_cons.mp h
    rw [lowerFrom, if_neg hc.2, hc.1, ih hcs, List.singleton_append]

theorem lower_of_settled {s : String} (h : ∀ c ∈ s.toList, IsSettled c) : lower s = s := by
  rw [lower, lowerFrom_of_settled h, String.ofList_toList]

theorem lower_lower (s : String) : lower (lower s) = lower s :=
  lower_of_settled fun _ hc ↦ isSettled_of_mem_lower hc

end WebAcl.Text
