import WebAcl.Proofs.JsonNumbers
import WebAcl.Proofs.NameChars
import Mathlib.Data.List.TakeWhile

namespace WebAcl.Text

variable {c d : Char} {cs ds : List Char}

/-- A letter or digit that is the small letter of ASCII characters only. -/
def IsPlain (d : Char) : Prop := d.isAlphanum = true ∧ d ≠ 'i' ∧ d ≠ 'k'

instance (d : Char) : Decidable (IsPlain d) := inferInstanceAs (Decidable (_ ∧ _))

theorem IsPlain.toNat (hd : IsPlain d) : d.toNat ≠ 0 ∧ d.toNat < 0x80 ∧ d.toNat ≠ 0x6b := by
  have hascii := toNat_lt_of_isAlphanum hd.1
  exact forall_ascii (P := fun d ↦ IsPlain d → d.toNat ≠ 0 ∧ d.toNat < 0x80 ∧ d.toNat ≠ 0x6b)
    (by decide) hascii hd

theorem ascii_of_plain_lowerChars (h : ∀ d ∈ lowerChars c, IsPlain d) : c.toNat < 0x80 := by
  by_contra hascii
  unfold lowerChars at h
  rw [if_neg hascii] at h
  split at h
  · exact absurd rfl (h 'i' List.mem_cons_self).2.1
  · have hplain := h _ (List.mem_singleton_self _)
    have hnat := hplain.toNat
    cases hrun : lookupRun lowerRuns c.toNat with
    | none =>
      rw [hrun, Option.getD_none, Char.ofNat_toNat] at hnat
      exact hascii hnat.2.1
    | some m =>
      rw [hrun, Option.getD_some] at hnat
      have hm := lookupRun_lowerRuns hrun
      exact ofNat_ne hnat.1 (n := m) (by omega) rfl

theorem ascii_of_plain_lowerFrom {before : List Char}
    (h : ∀ d ∈ lowerFrom before cs, IsPlain d) : ∀ c ∈ cs, c.toNat < 0x80 := by
  induction cs generalizing before with
  | nil => simp
  | cons c cs ih =>
    rw [lowerFrom, List.forall_mem_append] at h
    obtain ⟨himage, hrest⟩ := h
    rw [List.forall_mem_cons]
    refine ⟨?_, ih hrest⟩
    split at himage
    · -- neither of the two small sigmas is plain
      split at himage
      · exact absurd (himage _ List.mem_cons_self) (by decide)
      · exact absurd (himage _ List.mem_cons_self) (by decide)
    · exact ascii_of_plain_lowerChars himage

theorem lowerFrom_of_ascii {before : List Char} (h : ∀ c ∈ cs, c.toNat < 0x80) :
    lowerFrom before cs = cs.map Char.toLower := by
  induction cs generalizing before with
  | nil => rfl
  | cons c cs ih =>
    obtain ⟨hc, hcs⟩ := List.forall_mem_cons.mp h
    rw [lowerFrom, ih hcs, if_neg (by omega), lowerChars, if_pos hc]
    rfl

theorem ascii_of_toLower (h : c.toLower.toNat < 0x80) : c.toNat < 0x80 := by
  by_contra hc
  have hupper : ¬ (c.val ≥ 'A'.val ∧ c.val ≤ 'Z'.val) := fun hle ↦
    hc (Nat.lt_of_le_of_lt hle.2 (by decide))
  have hsame : c.toLower = c := dif_neg hupper
  exact hc (hsame ▸ h)

/-- A text in lower case is a plain word if and only if its ASCII letters are those of the word. -/
theorem lowerFrom_eq_iff (hds : ∀ d ∈ ds, IsPlain d) :
    lowerFrom [] cs = ds ↔ cs.map Char.toLower = ds := by
  constructor
  · rintro rfl
    exact (lowerFrom_of_ascii (ascii_of_plain_lowerFrom hds)).symm
  · rintro rfl
    refine lowerFrom_of_ascii fun c hc ↦ ascii_of_toLower ?_
    exact (hds _ (List.mem_map_of_mem hc)).toNat.2.1

section Trim

variable {drop : Char → Bool}

theorem trimBy_prepend {before : List Char} (h : ∀ c ∈ before, drop c = true) (cs : List Char) :
    trimBy drop (before ++ cs) = trimBy drop cs := by
  rw [trimBy, List.dropWhile_append_of_pos h, trimBy]

theorem trimBy_append {after : List Char} (h : ∀ c ∈ after, drop c = true) (cs : List Char) :
    trimBy drop (cs ++ after) = trimBy drop cs := by
  have hnone : after.dropWhile drop = [] := List.dropWhile_eq_nil_iff.mpr h
  have hreverse : ∀ c ∈ after.reverse, drop c = true := fun c hc ↦ h c (List.mem_reverse.mp hc)
  rw [trimBy, trimBy, List.dropWhile_append, hnone]
  split
  next hempty => rw [List.isEmpty_iff.mp hempty]
  next => rw [List.reverse_append, List.dropWhile_append_of_pos hreverse]

theorem exists_trimBy (cs : List Char) : ∃ before after, cs = before ++ trimBy drop cs ++ after ∧
    (∀ c ∈ before, drop c = true) ∧ ∀ c ∈ after, drop c = true := by
  have htaken : ∀ (ds : List Char), ∀ c ∈ ds.takeWhile drop, drop c = true :=
    fun ds c hc ↦ List.mem_takeWhile_imp hc
  refine ⟨cs.takeWhile drop, ((cs.dropWhile drop).reverse.takeWhile drop).reverse, ?_,
    htaken _, fun c hc ↦ htaken _ c (List.mem_reverse.mp hc)⟩
  rw [trimBy, List.append_assoc, ← List.reverse_append, List.takeWhile_append_dropWhile,
    List.reverse_reverse, List.takeWhile_append_dropWhile]

end Trim

/-- A text writes a word with small or capital letters and white space around it. -/
def Spells (text word : String) : Prop :=
  ∃ before cs after, text.toList = before ++ cs ++ after ∧
    (∀ c ∈ before, isBlank c = true) ∧ (∀ c ∈ after, isBlank c = true) ∧
    cs.map Char.toLower = word.toList

theorem not_isBlank_of_toLower (h : IsPlain c.toLower) : isBlank c = false :=
  forall_ascii (P := fun c ↦ IsPlain c.toLower → isBlank c = false) (by decide)
    (ascii_of_toLower h.toNat.2.1) h

theorem lower_strip_eq_iff {text word : String} (hword : ∀ d ∈ word.toList, IsPlain d) :
    lower (strip text) = word ↔ Spells text word := by
  have hlower : lower (strip text) = word ↔
      (trimBy isBlank text.toList).map Char.toLower = word.toList := by
    rw [← lowerFrom_eq_iff hword, lower, strip, String.toList_ofList, ← String.toList_inj,
      String.toList_ofList]
  rw [hlower]
  constructor
  · intro h
    obtain ⟨before, after, htext, hbefore, hafter⟩ := exists_trimBy text.toList
    exact ⟨before, _, after, htext, hbefore, hafter, h⟩
  · rintro ⟨before, cs, after, htext, hbefore, hafter, hcs⟩
    have hsolid : ∀ c ∈ cs, isBlank c = false := fun c hc ↦
      not_isBlank_of_toLower (hword _ (hcs ▸ List.mem_map_of_mem hc))
    rw [htext, trimBy_append hafter, trimBy_prepend hbefore, JsonText.trimBy_eq_self hsolid, hcs]

end WebAcl.Text
