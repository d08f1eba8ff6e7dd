import WebAcl.Text.Digit
import Mathlib.Data.List.Induction

namespace WebAcl.Text

variable {sep : Char} {cs p : List Char} {ps : List (List Char)}

theorem splitOn_append_cons (h : sep ∉ p) (rest : List Char) :
    (p ++ sep :: rest).splitOn sep = p :: rest.splitOn sep := by
  have hp : ∀ d ∈ p, (d == sep) = false :=
    fun _ hd ↦ beq_eq_false_iff_ne.mpr (ne_of_mem_of_not_mem hd h)
  exact List.splitOnP_append_cons_of_forall_mem hp sep (beq_self_eq_true sep) rest

theorem splitOn_eq_cons_iff : cs.splitOn sep = p :: ps ↔
    sep ∉ p ∧ (cs = p ∧ ps = [] ∨ ∃ rest, cs = p ++ sep :: rest ∧ rest.splitOn sep = ps) := by
  constructor
  · intro h
    by_cases hsep : sep ∈ cs
    · obtain ⟨q, rest, rfl, hq⟩ := List.eq_append_cons_of_mem hsep
      rw [splitOn_append_cons hq] at h
      obtain ⟨rfl, hrest⟩ := List.cons.inj h
      exact ⟨hq, .inr ⟨rest, rfl, hrest⟩⟩
    · rw [List.splitOn_eq_singleton hsep] at h
      obtain ⟨rfl, hps⟩ := List.cons.inj h
      exact ⟨hsep, .inl ⟨rfl, hps.symm⟩⟩
  · rintro ⟨hp, ⟨rfl, rfl⟩ | ⟨rest, rfl, rfl⟩⟩
    · exact List.splitOn_eq_singleton hp
    · exact splitOn_append_cons hp rest

theorem splitOn_eq_iff : cs.splitOn sep = ps ↔
    ps ≠ [] ∧ (∀ p ∈ ps, sep ∉ p) ∧ cs = [sep].intercalate ps := by
  constructor
  · rintro rfl
    refine ⟨List.splitOn_ne_nil sep cs, ?_, (List.intercalate_splitOn sep).symm⟩
    generalize hps : cs.splitOn sep = ps
    induction ps generalizing cs with
    | nil => simp
    | cons p ps ih =>
      obtain ⟨hp, ⟨-, rfl⟩ | ⟨rest, -, hrest⟩⟩ := splitOn_eq_cons_iff.mp hps
      · simpa using hp
      · exact List.forall_mem_cons.mpr ⟨hp, ih hrest⟩
  · rintro ⟨hne, hnot, rfl⟩
    exact List.splitOn_intercalate sep hnot hne

theorem splitOn_eq_pair_iff {q : List Char} :
    cs.splitOn sep = [p, q] ↔ sep ∉ p ∧ sep ∉ q ∧ cs = p ++ sep :: q := by
  simp [splitOn_eq_iff, List.intercalate, and_assoc]

theorem isDigit_toNat {c : Char} (h : c.isDigit = true) : 0x30 ≤ c.toNat ∧ c.toNat ≤ 0x39 := by
  simp only [Char.isDigit, Bool.and_eq_true, decide_eq_true_eq, UInt32.le_iff_toNat_le,
    ge_iff_le] at h
  exact h

theorem forall_digit {P : Char → Prop} (h : ∀ n < 10, P (Char.ofNat (0x30 + n))) {c : Char}
    (hc : c.isDigit = true) : P c := by
  have hbounds := isDigit_toNat hc
  have hdigit := h (c.toNat - 0x30) (by omega)
  rwa [Nat.add_sub_cancel' hbounds.1, Char.ofNat_toNat] at hdigit

theorem digitChar_digitOf {c : Char} (h : c.isDigit = true) : (digitOf c).digitChar = c :=
  forall_digit (P := fun c ↦ (digitOf c).digitChar = c) (by decide) h

theorem digitOf_lt {c : Char} (h : c.isDigit = true) : digitOf c < 10 :=
  forall_digit (P := fun c ↦ digitOf c < 10) (by decide) h

theorem numeral_append (ds : List Char) (d : Char) :
    numeral 10 (ds ++ [d]) = 10 * numeral 10 ds + digitOf d := by
  simp [numeral, Nat.mul_comm]

theorem exists_zeros_of_digits {ds : List Char} (hne : ds ≠ [])
    (h : ∀ d ∈ ds, d.isDigit = true) :
    ∃ zeros, ds = List.replicate zeros '0' ++ Nat.toDigits 10 (numeral 10 ds) := by
  induction ds using List.reverseRecOn with
  | nil => exact absurd rfl hne
  | append_singleton ds d ih =>
    have hd : d.isDigit = true := h d (by simp)
    have hlt : digitOf d < 10 := digitOf_lt hd
    have hlast : Nat.toDigits 10 (digitOf d) = [d] := by
      rw [Nat.toDigits_of_lt_base hlt, digitChar_digitOf hd]
    rcases ds.eq_nil_or_concat with rfl | ⟨_, _, hds⟩
    · exact ⟨0, by simp [numeral, hlast]⟩
    · obtain ⟨zeros, hzeros⟩ := ih (by simp [hds]) fun c hc ↦ h c (List.mem_append_left _ hc)
      rw [numeral_append]
      rcases Nat.eq_zero_or_pos (numeral 10 ds) with hzero | hpos
      · refine ⟨zeros + 1, ?_⟩
        rw [hzero, Nat.toDigits_zero, ← List.replicate_succ'] at hzeros
        rw [hzero, Nat.mul_zero, Nat.zero_add, hlast, ← hzeros]
      · refine ⟨zeros, ?_⟩
        rw [← Nat.toDigits_append_toDigits (by decide) hpos hlt, hlast, ← List.append_assoc,
          ← hzeros]

theorem numeral_toDigits (n : Nat) : numeral 10 (Nat.toDigits 10 n) = n := by
  have hdigit : ∀ m < 10, digitOf m.digitChar = m := by decide
  induction n using Nat.strongRecOn with
  | _ n ih =>
    rw [Nat.toDigits_eq_if (by decide)]
    split
    next hn => simp [numeral, hdigit n hn]
    next hn =>
      rw [numeral_append, ih (n / 10) (by omega), hdigit _ (Nat.mod_lt _ (by decide))]
      omega

theorem numeral_zeros (zeros : Nat) (ds : List Char) :
    numeral 10 (List.replicate zeros '0' ++ ds) = numeral 10 ds := by
  induction zeros with
  | zero => rfl
  | succ zeros ih => exact ih

/-- What is read as a number: its decimal digits, perhaps with zeros before them. -/
theorem decimal?_eq_some_iff {n : Nat} : decimal? cs = some n ↔
    (∃ zeros, cs = List.replicate zeros '0' ++ Nat.toDigits 10 n) ∧ cs.length ≤ digitLimit := by
  unfold decimal?
  constructor
  · intro h
    split at h
    next hcs =>
      simp only [Bool.and_eq_true, Bool.not_eq_true', List.isEmpty_eq_false_iff, List.all_eq_true,
        decide_eq_true_eq] at hcs
      obtain ⟨⟨hne, hdigits⟩, hlength⟩ := hcs
      obtain rfl := Option.some.inj h
      exact ⟨exists_zeros_of_digits hne hdigits, hlength⟩
    next => cases h
  · rintro ⟨⟨zeros, rfl⟩, hlength⟩
    rw [if_pos, numeral_zeros, numeral_toDigits]
    simp only [Bool.and_eq_true, Bool.not_eq_true', List.isEmpty_eq_false_iff, List.all_eq_true,
      decide_eq_true_eq]
    refine ⟨⟨by simp [Nat.toDigits_ne_nil], fun d hd ↦ ?_⟩, hlength⟩
    rcases List.mem_append.mp hd with hd | hd
    · rw [List.eq_of_mem_replicate hd]
      rfl
    · exact Nat.isDigit_of_mem_toDigits (by decide) (by decide) hd

end WebAcl.Text
