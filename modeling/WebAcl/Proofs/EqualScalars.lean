import WebAcl.Proofs.FrozenCopies
import Mathlib.Algebra.Group.Nat.Defs

namespace WebAcl

namespace Number.Binary64

/-- The form in which every number is held: zero has the exponent `0`, and a mantissa of fewer than
53 bits occurs with the least exponent only. -/
def IsCanonical : Binary64 → Prop
  | finite _ m e => m = 0 ∧ e = 0 ∨ 0 < m ∧ m < 2 ^ 53 ∧ -1074 ≤ e ∧ (2 ^ 52 ≤ m ∨ e = -1074)
  | _ => True

theorem toRatio?_finite (negative : Bool) (m : Nat) (e : Int) :
    (finite negative m e).toRatio? =
      some ((if negative then -1 else 1 : Int) * ((m * 2 ^ e.toNat : Nat) : Int),
        2 ^ (-e).toNat) := by
  unfold toRatio?
  by_cases he : 0 ≤ e
  · have hzero : (-e).toNat = 0 := by omega
    cases negative <;> simp [he, hzero]
  · have hzero : e.toNat = 0 := by omega
    cases negative <;> simp [he, hzero]

theorem eq_mul_of_toInt? {negative : Bool} {m : Nat} {e i : Int}
    (h : (finite negative m e).toInt? = some i) :
    (if negative then -1 else 1) * ((m * 2 ^ e.toNat : Nat) : Int) =
      i * (2 ^ (-e).toNat : Nat) := by
  rw [toInt?, toRatio?_finite] at h
  generalize (if negative then -1 else 1 : Int) * ((m * 2 ^ e.toNat : Nat) : Int) = n at h ⊢
  dsimp only [Option.bind_some] at h
  split at h
  next hdvd =>
    obtain rfl := Option.some.inj h
    exact (Int.ediv_mul_cancel (Int.dvd_of_emod_eq_zero hdvd)).symm
  next => simp at h

/-- Of two mantissas for one number the one with the lesser exponent is as long as can be. -/
theorem mantissa_unique {m m' k l : Nat} {e e' : Int} (hm : m < 2 ^ 53) (he : -1074 ≤ e)
    (hm' : 2 ^ 52 ≤ m' ∨ e' = -1074) (hle : e ≤ e') (hkl : (l : Int) - k = e' - e)
    (h : m * 2 ^ k = m' * 2 ^ l) : m = m' ∧ e = e' := by
  obtain ⟨j, rfl⟩ : ∃ j, l = k + j := ⟨l - k, by omega⟩
  -- the greater exponent leaves the mantissa `j` bits shorter, and it is as long as can be
  have hscaled : m = m' * 2 ^ j := by
    rw [Nat.pow_add, ← Nat.mul_assoc, Nat.mul_right_comm] at h
    exact Nat.eq_of_mul_eq_mul_right (Nat.two_pow_pos k) h
  cases j with
  | zero => exact ⟨by simpa using hscaled, by omega⟩
  | succ j =>
    have hlong : 2 ^ 52 ≤ m' := by omega
    have hpow : m' * 2 ≤ m' * 2 ^ (j + 1) := Nat.mul_le_mul_left m' (Nat.le_self_pow (by omega) 2)
    omega

theorem eq_zero_of_mul {m k l : Nat} (h : m * 2 ^ k = 0 * 2 ^ l) : m = 0 :=
  (Nat.mul_eq_zero.mp (h.trans (Nat.zero_mul _))).resolve_right (Nat.ne_of_gt (Nat.two_pow_pos k))

theorem toRatio?_eq_of_toInt? {x y : Binary64} (hx : x.IsCanonical) (hy : y.IsCanonical) {i : Int}
    (h : x.toInt? = some i) (h' : y.toInt? = some i) : x.toRatio? = y.toRatio? := by
  cases x with
  | infinite | nan => simp [toInt?, toRatio?] at h
  | finite negative m e =>
    cases y with
    | infinite | nan => simp [toInt?, toRatio?] at h'
    | finite negative' m' e' =>
      have hvalue := eq_mul_of_toInt? h
      have hvalue' := eq_mul_of_toInt? h'
      have habs : m * 2 ^ e.toNat = i.natAbs * 2 ^ (-e).toNat := by
        have := congrArg Int.natAbs hvalue
        cases negative <;> simpa [Int.natAbs_mul, Int.natAbs_pow] using this
      have habs' : m' * 2 ^ e'.toNat = i.natAbs * 2 ^ (-e').toNat := by
        have := congrArg Int.natAbs hvalue'
        cases negative' <;> simpa [Int.natAbs_mul, Int.natAbs_pow] using this
      have hcross : m * 2 ^ (e.toNat + (-e').toNat) = m' * 2 ^ (e'.toNat + (-e).toNat) := by
        rw [Nat.pow_add, Nat.pow_add, ← Nat.mul_assoc, ← Nat.mul_assoc, habs, habs',
          Nat.mul_right_comm]
      -- a number that is not zero has one form, and so has zero up to its sign
      obtain ⟨rfl, rfl⟩ : m = m' ∧ e = e' := by
        rcases hx with ⟨rfl, rfl⟩ | ⟨hpos, hm, he, hlong⟩
        · rcases hy with ⟨rfl, rfl⟩ | ⟨hpos', -⟩
          · exact ⟨rfl, rfl⟩
          · exact absurd (eq_zero_of_mul hcross.symm) (Nat.ne_of_gt hpos')
        · rcases hy with ⟨rfl, rfl⟩ | ⟨-, hm', he', hlong'⟩
          · exact absurd (eq_zero_of_mul hcross) (Nat.ne_of_gt hpos)
          · rcases Int.le_total e e' with hle | hle
            · exact mantissa_unique hm he hlong' hle (by omega) hcross
            · obtain ⟨hmm, hee⟩ := mantissa_unique hm' he' hlong hle (by omega) hcross.symm
              exact ⟨hmm.symm, hee.symm⟩
      rw [toRatio?_finite, toRatio?_finite, hvalue, hvalue']

end Number.Binary64

namespace Value

open Number

structure IsScalar (v : Value) : Prop where
  isAtom : v.IsAtom
  isCanonical : ∀ x, v = float x → x.IsCanonical

variable {v w u : Value}

theorem IsScalar.same_eq (h : v.IsScalar) (w : Value) : v.same w = v.sameScalar w := by
  cases v with
  | list | tuple | set | map | frozenMap | endless => exact h.isAtom.elim
  | _ => rw [same] <;> simp

theorem sameScalar_float {x y : Binary64} : (float x).sameScalar (float y) = true ↔
    (∃ r, x.toRatio? = some r ∧ y.toRatio? = some r) ∨ x = y := by
  rw [sameScalar, Bool.or_eq_true, Bool.and_eq_true, beq_iff_eq, beq_iff_eq]
  cases x.toRatio? <;> cases y.toRatio? <;> simp [eq_comm]

/-- How two scalars can be equal: only numbers of different kinds, by their integral value, and two
times for one instant need not be the same. -/
theorem sameScalar_cases (h : v.sameScalar w = true) :
    v = w ∨ (∃ t t', v = timestamp t ∧ w = timestamp t' ∧ t.same t' = true) ∨
      (∃ x y, v = float x ∧ w = float y) ∨ ∃ i, v.toInt? = some i ∧ w.toInt? = some i := by
  unfold sameScalar at h
  split at h
  next => exact .inl rfl
  next x y => exact .inr (.inr (.inl ⟨x, y, rfl, rfl⟩))
  next => exact .inl (congrArg str (by simpa using h))
  next => exact .inl (congrArg bytes (by simpa using h))
  next => exact .inl (congrArg date (by simpa using h))
  next t t' => exact .inr (.inl ⟨t, t', rfl, rfl, h⟩)
  next =>
    obtain ⟨hsome, heq⟩ := (Bool.and_eq_true _ _).mp h
    obtain ⟨i, hi⟩ := Option.isSome_iff_exists.mp hsome
    exact .inr (.inr (.inr ⟨i, hi, (beq_iff_eq.mp heq).symm.trans hi⟩))

theorem toInt?_eq_of_sameScalar_float {x y : Binary64}
    (h : (float x).sameScalar (float y) = true) : x.toInt? = y.toInt? := by
  rcases sameScalar_float.mp h with ⟨r, hx, hy⟩ | rfl
  · rw [Binary64.toInt?, Binary64.toInt?, hx, hy]
  · rfl

theorem sameScalar_of_toInt? (hv : v.IsScalar) (hw : w.IsScalar) {i : Int}
    (h : v.toInt? = some i) (h' : w.toInt? = some i) : v.sameScalar w = true := by
  by_cases hfloats : ∃ x y, v = float x ∧ w = float y
  · obtain ⟨x, y, rfl, rfl⟩ := hfloats
    have hratio := Binary64.toRatio?_eq_of_toInt? (hv.isCanonical x rfl) (hw.isCanonical y rfl) h h'
    cases hx : x.toRatio? with
    | none => simp [toInt?, Binary64.toInt?, hx] at h
    | some r => exact sameScalar_float.mpr (.inl ⟨r, hx, hratio.symm.trans hx⟩)
  · unfold sameScalar
    split <;> simp_all [toInt?]

theorem sameScalar_symm (hv : v.IsScalar) (hw : w.IsScalar) (h : v.sameScalar w = true) :
    w.sameScalar v = true := by
  rcases sameScalar_cases h with rfl | ⟨t, t', rfl, rfl, ht⟩ | ⟨x, y, rfl, rfl⟩ | ⟨i, hi, hi'⟩
  · exact h
  · simp_all [sameScalar, Timestamp.same]
  · rcases sameScalar_float.mp h with ⟨r, hx, hy⟩ | rfl
    · exact sameScalar_float.mpr (.inl ⟨r, hy, hx⟩)
    · exact h
  · exact sameScalar_of_toInt? hw hv hi' hi

theorem sameScalar_trans (hv : v.IsScalar) (hu : u.IsScalar) (h : v.sameScalar w = true)
    (h' : w.sameScalar u = true) : v.sameScalar u = true := by
  rcases sameScalar_cases h with rfl | ⟨t, t', rfl, rfl, ht⟩ | ⟨x, y, rfl, rfl⟩ | ⟨i, hi, hi'⟩
  · exact h'
  · rcases sameScalar_cases h' with rfl | ⟨_, t'', ⟨⟩, rfl, ht'⟩ | ⟨_, _, ⟨⟩, _⟩ | ⟨_, hnone, _⟩
    · exact h
    · simp_all [sameScalar, Timestamp.same]
    · simp [toInt?] at hnone
  · rcases sameScalar_cases h' with rfl | ⟨_, _, ⟨⟩, _⟩ | ⟨_, z, ⟨⟩, rfl⟩ | ⟨j, hj, hj'⟩
    · exact h
    · rw [sameScalar_float] at h h' ⊢
      rcases h with ⟨r, hx, hy⟩ | rfl
      · rcases h' with ⟨r', hy', hz⟩ | rfl
        · obtain rfl := Option.some.inj (hy.symm.trans hy')
          exact .inl ⟨r, hx, hz⟩
        · exact .inl ⟨r, hx, hy⟩
      · exact h'
    · exact sameScalar_of_toInt? hv hu ((toInt?_eq_of_sameScalar_float h).trans hj) hj'
  · rcases sameScalar_cases h' with rfl | ⟨_, _, rfl, _⟩ | ⟨y, z, rfl, rfl⟩ | ⟨j, hj, hj'⟩
    · exact h
    · simp [toInt?] at hi'
    · exact sameScalar_of_toInt? hv hu hi ((toInt?_eq_of_sameScalar_float h').symm.trans hi')
    · obtain rfl := Option.some.inj (hi'.symm.trans hj)
      exact sameScalar_of_toInt? hv hu hi hj'

end Value

end WebAcl
