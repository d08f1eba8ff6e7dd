import WebAcl.Priority.Allocator
import WebAcl.Proofs.Outcome
import Mathlib.Data.List.Basic

namespace WebAcl

namespace Band

theorem contains_iff {b : Band} {p : Int} :
    b.contains p = true ↔ b.first ≤ p ∧ ∀ l, b.last = some l → p ≤ l := by
  cases b with
  | mk k f l d c => cases l <;> simp [contains]

theorem contains_of_mem_priorities {b : Band} {p : Int} (h : p ∈ b.priorities) :
    b.contains p = true := by
  simp only [priorities, List.mem_map, List.mem_range] at h
  obtain ⟨n, hn, rfl⟩ := h
  rw [contains_iff]
  refine ⟨by omega, fun l hl ↦ ?_⟩
  simp only [width?, hl, Option.map_some, Option.getD_some] at hn
  omega

end Band

/-- The priorities that a category of generated rules has for itself. User rules have none: their
priorities are chosen, not handed out. -/
def Category.Owns (k : Category) (p : Int) : Prop :=
  (Band.of k).custom = false ∧ (Band.of k).contains p = true

namespace Category

theorem Owns.unique {k l : Category} {p : Int} (hk : k.Owns p) (hl : l.Owns p) : k = l := by
  obtain ⟨hk, hpk⟩ := hk
  obtain ⟨hl, hpl⟩ := hl
  rw [Band.contains_iff] at hpk hpl
  cases k <;> simp [Band.of] at hk hpk <;> cases l <;> simp [Band.of] at hl hpl <;>
    first | rfl | omega

theorem mem_all (k : Category) : k ∈ (Choice.all : List Category) := by
  cases k <;> decide

end Category

theorem Band.fixedOf?_eq_none_iff {p : Int} :
    Band.fixedOf? p = none ↔ ∀ k : Category, ¬ k.Owns p := by
  simp only [Band.fixedOf?, Band.all, List.find?_eq_none, List.mem_map, Category.Owns]
  constructor
  · rintro h k ⟨hc, hp⟩
    exact h _ ⟨k, k.mem_all, rfl⟩ (by simp [hc, hp])
  · rintro h b ⟨k, -, rfl⟩
    simpa using fun hc ↦ Bool.eq_false_iff.mpr fun hp ↦ h k ⟨hc, hp⟩

namespace Allocator

theorem isClaimed_iff {a : Allocator} {p : Int} :
    a.isClaimed p = true ↔ ∃ k, (p, k) ∈ a.claimed := by
  simp only [isClaimed, List.any_eq_true, beq_iff_eq]
  constructor
  · rintro ⟨⟨q, k⟩, h, rfl⟩
    exact ⟨k, h⟩
  · rintro ⟨k, h⟩
    exact ⟨_, h, rfl⟩

@[simp] theorem isClaimed_claim (a : Allocator) (k : Category) (ps : List Int) (p : Int) :
    (a.claim k ps).isClaimed p = (a.isClaimed p || ps.contains p) := by
  rw [Bool.eq_iff_iff, Bool.or_eq_true, isClaimed_iff, isClaimed_iff]
  simp [claim, exists_or]

theorem fixedBand_of_fixed {k : Category} (hk : (Band.of k).custom = false) :
    fixedBand k = .ok (Band.of k) := by
  simp [fixedBand, hk]

theorem mem_takeCount {n p : Int} {ps : List Int} (h : p ∈ takeCount n ps) : p ∈ ps := by
  unfold takeCount at h
  split at h <;> exact List.mem_of_mem_take h

theorem free_congr {a b : Allocator} {k : Category} (hk : (Band.of k).custom = false)
    (h : ∀ p, k.Owns p → a.isClaimed p = b.isClaimed p) :
    a.free (Band.of k) = b.free (Band.of k) := by
  refine List.filter_congr fun p hp ↦ ?_
  rw [h p ⟨hk, Band.contains_of_mem_priorities hp⟩]

/-- What taking slots of a band gives depends on the claims in that band only, and makes claims
nowhere else. -/
theorem allocate_congr {a b : Allocator} {k : Category}
    (h : ∀ p, k.Owns p → a.isClaimed p = b.isClaimed p) (count : Option Int) :
    (∃ e, a.allocate k count = .error e ∧ b.allocate k count = .error e) ∨
    ∃ ps, a.allocate k count = .ok (ps, a.claim k ps) ∧
      b.allocate k count = .ok (ps, b.claim k ps) ∧ ∀ p ∈ ps, k.Owns p := by
  unfold allocate
  cases hk : (Band.of k).custom with
  | true => left; simp [fixedBand, hk]
  | false =>
    simp only [fixedBand_of_fixed hk, Outcome.ok_bind, free_congr hk h]
    split
    · exact .inl ⟨_, rfl, rfl⟩
    · refine .inr ⟨_, rfl, rfl, fun p hp ↦ ⟨hk, Band.contains_of_mem_priorities ?_⟩⟩
      exact List.mem_of_mem_filter (mem_takeCount hp)

theorem owns_first_add_iff {k : Category} (offset : Int) (hk : (Band.of k).custom = false) :
    k.Owns ((Band.of k).first + offset) ↔
      ¬ (offset < 0 ∨ (Band.of k).width?.getD 0 ≤ offset) := by
  rw [Category.Owns, Band.contains_iff]
  cases k <;> simp [Band.of] at hk <;> simp [Band.of, Band.width?] <;> omega

theorem slot_eq_ok_iff {k : Category} {a b : Allocator} {offset p : Int} :
    a.slot k offset = .ok (p, b) ↔ k.Owns p ∧ a.isClaimed p = false ∧
      p = (Band.of k).first + offset ∧ b = a.claim k [p] := by
  unfold slot
  cases hk : (Band.of k).custom with
  | true => simp [fixedBand, hk, Category.Owns]
  | false =>
    have hrange := owns_first_add_iff offset hk
    rw [fixedBand_of_fixed hk, Outcome.ok_bind]
    by_cases ho : offset < 0 ∨ (Band.of k).width?.getD 0 ≤ offset
    · have hout : ¬ k.Owns ((Band.of k).first + offset) := fun h ↦ hrange.mp h ho
      simp only [ho, if_true, Outcome.throw_eq_error, Outcome.error_bind, reduceCtorEq, false_iff]
      rintro ⟨hp, -, rfl, -⟩
      exact hout hp
    · have hin := hrange.mpr ho
      cases hc : a.isClaimed ((Band.of k).first + offset) with
      | true =>
        simp only [ho, hc, if_false, if_true, Outcome.throw_eq_error, Outcome.error_bind,
          reduceCtorEq, false_iff]
        rintro ⟨-, hfree, rfl, -⟩
        simp [hc] at hfree
      | false =>
        simp only [ho, hc, if_false, Bool.false_eq_true, Outcome.pure_eq_ok, Except.ok.injEq,
          Prod.mk.injEq]
        constructor
        · rintro ⟨rfl, rfl⟩
          exact ⟨hin, hc, rfl, rfl⟩
        · rintro ⟨-, -, rfl, rfl⟩
          exact ⟨rfl, rfl⟩

theorem slot_congr {a b : Allocator} {k : Category}
    (h : ∀ p, k.Owns p → a.isClaimed p = b.isClaimed p) (offset : Int) :
    (∃ e, a.slot k offset = .error e ∧ b.slot k offset = .error e) ∨
    ∃ p, a.slot k offset = .ok (p, a.claim k [p]) ∧ b.slot k offset = .ok (p, b.claim k [p]) ∧
      k.Owns p := by
  unfold slot
  cases hk : (Band.of k).custom with
  | true => left; simp [fixedBand, hk]
  | false =>
    have hrange := owns_first_add_iff offset hk
    simp only [fixedBand_of_fixed hk, Outcome.ok_bind]
    by_cases ho : offset < 0 ∨ (Band.of k).width?.getD 0 ≤ offset
    · left; simp [ho]
    · have hp : k.Owns ((Band.of k).first + offset) := hrange.mpr ho
      simp only [ho, if_false, ← h _ hp]
      cases a.isClaimed ((Band.of k).first + offset) with
      | true => exact .inl ⟨_, rfl, rfl⟩
      | false => exact .inr ⟨_, rfl, rfl, hp⟩

theorem checkCustom_eq_ok_iff {k : Category} {p q : Int} {ruleName : String} :
    checkCustom k p ruleName = .ok q ↔ (Band.of k).custom = true ∧ 0 ≤ p ∧
      (Band.of k).contains p = true ∧ Band.fixedOf? p = none ∧ q = p := by
  unfold checkCustom
  cases hk : (Band.of k).custom with
  | false => simp [hk]
  | true =>
    by_cases hp : p < 0
    · simp [hk, hp, Int.not_le.mpr hp]
    · cases hc : (Band.of k).contains p with
      | false => simp [hk, hp, hc]
      | true => cases Band.fixedOf? p <;> simp [hk, hp, hc, Int.not_lt.mp hp, eq_comm]

theorem checkCustom_pre_eq_ok_iff {p q : Int} {ruleName : String} :
    checkCustom .preCustom p ruleName = .ok q ↔ (p = 0 ∨ 5 ≤ p ∧ p ≤ 9) ∧ q = p := by
  rw [checkCustom_eq_ok_iff, Band.fixedOf?_eq_none_iff]
  simp only [Category.Owns, Band.contains_iff]
  constructor
  · rintro ⟨-, h, hc, hf, rfl⟩
    have h₄ := hf .blockV4
    have h₆ := hf .blockV6
    simp [Band.of, Band.preCustomLimit] at hc h₄ h₆
    omega
  · rintro ⟨hp, rfl⟩
    refine ⟨rfl, by omega, ?_, fun k hk ↦ ?_, rfl⟩
    · simp [Band.of, Band.preCustomLimit]
      omega
    · cases k <;> simp [Band.of] at hk <;> omega

theorem checkCustom_post_eq_ok_iff {p q : Int} {ruleName : String} :
    checkCustom .postCustom p ruleName = .ok q ↔ 31 ≤ p ∧ q = p := by
  rw [checkCustom_eq_ok_iff, Band.fixedOf?_eq_none_iff]
  simp only [Category.Owns, Band.contains_iff]
  constructor
  · rintro ⟨-, -, hc, -, rfl⟩
    simpa [Band.of, Band.postCustomFloor] using hc
  · rintro ⟨hp, rfl⟩
    refine ⟨rfl, by omega, ?_, fun k hk ↦ ?_, rfl⟩
    · simpa [Band.of, Band.postCustomFloor] using hp
    · cases k <;> simp [Band.of] at hk <;> omega

end Allocator

end WebAcl
