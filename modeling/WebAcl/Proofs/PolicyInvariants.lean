import WebAcl.Proofs.ExactAcceptance

namespace WebAcl

open Compiling Text

/-- How late the rules of a category are asked. The rules that the user puts first come in between
those of others. -/
def Category.stage? : Category → Option Nat
  | .preCustom => none
  | .blockV4 | .blockV6 => some 0
  | .allowPath | .allowV4 | .allowV6 | .allowUserAgent => some 1
  | .managed => some 2
  | .rateLimit => some 3
  | .postCustom => some 4

theorem Category.lt_of_stage?_lt {k l : Category} {m n : Nat} (hk : k.stage? = some m)
    (hl : l.stage? = some n) (hmn : m < n) {p q : Int} (hp : (Band.of k).contains p = true)
    (hq : (Band.of l).contains q = true) : p < q := by
  rw [Band.contains_iff] at hp hq
  obtain ⟨-, hp⟩ := hp
  obtain ⟨hq, -⟩ := hq
  cases k <;> simp only [stage?, Option.some.injEq, reduceCtorEq] at hk <;> subst hk <;>
    cases l <;> simp only [stage?, Option.some.injEq, reduceCtorEq] at hl <;> subst hl <;>
    simp [Band.of, Band.postCustomFloor] at hp hq hmn <;> omega

/-- The rules of a policy are in order, and each of them is where it belongs and does one thing. -/
structure Policy.WellFormed (p : Policy) : Prop where
  ascending : p.rules.Pairwise fun r s ↦ r.priority < s.priority
  names : (p.rules.map (·.name)).Nodup
  contains : ∀ r ∈ p.rules, (Band.of r.category).contains r.priority = true
  unowned : ∀ r ∈ p.rules, (Band.of r.category).custom = true → Band.fixedOf? r.priority = none
  hasOneOutcome : ∀ r ∈ p.rules, r.HasOneOutcome
  followsMode : ∀ r ∈ p.rules, r.FollowsMode p.enforce

def Policy.InStages (p : Policy) : Prop :=
  ∀ (i j : Nat) (r s : Rule) (m n : Nat), p.rules[i]? = some r → p.rules[j]? = some s →
    r.category.stage? = some m → s.category.stage? = some n → m < n → i < j

theorem Policy.WellFormed.inStages {p : Policy} (h : p.WellFormed) : p.InStages := by
  intro i j r s m n hi hj hr hs hmn
  have hlt : r.priority < s.priority := Category.lt_of_stage?_lt hr hs hmn
    (h.contains r (List.mem_of_getElem? hi)) (h.contains s (List.mem_of_getElem? hj))
  obtain ⟨hil, rfl⟩ := List.getElem?_eq_some_iff.mp hi
  obtain ⟨hjl, rfl⟩ := List.getElem?_eq_some_iff.mp hj
  -- the other order would put the greater priority first
  rcases Nat.lt_trichotomy i j with hij | rfl | hji
  · exact hij
  · omega
  · have := List.pairwise_iff_getElem.mp h.ascending j i hjl hil hji
    omega

namespace Config

theorem madeFor_of_mem_flatMap [Machine] {registry : Registry} {c : Config} {name : String}
    {out : Category → List Rule} (hout : ∀ k, (c.feature registry name k).alone = .ok (out k))
    {r : Rule} (hr : r ∈ Choice.all.flatMap out) : r.MadeFor r.category c.enforce := by
  obtain ⟨k, -, hr⟩ := List.mem_flatMap.mp hr
  have h := madeFor_of_feature (hout k) r hr
  exact h.category ▸ h

/-- A compiled policy consists of the rules that the features make, each of them once and none
changed, in an order that satisfies all invariants. -/
theorem wellFormed_of_compile [Machine] {registry : Registry} {c : Config} {p : Policy}
    (h : c.compile registry = .ok p) :
    (∃ out : Category → List Rule, (∀ k, (c.feature registry p.name k).alone = .ok (out k)) ∧
      (c.buildRules registry p.name).alone = .ok (Choice.all.flatMap out) ∧
      p.rules.Perm (Choice.all.flatMap out)) ∧
    p.WellFormed ∧ p.InStages := by
  obtain ⟨-, out, hout, ordered, hordered, rfl⟩ := compile_eq_ok_iff.mp h
  obtain ⟨hnames, hpriorities, hbreach, rfl⟩ := RuleList.arrange_eq_ok_iff.mp hordered
  have hperm := RuleList.sorted_perm (Choice.all.flatMap out)
  have hmem : ∀ r ∈ RuleList.sorted (Choice.all.flatMap out), r ∈ Choice.all.flatMap out :=
    fun r hr ↦ hperm.mem_iff.mp hr
  have hrule := fun r hr ↦ RuleList.breach?_eq_none_iff.mp (hbreach r (hmem r hr))
  have hbuild : (c.buildRules registry (strip c.name)).alone = .ok (Choice.all.flatMap out) := by
    rw [alone_buildRules, Category.mapM_eq_ok_iff.mpr ⟨out, hout, rfl⟩]
    rfl
  have hwell : (c.toPolicy (RuleList.sorted (Choice.all.flatMap out))).WellFormed := {
    ascending := RuleList.sorted_pairwise_lt hpriorities
    names := (hperm.map _).nodup_iff.mpr hnames
    contains := fun r hr ↦ (hrule r hr).1
    unowned := fun r hr ↦ (madeFor_of_mem_flatMap hout (hmem r hr)).unowned
    hasOneOutcome := fun r hr ↦ (hrule r hr).2.1
    followsMode := fun r hr ↦ (hrule r hr).2.2 }
  exact ⟨⟨out, hout, hbuild, hperm⟩, hwell, hwell.inStages⟩

section

open UsualMachine

theorem wellFormed_sampler :
    ∃ p, sampler.compile .builtIn = .ok p ∧ p.WellFormed ∧ p.InStages := by
  obtain ⟨p, hp⟩ := exists_compile_sampler
  exact ⟨p, hp, (wellFormed_of_compile hp).2⟩

end

end Config

end WebAcl
