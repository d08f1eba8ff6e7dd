import WebAcl.Proofs.Arrangement
import WebAcl.Proofs.FeatureRules

namespace WebAcl

open Compiling Text

/-- What the feature of a category guarantees of its rules. -/
structure Rule.MadeFor (k : Category) (enforce : Bool) (r : Rule) : Prop where
  category : r.category = k
  contains : (Band.of k).contains r.priority = true
  unowned : (Band.of k).custom = true → Band.fixedOf? r.priority = none
  followsMode : r.FollowsMode enforce
  kind_of_sensitive : r.modeSensitive = true → k = .managed ∨ k = .rateLimit
  hasOneOutcome : (Band.of k).custom = false → r.HasOneOutcome

theorem Rule.followsMode_of_not_sensitive {r : Rule} {enforce : Bool}
    (h : r.modeSensitive = false) : r.FollowsMode enforce :=
  fun hr ↦ absurd hr (by simp [h])

theorem Rule.MadeFor.of_action {k : Category} {enforce : Bool} {r : Rule}
    (hk : (Band.of k).custom = false) (hc : r.category = k)
    (hp : (Band.of k).contains r.priority = true) (ha : r.action.isSome = true)
    (ho : r.override = none) (hm : r.modeSensitive = false) : r.MadeFor k enforce where
  category := hc
  contains := hp
  unowned h := by simp [hk] at h
  followsMode := Rule.followsMode_of_not_sensitive hm
  kind_of_sensitive h := by simp [hm] at h
  hasOneOutcome _ := by simp [Rule.HasOneOutcome, ha, ho]

theorem Rule.MadeFor.priority_ne {k l : Category} {enforce : Bool} {r s : Rule}
    (hr : r.MadeFor k enforce) (hs : s.MadeFor l enforce) (hkl : k ≠ l) :
    r.priority ≠ s.priority := by
  intro heq
  have hl : (Band.of l).contains r.priority = true := heq ▸ hs.contains
  cases hkc : (Band.of k).custom with
  | false =>
    cases hlc : (Band.of l).custom with
    | false => exact hkl (Category.Owns.unique ⟨hkc, hr.contains⟩ ⟨hlc, hl⟩)
    | true =>
      exact Band.fixedOf?_eq_none_iff.mp (hs.unowned hlc) k ⟨hkc, heq ▸ hr.contains⟩
  | true =>
    cases hlc : (Band.of l).custom with
    | false => exact Band.fixedOf?_eq_none_iff.mp (hr.unowned hkc) l ⟨hlc, hl⟩
    | true =>
      -- the two bands of the user's rules lie on either side of all others
      have hk := Band.contains_iff.mp hr.contains
      have hl := Band.contains_iff.mp hl
      cases k <;> simp [Band.of] at hkc <;> cases l <;> simp [Band.of] at hlc <;>
        simp [Band.of, Band.preCustomLimit, Band.postCustomFloor] at hkl hk hl <;> omega

variable {k : Category} {enforce : Bool}

theorem AddressList.madeFor {d : AddressList} (hd : of? k = some d) {s : IpSet} {r : Rule}
    (hr : r ∈ d.rules k s (Band.of k).first ((Band.of k).first + 1)) : r.MadeFor k enforce := by
  obtain ⟨hk, hp⟩ := priorities_of_of? hd
  have hcontains : ∀ p ∈ [(Band.of k).first, (Band.of k).first + 1],
      (Band.of k).contains p = true := fun p h ↦ Band.contains_of_mem_priorities (hp ▸ h)
  simp only [rules, List.mem_cons, List.not_mem_nil, or_false] at hr
  obtain rfl | rfl := hr
  · exact .of_action hk rfl (hcontains _ (by simp)) rfl rfl rfl
  · exact .of_action hk rfl (hcontains _ (by simp)) rfl rfl rfl

theorem PatternList.madeFor {d : PatternList} (hd : of? k = some d) (patterns : List String)
    (policyName : String) : (d.rule k patterns policyName).MadeFor k enforce := by
  obtain ⟨hk, hp⟩ := priorities_of_of? hd
  exact .of_action hk rfl (Band.contains_of_mem_priorities (by simp [hp, rule])) rfl rfl rfl

namespace Config

theorem RateLimit.madeFor (limit : RateLimit) :
    (limit.rule enforce).MadeFor .rateLimit enforce where
  category := rfl
  contains := rfl
  unowned h := by simp [Band.of] at h
  followsMode _ := by simp [rule]
  kind_of_sensitive _ := .inr rfl
  hasOneOutcome _ := rfl

theorem CustomRule.Passes.madeFor [Machine] {r : CustomRule} (h : r.Passes k) :
    (r.made k).MadeFor k enforce := by
  obtain ⟨hk, -, hp, hf, -⟩ := Allocator.checkCustom_eq_ok_iff.mp h.priority
  exact {
    category := rfl
    contains := hp
    unowned := fun _ ↦ hf
    followsMode := Rule.followsMode_of_not_sensitive rfl
    kind_of_sensitive := fun hm ↦ by simp [made] at hm
    hasOneOutcome := fun h ↦ by simp [hk] at h }

end Config

namespace ManagedGroups

theorem mem_placed {s : Selection} {gs : List ManagedGroup} {r : Rule} :
    r ∈ placed s enforce gs ↔ ∃ g ∈ gs, ∃ excluded, s.lookup g.key = some excluded ∧
      rule g excluded enforce ((Band.of .managed).first + g.slot) = r := by
  simp [placed]

theorem madeFor (g : ManagedGroup) (excluded : List String) {p : Int}
    (hp : Category.managed.Owns p) :
    (rule g excluded enforce p).MadeFor .managed enforce where
  category := rfl
  contains := hp.2
  unowned h := by simp [Band.of] at h
  followsMode h := by
    have hg : g.alwaysEnforced = false := by simpa [rule] using h
    simp [rule, hg]
  kind_of_sensitive _ := .inl rfl
  hasOneOutcome _ := rfl

theorem alone_build (toggles : List Config.GroupToggle) (excludedCommon : List String)
    (enforce : Bool) (registry : Registry) :
    (build toggles excludedCommon enforce registry).alone =
      (select registry toggles excludedCommon).mapError .ofProblem >>= fun s ↦
        ((rules s enforce registry.inOrder).exec {}).1 := by
  unfold build
  rw [alone_bind, alone, exec_ofProblem]
  cases select registry toggles excludedCommon with
  | error e => rfl
  | ok s =>
    simp only [Outcome.mapError_ok, Outcome.ok_bind, exec_bind]
    cases ((rules s enforce registry.inOrder).exec {}).1 <;> rfl

end ManagedGroups

namespace Config

theorem alone_custom [Machine] {registry : Registry} {c : Config} {name : String}
    (hk : (Band.of k).custom = true) :
    (c.feature registry name k).alone = CustomRule.toRules k 0 (c.customRules k) := by
  cases k <;> simp [Band.of] at hk <;> exact congrArg Prod.fst (exec_ofExcept _ _)

theorem alone_custom_eq_ok_iff [Machine] {registry : Registry} {c : Config} {name : String}
    {rules : List Rule} (hk : (Band.of k).custom = true) :
    (c.feature registry name k).alone = .ok rules ↔ (∀ r ∈ c.customRules k, r.Passes k) ∧
      rules = (c.customRules k).map (CustomRule.made k) := by
  rw [alone_custom hk, CustomRule.toRules_eq_ok_iff]

theorem alone_managed_eq_ok_iff [Machine] {registry : Registry} {c : Config} {name : String}
    {rules : List Rule} : (c.feature registry name .managed).alone = .ok rules ↔
      ∃ s, ManagedGroups.select registry c.managedGroups c.excludedCommonRules = .ok s ∧
        ((ManagedGroups.rules s c.enforce registry.inOrder).exec {}).1 = .ok rules := by
  rw [feature, ManagedGroups.alone_build]
  simp [Outcome.bind_eq_ok_iff, Outcome.mapError_eq_ok_iff]

theorem madeFor_of_feature [Machine] {registry : Registry} {c : Config} {name : String}
    {rules : List Rule}
    (h : (c.feature registry name k).alone = .ok rules) : ∀ r ∈ rules, r.MadeFor k c.enforce := by
  cases k with
  | preCustom | postCustom =>
    obtain ⟨hpass, rfl⟩ := (alone_custom_eq_ok_iff rfl).mp h
    exact List.forall_mem_map.mpr fun r hr ↦ (hpass r hr).madeFor
  | managed =>
    obtain ⟨s, -, h⟩ := alone_managed_eq_ok_iff.mp h
    obtain ⟨rfl, hown⟩ := ManagedGroups.rules_eq_placed h
    intro r hr
    obtain ⟨g, -, excluded, -, rfl⟩ := ManagedGroups.mem_placed.mp hr
    exact ManagedGroups.madeFor g excluded (hown _ hr)
  | rateLimit =>
    rw [feature, RateLimit.alone_build] at h
    obtain rfl := Except.ok.inj h
    intro r hr
    obtain ⟨limit, -, rfl⟩ := Option.map_eq_some_iff.mp (Option.mem_toList.mp hr)
    exact limit.madeFor
  | allowPath | allowUserAgent =>
    obtain ⟨-, rfl⟩ | ⟨_, -, checked, -, rfl⟩ := (PatternList.alone_build_eq_ok_iff rfl).mp h
    · simp
    · simpa using PatternList.madeFor rfl checked name
  | blockV4 | blockV6 | allowV4 | allowV6 =>
    obtain ⟨-, rfl⟩ | ⟨_, -, checked, -, rfl⟩ := (AddressList.alone_build_eq_ok_iff rfl).mp h
    · simp
    · exact fun r hr ↦ AddressList.madeFor rfl hr

end Config

end WebAcl
