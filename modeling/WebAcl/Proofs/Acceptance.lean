import WebAcl.Proofs.BuiltIn

namespace WebAcl

open Compiling Text

namespace Config

/-- What the feature of a category needs. -/
def Accepts [Machine] (c : Config) : Category → Prop
  | .managed => ∀ t ∈ c.managedGroups, ∃ g ∈ ManagedGroup.builtIn,
    g.key = ManagedGroup.normalizeKey t.name ∧ (t.enabled = true ∨ g.mandatory = false)
  | .rateLimit => True
  | k =>
    (∀ r ∈ c.customRules k, r.Passes k) ∧
    (∀ d listed, AddressList.of? k = some d → c.addresses? k = some listed →
      ∃ checked, AddressList.checkAddresses d.field d.version listed = .ok checked) ∧
    ∀ d listed, PatternList.of? k = some d → c.patterns? k = some listed →
      ∃ checked, PatternList.checkPatterns d.field listed = .ok checked

theorem exists_feature_iff [Machine] (c : Config) (name : String) (k : Category) :
    (∃ rules, (c.feature .builtIn name k).alone = .ok rules) ↔ c.Accepts k := by
  cases k with
  | preCustom | postCustom =>
    constructor
    · rintro ⟨rules, h⟩
      obtain ⟨hpass, -⟩ := (alone_custom_eq_ok_iff rfl).mp h
      exact ⟨hpass, by simp [AddressList.of?], by simp [PatternList.of?]⟩
    · rintro ⟨hpass, -⟩
      exact ⟨_, (alone_custom_eq_ok_iff rfl).mpr ⟨hpass, rfl⟩⟩
  | managed =>
    have hkeys : (Registry.builtIn.groups.map (·.key)).Nodup := by decide
    have hselect := ManagedGroups.exists_select_iff .builtIn c.managedGroups c.excludedCommonRules
    simp only [Registry.group?_eq_some_iff hkeys, and_assoc] at hselect
    refine Iff.trans ?_ hselect
    simp [alone_managed_eq_ok_iff, ManagedGroups.rules_builtIn]
  | rateLimit => simp [feature, RateLimit.alone_build, Accepts]
  | allowPath | allowUserAgent =>
    rw [feature]
    cases hlist : c.patterns? _ with
    | none => simp [PatternList.alone_build_none, Accepts, hlist, customRules, AddressList.of?]
    | some patterns =>
      rw [PatternList.alone_build_some rfl]
      simp [Outcome.bind_eq_ok_iff, Accepts, hlist, customRules, AddressList.of?, PatternList.of?]
  | blockV4 | blockV6 | allowV4 | allowV6 =>
    rw [feature]
    cases hlist : c.addresses? _ with
    | none => simp [AddressList.alone_build_none, Accepts, hlist, customRules, PatternList.of?]
    | some addresses =>
      rw [AddressList.alone_build_some rfl]
      simp [Outcome.bind_eq_ok_iff, Outcome.mapError_eq_ok_iff, Accepts, hlist, customRules,
        AddressList.of?, PatternList.of?]

def userRules (c : Config) : List CustomRule :=
  c.preRules ++ c.postRules

theorem mem_userRules_iff {c : Config} {r : CustomRule} :
    r ∈ c.userRules ↔ ∃ k, r ∈ c.customRules k := by
  constructor
  · intro hr
    obtain hr | hr := List.mem_append.mp hr
    · exact ⟨.preCustom, hr⟩
    · exact ⟨.postCustom, hr⟩
  · rintro ⟨k, hr⟩
    cases k with
    | preCustom => exact List.mem_append_left _ hr
    | postCustom => exact List.mem_append_right _ hr
    | _ => simp [customRules] at hr

def emittedNames (c : Config) : List String :=
  (Category.generated.flatMap c.emitted).map (·.1)

structure Compatible (c : Config) : Prop where
  outcomes : ∀ r ∈ c.userRules, r.action.isSome = !r.override.isSome
  prePriorities : (c.preRules.map (·.priority)).Nodup
  postPriorities : (c.postRules.map (·.priority)).Nodup
  names : (c.userRules.map (·.name)).Nodup
  unused : ∀ r ∈ c.userRules, r.name ∉ c.emittedNames

section Arrange

variable [Machine] {registry : Registry} {c : Config} {name : String} {out : Category → List Rule}
  (hout : ∀ k, (c.feature registry name k).alone = .ok (out k))
include hout

theorem out_custom {k : Category} (hk : (Band.of k).custom = true) :
    out k = (c.customRules k).map (CustomRule.made k) :=
  ((alone_custom_eq_ok_iff hk).mp (hout k)).2

theorem map_out_custom {α : Type} {k : Category} (hk : (Band.of k).custom = true) {f : Rule → α}
    {g : CustomRule → α} (hfg : ∀ r, f (r.made k) = g r) :
    (out k).map f = (c.customRules k).map g := by
  rw [out_custom hout hk, List.map_map]
  exact List.map_congr_left fun r _ ↦ hfg r

theorem filter_generated : ((Choice.all.flatMap out).filter fun r ↦ !(Band.of r.category).custom) =
    Category.generated.flatMap out := by
  have hcategory : ∀ k, ∀ r ∈ out k, r.category = k :=
    fun k r hr ↦ (madeFor_of_feature (hout k) r hr).category
  have hcustom : ∀ k, (Band.of k).custom = true →
      ((out k).filter fun r ↦ !(Band.of r.category).custom) = [] := by
    intro k hk
    refine List.filter_eq_nil_iff.mpr fun r hr ↦ ?_
    simp [hcategory k r hr, hk]
  have hgenerated : ((Category.generated.flatMap out).filter fun r ↦
      !(Band.of r.category).custom) = Category.generated.flatMap out := by
    refine List.filter_eq_self.mpr fun r hr ↦ ?_
    obtain ⟨k, hk, hr⟩ := List.mem_flatMap.mp hr
    simp [hcategory k r hr, Category.custom_of_generated.mp hk]
  rw [Category.flatMap_all, List.filter_append, List.filter_append, hcustom _ rfl, hcustom _ rfl,
    hgenerated, List.nil_append, List.append_nil]

theorem names_perm : ((Choice.all.flatMap out).map (·.name)).Perm
    (c.userRules.map (·.name) ++ (Category.generated.flatMap out).map (·.name)) := by
  have hpre : (out .preCustom).map (·.name) = c.preRules.map (·.name) :=
    map_out_custom hout rfl fun _ ↦ rfl
  have hpost : (out .postCustom).map (·.name) = c.postRules.map (·.name) :=
    map_out_custom hout rfl fun _ ↦ rfl
  rw [Category.flatMap_all, List.map_append, List.map_append, hpre, hpost, userRules,
    List.map_append, List.append_assoc]
  exact List.perm_append_comm.append_left _

/-- The priorities of different categories never meet. -/
theorem priorities_nodup_iff_of_generated
    (hgenerated : ((Category.generated.flatMap out).map (·.priority)).Nodup) :
    ((Choice.all.flatMap out).map (·.priority)).Nodup ↔
      (c.preRules.map (·.priority)).Nodup ∧ (c.postRules.map (·.priority)).Nodup := by
  have hpre : (out .preCustom).map (·.priority) = c.preRules.map (·.priority) :=
    map_out_custom hout rfl fun _ ↦ rfl
  have hpost : (out .postCustom).map (·.priority) = c.postRules.map (·.priority) :=
    map_out_custom hout rfl fun _ ↦ rfl
  have hne : ∀ {k l r s}, k ≠ l → r ∈ out k → s ∈ out l → r.priority ≠ s.priority :=
    fun hkl hr hs ↦ (madeFor_of_feature (hout _) _ hr).priority_ne
      (madeFor_of_feature (hout _) _ hs) hkl
  rw [Category.flatMap_all, List.map_append, List.map_append, hpre, hpost, List.nodup_append,
    List.nodup_append]
  constructor
  · rintro ⟨hpre, ⟨-, hpost, -⟩, -⟩
    exact ⟨hpre, hpost⟩
  · rintro ⟨hprenodup, hpostnodup⟩
    refine ⟨hprenodup, ⟨hgenerated, hpostnodup, ?_⟩, ?_⟩
    · rw [← hpost]
      simp only [List.forall_mem_map, List.mem_flatMap]
      rintro r ⟨k, hk, hr⟩ s hs
      exact hne (fun h ↦ by simp [h, Category.generated] at hk) hr hs
    · rw [← hpre, ← hpost]
      simp only [List.mem_append, List.forall_mem_map, or_imp, forall_and, List.mem_flatMap]
      refine ⟨?_, fun r hr s hs ↦ hne (by decide) hr hs⟩
      rintro r hr s ⟨k, hk, hs⟩
      exact hne (fun h ↦ by simp [← h, Category.generated] at hk) hr hs

/-- Only the rules of the user can break an invariant. -/
theorem breach?_eq_none_iff : (∀ r ∈ Choice.all.flatMap out, RuleList.breach? c.enforce r = none) ↔
    ∀ r ∈ c.userRules, r.action.isSome = !r.override.isSome := by
  have hmade : ∀ k, ∀ r ∈ out k, r.MadeFor k c.enforce := fun k ↦ madeFor_of_feature (hout k)
  have hone : ∀ k, ∀ r ∈ out k,
      RuleList.breach? c.enforce r = none ↔ r.HasOneOutcome := by
    intro k r hr
    have h := hmade k r hr
    simp [RuleList.breach?_eq_none_iff, h.category, h.contains, h.followsMode]
  have hcustom : ∀ {k}, (Band.of k).custom = true →
      ((∀ r ∈ out k, RuleList.breach? c.enforce r = none) ↔
        ∀ r ∈ c.customRules k, r.action.isSome = !r.override.isSome) := by
    intro k hk
    rw [forall₂_congr (hone k), out_custom hout hk, List.forall_mem_map]
    rfl
  have hgenerated : ∀ k ∈ Category.generated, ∀ r ∈ out k,
      RuleList.breach? c.enforce r = none := fun k hk r hr ↦
    (hone k r hr).mpr ((hmade k r hr).hasOneOutcome (Category.custom_of_generated.mp hk))
  rw [Category.flatMap_all]
  simp only [userRules, List.mem_append, or_imp, forall_and, List.mem_flatMap,
    forall_exists_index, and_imp]
  exact and_congr (hcustom (k := .preCustom) rfl)
    ((and_iff_right fun r k hk hr ↦ hgenerated k hk r hr).trans (hcustom (k := .postCustom) rfl))

end Arrange

section ArrangeBuiltIn

variable [Machine] {c : Config} {name : String} {out : Category → List Rule}
  (hout : ∀ k, (c.feature .builtIn name k).alone = .ok (out k))
include hout

theorem map_generated_out :
    (Category.generated.flatMap out).map (fun r ↦ (r.name, r.priority)) =
      Category.generated.flatMap c.emitted := by
  rw [List.map_flatMap]
  exact List.flatMap_congr fun k hk ↦
    emitted_of_feature (Category.custom_of_generated.mp hk) (hout k)

theorem names_nodup_iff : ((Choice.all.flatMap out).map (·.name)).Nodup ↔
    (c.userRules.map (·.name)).Nodup ∧ ∀ r ∈ c.userRules, r.name ∉ c.emittedNames := by
  have hgenerated : (Category.generated.flatMap out).map (·.name) = c.emittedNames := by
    rw [emittedNames, ← map_generated_out hout, List.map_map]
    rfl
  have hnodup : c.emittedNames.Nodup := c.emitted_names_nodup
  rw [(names_perm hout).nodup_iff, hgenerated, List.nodup_append]
  simp only [hnodup, true_and, List.forall_mem_map]
  refine and_congr_right fun _ ↦ forall₂_congr fun r hr ↦ ?_
  exact ⟨fun h hmem ↦ h _ hmem rfl, fun h b hb heq ↦ h (heq ▸ hb)⟩

theorem priorities_nodup_iff : ((Choice.all.flatMap out).map (·.priority)).Nodup ↔
    (c.preRules.map (·.priority)).Nodup ∧ (c.postRules.map (·.priority)).Nodup := by
  refine priorities_nodup_iff_of_generated hout ?_
  have h := c.emitted_priorities_nodup
  rwa [← map_generated_out hout, List.map_map] at h

theorem exists_arrange_iff :
    (∃ ordered, RuleList.arrange (Choice.all.flatMap out) c.enforce = .ok ordered) ↔
      c.Compatible := by
  simp only [RuleList.arrange_eq_ok_iff, names_nodup_iff hout, priorities_nodup_iff hout,
    breach?_eq_none_iff hout]
  constructor
  · rintro ⟨_, ⟨hnames, hunused⟩, ⟨hpre, hpost⟩, houtcomes, -⟩
    exact ⟨houtcomes, hpre, hpost, hnames, hunused⟩
  · rintro ⟨houtcomes, hpre, hpost, hnames, hunused⟩
    exact ⟨_, ⟨hnames, hunused⟩, ⟨hpre, hpost⟩, houtcomes, rfl⟩

end ArrangeBuiltIn

theorem emittedNames_perm [Machine] {c : Config} {p : Policy} (h : c.compile .builtIn = .ok p) :
    ((p.rules.filter fun r ↦ !(Band.of r.category).custom).map (·.name)).Perm c.emittedNames := by
  obtain ⟨-, out, hout, ordered, hordered, rfl⟩ := compile_eq_ok_iff.mp h
  obtain ⟨-, -, -, rfl⟩ := RuleList.arrange_eq_ok_iff.mp hordered
  have hperm := ((RuleList.sorted_perm (Choice.all.flatMap out)).filter fun r ↦
    !(Band.of r.category).custom).map (·.name)
  rw [filter_generated hout] at hperm
  rw [emittedNames, ← map_generated_out hout, List.map_map]
  exact hperm

theorem exists_compile_iff [Machine] {c : Config} : (∃ p, c.compile .builtIn = .ok p) ↔
    strip c.name ≠ "" ∧ (∀ k, c.Accepts k) ∧ c.Compatible := by
  simp only [compile_eq_ok_iff]
  constructor
  · rintro ⟨p, hname, out, hout, ordered, hordered, -⟩
    exact ⟨hname, fun k ↦ (c.exists_feature_iff _ k).mp ⟨_, hout k⟩,
      (exists_arrange_iff hout).mp ⟨ordered, hordered⟩⟩
  · rintro ⟨hname, haccepts, hcompatible⟩
    choose out hout using fun k ↦ (c.exists_feature_iff (strip c.name) k).mpr (haccepts k)
    obtain ⟨ordered, hordered⟩ := (exists_arrange_iff hout).mpr hcompatible
    exact ⟨_, hname, out, hout, ordered, hordered, rfl⟩

end Config

end WebAcl
