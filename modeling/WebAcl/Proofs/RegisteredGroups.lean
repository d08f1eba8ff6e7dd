import WebAcl.Proofs.RegistryExtension
import Mathlib.Data.List.Perm.Basic

namespace WebAcl

open Compiling Outcome Text

namespace Registry

variable {registry : Registry} {g : ManagedGroup}

theorem group?_eq_some_self_iff (hsound : registry.Sound) (hg : g ∈ registry.groups) {name : String}
    (hname : ManagedGroup.normalizeKey name = ManagedGroup.normalizeKey g.key) :
    registry.group? name = some g ↔ ManagedGroup.normalizeKey g.key = g.key := by
  rw [group?_eq_some_iff hsound.keys, hname]
  exact ⟨fun h ↦ h.2.symm, fun h ↦ ⟨hg, h.symm⟩⟩

theorem groups_subset_afterCalls (registry : Registry) (calls : List ManagedGroup) :
    registry.groups ⊆ (registry.afterCalls calls).groups := by
  induction calls generalizing registry with
  | nil => exact List.Subset.refl _
  | cons g gs ih =>
    refine List.Subset.trans ?_ (ih (registry.afterCall g))
    unfold afterCall
    cases hr : registry.register g with
    | error conflict => exact List.Subset.refl _
    | ok registry' =>
      obtain ⟨-, -, rfl⟩ := register_eq_ok_iff.mp hr
      exact List.subset_append_left _ _

theorem mem_afterCalls_of_register {before after : List ManagedGroup} {accepted : Registry}
    (h : (registry.afterCalls before).register g = .ok accepted) :
    g ∈ (registry.afterCalls (before ++ g :: after)).groups := by
  have hg : g ∈ accepted.groups := by
    obtain ⟨-, -, rfl⟩ := register_eq_ok_iff.mp h
    exact List.mem_concat_self
  have hcall : (registry.afterCalls before).afterCall g = accepted := by
    rw [afterCall, h]
  rw [afterCalls_append]
  change g ∈ (((registry.afterCalls before).afterCall g).afterCalls after).groups
  rw [hcall]
  exact accepted.groups_subset_afterCalls after hg

end Registry

namespace Config

open ManagedGroups

variable {registry : Registry} {c : Config}

def generatedNames (registry : Registry) (c : Config) : List String :=
  Category.generated.flatMap fun k ↦
    if k = .managed then (registry.groups.filter (IsOn c.managedGroups)).map (·.ruleName)
    else (c.emitted k).map (·.1)

theorem feature_eq_builtIn [Machine] {k : Category} (hk : k ≠ .managed) (name : String) :
    c.feature registry name k = c.feature .builtIn name k := by
  cases k with
  | managed => exact absurd rfl hk
  | _ => rfl

theorem exists_alone_feature [Machine] {k : Category} (hk : k ≠ .managed) (h : c.Accepts k)
    (name : String) : ∃ rules, (c.feature registry name k).alone = .ok rules := by
  rw [feature_eq_builtIn hk]
  exact (c.exists_feature_iff name k).mpr h

section Managed

variable {name : String} {rules : List Rule} (hsound : registry.Sound)
include hsound

theorem alone_managed_eq [Machine]
    (h : (c.feature registry name .managed).alone = .ok rules) :
    rules = (registry.inOrder.filter (IsOn c.managedGroups)).map
      (ruleOf c.managedGroups c.excludedCommonRules c.enforce) := by
  obtain ⟨s, hs, hrules⟩ := alone_managed_eq_ok_iff.mp h
  obtain ⟨rfl, -⟩ := rules_eq_placed hrules
  have hon : ∀ g ∈ registry.inOrder, (s.lookup g.key).isSome = decide (IsOn c.managedGroups g) := by
    intro g hg
    rw [Bool.eq_iff_iff, decide_eq_true_eq]
    exact isSome_lookup_iff hsound.keys hs (List.mem_mergeSort.mp hg)
  rw [← List.filter_congr hon]
  exact placed_eq_map fun g hg _ hlookup ↦
    rule_eq_ruleOf hsound.keys hs (List.mem_mergeSort.mp hg) hlookup c.enforce

theorem exists_alone_managed [Machine] (htoggles : ∀ t ∈ c.managedGroups, registry.Accepts t)
    (hslots : ∀ g ∈ registry.groups, IsOn c.managedGroups g → 0 ≤ g.slot ∧ g.slot ≤ 6) :
    ∃ rules, (c.feature registry name .managed).alone = .ok rules := by
  obtain ⟨s, hs⟩ : ∃ s, select registry c.managedGroups c.excludedCommonRules = .ok s :=
    (exists_select_iff_accepts hsound.keys).mpr htoggles
  refine ⟨_, alone_managed_eq_ok_iff.mpr ⟨s, hs, rules_eq_ok ?_ ?_⟩⟩
  · exact (registry.inOrder_perm.map _).nodup_iff.mpr hsound.slots
  · intro g hg hlookup
    have hg : g ∈ registry.groups := List.mem_mergeSort.mp hg
    obtain ⟨hlow, hhigh⟩ := hslots g hg ((isSome_lookup_iff hsound.keys hs hg).mp hlookup)
    refine ⟨⟨rfl, ?_⟩, rfl⟩
    rw [Band.contains_iff]
    simp only [Band.of, Option.some.injEq, forall_eq']
    omega

theorem mem_alone_managed [Machine]
    (h : (c.feature registry name .managed).alone = .ok rules) {g : ManagedGroup}
    (hg : g ∈ registry.groups) (hon : IsOn c.managedGroups g) :
    ruleOf c.managedGroups c.excludedCommonRules c.enforce g ∈ rules := by
  rw [alone_managed_eq hsound h]
  refine List.mem_map_of_mem (List.mem_filter.mpr ⟨?_, by simpa using hon⟩)
  exact registry.inOrder_perm.mem_iff.mpr hg

theorem ruleOf_mem_rules [Machine] {p : Policy} (h : c.compile registry = .ok p) {g : ManagedGroup}
    (hg : g ∈ registry.groups) (hon : IsOn c.managedGroups g) :
    ruleOf c.managedGroups c.excludedCommonRules c.enforce g ∈ p.rules := by
  obtain ⟨-, out, hout, ordered, harranged, rfl⟩ := compile_eq_ok_iff.mp h
  obtain ⟨-, -, -, rfl⟩ := RuleList.arrange_eq_ok_iff.mp harranged
  have hmem := mem_alone_managed hsound (hout .managed) hg hon
  exact (RuleList.sorted_perm _).mem_iff.mpr
    (List.mem_flatMap.mpr ⟨.managed, Category.mem_all _, hmem⟩)

end Managed

/-- What a compilation needs beside toggles that can be followed, and slots in the band for the
groups that are on. -/
structure Ready [Machine] (registry : Registry) (c : Config) : Prop where
  name : strip c.name ≠ ""
  features : ∀ k, k ≠ .managed → c.Accepts k
  outcomes : ∀ r ∈ c.userRules, r.action.isSome = !r.override.isSome
  prePriorities : (c.preRules.map (·.priority)).Nodup
  postPriorities : (c.postRules.map (·.priority)).Nodup
  names : (c.userRules.map (·.name) ++ c.generatedNames registry).Nodup

section Arranged

variable [Machine] {name : String} {out : Category → List Rule}
  (hout : ∀ k, (c.feature registry name k).alone = .ok (out k))
include hout

theorem emitted_of_out {k : Category} (hk : (Band.of k).custom = false) (hne : k ≠ .managed) :
    (out k).map (fun r ↦ (r.name, r.priority)) = c.emitted k :=
  emitted_of_feature hk (feature_eq_builtIn hne name ▸ hout k)

variable (hsound : registry.Sound)
include hsound

theorem generatedNames_perm : ((Category.generated.flatMap out).map (·.name)).Perm
    (c.generatedNames registry) := by
  rw [List.map_flatMap, generatedNames]
  refine List.Perm.flatMap_left _ fun k hk ↦ ?_
  have hk : (Band.of k).custom = false := Category.custom_of_generated.mp hk
  by_cases hne : k = .managed
  · subst hne
    rw [if_pos rfl, alone_managed_eq hsound (hout .managed), List.map_map]
    exact (registry.inOrder_perm.filter _).map _
  · rw [if_neg hne, ← emitted_of_out hout hk hne, List.map_map]
    exact .refl _

theorem priorities_nodup_of_generated {k : Category} (hk : (Band.of k).custom = false) :
    ((out k).map (·.priority)).Nodup := by
  by_cases hne : k = .managed
  · subst hne
    have hslots : ((registry.inOrder.filter (IsOn c.managedGroups)).map (·.slot)).Nodup :=
      ((registry.inOrder_perm.map _).nodup_iff.mpr hsound.slots).sublist
        (List.filter_sublist.map _)
    have hpriority : (fun r : Rule ↦ r.priority) ∘
        ruleOf c.managedGroups c.excludedCommonRules c.enforce = (20 + ·) ∘ (·.slot) := rfl
    rw [alone_managed_eq hsound (hout .managed), List.map_map, hpriority, ← List.map_map]
    exact hslots.map fun _ _ h ↦ by simpa using h
  · have hnodup : ((c.emitted k).map (·.2)).Nodup := by
      refine ((c.emitted_sublist k).map _).nodup ?_
      cases k <;> decide
    rw [← emitted_of_out hout hk hne, List.map_map] at hnodup
    exact hnodup

theorem generated_priorities_nodup :
    ((Category.generated.flatMap out).map (·.priority)).Nodup := by
  have hgenerated : Category.generated.Nodup := by decide
  rw [List.map_flatMap, List.nodup_flatMap]
  constructor
  · intro k hk
    exact priorities_nodup_of_generated hout hsound (Category.custom_of_generated.mp hk)
  · refine hgenerated.imp fun {k l} hkl p hp hp' ↦ ?_
    obtain ⟨r, hr, rfl⟩ := List.mem_map.mp hp
    obtain ⟨s, hs, heq⟩ := List.mem_map.mp hp'
    exact (madeFor_of_feature (hout k) r hr).priority_ne (madeFor_of_feature (hout l) s hs) hkl
      heq.symm

end Arranged

theorem exists_compile_of_ready [Machine] (hsound : registry.Sound) (h : c.Ready registry)
    (htoggles : ∀ t ∈ c.managedGroups, registry.Accepts t)
    (hslots : ∀ g ∈ registry.groups, IsOn c.managedGroups g → 0 ≤ g.slot ∧ g.slot ≤ 6) :
    ∃ p, c.compile registry = .ok p := by
  have hfeature : ∀ k, ∃ rules, (c.feature registry (strip c.name) k).alone = .ok rules := by
    intro k
    by_cases hk : k = .managed
    · exact hk ▸ exists_alone_managed hsound htoggles hslots
    · exact exists_alone_feature hk (h.features k hk) _
  choose out hout using hfeature
  have hnames : ((Choice.all.flatMap out).map (·.name)).Nodup := by
    rw [(names_perm hout).nodup_iff]
    exact ((generatedNames_perm hout hsound).append_left _).nodup_iff.mpr h.names
  have hpriorities : ((Choice.all.flatMap out).map (·.priority)).Nodup :=
    (priorities_nodup_iff_of_generated hout
      (generated_priorities_nodup hout hsound)).mpr ⟨h.prePriorities, h.postPriorities⟩
  have hbreach := (breach?_eq_none_iff hout).mpr h.outcomes
  have harranged := RuleList.arrange_eq_ok_iff.mpr ⟨hnames, hpriorities, hbreach, rfl⟩
  exact ⟨_, compile_eq_ok_iff.mpr ⟨h.name, out, hout, _, harranged, rfl⟩⟩

theorem compile_eq_error_of_managed [Machine] {failure : Failure} (h : c.Ready registry)
    (hfails : (c.feature registry (strip c.name) .managed).alone = .error failure) :
    c.compile registry = .error failure :=
  compile_eq_error h.name (fun k hk ↦ exists_alone_feature hk (h.features k hk) _) hfails

/-- Of the toggles that are meant for a group, the last one switches it on, by its very key. -/
def SwitchesOnByKey (c : Config) (g : ManagedGroup) : Prop :=
  ∃ (before : List GroupToggle) (t : GroupToggle) (after : List GroupToggle),
    c.managedGroups = before ++ t :: after ∧ t.name = g.key ∧ t.enabled = true ∧
      ∀ u ∈ after, ManagedGroup.normalizeKey u.name ≠ ManagedGroup.normalizeKey g.key

/-- Nothing is wrong with a configuration, except perhaps that it switches a group on by its key. -/
structure OtherwiseValid [Machine] (registry : Registry) (c : Config) (g : ManagedGroup) : Prop
    extends c.Ready registry where
  toggles : ∀ t ∈ c.managedGroups, registry.Accepts t ∨ t.name = g.key ∧ t.enabled = true
  slots : ∀ h ∈ registry.groups, h ≠ g → IsOn c.managedGroups h → 0 ≤ h.slot ∧ h.slot ≤ 6

variable {g : ManagedGroup}

theorem SwitchesOnByKey.isOn (hon : c.SwitchesOnByKey g) {h : ManagedGroup}
    (hkey : h.key = ManagedGroup.normalizeKey g.key) : IsOn c.managedGroups h := by
  obtain ⟨before, t, after, htoggles, hname, henabled, hafter⟩ := hon
  have ht : (ManagedGroup.normalizeKey t.name == h.key) = true := by
    rw [hname, hkey]
    exact beq_self_eq_true _
  have hrest : togglesOf after h.key = [] := by
    refine List.filter_eq_nil_iff.mpr fun u hu ↦ ?_
    rw [hkey, beq_iff_eq]
    exact hafter u hu
  have hall : togglesOf c.managedGroups h.key = togglesOf before h.key ++ [t] := by
    rw [htoggles, ← hrest]
    simp only [togglesOf, List.filter_append, List.filter_cons, ht, if_true]
  right
  rw [hall, List.getLast?_concat, Option.any_some, henabled]

theorem OtherwiseValid.accepts [Machine] (hvalid : c.OtherwiseValid registry g)
    (hg : g ∈ registry.groups) (hkey : ManagedGroup.normalizeKey g.key = g.key) :
    ∀ t ∈ c.managedGroups, registry.Accepts t := by
  intro t ht
  rcases hvalid.toggles t ht with haccepts | ⟨hname, henabled⟩
  · exact haccepts
  · exact ⟨g, hg, hname ▸ hkey.symm, .inl henabled⟩

theorem OtherwiseValid.name_eq_of_refuses [Machine] (hvalid : c.OtherwiseValid registry g)
    (hsound : registry.Sound) {index : Nat} {t : GroupToggle} {p : Problem}
    (ht : t ∈ c.managedGroups) (hrefuses : registry.Refuses index t p) : t.name = g.key := by
  rcases hvalid.toggles t ht with ⟨h, hh, hkey, hok⟩ | ⟨hname, -⟩
  · cases hrefuses with
    | unknown hnone => exact absurd hkey (hnone h hh)
    | mandatory k hk hkey' hmandatory hoff =>
      have heq : h = k := List.inj_on_of_nodup_map hsound.keys hh hk (hkey.trans hkey'.symm)
      simp [hoff, heq, hmandatory] at hok
  · exact hname

section Switched

variable [Machine] (hsound : registry.Sound) (hvalid : c.OtherwiseValid registry g)
  (hon : c.SwitchesOnByKey g)
include hsound hvalid hon

theorem exists_compile_of_normal (hg : g ∈ registry.groups)
    (hkey : ManagedGroup.normalizeKey g.key = g.key) (hslot : 0 ≤ g.slot ∧ g.slot ≤ 6) :
    ∃ p, c.compile registry = .ok p ∧
      ruleOf c.managedGroups c.excludedCommonRules c.enforce g ∈ p.rules := by
  have hslots : ∀ h ∈ registry.groups, IsOn c.managedGroups h → 0 ≤ h.slot ∧ h.slot ≤ 6 := by
    intro h hh hhon
    by_cases heq : h = g
    · exact heq ▸ hslot
    · exact hvalid.slots h hh heq hhon
  obtain ⟨p, hp⟩ := exists_compile_of_ready hsound hvalid.toReady (hvalid.accepts hg hkey) hslots
  exact ⟨p, hp, ruleOf_mem_rules hsound hp hg (hon.isOn hkey.symm)⟩

theorem compile_of_outside (hg : g ∈ registry.groups)
    (hkey : ManagedGroup.normalizeKey g.key = g.key) (hslot : g.slot < 0 ∨ 6 < g.slot) :
    c.compile registry = .error (.ofProblem
      { cause := .bandExhausted (Choice.text Category.managed) (g.slot + 1) 7 }) := by
  cases hmanaged : (c.feature registry (strip c.name) .managed).alone with
  | ok rules =>
    -- the rule of the group would lie in the band
    have hmade := madeFor_of_feature hmanaged _
      (mem_alone_managed hsound hmanaged hg (hon.isOn hkey.symm))
    have hin := Band.contains_iff.mp hmade.contains
    simp only [ruleOf, Band.of, Option.some.injEq, forall_eq'] at hin
    omega
  | error failure =>
    obtain ⟨s, hs⟩ : ∃ s, select registry c.managedGroups c.excludedCommonRules = .ok s :=
      (exists_select_iff_accepts hsound.keys).mpr (hvalid.accepts hg hkey)
    have hrules := hmanaged
    rw [feature, alone_build, hs, mapError_ok, ok_bind] at hrules
    obtain ⟨h, hh, hhon, hout, hfailure⟩ := rules_inOrder_eq_error hsound hs hrules
    have heq : h = g := by
      by_contra hne
      have := hvalid.slots h hh hne hhon
      omega
    rw [compile_eq_error_of_managed hvalid.toReady hmanaged, hfailure, heq]

theorem compile_of_unknown
    (hunknown : ∀ h ∈ registry.groups, h.key ≠ ManagedGroup.normalizeKey g.key) :
    ∃ index : Nat, (c.managedGroups[index]?).map (·.name) = some g.key ∧
      c.compile registry = .error (.problem {
        cause := .emptyField s!"managed_groups[{index}].name"
        note := s!"Unknown managed rule group '{g.key}'"
        advice := "Known groups: " ++ ", ".intercalate registry.keys }) := by
  cases hs : select registry c.managedGroups c.excludedCommonRules with
  | ok s =>
    have haccepts := (exists_select_iff_accepts hsound.keys).mp ⟨s, hs⟩
    obtain ⟨before, t, after, htoggles, hname, -, -⟩ := hon
    obtain ⟨h, hh, hkey, -⟩ := haccepts t (htoggles ▸ List.mem_append_right _ List.mem_cons_self)
    exact absurd (hname ▸ hkey) (hunknown h hh)
  | error p =>
    have hmanaged : (c.feature registry (strip c.name) .managed).alone =
        .error (.ofProblem p) := by
      rw [feature, alone_build, hs, mapError_error, error_bind]
    obtain ⟨before, t, after, htoggles, -, hrefuses⟩ := (select_eq_error_iff hsound.keys).mp hs
    have ht : t ∈ c.managedGroups := htoggles ▸ List.mem_append_right _ List.mem_cons_self
    have hname := hvalid.name_eq_of_refuses hsound ht hrefuses
    have hat : c.managedGroups[before.length]? = some t := by
      rw [htoggles, List.getElem?_append_right le_rfl, Nat.sub_self, List.getElem?_cons_zero]
    refine ⟨before.length, by rw [hat, Option.map_some, hname], ?_⟩
    rw [compile_eq_error_of_managed hvalid.toReady hmanaged, hrefuses.ofProblem_eq]
    cases hrefuses with
    | unknown => rw [hname]
    | mandatory h hh hkey => exact absurd (hname ▸ hkey) (hunknown h hh)

end Switched

/-- A group that has been registered, among other calls, is found under the spellings of its key if
that is its own normal form. Then a configuration that switches it on by its key gets its rule, at
the priority of its slot, unless the slot lies outside the band. A key that is not its own normal
form is unknown, or it stands for the group whose key is this normal form. -/
theorem registered_usable [Machine] (before after : List ManagedGroup) (g : ManagedGroup)
    (accepted : Registry)
    (hregister : (({} : Registry).afterCalls before).register g = .ok accepted) :
    let registry := ({} : Registry).afterCalls (before ++ g :: after)
    (∀ name, ManagedGroup.normalizeKey name = ManagedGroup.normalizeKey g.key →
      (registry.group? name = some g ↔ ManagedGroup.normalizeKey g.key = g.key)) ∧
    ∀ c : Config, c.OtherwiseValid registry g → c.SwitchesOnByKey g →
      (ManagedGroup.normalizeKey g.key = g.key → 0 ≤ g.slot ∧ g.slot ≤ 6 →
        ∃ p, c.compile registry = .ok p ∧ ∃ r ∈ p.rules,
          r = ruleOf c.managedGroups c.excludedCommonRules c.enforce g ∧
            r.name = g.ruleName ∧ r.priority = 20 + g.slot) ∧
      (ManagedGroup.normalizeKey g.key = g.key → g.slot < 0 ∨ 6 < g.slot →
        c.compile registry = .error (.ofProblem
          { cause := .bandExhausted (Choice.text Category.managed) (g.slot + 1) 7 })) ∧
      ((∀ h ∈ registry.groups, h.key ≠ ManagedGroup.normalizeKey g.key) →
        ∃ index : Nat, (c.managedGroups[index]?).map (·.name) = some g.key ∧
          c.compile registry = .error (.problem {
            cause := .emptyField s!"managed_groups[{index}].name"
            note := s!"Unknown managed rule group '{g.key}'"
            advice := "Known groups: " ++ ", ".intercalate registry.keys })) ∧
      ∀ h ∈ registry.groups, h.key = ManagedGroup.normalizeKey g.key →
        ∀ p, c.compile registry = .ok p →
          ruleOf c.managedGroups c.excludedCommonRules c.enforce h ∈ p.rules := by
  intro registry
  have hsound : registry.Sound := Registry.sound_empty.afterCalls _
  have hg : g ∈ registry.groups := Registry.mem_afterCalls_of_register hregister
  constructor
  · intro name hname
    exact Registry.group?_eq_some_self_iff hsound hg hname
  · intro c hvalid hon
    refine ⟨?_, ?_, ?_, ?_⟩
    · intro hkey hslot
      obtain ⟨p, hp, hmem⟩ := exists_compile_of_normal hsound hvalid hon hg hkey hslot
      exact ⟨p, hp, _, hmem, rfl, rfl, rfl⟩
    · intro hkey hslot
      exact compile_of_outside hsound hvalid hon hg hkey hslot
    · intro hunknown
      exact compile_of_unknown hsound hvalid hon hunknown
    · intro h hh hkey p hp
      exact ruleOf_mem_rules hsound hp hh (hon.isOn hkey)

def misspelt : ManagedGroup where
  key := "My_Group"
  vendorRuleSet := "Mine"
  ruleName := "mine"
  slot := 0

theorem group?_misspelt : ({} : Registry).register misspelt = .ok ⟨[misspelt]⟩ ∧
    Registry.group? ⟨[misspelt]⟩ misspelt.key = none := by
  decide

theorem otherwiseValid_naming [Machine] {registry : Registry} {g : ManagedGroup}
    (hnames : ((naming g.key).generatedNames registry).Nodup)
    (hslots : ∀ h ∈ registry.groups, h ≠ g → IsOn (naming g.key).managedGroups h →
      0 ≤ h.slot ∧ h.slot ≤ 6) : (naming g.key).OtherwiseValid registry g where
  name := by
    change strip "acme" ≠ ""
    decide
  features := by
    intro k hk
    cases k <;> simp [Accepts, naming, customRules, addresses?, patterns?] at hk ⊢
  outcomes := by simp [naming, userRules]
  prePriorities := by simp [naming]
  postPriorities := by simp [naming]
  names := by simpa [naming, userRules] using hnames
  toggles := by simp [naming]
  slots := hslots

theorem switchesOnByKey_naming (g : ManagedGroup) : (naming g.key).SwitchesOnByKey g :=
  ⟨[], { name := g.key }, [], rfl, rfl, rfl, by simp⟩

def regular : ManagedGroup :=
  { misspelt with key := "my-group-2", ruleName := "mine-2", slot := 3 }

section

open UsualMachine

theorem registered_usable_mixed :
    let registry := ({} : Registry).afterCalls [misspelt, regular, outlying]
    (registry.group? " MY_Group_2" = some regular ∧
      ∃ p, (naming regular.key).compile registry = .ok p ∧ ∃ r ∈ p.rules,
        r.name = regular.ruleName ∧ r.priority = 20 + regular.slot) ∧
    (naming outlying.key).compile registry = .error (.ofProblem
      { cause := .bandExhausted (Choice.text Category.managed) (outlying.slot + 1) 7 }) ∧
    ∃ index : Nat, (naming misspelt.key).compile registry = .error (.problem {
      cause := .emptyField s!"managed_groups[{index}].name"
      note := s!"Unknown managed rule group '{misspelt.key}'"
      advice := "Known groups: " ++ ", ".intercalate registry.keys }) := by
  intro registry
  have hregular : (naming regular.key).OtherwiseValid registry regular :=
    otherwiseValid_naming (by decide +kernel) (by decide)
  have houtlying : (naming outlying.key).OtherwiseValid registry outlying :=
    otherwiseValid_naming (by decide +kernel) (by decide)
  have hmisspelt : (naming misspelt.key).OtherwiseValid registry misspelt :=
    otherwiseValid_naming (by decide +kernel) (by decide)
  obtain ⟨hfound, hused⟩ := registered_usable [misspelt] [outlying] regular
    ⟨[misspelt, regular]⟩ (by decide)
  obtain ⟨-, houtside⟩ := registered_usable [misspelt, regular] [] outlying
    ⟨[misspelt, regular, outlying]⟩ (by decide)
  obtain ⟨-, hunknown⟩ := registered_usable [] [regular, outlying] misspelt ⟨[misspelt]⟩
    (by decide)
  have hsame : ManagedGroup.normalizeKey " MY_Group_2" = ManagedGroup.normalizeKey regular.key := by
    decide +kernel
  refine ⟨⟨(hfound _ hsame).mpr (by decide), ?_⟩, ?_, ?_⟩
  · obtain ⟨hemits, -⟩ := hused _ hregular (switchesOnByKey_naming regular)
    obtain ⟨p, hp, r, hr, -, hname, hpriority⟩ := hemits (by decide) (by decide)
    exact ⟨p, hp, r, hr, hname, hpriority⟩
  · obtain ⟨-, hfails, -⟩ := houtside _ houtlying (switchesOnByKey_naming outlying)
    exact hfails (by decide) (by decide)
  · obtain ⟨-, -, hfails, -⟩ := hunknown _ hmisspelt (switchesOnByKey_naming misspelt)
    obtain ⟨index, -, herror⟩ := hfails (by decide)
    exact ⟨index, herror⟩

end

end Config

end WebAcl
