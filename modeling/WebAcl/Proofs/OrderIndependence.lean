import WebAcl.Proofs.ExactAcceptance
import Mathlib.Data.List.Perm.Basic

namespace WebAcl

namespace ManagedGroups

variable {registry : Registry} {s s' : Selection} {enforce : Bool}

/-- The rules depend on what is known of each group, not on the order in which groups came on. -/
theorem rules_congr (h : ∀ key, s.lookup key = s'.lookup key) (gs : List ManagedGroup) :
    rules s enforce gs = rules s' enforce gs := by
  induction gs with
  | nil => rfl
  | cons g gs ih => rw [rules, rules, h, ih]

theorem select_perm {toggles toggles' : List Config.GroupToggle} {excludedCommon : List String}
    (hperm : toggles.Perm toggles') (horder : togglesOf toggles = togglesOf toggles')
    (h : select registry toggles excludedCommon = .ok s) :
    ∃ s', select registry toggles' excludedCommon = .ok s' ∧
      ∀ key, s.lookup key = s'.lookup key := by
  have hknown := (exists_select_iff registry toggles excludedCommon).mp ⟨s, h⟩
  obtain ⟨s', h'⟩ := (exists_select_iff registry toggles' excludedCommon).mpr
    fun t ht ↦ hknown t (hperm.mem_iff.mpr ht)
  refine ⟨s', h', fun key ↦ ?_⟩
  rw [lookup_select h, lookup_select h', horder]

end ManagedGroups

namespace Config

/-- Another order for the entries of a configuration, in which toggles that name the same group
follow each other as before. -/
structure Reordering (c : Config) where
  preRules : List CustomRule
  postRules : List CustomRule
  toggles : List GroupToggle
  preRules_perm : c.preRules.Perm preRules
  postRules_perm : c.postRules.Perm postRules
  toggles_perm : c.managedGroups.Perm toggles
  togglesOf_eq : ManagedGroups.togglesOf c.managedGroups = ManagedGroups.togglesOf toggles

namespace Reordering

variable {c : Config} {registry : Registry} {p : Policy}

def config (o : c.Reordering) : Config :=
  { c with preRules := o.preRules, postRules := o.postRules, managedGroups := o.toggles }

def reverse (o : c.Reordering) : o.config.Reordering where
  preRules := c.preRules
  postRules := c.postRules
  toggles := c.managedGroups
  preRules_perm := o.preRules_perm.symm
  postRules_perm := o.postRules_perm.symm
  toggles_perm := o.toggles_perm.symm
  togglesOf_eq := o.togglesOf_eq.symm

theorem customRules_perm (o : c.Reordering) (k : Category) :
    (c.customRules k).Perm (o.config.customRules k) := by
  cases k with
  | preCustom => exact o.preRules_perm
  | postCustom => exact o.postRules_perm
  | _ => exact .nil

theorem feature_custom [Machine] (o : c.Reordering) {name : String} {k : Category}
    {rules : List Rule}
    (hk : (Band.of k).custom = true) (h : (c.feature registry name k).alone = .ok rules) :
    ∃ rules', (o.config.feature registry name k).alone = .ok rules' ∧ rules.Perm rules' := by
  obtain ⟨hpass, rfl⟩ := (alone_custom_eq_ok_iff hk).mp h
  have hperm := o.customRules_perm k
  refine ⟨_, (alone_custom_eq_ok_iff hk).mpr ⟨fun r hr ↦ ?_, rfl⟩, hperm.map _⟩
  exact hpass r (hperm.mem_iff.mpr hr)

theorem feature_managed [Machine] (o : c.Reordering) {name : String} {rules : List Rule}
    (h : (c.feature registry name .managed).alone = .ok rules) :
    (o.config.feature registry name .managed).alone = .ok rules := by
  obtain ⟨s, hs, hrules⟩ := alone_managed_eq_ok_iff.mp h
  obtain ⟨s', hs', hlookup⟩ := ManagedGroups.select_perm o.toggles_perm o.togglesOf_eq hs
  refine alone_managed_eq_ok_iff.mpr ⟨s', hs', ?_⟩
  rw [← ManagedGroups.rules_congr hlookup]
  exact hrules

theorem feature_perm [Machine] (o : c.Reordering) {name : String} (k : Category) {rules : List Rule}
    (h : (c.feature registry name k).alone = .ok rules) :
    ∃ rules', (o.config.feature registry name k).alone = .ok rules' ∧ rules.Perm rules' := by
  cases k with
  | preCustom | postCustom => exact o.feature_custom rfl h
  | managed => exact ⟨rules, o.feature_managed h, .refl rules⟩
  | _ => exact ⟨rules, h, .refl rules⟩

theorem compile_eq_ok [Machine] (o : c.Reordering) (h : c.compile registry = .ok p) :
    o.config.compile registry = .ok p := by
  obtain ⟨hname, out, hout, ordered, hordered, rfl⟩ := compile_eq_ok_iff.mp h
  choose out' hout' hperm using fun k ↦ o.feature_perm k (hout k)
  -- the rules are sorted in the end, so the order in which they were made is forgotten
  have hall : (Choice.all.flatMap out).Perm (Choice.all.flatMap out') :=
    List.Perm.flatMap_left _ fun k _ ↦ hperm k
  exact compile_eq_ok_iff.mpr
    ⟨hname, out', hout', ordered, RuleList.arrange_perm hall hordered, rfl⟩

/-- A reordered configuration compiles if and only if the first one does, and to the same policy. -/
theorem compile_config_iff [Machine] (o : c.Reordering) :
    ((∃ p, o.config.compile registry = .ok p) ↔ ∃ p, c.compile registry = .ok p) ∧
      ∀ p q, c.compile registry = .ok p → o.config.compile registry = .ok q → p = q := by
  refine ⟨⟨?_, ?_⟩, fun p q hp hq ↦ ?_⟩
  · rintro ⟨p, hp⟩
    exact ⟨p, o.reverse.compile_eq_ok hp⟩
  · rintro ⟨p, hp⟩
    exact ⟨p, o.compile_eq_ok hp⟩
  · exact Except.ok.inj ((o.compile_eq_ok hp).symm.trans hq)

end Reordering

def samplerReordering : sampler.Reordering where
  preRules := sampler.preRules
  postRules := sampler.postRules
  toggles := [⟨"bot_control", true, []⟩, ⟨"PHP", true, []⟩, ⟨"bot-control", false, []⟩]
  preRules_perm := .refl _
  postRules_perm := .refl _
  toggles_perm := .swap ..
  togglesOf_eq := by
    have hphp : ManagedGroup.normalizeKey "PHP" = "php" := by decide
    funext key
    by_cases hkey : key = "php"
    · subst hkey
      decide
    · simp [ManagedGroups.togglesOf, sampler, hphp, Ne.symm hkey, List.filter_cons]

section

open UsualMachine

theorem compile_samplerReordering : ∃ p, samplerReordering.config.compile .builtIn = .ok p :=
  samplerReordering.compile_config_iff.1.mpr exists_compile_sampler

end

end Config

end WebAcl
