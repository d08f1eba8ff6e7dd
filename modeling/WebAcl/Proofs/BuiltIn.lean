import WebAcl.Proofs.MadeRules

namespace WebAcl

open Compiling Text

namespace Registry

theorem inOrder_builtIn : builtIn.inOrder = ManagedGroup.builtIn :=
  SortedBy.mergeSort_eq_self ManagedGroup.slot (by decide)

theorem group?_eq_some_iff {registry : Registry} (h : (registry.groups.map (·.key)).Nodup)
    {name : String} {g : ManagedGroup} : registry.group? name = some g ↔
      g ∈ registry.groups ∧ g.key = ManagedGroup.normalizeKey name := by
  constructor
  · exact fun hg ↦ ⟨List.mem_of_find?_eq_some hg, ManagedGroups.key_of_group? hg⟩
  · rintro ⟨hg, hkey⟩
    cases hf : registry.group? name with
    | none => exact absurd hkey (by simpa using List.find?_eq_none.mp hf g hg)
    | some g' =>
      have hkey' := ManagedGroups.key_of_group? hf
      rw [List.inj_on_of_nodup_map h (List.mem_of_find?_eq_some hf) hg (hkey'.trans hkey.symm)]

end Registry

namespace ManagedGroups

theorem isSome_initially_builtIn {g : ManagedGroup} (hg : g ∈ ManagedGroup.builtIn) :
    ((initially .builtIn).lookup g.key).isSome = g.mandatory := by
  have hall : ∀ g ∈ ManagedGroup.builtIn,
      (((ManagedGroup.builtIn.filter (·.mandatory)).map fun g ↦ (g.key, ([] : List String))).lookup
        g.key).isSome = g.mandatory := by decide
  rw [initially, Registry.mandatory, Registry.inOrder_builtIn]
  exact hall g hg

theorem rules_builtIn (s : Selection) (enforce : Bool) :
    ((rules s enforce Registry.builtIn.inOrder).exec {}).1 =
      .ok (placed s enforce ManagedGroup.builtIn) := by
  have hslots : ∀ g ∈ ManagedGroup.builtIn, 0 ≤ g.slot ∧ g.slot ≤ 6 := by decide
  rw [Registry.inOrder_builtIn]
  refine rules_eq_ok (by decide) fun g hg _ ↦ ⟨⟨rfl, ?_⟩, rfl⟩
  obtain ⟨hlow, hhigh⟩ := hslots g hg
  rw [Band.contains_iff]
  simp [Band.of]
  omega

end ManagedGroups

namespace Category

def generated : List Category := [
  .blockV4, .blockV6, .allowPath, .allowV4, .allowV6, .allowUserAgent, .managed, .rateLimit]

theorem custom_of_generated {k : Category} : k ∈ generated ↔ (Band.of k).custom = false := by
  cases k <;> decide

theorem flatMap_all {α : Type} (f : Category → List α) :
    Choice.all.flatMap f = f .preCustom ++ (generated.flatMap f ++ f .postCustom) := by
  simp [Choice.all, generated]

def slots : Category → List (String × Int)
  | .managed => ManagedGroup.builtIn.map fun g ↦ (g.ruleName, (Band.of .managed).first + g.slot)
  | .rateLimit => [(Config.RateLimit.ruleName, (Band.of .rateLimit).first)]
  | k => match AddressList.of? k, PatternList.of? k with
    | some d, _ => [(d.forwardedRule, (Band.of k).first), (d.sourceRule, (Band.of k).first + 1)]
    | none, some d => [(d.ruleName, (Band.of k).first)]
    | none, none => []

end Category

namespace Config

/-- A configuration switches a group on: the last toggle of the group does, or there is none and
the group is mandatory. -/
def switchesOn (c : Config) (g : ManagedGroup) : Bool :=
  ((ManagedGroups.togglesOf c.managedGroups g.key).getLast?.map (·.enabled)).getD g.mandatory

def has (c : Config) : Category → Bool
  | .rateLimit => c.rateLimit.isSome
  | k => (c.addresses? k).isSome || (c.patterns? k).isSome

def emitted (c : Config) : Category → List (String × Int)
  | .managed => (ManagedGroup.builtIn.filter c.switchesOn).map fun g ↦
    (g.ruleName, (Band.of .managed).first + g.slot)
  | k => if c.has k then k.slots else []

theorem emitted_sublist (c : Config) (k : Category) : (c.emitted k).Sublist k.slots := by
  cases k with
  | managed => exact List.filter_sublist.map _
  | preCustom | postCustom | rateLimit | blockV4 | blockV6 | allowPath | allowV4 | allowV6
    | allowUserAgent =>
    rw [emitted]
    · split
      · exact .refl _
      · exact List.nil_sublist _
    · simp

theorem flatMap_emitted_sublist (c : Config) (ks : List Category) :
    (ks.flatMap c.emitted).Sublist (ks.flatMap Category.slots) := by
  induction ks with
  | nil => exact .refl _
  | cons k ks ih =>
    rw [List.flatMap_cons, List.flatMap_cons]
    exact (c.emitted_sublist k).append ih

theorem emitted_names_nodup (c : Config) :
    ((Category.generated.flatMap c.emitted).map (·.1)).Nodup :=
  ((c.flatMap_emitted_sublist _).map _).nodup (by decide)

theorem emitted_priorities_nodup (c : Config) :
    ((Category.generated.flatMap c.emitted).map (·.2)).Nodup :=
  ((c.flatMap_emitted_sublist _).map _).nodup (by decide)

theorem isSome_lookup_eq_switchesOn {c : Config} {s : ManagedGroups.Selection}
    (hs : ManagedGroups.select .builtIn c.managedGroups c.excludedCommonRules = .ok s)
    {g : ManagedGroup} (hg : g ∈ ManagedGroup.builtIn) :
    (s.lookup g.key).isSome = c.switchesOn g := by
  rw [ManagedGroups.isSome_lookup_select hs, ManagedGroups.isSome_initially_builtIn hg, switchesOn]

theorem emitted_of_feature [Machine] {c : Config} {name : String} {k : Category}
    (hk : (Band.of k).custom = false) {rules : List Rule}
    (h : (c.feature .builtIn name k).alone = .ok rules) :
    rules.map (fun r ↦ (r.name, r.priority)) = c.emitted k := by
  cases k with
  | preCustom | postCustom => simp [Band.of] at hk
  | managed =>
    obtain ⟨s, hs, hrules⟩ := alone_managed_eq_ok_iff.mp h
    rw [ManagedGroups.rules_builtIn] at hrules
    obtain rfl := Except.ok.inj hrules
    -- the selection and the toggles agree on which groups are on
    have hon := List.filter_congr fun g hg ↦ isSome_lookup_eq_switchesOn hs (g := g) hg
    rw [emitted, ← hon]
    exact ManagedGroups.map_placed _ _ fun _ _ ↦ rfl
  | rateLimit =>
    rw [feature, RateLimit.alone_build] at h
    obtain rfl := Except.ok.inj h
    cases hr : c.rateLimit <;> simp [emitted, has, hr, Category.slots, RateLimit.rule]
  | allowPath | allowUserAgent =>
    obtain ⟨hlist, rfl⟩ | ⟨_, hlist, _, -, rfl⟩ := (PatternList.alone_build_eq_ok_iff rfl).mp h
    · simp [emitted, has, hlist, addresses?]
    · simp only [emitted, has, hlist]
      rfl
  | blockV4 | blockV6 | allowV4 | allowV6 =>
    obtain ⟨hlist, rfl⟩ | ⟨_, hlist, _, -, rfl⟩ := (AddressList.alone_build_eq_ok_iff rfl).mp h
    · simp [emitted, has, hlist, patterns?]
    · simp only [emitted, has, hlist]
      rfl

end Config

end WebAcl
