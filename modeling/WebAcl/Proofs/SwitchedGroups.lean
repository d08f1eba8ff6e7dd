import WebAcl.Proofs.BackingSets
import WebAcl.Proofs.BuiltIn
import WebAcl.Proofs.RegistryRuns
import Mathlib.Data.List.DropRight

namespace WebAcl

open Compiling Outcome

namespace Registry

def Accepts (registry : Registry) (t : Config.GroupToggle) : Prop :=
  ∃ g ∈ registry.groups, g.key = ManagedGroup.normalizeKey t.name ∧
    (t.enabled = true ∨ g.mandatory = false)

instance (registry : Registry) (t : Config.GroupToggle) : Decidable (registry.Accepts t) :=
  inferInstanceAs (Decidable (∃ g ∈ registry.groups, _))

inductive Refuses (registry : Registry) (index : Nat) (t : Config.GroupToggle) : Problem → Prop
  | unknown (h : ∀ g ∈ registry.groups, g.key ≠ ManagedGroup.normalizeKey t.name) :
    Refuses registry index t {
      cause := .emptyField s!"managed_groups[{index}].name"
      note := s!"Unknown managed rule group '{t.name}'"
      advice := "Known groups: " ++ ", ".intercalate registry.keys }
  | mandatory (g : ManagedGroup) (hg : g ∈ registry.groups)
    (hkey : g.key = ManagedGroup.normalizeKey t.name) (hmandatory : g.mandatory = true)
    (hoff : t.enabled = false) : Refuses registry index t { cause := .mandatoryGroup g.key }

theorem Refuses.ofProblem_eq {registry : Registry} {index : Nat} {t : Config.GroupToggle}
    {p : Problem} (h : registry.Refuses index t p) : Failure.ofProblem p = .problem p := by
  cases h <;> rfl

theorem inOrder_perm (registry : Registry) : registry.inOrder.Perm registry.groups :=
  List.mergeSort_perm _ _

theorem inOrder_ascending {registry : Registry} (h : registry.Sound) :
    registry.inOrder.Pairwise fun g h ↦ g.slot < h.slot := by
  have hle := SortedBy.pairwise_mergeSort ManagedGroup.slot registry.groups
  have hne : registry.inOrder.Pairwise fun g h ↦ g.slot ≠ h.slot := by
    have hperm : registry.inOrder.Perm registry.groups := List.mergeSort_perm _ _
    exact List.pairwise_map.mp ((hperm.map _).nodup_iff.mpr h.slots)
  exact hle.imp₂ (fun _ _ hle hne ↦ by omega) hne

theorem group?_eq_none_iff {registry : Registry} {name : String} : registry.group? name = none ↔
    ∀ g ∈ registry.groups, g.key ≠ ManagedGroup.normalizeKey name := by
  simp [group?]

end Registry

namespace ManagedGroups

open Config

variable {registry : Registry} {s : Selection} {i : Nat} {p : Problem} {toggles : List GroupToggle}

theorem unique_eq_eraseDups (names : List String) : unique names = names.eraseDups := by
  have hfold : ∀ seen, names.foldl (fun seen n ↦ if seen.contains n then seen else seen ++ [n])
      seen = seen ++ (names.filter (· ∉ seen)).eraseDups := by
    induction names with
    | nil => simp
    | cons n names ih =>
      intro seen
      rw [List.foldl_cons, ih]
      by_cases hn : n ∈ seen
      · simp [hn]
      · have hrest : (names.filter (· ∉ seen)).filter (fun m ↦ !m == n) =
            names.filter (· ∉ seen ++ [n]) := by
          rw [List.filter_filter]
          refine List.filter_congr fun m _ ↦ ?_
          by_cases hm : m = n <;> simp [hm]
        rw [List.filter_cons_of_pos (by simpa using hn), List.eraseDups_cons, hrest]
        simp [hn]
  simpa [unique] using hfold []

section Toggle

variable (hkeys : (registry.groups.map (·.key)).Nodup) {t : GroupToggle}
include hkeys

theorem exists_applyToggle_iff : (∃ s', applyToggle registry s i t = .ok s') ↔
    registry.Accepts t := by
  simp only [applyToggle_eq_ok_iff, Registry.group?_eq_some_iff hkeys, Registry.Accepts]
  constructor
  · rintro ⟨_, g, ⟨hg, hkey⟩, ht, -⟩
    exact ⟨g, hg, hkey, ht⟩
  · rintro ⟨g, hg, hkey, ht⟩
    exact ⟨_, g, ⟨hg, hkey⟩, ht, rfl⟩

theorem applyToggle_eq_error_iff : applyToggle registry s i t = .error p ↔
    registry.Refuses i t p := by
  unfold applyToggle
  cases hgroup : registry.group? t.name with
  | none =>
    have hnone := Registry.group?_eq_none_iff.mp hgroup
    simp only [Except.error.injEq]
    constructor
    · rintro rfl
      exact .unknown hnone
    · rintro (_ | ⟨g, hg, hkey⟩)
      · rfl
      · exact absurd hkey (hnone g hg)
  | some g =>
    obtain ⟨hg, hkey⟩ := (Registry.group?_eq_some_iff hkeys).mp hgroup
    have hsome : ∀ h ∈ registry.groups, h.key = ManagedGroup.normalizeKey t.name → h = g := by
      intro h hh hk
      exact List.inj_on_of_nodup_map hkeys hh hg (hk.trans hkey.symm)
    cases ht : t.enabled with
    | true =>
      simp only [if_true, reduceCtorEq, false_iff]
      rintro (hnone | ⟨_, _, _, _, hoff⟩)
      · exact hnone g hg hkey
      · simp [ht] at hoff
    | false =>
      cases hm : g.mandatory with
      | true =>
        simp only [hm, Bool.false_eq_true, if_false, if_true, Except.error.injEq]
        constructor
        · rintro rfl
          exact .mandatory g hg hkey hm ht
        · rintro (hnone | ⟨h, hh, hk, _, _⟩)
          · exact absurd hkey (hnone g hg)
          · rw [hsome h hh hk]
      | false =>
        simp only [hm, Bool.false_eq_true, if_false, reduceCtorEq, false_iff]
        rintro (hnone | ⟨h, hh, hk, hmandatory, _⟩)
        · exact hnone g hg hkey
        · rw [hsome h hh hk, hm] at hmandatory
          simp at hmandatory

/-- Toggles fail at the first one that is refused, with its position. -/
theorem applyToggles_eq_error_iff : applyToggles registry s i toggles = .error p ↔
    ∃ before t after, toggles = before ++ t :: after ∧ (∀ u ∈ before, registry.Accepts u) ∧
      registry.Refuses (i + before.length) t p := by
  induction toggles generalizing s i with
  | nil => simp [applyToggles]
  | cons t ts ih =>
    have haccepts : registry.Accepts t ↔ ∃ s', applyToggle registry s i t = .ok s' :=
      (exists_applyToggle_iff hkeys).symm
    have hrefuses : registry.Refuses (i + 0) t p ↔ applyToggle registry s i t = .error p :=
      (applyToggle_eq_error_iff hkeys).symm
    rw [applyToggles, @exists_first_cons_iff _ _ fun n u ↦ registry.Refuses (i + n) u p, haccepts,
      hrefuses]
    cases applyToggle registry s i t with
    | error q => simp
    | ok s' => simp [ih, Nat.add_assoc, Nat.add_comm 1]

theorem select_eq_error_iff {excludedCommon : List String} :
    select registry toggles excludedCommon = .error p ↔
      ∃ before t after, toggles = before ++ t :: after ∧ (∀ u ∈ before, registry.Accepts u) ∧
        registry.Refuses before.length t p := by
  have hfails : applyToggles registry (initially registry) 0 toggles = .error p ↔ _ :=
    applyToggles_eq_error_iff hkeys
  simp only [Nat.zero_add] at hfails
  rw [← hfails, select]
  change (applyToggles registry (initially registry) 0 toggles >>= _) = _ ↔ _
  cases applyToggles registry (initially registry) 0 toggles <;> simp

theorem exists_select_iff_accepts {excludedCommon : List String} :
    (∃ s, select registry toggles excludedCommon = .ok s) ↔
      ∀ t ∈ toggles, registry.Accepts t := by
  rw [exists_select_iff]
  simp only [Registry.group?_eq_some_iff hkeys, Registry.Accepts, and_assoc]

end Toggle

/-- The exclusions that toggles of one group have added since the group was last off. -/
def addedExclusions (toggles : List GroupToggle) : List String :=
  (toggles.rtakeWhile (·.enabled)).flatMap (·.excludedRules)

theorem getD_foldl_toggled {state : Option (List String)} (h : state.getD [] = [])
    (ts : List GroupToggle) : (ts.foldl toggled state).getD [] = addedExclusions ts := by
  induction ts using List.reverseRecOn with
  | nil => simpa [addedExclusions] using h
  | append_singleton ts t ih =>
    rw [List.foldl_append, List.foldl_cons, List.foldl_nil, addedExclusions]
    cases ht : t.enabled with
    | true =>
      rw [List.rtakeWhile_concat_pos _ _ _ ht, List.flatMap_append, ← addedExclusions, ← ih]
      simp [toggled, ht]
    | false =>
      rw [List.rtakeWhile_concat_neg _ _ _ (by simp [ht])]
      simp [toggled, ht]

/-- A group is on: it is mandatory, or the last toggle that names it switches it on. -/
def IsOn (toggles : List GroupToggle) (g : ManagedGroup) : Prop :=
  g.mandatory = true ∨ (togglesOf toggles g.key).getLast?.any (·.enabled) = true

instance (toggles : List GroupToggle) (g : ManagedGroup) : Decidable (IsOn toggles g) :=
  inferInstanceAs (Decidable (_ ∨ _))

def exclusions (toggles : List GroupToggle) (excludedCommon : List String) (g : ManagedGroup) :
    List String :=
  (g.curatedExclusions ++ (if g.key = commonKey then excludedCommon else []) ++
    addedExclusions (togglesOf toggles g.key)).eraseDups

def ruleOf (toggles : List GroupToggle) (excludedCommon : List String) (enforce : Bool)
    (g : ManagedGroup) : Rule where
  name := g.ruleName
  priority := 20 + g.slot
  statement := .managedGroup g.vendorRuleSet g.vendor (exclusions toggles excludedCommon g)
  category := .managed
  visibility := { metricName := g.ruleName }
  override := some (if g.alwaysEnforced ∨ enforce then .none else .count)
  modeSensitive := !g.alwaysEnforced

theorem lookup_initially (hkeys : (registry.groups.map (·.key)).Nodup) {g : ManagedGroup}
    (hg : g ∈ registry.groups) :
    (initially registry).lookup g.key = if g.mandatory then some [] else none := by
  have hmandatory : ∀ h : ManagedGroup, h ∈ registry.mandatory ↔
      h ∈ registry.groups ∧ h.mandatory = true := by
    intro h
    simp [Registry.mandatory, Registry.inOrder]
  have hlookup : ∀ gs : List ManagedGroup, List.lookup g.key (gs.map fun g ↦ (g.key, [])) =
      if ∃ h ∈ gs, h.key = g.key then some ([] : List String) else none := by
    intro gs
    induction gs with
    | nil => simp
    | cons h gs ih =>
      rw [List.map_cons, Selection.lookup_cons, ih]
      by_cases hk : g.key = h.key
      · simp [hk]
      · simp [hk, Ne.symm hk]
  rw [initially, hlookup]
  refine if_congr ?_ rfl rfl
  constructor
  · rintro ⟨h, hh, hkey⟩
    obtain ⟨hmem, hm⟩ := (hmandatory h).mp hh
    rwa [← List.inj_on_of_nodup_map hkeys hmem hg hkey]
  · exact fun hm ↦ ⟨g, (hmandatory g).mpr ⟨hg, hm⟩, rfl⟩

section Selected

variable (hkeys : (registry.groups.map (·.key)).Nodup) {excludedCommon : List String}
  (hselect : select registry toggles excludedCommon = .ok s) {g : ManagedGroup}
  (hg : g ∈ registry.groups)
include hkeys hselect hg

/-- Of a mandatory group all toggles switch it on, so its last one does not matter. -/
theorem isSome_lookup_iff : (s.lookup g.key).isSome = true ↔ IsOn toggles g := by
  rw [isSome_lookup_select hselect, lookup_initially hkeys hg, IsOn]
  have haccepts := (exists_select_iff_accepts hkeys).mp ⟨s, hselect⟩
  cases hlast : (togglesOf toggles g.key).getLast? with
  | none => cases g.mandatory <;> simp
  | some t =>
    obtain ⟨ht, hname⟩ := List.mem_filter.mp (List.mem_of_getLast? hlast)
    obtain ⟨h, hh, hkey, hok⟩ := haccepts t ht
    have hname : g.key = ManagedGroup.normalizeKey t.name := (beq_iff_eq.mp hname).symm
    obtain rfl := List.inj_on_of_nodup_map hkeys hh hg (hkey.trans hname.symm)
    obtain hon | hm := hok <;> simp_all

theorem unique_lookup {excluded : List String} (h : s.lookup g.key = some excluded) :
    unique (g.curatedExclusions ++ excluded) = exclusions toggles excludedCommon g := by
  have hstate : ((initially registry).lookup g.key).getD [] = [] := by
    rw [lookup_initially hkeys hg]
    split <;> rfl
  have hadded := getD_foldl_toggled hstate (togglesOf toggles g.key)
  rw [lookup_select hselect] at h
  obtain ⟨own, hown, rfl⟩ := Option.map_eq_some_iff.mp h
  rw [hown, Option.getD_some] at hadded
  rw [unique_eq_eraseDups, exclusions, hadded]
  split <;> simp

theorem rule_eq_ruleOf {excluded : List String} (h : s.lookup g.key = some excluded)
    (enforce : Bool) : rule g excluded enforce ((Band.of .managed).first + g.slot) =
      ruleOf toggles excludedCommon enforce g := by
  have hoverride : (if g.alwaysEnforced then OverrideAction.none else Mode.override enforce) =
      if g.alwaysEnforced ∨ enforce then .none else .count := by
    cases g.alwaysEnforced <;> cases enforce <;> rfl
  rw [rule, ruleOf, unique_lookup hkeys hselect hg h, hoverride]
  rfl

end Selected

theorem rules_inOrder_eq_error (hsound : registry.Sound) {enforce : Bool}
    {excludedCommon : List String} (hs : select registry toggles excludedCommon = .ok s)
    {failure : Failure} (h : ((rules s enforce registry.inOrder).exec {}).1 = .error failure) :
    ∃ g ∈ registry.groups, IsOn toggles g ∧ (g.slot < 0 ∨ 6 < g.slot) ∧ failure =
      .ofProblem { cause := .bandExhausted (Choice.text Category.managed) (g.slot + 1) 7 } := by
  have hslots : (registry.inOrder.map (·.slot)).Nodup :=
    (registry.inOrder_perm.map _).nodup_iff.mpr hsound.slots
  obtain ⟨g, hg, hon, hout, hfailure⟩ := (placing_rules ..).eq_error hslots (fun _ _ ↦ rfl) h
  have hmem : g ∈ registry.groups := List.mem_mergeSort.mp hg
  exact ⟨g, hmem, (isSome_lookup_iff hsound.keys hs hmem).mp hon, hout, hfailure⟩

theorem placed_eq_map {enforce : Bool} {gs : List ManagedGroup} {f : ManagedGroup → Rule}
    (h : ∀ g ∈ gs, ∀ excluded, s.lookup g.key = some excluded →
      rule g excluded enforce ((Band.of .managed).first + g.slot) = f g) :
    placed s enforce gs = (gs.filter fun g ↦ (s.lookup g.key).isSome).map f := by
  induction gs with
  | nil => rfl
  | cons g gs ih =>
    obtain ⟨hg, hgs⟩ := List.forall_mem_cons.mp h
    rw [placed_cons]
    cases hlookup : s.lookup g.key with
    | none => simp [hlookup, ih hgs]
    | some excluded => simp [hlookup, ih hgs, hg excluded hlookup]

/-- Toggles either are followed, which gives a rule for every group that is on, in the order of
their slots, or the first one that cannot be followed is reported. -/
theorem build_toggled (calls : List ManagedGroup) (toggles : List GroupToggle)
    (excludedCommon : List String) (enforce : Bool) (session : Session)
    (hfresh : session.allocator = {})
    (hslots : ∀ g ∈ (({} : Registry).afterCalls calls).groups, IsOn toggles g →
      0 ≤ g.slot ∧ g.slot ≤ 6) :
    let registry := ({} : Registry).afterCalls calls
    let result := ((build toggles excludedCommon enforce registry).exec session).1
    (∀ failure, result = .error failure ↔ ∃ before t after p, toggles = before ++ t :: after ∧
      (∀ u ∈ before, registry.Accepts u) ∧ registry.Refuses before.length t p ∧
        failure = .problem p) ∧
    ((∀ t ∈ toggles, registry.Accepts t) → ∃ gs : List ManagedGroup,
      gs.Pairwise (fun g h ↦ g.slot < h.slot) ∧
      (∀ g, g ∈ gs ↔ g ∈ registry.groups ∧ IsOn toggles g) ∧
        result = .ok (gs.map (ruleOf toggles excludedCommon enforce))) := by
  intro registry result
  have hsound : registry.Sound := Registry.sound_empty.afterCalls calls
  have hkeys := hsound.keys
  have hresult : result = (build toggles excludedCommon enforce registry).alone :=
    (confinedTo_build ..).exec_eq_alone fun p _ ↦ by rw [hfresh]
  rw [alone_build] at hresult
  have hplaced : ∀ s, select registry toggles excludedCommon = .ok s →
      result = .ok (placed s enforce registry.inOrder) := by
    intro s hs
    rw [hresult, hs, mapError_ok, ok_bind]
    refine rules_eq_ok ?_ fun g hg hon ↦ ⟨⟨rfl, ?_⟩, rfl⟩
    · exact ((List.mergeSort_perm _ _).map _).nodup_iff.mpr hsound.slots
    · have hmem : g ∈ registry.groups := List.mem_mergeSort.mp hg
      obtain ⟨hlow, hhigh⟩ := hslots g hmem ((isSome_lookup_iff hkeys hs hmem).mp hon)
      rw [Band.contains_iff]
      simp only [Band.of, Option.some.injEq, forall_eq']
      omega
  constructor
  · intro failure
    constructor
    · intro hfailure
      cases hs : select registry toggles excludedCommon with
      | ok s =>
        rw [hplaced s hs] at hfailure
        simp at hfailure
      | error p =>
        obtain ⟨before, t, after, heq, hbefore, ht⟩ := (select_eq_error_iff hkeys).mp hs
        refine ⟨before, t, after, p, heq, hbefore, ht, ?_⟩
        rw [hresult, hs, mapError_error, error_bind, Except.error.injEq] at hfailure
        rw [← hfailure, ht.ofProblem_eq]
    · rintro ⟨before, t, after, p, heq, hbefore, ht, rfl⟩
      rw [hresult, (select_eq_error_iff hkeys).mpr ⟨before, t, after, heq, hbefore, ht⟩,
        mapError_error, error_bind, ht.ofProblem_eq]
  · intro haccepts
    obtain ⟨s, hs⟩ : ∃ s, select registry toggles excludedCommon = .ok s :=
      (exists_select_iff_accepts hkeys).mpr haccepts
    refine ⟨registry.inOrder.filter fun g ↦ (s.lookup g.key).isSome, ?_, fun g ↦ ?_, ?_⟩
    · exact (Registry.inOrder_ascending hsound).filter _
    · rw [List.mem_filter, Registry.inOrder, List.mem_mergeSort]
      exact and_congr_right (isSome_lookup_iff hkeys hs)
    · have hrules : placed s enforce registry.inOrder = _ := placed_eq_map fun g hg _ hlookup ↦
        rule_eq_ruleOf hkeys hs (List.mem_mergeSort.mp hg) hlookup enforce
      rw [hplaced s hs, hrules]

def distantCalls : List ManagedGroup :=
  ManagedGroup.builtIn ++
    [{ key := "distant", vendorRuleSet := "Distant", ruleName := "distant", slot := 9 }]

def repeatedToggles : List GroupToggle := [
  { name := "php", excludedRules := ["Early"] },
  { name := "distant" },
  { name := " PHP ", enabled := false },
  { name := "Common", excludedRules := ["Late", "Size"] },
  { name := "distant", enabled := false },
  { name := "Php", excludedRules := ["Late"] }]

theorem build_toggled_repeated :
    (∀ g ∈ (({} : Registry).afterCalls distantCalls).groups, IsOn repeatedToggles g →
      0 ≤ g.slot ∧ g.slot ≤ 6) ∧
    (∀ t ∈ repeatedToggles, (({} : Registry).afterCalls distantCalls).Accepts t) ∧
    ∃ gs : List ManagedGroup, gs.Pairwise (fun g h ↦ g.slot < h.slot) ∧
      (∀ g, g ∈ gs ↔ g ∈ (({} : Registry).afterCalls distantCalls).groups ∧
        IsOn repeatedToggles g) ∧
      ((build repeatedToggles ["Size"] true (({} : Registry).afterCalls distantCalls)).exec {}).1 =
        .ok (gs.map (ruleOf repeatedToggles ["Size"] true)) := by
  have hslots : ∀ g ∈ (({} : Registry).afterCalls distantCalls).groups, IsOn repeatedToggles g →
      0 ≤ g.slot ∧ g.slot ≤ 6 := by decide
  have haccepts : ∀ t ∈ repeatedToggles,
      (({} : Registry).afterCalls distantCalls).Accepts t := by decide
  exact ⟨hslots, haccepts,
    (build_toggled distantCalls repeatedToggles ["Size"] true {} rfl hslots).2 haccepts⟩

example : ((({} : Registry).afterCalls distantCalls).groups.filter (IsOn repeatedToggles)).map
    (fun g ↦ (g.key, exclusions repeatedToggles ["Size"] g)) =
    [("bad-actors", ["Host_localhost_HEADER", "PROPFIND_METHOD", "ExploitablePaths_URIPATH"]),
      ("common", ["Size", "Late"]), ("php", ["Late"])] := by
  decide

end ManagedGroups

end WebAcl
