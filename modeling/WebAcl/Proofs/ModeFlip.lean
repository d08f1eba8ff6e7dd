import WebAcl.Proofs.MadeRules
import Mathlib.Data.List.Forall2

namespace WebAcl

open Compiling Text

namespace Rule

def inMode (enforce : Bool) (r : Rule) : Rule :=
  if r.modeSensitive then
    { r with
      action := r.action.map fun _ ↦ Mode.action enforce
      override := r.override.map fun _ ↦ Mode.override enforce }
  else r

variable {r : Rule} {e e' : Bool}

@[simp] theorem inMode_name : (r.inMode e).name = r.name := by
  unfold inMode; split <;> rfl

@[simp] theorem inMode_priority : (r.inMode e).priority = r.priority := by
  unfold inMode; split <;> rfl

@[simp] theorem inMode_statement : (r.inMode e).statement = r.statement := by
  unfold inMode; split <;> rfl

@[simp] theorem inMode_category : (r.inMode e).category = r.category := by
  unfold inMode; split <;> rfl

@[simp] theorem inMode_visibility : (r.inMode e).visibility = r.visibility := by
  unfold inMode; split <;> rfl

@[simp] theorem inMode_modeSensitive : (r.inMode e).modeSensitive = r.modeSensitive := by
  unfold inMode; split <;> rfl

theorem inMode_of_not_sensitive (h : r.modeSensitive = false) : r.inMode e = r := by
  simp [inMode, h]

theorem breach?_inMode (h : r.FollowsMode e') :
    RuleList.breach? e (r.inMode e) = RuleList.breach? e' r := by
  obtain ⟨name, priority, statement, category, visibility, action, override, sensitive⟩ := r
  cases sensitive with
  | false => rfl
  | true =>
    obtain ⟨ha, ho⟩ := h rfl
    unfold RuleList.breach? inMode
    cases action <;> cases override <;> simp_all

end Rule

namespace RuleList

open Rule

variable {rules : List Rule} {e e' : Bool}

theorem repeatedName?_inMode (seen : List String) :
    repeatedName? seen (rules.map (inMode e)) = repeatedName? seen rules := by
  induction rules generalizing seen with
  | nil => rfl
  | cons r rs ih => simp only [List.map_cons, repeatedName?, inMode_name, ih]

theorem namesAt_inMode (p : Int) : namesAt (rules.map (inMode e)) p = namesAt rules p := by
  simp [namesAt, List.filter_map, Function.comp_def]

theorem repeatedPriority?_inMode :
    repeatedPriority? (rules.map (inMode e)) = repeatedPriority? rules := by
  simp [repeatedPriority?, List.find?_map, namesAt_inMode, Function.comp_def]

theorem sorted_inMode : sorted (rules.map (inMode e)) = (sorted rules).map (inMode e) :=
  (List.map_mergeSort fun r _ s _ ↦ by simp).symm

theorem findSome?_breach?_inMode (h : ∀ r ∈ rules, r.FollowsMode e') :
    (rules.map (inMode e)).findSome? (breach? e) = rules.findSome? (breach? e') := by
  induction rules with
  | nil => rfl
  | cons r rs ih =>
    obtain ⟨hr, hrs⟩ := List.forall_mem_cons.mp h
    simp only [List.map_cons, List.findSome?_cons, breach?_inMode hr, ih hrs]

theorem arrange_inMode (h : ∀ r ∈ rules, r.FollowsMode e') :
    arrange (rules.map (inMode e)) e = List.map (inMode e) <$> arrange rules e' := by
  unfold arrange
  rw [repeatedName?_inMode, repeatedPriority?_inMode, findSome?_breach?_inMode h, sorted_inMode]
  cases repeatedName? [] rules with
  | some name => rfl
  | none =>
    cases hp : repeatedPriority? rules with
    | some names => rfl
    | none =>
      -- in both modes the order ascends, so that the last check finds nothing
      have hlt := sorted_pairwise_lt (repeatedPriority?_eq_none_iff.mp hp)
      have hlt' : ((sorted rules).map (inMode e)).Pairwise fun r s ↦ r.priority < s.priority :=
        List.pairwise_map.mpr (hlt.imp fun h ↦ by simpa using h)
      cases rules.findSome? (breach? e') with
      | some problem => rfl
      | none => simp [descent?_eq_none hlt, descent?_eq_none hlt']

end RuleList

namespace ManagedGroups

variable {s : Selection} {e e' : Bool}

theorem rule_inMode (g : ManagedGroup) (excluded : List String) (p : Int) :
    (rule g excluded e' p).inMode e = rule g excluded e p := by
  cases hg : g.alwaysEnforced <;> simp [rule, Rule.inMode, hg]

/-- The mode decides neither which groups are on nor where they are placed. -/
theorem rules_inMode (gs : List ManagedGroup) (σ : Session) :
    ((rules s e gs).exec σ).1 = List.map (Rule.inMode e) <$> ((rules s e' gs).exec σ).1 := by
  induction gs generalizing σ with
  | nil => rfl
  | cons g gs ih =>
    unfold rules
    cases s.lookup g.key with
    | none => exact ih σ
    | some excluded =>
      simp only [exec_bind, exec_slot]
      cases σ.allocator.slot .managed g.slot with
      | error p => rfl
      | ok pa =>
        simp only [ih]
        cases ((rules s e' gs).exec { σ with allocator := pa.2 }).1 with
        | error f => rfl
        | ok rs => simp [rule_inMode]

end ManagedGroups

namespace Config

theorem map_inMode_of_steady {k : Category} {e e' : Bool} {x : Except Failure (List Rule)}
    (hm : k ≠ .managed) (hr : k ≠ .rateLimit)
    (h : ∀ rules, x = .ok rules → ∀ r ∈ rules, r.MadeFor k e') :
    List.map (Rule.inMode e) <$> x = x := by
  cases x with
  | error f => rfl
  | ok rules =>
    have hid : ∀ r ∈ rules, r.inMode e = r := fun r hrules ↦
      Rule.inMode_of_not_sensitive <| Bool.eq_false_iff.mpr fun hsensitive ↦
        ((h _ rfl r hrules).kind_of_sensitive hsensitive).elim hm hr
    rw [Outcome.map_ok, List.map_congr_left hid, List.map_id']

variable (registry : Registry) (c : Config) (e : Bool)

theorem alone_feature_inMode [Machine] (name : String) (k : Category) :
    ({ c with enforce := e }.feature registry name k).alone =
      List.map (Rule.inMode e) <$> (c.feature registry name k).alone := by
  cases k with
  | managed =>
    simp only [feature, ManagedGroups.alone_build]
    cases ManagedGroups.select registry c.managedGroups c.excludedCommonRules with
    | error p => rfl
    | ok s => exact ManagedGroups.rules_inMode registry.inOrder {}
  | rateLimit =>
    simp only [feature, RateLimit.alone_build]
    cases c.rateLimit <;> rfl
  | preCustom | postCustom | blockV4 | blockV6 | allowPath | allowV4 | allowV6 | allowUserAgent =>
    exact (map_inMode_of_steady (by decide) (by decide) fun _ h ↦ madeFor_of_feature h).symm

end Config

def Policy.inMode (enforce : Bool) (p : Policy) : Policy :=
  { p with enforce := enforce, rules := p.rules.map (Rule.inMode enforce) }

namespace Config

/-- What a configuration compiles to in a mode can be read off what it compiles to in the other. -/
theorem compile_inMode [Machine] (registry : Registry) (c : Config) (e : Bool) :
    { c with enforce := e }.compile registry = Policy.inMode e <$> c.compile registry := by
  rw [compile_eq, compile_eq]
  by_cases hn : strip c.name = ""
  · simp [hn]
  · simp only [hn, if_false]
    rw [Outcome.mapM_eq_map (alone_feature_inMode registry c e (strip c.name))]
    cases hparts : (Choice.all : List Category).mapM fun k ↦
        (c.feature registry (strip c.name) k).alone with
    | error f => rfl
    | ok parts =>
      obtain ⟨out, hout, rfl⟩ := Category.mapM_eq_ok_iff.mp hparts
      have hfollows : ∀ r ∈ (Choice.all.map out).flatten, r.FollowsMode c.enforce := by
        simp only [List.mem_flatten, List.mem_map]
        rintro r ⟨_, ⟨k, -, rfl⟩, hr⟩
        exact (madeFor_of_feature (hout k) r hr).followsMode
      simp only [Outcome.map_ok, Outcome.ok_bind, ← List.map_flatten,
        RuleList.arrange_inMode hfollows]
      cases RuleList.arrange (Choice.all.map out).flatten c.enforce <;> rfl

end Config

/-- Two rules that differ in what the mode means for them only: the first one observes, the second
one enforces. -/
structure Rule.DiffersByMode (r s : Rule) : Prop where
  name : r.name = s.name
  priority : r.priority = s.priority
  category : r.category = s.category
  statement : r.statement = s.statement
  visibility : r.visibility = s.visibility
  modeSensitive : r.modeSensitive = s.modeSensitive
  steady : r.modeSensitive = false → r = s
  sensitive : r.modeSensitive = true →
    (r.action = some .count ∧ r.override = none ∧ s.action = some .block ∧ s.override = none) ∨
      r.action = none ∧ r.override = some .count ∧ s.action = none ∧ s.override = some .none

theorem Rule.differsByMode {r : Rule} (ho : r.HasOneOutcome) (hf : r.FollowsMode false) :
    r.DiffersByMode (r.inMode true) where
  name := inMode_name.symm
  priority := inMode_priority.symm
  category := inMode_category.symm
  statement := inMode_statement.symm
  visibility := inMode_visibility.symm
  modeSensitive := inMode_modeSensitive.symm
  steady h := (inMode_of_not_sensitive h).symm
  sensitive h := by
    obtain ⟨name, priority, statement, category, visibility, action, override, sensitive⟩ := r
    obtain rfl : sensitive = true := h
    obtain ⟨ha, hov⟩ := hf rfl
    cases action with
    | none =>
      cases override with
      | none => simp [HasOneOutcome] at ho
      | some o =>
        obtain rfl := hov o rfl
        exact .inr ⟨rfl, rfl, rfl, rfl⟩
    | some a =>
      cases override with
      | none =>
        obtain rfl := ha a rfl
        exact .inl ⟨rfl, rfl, rfl, rfl⟩
      | some o => simp [HasOneOutcome] at ho

namespace Config

def groupsOn (registry : Registry) (c : Config) : List ManagedGroup :=
  match ManagedGroups.select registry c.managedGroups c.excludedCommonRules with
  | .ok s => registry.inOrder.filter fun g ↦ (s.lookup g.key).isSome
  | .error _ => []

/-- The rules that depend on the mode: those of the groups that are not always enforced, and the one
that limits the rate. -/
def sensitiveRules (registry : Registry) (c : Config) : List (Category × String) :=
  ((c.groupsOn registry).filter (!·.alwaysEnforced)).map (fun g ↦ (.managed, g.ruleName)) ++
    (c.rateLimit.map fun _ ↦ (.rateLimit, RateLimit.ruleName)).toList

theorem sensitive_placed (s : ManagedGroups.Selection) (e : Bool) (gs : List ManagedGroup) :
    ((ManagedGroups.placed s e gs).filter (·.modeSensitive)).map (fun r ↦ (r.category, r.name)) =
      ((gs.filter fun g ↦ (s.lookup g.key).isSome).filter (!·.alwaysEnforced)).map
        fun g ↦ (.managed, g.ruleName) := by
  induction gs with
  | nil => rfl
  | cons g gs ih =>
    rw [ManagedGroups.placed_cons]
    cases hs : s.lookup g.key with
    | none => simpa [hs] using ih
    | some excluded =>
      cases hg : g.alwaysEnforced <;> simpa [hs, hg, ManagedGroups.rule] using ih

theorem placed_ascending (s : ManagedGroups.Selection) (e : Bool) (registry : Registry) :
    (ManagedGroups.placed s e registry.inOrder).Pairwise fun r t ↦ r.priority ≤ t.priority := by
  have hslots := SortedBy.pairwise_mergeSort ManagedGroup.slot registry.groups
  rw [ManagedGroups.placed, List.pairwise_filterMap]
  refine hslots.imp fun {g h} hslot r hr t ht ↦ ?_
  obtain ⟨_, -, rfl⟩ := Option.map_eq_some_iff.mp hr
  obtain ⟨_, -, rfl⟩ := Option.map_eq_some_iff.mp ht
  simpa [ManagedGroups.rule] using hslot

section Sensitive

variable [Machine] {registry : Registry} {c : Config} {name : String} {out : Category → List Rule}
  (hout : ∀ k, (c.feature registry name k).alone = .ok (out k))
include hout

theorem out_managed : ∃ s,
    ManagedGroups.select registry c.managedGroups c.excludedCommonRules = .ok s ∧
      out .managed = ManagedGroups.placed s c.enforce registry.inOrder := by
  obtain ⟨s, hs, hrules⟩ := alone_managed_eq_ok_iff.mp (hout .managed)
  exact ⟨s, hs, (ManagedGroups.rules_eq_placed hrules).1⟩

theorem out_rateLimit : out .rateLimit = (c.rateLimit.map (·.rule c.enforce)).toList :=
  (Except.ok.inj ((RateLimit.alone_build ..).symm.trans (hout .rateLimit))).symm

theorem filter_sensitive : (Choice.all.flatMap out).filter (·.modeSensitive) =
    (out .managed).filter (·.modeSensitive) ++ (out .rateLimit).filter (·.modeSensitive) := by
  have hsteady : ∀ k, k ≠ .managed → k ≠ .rateLimit → (out k).filter (·.modeSensitive) = [] := by
    intro k hm hr
    refine List.filter_eq_nil_iff.mpr fun r hk hsensitive ↦ ?_
    exact ((madeFor_of_feature (hout k) r hk).kind_of_sensitive hsensitive).elim hm hr
  simp [Choice.all, hsteady]

theorem sensitive_ascending : ((Choice.all.flatMap out).filter (·.modeSensitive)).Pairwise
    fun r t ↦ r.priority ≤ t.priority := by
  rw [filter_sensitive hout, List.pairwise_append]
  refine ⟨?_, ?_, fun r hr t ht ↦ ?_⟩
  · obtain ⟨s, -, hmanaged⟩ := out_managed hout
    rw [hmanaged]
    exact (placed_ascending s c.enforce registry).filter _
  · rw [out_rateLimit hout]
    cases c.rateLimit <;> simp [RateLimit.rule]
  · have hr := (madeFor_of_feature (hout _) r (List.mem_of_mem_filter hr)).contains
    have ht := (madeFor_of_feature (hout _) t (List.mem_of_mem_filter ht)).contains
    have hlast : r.priority ≤ 26 := (Band.contains_iff.mp hr).2 26 rfl
    have hfirst : 30 ≤ t.priority := (Band.contains_iff.mp ht).1
    omega

end Sensitive

theorem sensitive_of_compile [Machine] {registry : Registry} {c : Config} {p : Policy}
    (h : c.compile registry = .ok p) :
    (p.rules.filter (·.modeSensitive)).map (fun r ↦ (r.category, r.name)) =
      c.sensitiveRules registry := by
  obtain ⟨-, out, hout, ordered, hordered, rfl⟩ := compile_eq_ok_iff.mp h
  obtain ⟨-, -, -, rfl⟩ := RuleList.arrange_eq_ok_iff.mp hordered
  obtain ⟨s, hs, hmanaged⟩ := out_managed hout
  have hsorted : (RuleList.sorted (Choice.all.flatMap out)).filter (·.modeSensitive) = _ :=
    SortedBy.filter_mergeSort Rule.priority (sensitive_ascending hout)
  simp only [toPolicy, hsorted, filter_sensitive hout, List.map_append, hmanaged, sensitive_placed]
  rw [sensitiveRules, groupsOn, hs, out_rateLimit hout]
  cases c.rateLimit <;> rfl

end Config

structure Policy.DiffersByMode (sensitive : List (Category × String)) (p q : Policy) : Prop where
  name : p.name = q.name
  scope : p.scope = q.scope
  defaultAction : p.defaultAction = q.defaultAction
  logSink : p.logSink = q.logSink
  associations : p.associations = q.associations
  visibility : p.visibility = q.visibility
  observes : p.enforce = false
  enforces : q.enforce = true
  rules : List.Forall₂ Rule.DiffersByMode p.rules q.rules
  sensitive : (p.rules.filter (·.modeSensitive)).map (fun r ↦ (r.category, r.name)) = sensitive

namespace Config

/-- A change of mode changes the outcomes of the mode-sensitive rules and nothing else. In either
mode a configuration fails in the same way. -/
theorem compile_mode_flip [Machine] (registry : Registry) (c : Config) :
    (∃ failure, { c with enforce := false }.compile registry = .error failure ∧
      { c with enforce := true }.compile registry = .error failure) ∨
    ∃ p q, { c with enforce := false }.compile registry = .ok p ∧
      { c with enforce := true }.compile registry = .ok q ∧
        p.DiffersByMode (c.sensitiveRules registry) q := by
  have hflip := compile_inMode registry { c with enforce := false } true
  cases hp : { c with enforce := false }.compile registry with
  | error failure => exact .inl ⟨failure, rfl, by rw [hflip, hp]; rfl⟩
  | ok p =>
    refine .inr ⟨p, p.inMode true, rfl, by rw [hflip, hp]; rfl, ?_⟩
    have hsensitive := sensitive_of_compile hp
    obtain ⟨-, out, -, ordered, hordered, rfl⟩ := compile_eq_ok_iff.mp hp
    obtain ⟨-, -, hbreach, rfl⟩ := RuleList.arrange_eq_ok_iff.mp hordered
    refine ⟨rfl, rfl, rfl, rfl, rfl, rfl, rfl, rfl, ?_, hsensitive⟩
    refine List.forall₂_map_right_iff.mpr (List.forall₂_same.mpr fun r hr ↦ ?_)
    have hr := hbreach r ((RuleList.sorted_perm _).mem_iff.mp hr)
    obtain ⟨-, hone, hfollows⟩ := RuleList.breach?_eq_none_iff.mp hr
    exact Rule.differsByMode hone hfollows

end Config

end WebAcl
