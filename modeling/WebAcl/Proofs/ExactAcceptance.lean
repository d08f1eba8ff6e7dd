import WebAcl.Proofs.Failures
import WebAcl.Proofs.Validated

namespace WebAcl.Config

open Text

/-- A configuration that asks for nothing that is refused. -/
structure Acceptable [Machine] (c : Config) : Prop where
  name : strip c.name ≠ ""
  ruleNames : ∀ r ∈ c.userRules, strip r.name ≠ ""
  statements : ∀ r ∈ c.userRules, r.statement ≠ []
  prePriority : ∀ r ∈ c.preRules, r.priority = 0 ∨ 5 ≤ r.priority ∧ r.priority ≤ 9
  postPriority : ∀ r ∈ c.postRules, 31 ≤ r.priority
  prePriorities : (c.preRules.map (·.priority)).Nodup
  postPriorities : (c.postRules.map (·.priority)).Nodup
  addresses : ∀ k d listed, AddressList.of? k = some d → c.addresses? k = some listed →
    ∃ checked, AddressList.checkAddresses d.field d.version listed = .ok checked
  patterns : ∀ k d listed, PatternList.of? k = some d → c.patterns? k = some listed →
    ∃ checked, PatternList.checkPatterns d.field listed = .ok checked
  toggles : ∀ t ∈ c.managedGroups, ∃ g ∈ ManagedGroup.builtIn,
    g.key = ManagedGroup.normalizeKey t.name ∧ (t.enabled = true ∨ g.mandatory = false)
  names : (c.userRules.map (·.name)).Nodup
  unused : ∀ r ∈ c.userRules, r.name ∉ c.emittedNames

/-- The statements of the user's rules are not nested too deep for a copy. In particular none of
them contains itself. -/
def Shallow [Machine] (c : Config) : Prop :=
  ∀ r ∈ c.userRules, Machine.copying.fits 0 r.body = true

theorem CustomRule.passes_pre_iff [Machine] {r : CustomRule} : r.Passes .preCustom ↔
    strip r.name ≠ "" ∧ r.statement ≠ [] ∧ (r.priority = 0 ∨ 5 ≤ r.priority ∧ r.priority ≤ 9) ∧
      Machine.copying.fits 0 r.body = true := by
  constructor
  · rintro ⟨hname, hstatement, hpriority, hdepth⟩
    exact ⟨hname, hstatement, (Allocator.checkCustom_pre_eq_ok_iff.mp hpriority).1, hdepth⟩
  · rintro ⟨hname, hstatement, hpriority, hdepth⟩
    exact ⟨hname, hstatement, Allocator.checkCustom_pre_eq_ok_iff.mpr ⟨hpriority, rfl⟩, hdepth⟩

theorem CustomRule.passes_post_iff [Machine] {r : CustomRule} : r.Passes .postCustom ↔
    strip r.name ≠ "" ∧ r.statement ≠ [] ∧ 31 ≤ r.priority ∧
      Machine.copying.fits 0 r.body = true := by
  constructor
  · rintro ⟨hname, hstatement, hpriority, hdepth⟩
    exact ⟨hname, hstatement, (Allocator.checkCustom_post_eq_ok_iff.mp hpriority).1, hdepth⟩
  · rintro ⟨hname, hstatement, hpriority, hdepth⟩
    exact ⟨hname, hstatement, Allocator.checkCustom_post_eq_ok_iff.mpr ⟨hpriority, rfl⟩, hdepth⟩

variable {c : Config}

theorem acceptable_and_shallow_of_compile [Machine] (hname : strip c.name ≠ "")
    (haccepts : ∀ k, c.Accepts k) (h : c.Compatible) : c.Acceptable ∧ c.Shallow := by
  have hpre : ∀ r ∈ c.preRules, _ := fun r hr ↦
    CustomRule.passes_pre_iff.mp ((haccepts .preCustom).1 r hr)
  have hpost : ∀ r ∈ c.postRules, _ := fun r hr ↦
    CustomRule.passes_post_iff.mp ((haccepts .postCustom).1 r hr)
  refine ⟨{
    name := hname
    ruleNames := List.forall_mem_append.mpr
      ⟨fun r hr ↦ (hpre r hr).1, fun r hr ↦ (hpost r hr).1⟩
    statements := List.forall_mem_append.mpr
      ⟨fun r hr ↦ (hpre r hr).2.1, fun r hr ↦ (hpost r hr).2.1⟩
    prePriority := fun r hr ↦ (hpre r hr).2.2.1
    postPriority := fun r hr ↦ (hpost r hr).2.2.1
    prePriorities := h.prePriorities
    postPriorities := h.postPriorities
    addresses := fun k d listed hd hlist ↦ ?_
    patterns := fun k d listed hd hlist ↦ ?_
    toggles := haccepts .managed
    names := h.names
    unused := h.unused }, List.forall_mem_append.mpr
      ⟨fun r hr ↦ (hpre r hr).2.2.2, fun r hr ↦ (hpost r hr).2.2.2⟩⟩
  · have hk := haccepts k
    cases k <;> first | exact hk.2.1 d listed hd hlist | simp [AddressList.of?] at hd
  · have hk := haccepts k
    cases k <;> first | exact hk.2.2 d listed hd hlist | simp [PatternList.of?] at hd

theorem accepts_of_acceptable [Machine] (h : c.Acceptable) (hshallow : c.Shallow) (k : Category) :
    c.Accepts k := by
  cases k with
  | managed => exact h.toggles
  | rateLimit => trivial
  | preCustom =>
    refine ⟨fun r hr ↦ ?_, h.addresses _, h.patterns _⟩
    have hr' : r ∈ c.userRules := List.mem_append_left _ hr
    exact CustomRule.passes_pre_iff.mpr
      ⟨h.ruleNames r hr', h.statements r hr', h.prePriority r hr, hshallow r hr'⟩
  | postCustom =>
    refine ⟨fun r hr ↦ ?_, h.addresses _, h.patterns _⟩
    have hr' : r ∈ c.userRules := List.mem_append_right _ hr
    exact CustomRule.passes_post_iff.mpr
      ⟨h.ruleNames r hr', h.statements r hr', h.postPriority r hr, hshallow r hr'⟩
  | blockV4 | blockV6 | allowPath | allowV4 | allowV6 | allowUserAgent =>
    exact ⟨by simp [customRules], h.addresses _, h.patterns _⟩

theorem exists_compile_of_acceptable [Machine] (hc : c.Validated) (h : c.Acceptable)
    (hshallow : c.Shallow) : ∃ p, c.compile .builtIn = .ok p :=
  exists_compile_iff.mpr ⟨h.name, accepts_of_acceptable h hshallow,
    ⟨hc.outcomes, h.prePriorities, h.postPriorities, h.names, h.unused⟩⟩

def sampler : Config where
  name := " edge "
  blockedV4 := some ["192.0.2.44/32", "198.51.100.0/24"]
  allowedV6 := some []
  allowedPaths := some ["^/health$"]
  managedGroups := [⟨"PHP", true, []⟩, ⟨"bot_control", true, []⟩, ⟨"bot-control", false, []⟩]
  rateLimit := some { threshold := 100 }
  preRules := [{
    name := "office", priority := 5, action := some .allow
    statement := [("GeoMatchStatement", .record [("CountryCodes", .strings ["NZ"])])] }]
  postRules := [{
    name := "rest", priority := 31, override := some .count
    statement := [("RuleGroupReferenceStatement", .record [("ARN", .str "arn")])] }]

theorem sampler_validated : sampler.Validated where
  outcomes := by decide
  threshold := by decide
  retention := by decide

/-- A validated configuration compiles if and only if it is acceptable and its statements are not
nested too deep. The names that its own rules have to avoid are those of the rules that are
generated for it. The compiler never fails on its own account. -/
theorem exists_compile_iff_acceptable [Machine] (hc : c.Validated) :
    ((∃ p, c.compile .builtIn = .ok p) ↔ c.Acceptable ∧ c.Shallow) ∧
      (∀ p, c.compile .builtIn = .ok p →
        ((p.rules.filter fun r ↦ !(Band.of r.category).custom).map (·.name)).Perm c.emittedNames) ∧
      ∀ failure, c.compile .builtIn = .error failure → ¬ failure.IsInternal := by
  refine ⟨?_, fun p hp ↦ emittedNames_perm hp, not_isInternal_compile hc.outcomes⟩
  constructor
  · intro hp
    obtain ⟨hname, haccepts, hcompatible⟩ := exists_compile_iff.mp hp
    exact acceptable_and_shallow_of_compile hname haccepts hcompatible
  · rintro ⟨h, hshallow⟩
    exact exists_compile_of_acceptable hc h hshallow

section

open UsualMachine

theorem sampler_acceptable : sampler.Acceptable where
  name := by decide
  ruleNames := by decide
  statements := by decide
  prePriority := by decide
  postPriority := by decide
  prePriorities := by decide
  postPriorities := by decide
  addresses := by
    intro k d listed hd hlist
    cases k <;> simp only [sampler, addresses?, Option.some.injEq, reduceCtorEq] at hlist <;>
      obtain rfl := Option.some.inj hd <;> subst hlist <;> exact ⟨_, rfl⟩
  patterns := by
    intro k d listed hd hlist
    cases k <;> simp only [sampler, patterns?, Option.some.injEq, reduceCtorEq] at hlist
    obtain rfl := Option.some.inj hd
    subst hlist
    exact ⟨["^/health$"], by decide +kernel⟩
  toggles := by decide
  names := by decide
  unused := by decide

theorem sampler_shallow : sampler.Shallow := by
  unfold Shallow
  decide

theorem exists_compile_sampler : ∃ p, sampler.compile .builtIn = .ok p :=
  exists_compile_of_acceptable sampler_validated sampler_acceptable sampler_shallow

theorem exists_compile_iff_sampler :
    sampler.Validated ∧ sampler.Acceptable ∧ ∃ p, sampler.compile .builtIn = .ok p :=
  ⟨sampler_validated, sampler_acceptable,
    (exists_compile_iff_acceptable sampler_validated).1.mpr ⟨sampler_acceptable, sampler_shallow⟩⟩

end

def selfContaining : Config where
  name := "acme"
  preRules := [{
    name := "loop", priority := 0, action := some .block
    statement := [("NotStatement", .record [("Statement", .endless)])] }]

section

open UsualMachine

/-- A statement that contains itself is the only thing wrong with this configuration. -/
theorem selfContaining_refused : selfContaining.Validated ∧
    selfContaining.compile .builtIn = .error (.crash .nestedTooDeep) ∧
      ¬ ((∃ p, selfContaining.compile .builtIn = .ok p) ↔ selfContaining.Acceptable) := by
  have hvalidated : selfContaining.Validated := ⟨by decide, by decide, by decide⟩
  have hacceptable : selfContaining.Acceptable := {
    name := by decide
    ruleNames := by decide
    statements := by decide
    prePriority := by decide
    postPriority := by decide
    prePriorities := by decide
    postPriorities := by decide
    addresses := fun k _ _ _ hlist ↦ by cases k <;> simp [selfContaining, addresses?] at hlist
    patterns := fun k _ _ _ hlist ↦ by cases k <;> simp [selfContaining, patterns?] at hlist
    toggles := by decide
    names := by decide
    unused := by decide }
  have hfails : selfContaining.compile .builtIn = .error (.crash .nestedTooDeep) := by
    have hname : strip selfContaining.name = "acme" := by decide
    have hpre : (selfContaining.feature .builtIn "acme" .preCustom).alone =
        .error (.crash .nestedTooDeep) := rfl
    rw [compile_eq, hname]
    simp [Choice.all, hpre]
  refine ⟨hvalidated, hfails, fun h ↦ ?_⟩
  obtain ⟨p, hp⟩ := h.mpr hacceptable
  simp [hfails] at hp

end

end WebAcl.Config
