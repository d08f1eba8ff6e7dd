import WebAcl.Proofs.BackingSets

namespace WebAcl

open Text

inductive Statement.MadeBy (c : Config) (k : Category) : Statement → Prop
  | forwardedSet {set : IpSet} (id : k.setId? = some set.logicalId) : MadeBy c k
    (.ipSet set (some { fallback := .noMatch, position := some AddressList.forwardedPosition }))
  | sourceSet {set : IpSet} (id : k.setId? = some set.logicalId) : MadeBy c k (.ipSet set none)
  | paths {set : RegexSet} (id : k.setId? = some set.logicalId) :
    MadeBy c k (.regexSet set .uriPath none)
  | userAgents {set : RegexSet} (id : k.setId? = some set.logicalId) :
    MadeBy c k (.regexSet set .singleHeader (some "User-Agent"))
  | managedGroup (name vendor : String) (excluded : List String) :
    MadeBy c k (.managedGroup name vendor excluded)
  | rateBased {limit : Config.RateLimit} (limit_eq : c.rateLimit = some limit) :
    MadeBy c k (.rateBased limit.threshold limit.aggregation limit.forwarded)

theorem Statement.MadeBy.isCopyable [Machine] {c : Config} {k : Category} {s : Statement}
    (h : s.MadeBy c k) : s.isCopyable = true := by
  cases h <;> rfl

structure Rule.IsBuiltIn (c : Config) (r : Rule) : Prop where
  statement : r.statement.MadeBy c r.category
  priority : -1000 ≤ r.priority ∧ r.priority ≤ 1000
  hasOneOutcome : r.HasOneOutcome

namespace Config

variable {registry : Registry} {c : Config}

theorem exists_feature_of_mem [Machine] {p : Policy} (h : c.compile registry = .ok p) {r : Rule}
    (hr : r ∈ p.rules) : ∃ k rules,
      (c.feature registry p.name k).alone = .ok rules ∧ r ∈ rules := by
  obtain ⟨-, out, hout, ordered, hordered, rfl⟩ := compile_eq_ok_iff.mp h
  obtain ⟨-, -, -, rfl⟩ := RuleList.arrange_eq_ok_iff.mp hordered
  have hr := (RuleList.sorted_perm (Choice.all.flatMap out)).mem_iff.mp hr
  obtain ⟨k, -, hr⟩ := List.mem_flatMap.mp hr
  exact ⟨k, out k, hout k, hr⟩

theorem madeBy_of_feature [Machine] {name : String} {k : Category} {rules : List Rule}
    (hk : (Band.of k).custom = false) (h : (c.feature registry name k).alone = .ok rules) :
    ∀ r ∈ rules, r.statement.MadeBy c k := by
  cases k with
  | preCustom | postCustom => simp [Band.of] at hk
  | managed =>
    obtain ⟨s, -, h⟩ := alone_managed_eq_ok_iff.mp h
    obtain ⟨rfl, -⟩ := ManagedGroups.rules_eq_placed h
    intro r hr
    obtain ⟨g, -, excluded, -, rfl⟩ := ManagedGroups.mem_placed.mp hr
    exact .managedGroup ..
  | rateLimit =>
    rw [feature, RateLimit.alone_build] at h
    obtain rfl := Except.ok.inj h
    intro r hr
    obtain ⟨limit, hlimit, rfl⟩ := Option.map_eq_some_iff.mp (Option.mem_toList.mp hr)
    exact .rateBased hlimit
  | allowPath =>
    obtain ⟨-, rfl⟩ | ⟨_, -, checked, -, rfl⟩ := (PatternList.alone_build_eq_ok_iff rfl).mp h
    · simp
    · exact List.forall_mem_singleton.mpr (.paths rfl)
  | allowUserAgent =>
    obtain ⟨-, rfl⟩ | ⟨_, -, checked, -, rfl⟩ := (PatternList.alone_build_eq_ok_iff rfl).mp h
    · simp
    · exact List.forall_mem_singleton.mpr (.userAgents rfl)
  | blockV4 | blockV6 | allowV4 | allowV6 =>
    obtain ⟨-, rfl⟩ | ⟨_, -, checked, -, rfl⟩ := (AddressList.alone_build_eq_ok_iff rfl).mp h
    · simp
    · exact List.forall_mem_cons.mpr
        ⟨.forwardedSet rfl, List.forall_mem_singleton.mpr (.sourceSet rfl)⟩

/-- The rules of a policy are those that the user wrote and those that the features make. -/
theorem isBuiltIn_or_made [Machine] {p : Policy} (h : c.compile registry = .ok p) {r : Rule}
    (hr : r ∈ p.rules) : r.IsBuiltIn c ∨ ∃ k, ∃ s ∈ c.customRules k, s.made k = r := by
  obtain ⟨k, rules, hrules, hmem⟩ := exists_feature_of_mem h hr
  cases hk : (Band.of k).custom with
  | true =>
    obtain ⟨-, rfl⟩ := (alone_custom_eq_ok_iff hk).mp hrules
    obtain ⟨s, hs, rfl⟩ := List.mem_map.mp hmem
    exact .inr ⟨k, s, hs, rfl⟩
  | false =>
    have hmade := madeFor_of_feature hrules r hmem
    have hcontains := Band.contains_iff.mp hmade.contains
    refine .inl ⟨hmade.category ▸ madeBy_of_feature hk hrules r hmem, ?_, hmade.hasOneOutcome hk⟩
    cases k <;> simp [Band.of] at hk hcontains <;> omega

theorem isBuiltIn_of_compile [Machine] {p : Policy} (h : c.compile registry = .ok p) {r : Rule}
    (hr : r ∈ p.rules) (hkind : r.statement.kind ≠ "custom") : r.IsBuiltIn c := by
  obtain hbuilt | ⟨k, s, -, rfl⟩ := isBuiltIn_or_made h hr
  · exact hbuilt
  · exact absurd rfl hkind

theorem made_mem_rules [Machine] {p : Policy} (h : c.compile registry = .ok p) {k : Category}
    {s : CustomRule} (hs : s ∈ c.customRules k) : s.made k ∈ p.rules := by
  have hk : (Band.of k).custom = true := by
    cases k <;> first
      | rfl
      | simp [customRules] at hs
  obtain ⟨-, out, hout, ordered, hordered, rfl⟩ := compile_eq_ok_iff.mp h
  obtain ⟨-, -, -, rfl⟩ := RuleList.arrange_eq_ok_iff.mp hordered
  have hmade : s.made k ∈ out k := by
    rw [((alone_custom_eq_ok_iff hk).mp (hout k)).2]
    exact List.mem_map_of_mem hs
  exact (RuleList.sorted_perm _).mem_iff.mpr (List.mem_flatMap.mpr ⟨k, k.mem_all, hmade⟩)

end Config

end WebAcl
