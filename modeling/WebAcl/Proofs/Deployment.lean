import WebAcl.Config.Source
import WebAcl.Proofs.HclAcceptance
import WebAcl.Proofs.JsonFiles
import WebAcl.Proofs.OrdinaryDepth
import WebAcl.Proofs.RuleBlocks

namespace WebAcl

open Outcome

namespace Format

def fileNames : Format → List String
  | .json => ["policy.json"]
  | .cloudFormation => ["template.json"]
  | .terraform => ["main.tf", "variables.tf", "outputs.tf"]

def accepts [Machine] (format : Format) (v : Value) : Bool :=
  match format with
  | .json | .cloudFormation => Json.accepts v
  | .terraform => Hcl.fits 0 v && Hcl.accepts v

end Format

namespace Config

def CustomRule.emitted (r : CustomRule) : Value :=
  r.body.freeze.thaw

def CustomRule.fits [Machine] (format : Format) (r : CustomRule) : Bool :=
  Number.isWritable r.priority && Machine.thawing.fits 0 r.body.freeze && format.accepts r.emitted

theorem validated_of_load [Machine] {host : Host} {given : Option Path} {stem : String} {c : Config}
    (h : load host given stem = .ok c) : c.Validated := by
  unfold load loadLogged at h
  dsimp only at h
  split at h
  · simp at h
  · unfold ofEntries at h
    dsimp only at h
    split at h
    next hread =>
      obtain rfl := Except.ok.inj h
      exact validated_of_ofValue hread
    · simp at h

end Config

namespace Json

variable {P : String → Prop}

mutual

theorem accepts_of_isPlain : ∀ {v : Value}, v.IsPlain P → v.isWritable = true →
    accepts v = true := by
  intro v hv hw
  cases v with
  | null | bool | str => rfl
  | int i => exact hw
  | list xs =>
    rw [accepts]
    exact acceptsItems_of_isPlain hv hw
  | map es =>
    rw [accepts]
    exact acceptsEntries_of_isPlain hv hw
  | _ => exact hv.elim

theorem acceptsItems_of_isPlain : ∀ {xs : List Value}, Value.ItemsPlain P xs →
    Value.itemsWritable xs = true → acceptsItems xs = true
  | [], _, _ => rfl
  | x :: xs, ⟨hx, hxs⟩, hw => by
    rw [Value.itemsWritable, Bool.and_eq_true] at hw
    rw [acceptsItems, accepts_of_isPlain hx hw.1, acceptsItems_of_isPlain hxs hw.2]
    rfl

theorem acceptsEntries_of_isPlain : ∀ {es : List (Value × Value)}, Value.EntriesPlain P es →
    Value.entriesWritable es = true → acceptsEntries es = true
  | [], _, _ => rfl
  | (k, v) :: es, ⟨⟨s, hk, _⟩, hv, hes⟩, hw => by
    rw [Value.entriesWritable, Bool.and_eq_true, Bool.and_eq_true] at hw
    rw [acceptsEntries, hk, acceptsKey, accepts_of_isPlain hv hw.1.2,
      acceptsEntries_of_isPlain hes hw.2]
    rfl

end

end Json

namespace Policy

variable [Machine] {p : Policy}

def Renders (format : Format) (p : Policy) : Prop :=
  ∃ files, p.render format = .ok files ∧ files.map (·.name) = format.fileNames

theorem exists_jsonFile_iff {name : String} {v : Value} :
    (∃ files, p.jsonFile name v = .ok files ∧ files.map (·.name) = [name]) ↔
      (∀ r ∈ p.rules, r.statement.isCopyable = true) ∧ Json.accepts v = true := by
  have hlimit : Json.Layout.indented.anyLength = false := rfl
  rw [← Json.exists_write_iff hlimit 0, jsonFile, Json.render, ← List.all_eq_true]
  cases p.rules.all (·.statement.isCopyable) <;> cases Json.write .indented 0 v <;> simp

theorem renders_json_iff (hdays : Number.isWritable p.logSink.retentionDays = true) :
    p.Renders .json ↔ ∀ r ∈ p.rules, r.statement.isCopyable = true ∧
      Number.isWritable r.priority = true ∧
      Json.accepts (r.statement.toValue .byLogicalId) = true := by
  rw [forall₂_and, ← accepts_toValue, ← and_iff_left (a := Json.accepts _ = true) hdays,
    ← accepts_document]
  exact exists_jsonFile_iff

theorem renders_cloudFormation_iff (h : p.ReferencesByCategory)
    (hdays : Number.isWritable p.logSink.retentionDays = true) :
    p.Renders .cloudFormation ↔ ∀ r ∈ p.rules, r.statement.isCopyable = true ∧
      Number.isWritable r.priority = true ∧
      Json.accepts (r.statement.toValue Template.resolver) = true := by
  rw [forall₂_and, ← accepts_toValue, ← Template.accepts_ofPolicy h hdays]
  exact exists_jsonFile_iff

theorem renders_terraform_iff :
    p.Renders .terraform ↔ ∀ r ∈ p.rules, ∃ items, Terraform.ruleItems r = .ok items := by
  rw [← exists_mapM_iff]
  unfold Renders render
  dsimp only
  rw [Terraform.files_eq, Terraform.mainBlocks_eq]
  cases p.rules.mapM Terraform.ruleItems <;> simp [Except.map, Format.fileNames]

end Policy

namespace Config

section

variable [Machine] {registry : Registry} {c : Config} {p : Policy}

/-- If the rules that the features make have a property, it is up to the user whether all rules
have it. -/
theorem forall_rules_iff (h : c.compile registry = .ok p) {P : Rule → Prop}
    {Q : CustomRule → Prop} (hbuilt : ∀ r, r.IsBuiltIn c → P r)
    (hmade : ∀ k, ∀ r ∈ c.userRules, (P (r.made k) ↔ Q r)) :
    (∀ r ∈ p.rules, P r) ↔ ∀ r ∈ c.userRules, Q r := by
  constructor
  · intro hall r hr
    obtain ⟨k, hk⟩ := mem_userRules_iff.mp hr
    exact (hmade k r hr).mp (hall _ (made_mem_rules h hk))
  · intro hall r hr
    obtain hr | ⟨k, s, hs, rfl⟩ := isBuiltIn_or_made h hr
    · exact hbuilt r hr
    · have hs := mem_userRules_iff.mpr ⟨k, hs⟩
      exact (hmade k s hs).mpr (hall s hs)

theorem isWritable_retentionDays (hc : c.Validated) (h : c.compile registry = .ok p) :
    Number.isWritable p.logSink.retentionDays = true := by
  obtain ⟨-, out, -, ordered, -, rfl⟩ := compile_eq_ok_iff.mp h
  have hperiods : ∀ days ∈ retentionPeriods, 1 ≤ days ∧ days ≤ 3653 := by decide
  have hdays : 1 ≤ c.logSink.retentionDays ∧ c.logSink.retentionDays ≤ 3653 :=
    hperiods _ hc.retention
  refine Number.isWritable_of_lt (n := 4) (by decide) ?_
  change c.logSink.retentionDays.natAbs < 10 ^ 4
  omega

theorem forall_accepts_iff (hc : c.Validated) (h : c.compile registry = .ok p)
    {resolve : Resolver} (hresolve : ∀ b, Json.accepts (resolve b) = true) :
    (∀ r ∈ p.rules, r.statement.isCopyable = true ∧ Number.isWritable r.priority = true ∧
      Json.accepts (r.statement.toValue resolve) = true) ↔
    ∀ r ∈ c.userRules, (Number.isWritable r.priority = true ∧
      Machine.thawing.fits 0 r.body.freeze = true) ∧ Json.accepts r.emitted = true := by
  refine forall_rules_iff h (fun r hr ↦ ?_) fun k r _ ↦ ?_
  · have hpriority := Number.isWritable_of_small hr.priority.1 hr.priority.2
    exact ⟨hr.statement.isCopyable, hpriority, hr.statement.accepts_toValue hc hresolve⟩
  · rw [and_right_comm, and_comm (b := Machine.thawing.fits _ _ = true)]
    exact Iff.rfl

theorem exists_statementItems_made_iff {k : Category} {r : CustomRule} :
    (∃ items, Terraform.statementItems (r.made k).statement = .ok items) ↔
      Machine.thawing.fits 0 r.body.freeze = true ∧
        Hcl.fits 0 r.emitted = true ∧ Hcl.accepts r.emitted = true := by
  have hbody : (∃ items, Hcl.bodyOf 0 _ = .ok items) ↔
    Hcl.fits 0 r.emitted = true ∧ Hcl.accepts r.emitted = true := Hcl.exists_bodyOf_iff
  rw [← hbody]
  change (∃ items, (if Machine.thawing.fits 0 r.body.freeze = true then _ else _) = _) ↔ _
  split <;> simp [*]

theorem exists_ruleItems_made_iff {k : Category} {r : CustomRule}
    (h : (r.made k).HasOneOutcome) : (∃ items, Terraform.ruleItems (r.made k) = .ok items) ↔
      (Number.isWritable r.priority = true ∧ Machine.thawing.fits 0 r.body.freeze = true) ∧
        Hcl.fits 0 r.emitted = true ∧ Hcl.accepts r.emitted = true := by
  rw [Terraform.exists_ruleItems_iff, exists_statementItems_made_iff]
  constructor
  · rintro ⟨-, ⟨hthaw, haccepts⟩, hpriority⟩
    exact ⟨⟨hpriority, hthaw⟩, haccepts⟩
  · rintro ⟨⟨hpriority, hthaw⟩, haccepts⟩
    exact ⟨Terraform.exists_outcomeBlock h, ⟨hthaw, haccepts⟩, hpriority⟩

theorem renders_iff (hc : c.Validated) (h : c.compile registry = .ok p) (format : Format) :
    p.Renders format ↔ ∀ r ∈ c.userRules, r.fits format = true := by
  have hdays := isWritable_retentionDays hc h
  simp only [CustomRule.fits, Bool.and_eq_true]
  -- the document names sets, the template refers to resources; both can always be written
  cases format with
  | json =>
    rw [Policy.renders_json_iff hdays]
    exact forall_accepts_iff hc h fun b ↦ rfl
  | cloudFormation =>
    rw [Policy.renders_cloudFormation_iff (referencesByCategory_of_compile h) hdays]
    exact forall_accepts_iff hc h fun b ↦ Template.accepts_arnOf _
  | terraform =>
    simp only [Format.accepts, Bool.and_eq_true]
    rw [Policy.renders_terraform_iff]
    refine forall_rules_iff h (fun r hr ↦ Terraform.exists_ruleItems hr) fun k r hr ↦ ?_
    exact exists_ruleItems_made_iff (hc.outcomes r hr)

theorem renders_of_isPlain [Machine.IsRoomy] (hc : c.Validated) (h : c.compile registry = .ok p)
    {P : String → Prop} (hrules : ∀ r ∈ c.userRules, Number.isWritable r.priority = true ∧
      r.body.IsPlain P ∧ r.body.isWritable = true ∧ r.body.nestedIn 16 = true)
    (format : Format) : p.Renders format := by
  refine (renders_iff hc h format).mpr fun r hr ↦ ?_
  obtain ⟨hpriority, hplain, hwritable, hnested⟩ := hrules r hr
  have hthaw : Machine.thawing.fits 0 r.body.freeze = true :=
    Machine.IsRoomy.thawing.fits ((Value.nestedIn_freeze 16 _).trans hnested)
  rw [CustomRule.fits, CustomRule.emitted, Value.thaw_freeze hplain, hpriority, hthaw,
    Bool.true_and, Bool.true_and]
  cases format with
  | json | cloudFormation => exact Json.accepts_of_isPlain hplain hwritable
  | terraform =>
    rw [Format.accepts, Hcl.fits_of_nestedIn hnested, Bool.true_and]
    exact Hcl.accepts_of_isPlain hplain hwritable

end

section

open UsualMachine

end

end Config

end WebAcl
