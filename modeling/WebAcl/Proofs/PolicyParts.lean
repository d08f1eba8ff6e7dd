import WebAcl.Proofs.Addresses
import WebAcl.Proofs.MadeStatements
import WebAcl.Proofs.PlainData

namespace WebAcl

open Hcl Outcome Text

namespace Terraform

/-- The names that files are made of, but for those from keys of the user. -/
def vocabulary : List String := ["terraform", "required_providers", "source", "version", "region",
  "name", "description", "scope", "ip_address_version", "addresses", "regular_expression",
  "regex_string", "default_action", "resource_arn", "web_acl_arn", "retention_in_days",
  "lifecycle", "prevent_destroy", "log_destination_configs", "value", "rule", "priority",
  "statement", "visibility_config", "cloudwatch_metrics_enabled", "metric_name",
  "sampled_requests_enabled", "action", "override_action", "allow", "block", "count", "none",
  "ip_set_reference_statement", "arn", "ip_set_forwarded_ip_config", "fallback_behavior",
  "header_name", "position", "regex_pattern_set_reference_statement", "field_to_match",
  "uri_path", "single_header", "text_transformation", "type", "managed_rule_group_statement",
  "vendor_name", "rule_action_override", "action_to_use", "rate_based_statement", "limit",
  "aggregate_key_type", "forwarded_ip_config"]

def fixedTexts : List String :=
  ["hashicorp/aws", "~> 5.0", "ANY", "NONE"] ++ Choice.texts Scope ++ Choice.texts IpVersion ++
    Choice.texts Fallback ++ Choice.texts Aggregation

/-- What parts of a rule are, where the rule refers to sets and its statement has keys. -/
inductive IsRulePart (sets : List BackingSet) (keys : List String) : Part → Prop
  | name {s : String} (mem : s ∈ vocabulary) : IsRulePart sets keys (.name s)
  | header {s : String} (mem : s ∈ vocabulary) : IsRulePart sets keys (.header s)
  | word {s : String} (mem : s ∈ fixedTexts) : IsRulePart sets keys (.word s)
  | scalar {s : String} (isScalarText : IsScalarText s) : IsRulePart sets keys (.bare s)
  | reference {b : BackingSet} (mem : b ∈ sets) : IsRulePart sets keys (.bare (setReference b))
  | data {part : Part} (isOfData : part.IsOfData keys) : IsRulePart sets keys part

theorem IsRulePart.mono {sets sets' : List BackingSet} {keys keys' : List String} {part : Part}
    (h : IsRulePart sets keys part) (hsets : sets ⊆ sets') (hkeys : keys ⊆ keys') :
    IsRulePart sets' keys' part := by
  cases h with
  | name mem => exact .name mem
  | header mem => exact .header mem
  | word mem => exact .word mem
  | scalar h => exact .scalar h
  | reference mem => exact .reference (hsets mem)
  | data h => exact .data (h.mono hkeys)

end Terraform

namespace Statement

def keys : Statement → List String
  | custom body => body.thaw.keyTexts
  | _ => []

def HasFixedPosition : Statement → Prop
  | ipSet _ (some f) => f.position = some AddressList.forwardedPosition
  | _ => True

variable {c : Config} {k : Category} {st : Statement}

theorem MadeBy.keys_eq (h : st.MadeBy c k) : st.keys = [] := by
  cases h <;> rfl

theorem MadeBy.hasFixedPosition (h : st.MadeBy c k) : st.HasFixedPosition := by
  cases h <;> first
    | rfl
    | trivial

end Statement

namespace Policy

def statementKeys (p : Policy) : List String :=
  p.rules.flatMap fun r ↦ r.statement.keys

/-- What compiled policies have in common, as far as it shows in their files. -/
structure IsRegular (p : Policy) : Prop where
  references : p.ReferencesByCategory
  positions : ∀ r ∈ p.rules, r.statement.HasFixedPosition

end Policy

namespace Terraform

variable {sets : List BackingSet} {keys : List String}

@[simp] theorem isRulePart_word_iff {s : String} :
    IsRulePart sets keys (.word s) ↔ s ∈ fixedTexts := by
  refine ⟨fun h ↦ ?_, .word⟩
  cases h with
  | word mem => exact mem
  | data h => exact h.elim

@[simp] theorem scope_mem_fixedTexts (a : Scope) : Choice.text a ∈ fixedTexts := by
  cases a <;> decide

@[simp] theorem version_mem_fixedTexts (a : IpVersion) : Choice.text a ∈ fixedTexts := by
  cases a <;> decide

@[simp] theorem fallback_mem_fixedTexts (a : Fallback) : Choice.text a ∈ fixedTexts := by
  cases a <;> decide

@[simp] theorem aggregation_mem_fixedTexts (a : Aggregation) : Choice.text a ∈ fixedTexts := by
  cases a <;> decide

theorem parts_truth (b : Bool) : ∀ part ∈ (truth b).parts, IsRulePart sets keys part :=
  List.forall_mem_singleton.mpr (.scalar (.truth b))

theorem parts_visibilityBlock (v : Visibility) :
    ∀ part ∈ (visibilityBlock v).parts, IsRulePart sets keys part := by
  simpa (disch := decide) [visibilityBlock, Item.parts, Item.partsOf, Expr.parts,
    IsRulePart.name, IsRulePart.header, or_imp, forall_and] using
    ⟨parts_truth v.metricsEnabled, parts_truth v.samplingEnabled⟩

theorem parts_outcomeBlock {r : Rule} {item : Item} (h : outcomeBlock r = .ok item) :
    ∀ part ∈ item.parts, IsRulePart sets keys part := by
  have hoverride : ∀ o : OverrideAction, lowered o ∈ vocabulary := by
    intro o
    cases o <;> decide +kernel
  have haction : ∀ a : RuleAction, lowered a ∈ vocabulary := by
    intro a
    cases a <;> decide +kernel
  unfold outcomeBlock at h
  split at h
  next o _ =>
    obtain rfl := Except.ok.inj h
    simpa [Item.parts, Item.partsOf] using
      ⟨IsRulePart.header (by decide), IsRulePart.name (hoverride o)⟩
  next a _ _ =>
    obtain rfl := Except.ok.inj h
    simpa [Item.parts, Item.partsOf] using
      ⟨IsRulePart.header (by decide), IsRulePart.name (haction a)⟩
  · simp at h

theorem parts_statementItems [Machine] {st : Statement} {items : List Item}
    (hposition : st.HasFixedPosition) (h : statementItems st = .ok items) :
    ∀ part ∈ Item.partsOf items, IsRulePart st.references st.keys part := by
  cases st with
  | ipSet set forwarded =>
    obtain rfl := Except.ok.inj h
    have hset : IsRulePart (Statement.ipSet set forwarded).references
        (Statement.ipSet set forwarded).keys (.bare (setReference (.ip set))) :=
      .reference (List.mem_singleton_self _)
    cases forwarded with
    | none =>
      simpa (disch := decide) [ipSetItems, Item.parts, Item.partsOf, Expr.parts,
        IsRulePart.name, IsRulePart.header] using hset
    | some f =>
      have hposition : f.position = some "ANY" := hposition
      simpa (disch := decide) [ipSetItems, hposition, Item.parts, Item.partsOf, Expr.parts,
        forwardedFields, IsRulePart.name, IsRulePart.header] using
        ⟨hset, show "ANY" ∈ fixedTexts by decide⟩
  | regexSet set field header =>
    obtain rfl := Except.ok.inj h
    have hset : IsRulePart (Statement.regexSet set field header).references
        (Statement.regexSet set field header).keys (.bare (setReference (.regex set))) :=
      .reference (List.mem_singleton_self _)
    have hzero : ∀ {sets keys}, IsRulePart sets keys (.bare "0") := .scalar (.int 0)
    cases field <;>
      simpa (disch := decide) [regexSetItems, fieldItem, Item.parts, Item.partsOf, Expr.parts,
        IsRulePart.name, IsRulePart.header, hzero] using
        ⟨hset, show "NONE" ∈ fixedTexts by decide⟩
  | managedGroup name vendor excluded =>
    obtain rfl := Except.ok.inj h
    have hexcluded : ∀ sets keys, ∀ part ∈ Item.partsOf (excluded.flatMap exclusionItems),
        IsRulePart sets keys part := by
      intro sets keys
      refine Item.forall_mem_partsOf.mpr (List.forall_mem_flatMap.mpr fun name _ ↦ ?_)
      simp (disch := decide) [exclusionItems, Item.parts, Item.partsOf, Expr.parts,
        IsRulePart.name, IsRulePart.header]
    simpa (disch := decide) [managedGroupItems, Item.parts, Item.partsOf, Expr.parts,
      IsRulePart.name, IsRulePart.header] using hexcluded _ _
  | rateBased limit aggregation forwarded =>
    obtain rfl := Except.ok.inj h
    have hlimit : ∀ {sets keys}, IsRulePart sets keys (.bare (toString limit)) :=
      .scalar (.int limit)
    cases forwarded <;>
      simpa (disch := decide) [rateBasedItems, forwardedFields, Item.parts, Item.partsOf,
        Expr.parts, IsRulePart.name, IsRulePart.header] using hlimit
  | custom body =>
    rw [statementItems] at h
    split at h
    · split at h
      next entries heq =>
        have hkeys : Value.keyTextsOfEntries entries = (Statement.custom body).keys := by
          rw [Statement.keys, heq, Value.keyTexts]
        exact fun part hpart ↦ .data (hkeys ▸ parts_itemsOf (bodyOf_eq_ok h) part hpart)
      · simp at h
    · simp at h

theorem parts_ruleItems [Machine] {r : Rule} {items : List Item}
    (hposition : r.statement.HasFixedPosition) (h : ruleItems r = .ok items) :
    ∀ part ∈ Item.partsOf items, IsRulePart r.references r.statement.keys part := by
  obtain ⟨outcome, statement, houtcome, hstatement, -, rfl⟩ := ruleItems_eq_ok_iff.mp h
  have hpriority : ∀ {sets keys}, IsRulePart sets keys (.bare (toString r.priority)) :=
    .scalar (.int r.priority)
  simpa (disch := decide) [ruleBlock, Item.parts, Item.partsOf, Expr.parts, IsRulePart.name,
    IsRulePart.header, or_imp, forall_and] using ⟨hpriority, parts_outcomeBlock houtcome,
      parts_statementItems hposition hstatement, parts_visibilityBlock r.visibility⟩

inductive IsPart (p : Policy) (keys : List String) : Part → Prop
  | rule {part : Part} (isRulePart : IsRulePart (orderedSets p) keys part) : IsPart p keys part
  | provider : IsPart p keys (.header "aws =")
  | labelled {kind : String} {labels : List String}
      (kind_mem : kind ∈ ["provider", "resource", "output"])
      (plain : ∀ l ∈ labels, Plain l.toList) :
      IsPart p keys (.header (header kind labels))
  | region : IsPart p keys (.bare "var.aws_region")
  | acl {part : String} (mem : part ∈ ["arn", "id"]) :
    IsPart p keys (.bare ("aws_wafv2_web_acl." ++ aclLabel p.name ++ "." ++ part))
  | logs (enabled : p.logSink.enabled = true) :
    IsPart p keys (.bare "aws_cloudwatch_log_group.waf_logs.arn")

namespace IsPart

variable {p : Policy} {keys : List String} {s : String}

theorem name (h : s ∈ vocabulary) : IsPart p keys (.name s) :=
  .rule (.name h)

theorem unlabelled (h : s ∈ vocabulary) : IsPart p keys (.header s) :=
  .rule (.header h)

theorem scalar (h : IsScalarText s) : IsPart p keys (.bare s) :=
  .rule (.scalar h)

theorem word (h : s ∈ fixedTexts) : IsPart p keys (.word s) :=
  .rule (.word h)

@[simp] theorem word_iff : IsPart p keys (.word s) ↔ s ∈ fixedTexts := by
  refine ⟨fun h ↦ ?_, word⟩
  cases h with
  | rule h => exact isRulePart_word_iff.mp h

theorem resource {type label : String} (htype : Plain type.toList) (hlabel : Plain label.toList) :
    IsPart p keys (.header (header "resource" [type, label])) :=
  .labelled (by simp) (by simp [htype, hlabel])

end IsPart

section Parts

variable {p : Policy} {keys : List String}

theorem parts_providerBlocks : ∀ part ∈ Item.partsOf providerBlocks, IsPart p keys part := by
  have hprovider : IsPart p keys (.header (header "provider" ["aws"])) :=
    .labelled (by simp) (by decide)
  have htexts : "hashicorp/aws" ∈ fixedTexts ∧ "~> 5.0" ∈ fixedTexts := by decide
  simp (disch := decide) [providerBlocks, Item.parts, Item.partsOf, Expr.parts, IsPart.name,
    IsPart.unlabelled, IsPart.provider, IsPart.region, hprovider, htexts]

theorem parts_setResource {b : BackingSet} (hb : Plain (setLabel b).toList) :
    ∀ part ∈ (setResource p b).parts, IsPart p keys part := by
  cases b with
  | ip set =>
    have hheader : IsPart p keys (.header (header "resource" [setType (.ip set), _])) :=
      .resource (show Plain "aws_wafv2_ip_set".toList by decide) hb
    simpa (disch := decide) [setResource, resource, setName, Item.parts, Item.partsOf,
      Expr.parts, IsPart.name] using hheader
  | regex set =>
    have hheader : IsPart p keys (.header (header "resource" [setType (.regex set), _])) :=
      .resource (show Plain "aws_wafv2_regex_pattern_set".toList by decide) hb
    have hpatterns : ∀ part ∈ Item.partsOf (set.patterns.flatMap fun pattern ↦
        [.blank, .block "regular_expression" [.single "regex_string" (.text pattern)]]),
        IsPart p keys part := by
      refine Item.forall_mem_partsOf.mpr (List.forall_mem_flatMap.mpr fun pattern _ ↦ ?_)
      simp (disch := decide) [Item.parts, Expr.parts, IsPart.name, IsPart.unlabelled]
    simpa (disch := decide) [setResource, resource, setName, Item.parts, Item.partsOf,
      Expr.parts, IsPart.name] using ⟨hheader, hpatterns⟩

theorem parts_rules [Machine] {rules : List (List Item)} (h : p.IsRegular)
    (hrules : p.rules.mapM ruleItems = .ok rules) :
    ∀ part ∈ Item.partsOf rules.flatten, IsPart p p.statementKeys part := by
  refine Item.forall_mem_partsOf.mpr (List.forall_mem_flatten.mpr fun items hitems ↦ ?_)
  obtain ⟨r, hr, hmade⟩ := exists_of_mem_mapM hrules items hitems
  refine fun item hitem part hpart ↦ .rule ?_
  have hrule := parts_ruleItems (h.positions r hr) hmade
  refine (Item.forall_mem_partsOf.mp hrule item hitem part hpart).mono ?_ ?_
  · exact fun b hb ↦ h.references.mem_orderedSets.mpr (List.mem_flatMap.mpr ⟨r, hr, hb⟩)
  · exact fun key hkey ↦ List.mem_flatMap.mpr ⟨r, hr, hkey⟩

theorem parts_aclBlock {rules : List (List Item)}
    (hrules : ∀ part ∈ Item.partsOf rules.flatten, IsPart p keys part) :
    ∀ part ∈ (aclBlock p rules).parts, IsPart p keys part := by
  have hheader :
      IsPart p keys (.header (header "resource" ["aws_wafv2_web_acl", aclLabel p.name])) :=
    .resource (by decide) (plain_aclLabel p.name)
  have haction : lowered p.defaultAction ∈ vocabulary := by
    cases p.defaultAction <;> decide +kernel
  have hvisibility : ∀ part ∈ (visibilityBlock p.visibility).parts, IsPart p keys part :=
    fun part hpart ↦ .rule (parts_visibilityBlock p.visibility part hpart)
  simpa (disch := decide) [aclBlock, resource, Item.parts, Item.partsOf, Expr.parts, IsPart.name,
    IsPart.unlabelled, or_imp, forall_and] using
    ⟨hheader, IsPart.name haction, hrules, hvisibility⟩

theorem parts_associationResources :
    ∀ part ∈ Item.partsOf (associationResources p), IsPart p keys part := by
  refine Item.forall_mem_partsOf.mpr fun item hitem ↦ ?_
  obtain ⟨i, hi, rfl⟩ := List.mem_mapIdx.mp hitem
  have hheader : IsPart p keys (.header (header "resource" ["aws_wafv2_web_acl_association", _])) :=
    .resource (by decide) (plain_associationLabel i)
  have hacl : IsPart p keys (.bare ("aws_wafv2_web_acl." ++ aclLabel p.name ++ "." ++ "arn")) :=
    .acl (by simp)
  simpa (disch := decide) [resource, aclReference, Item.parts, Item.partsOf, Expr.parts,
    IsPart.name] using ⟨hheader, hacl⟩

theorem parts_loggingResources :
    ∀ part ∈ Item.partsOf (loggingResources p), IsPart p keys part := by
  unfold loggingResources
  split
  next hlogging =>
    have hgroup : IsPart p keys (.header (header "resource" ["aws_cloudwatch_log_group",
        "waf_logs"])) := .resource (by decide) (by decide)
    have hlogs : IsPart p keys (.header (header "resource"
        ["aws_wafv2_web_acl_logging_configuration", "waf_logs"])) :=
      .resource (by decide) (by decide)
    have hdays : IsPart p keys (.bare (toString p.logSink.retentionDays)) := .scalar (.int _)
    have hlifecycle : ∀ part ∈ Item.partsOf (lifecycleItems p.logSink.removalPolicy),
        IsPart p keys part := by
      have htrue : IsPart p keys (.bare "true") := .scalar (.truth true)
      cases p.logSink.removalPolicy <;>
        simp (disch := decide) [lifecycleItems, Item.parts, Item.partsOf, Expr.parts,
          IsPart.name, IsPart.unlabelled, htrue]
    have hacl : IsPart p keys (.bare ("aws_wafv2_web_acl." ++ aclLabel p.name ++ "." ++ "arn")) :=
      .acl (by simp)
    simpa (disch := decide) [resource, aclReference, Item.parts, Item.partsOf, Expr.parts,
      Expr.partsOf, IsPart.name, or_imp, forall_and] using
      ⟨hgroup, hdays, hlifecycle, hlogs, .logs hlogging, hacl⟩
  next => simp [Item.partsOf]

theorem parts_outputBlocks (h : p.IsRegular) :
    ∀ part ∈ Item.partsOf (outputBlocks p), IsPart p keys part := by
  have hheader : ∀ {label : String}, Plain label.toList →
      IsPart p keys (.header (header "output" [label])) :=
    fun hlabel ↦ .labelled (by simp) (by simpa using hlabel)
  have hacl : ∀ {part}, part ∈ ["arn", "id"] → IsPart p keys
      (.bare ("aws_wafv2_web_acl." ++ aclLabel p.name ++ "." ++ part)) := .acl
  refine Item.forall_mem_partsOf.mpr (List.forall_mem_append.mpr ⟨?_, ?_⟩)
  · simp (disch := decide) [output, aclReference, Item.parts, Item.partsOf, Expr.parts, hheader,
      hacl, IsPart.name]
  · refine List.forall_mem_map.mpr fun b hb ↦ ?_
    have hlabel : Plain (setLabel b ++ "_arn").toList := by
      simpa using (plain_setLabel h.references hb).append (show Plain "_arn".toList by decide)
    have hset : IsPart p keys (.bare (setReference b)) := .rule (.reference hb)
    simpa (disch := decide) [setOutput, output, Item.parts, Item.partsOf, Expr.parts,
      IsPart.name] using ⟨hheader hlabel, hset⟩

/-- All that is written for a policy. -/
theorem parts_mainBlocks [Machine] (h : p.IsRegular) {main : List Item}
    (hmain : mainBlocks p = .ok main) :
    ∀ part ∈ Item.partsOf main, IsPart p p.statementKeys part := by
  obtain ⟨rules, hrules, rfl⟩ := mainBlocks_eq_ok_iff.mp hmain
  have hresources : ∀ part ∈ Item.partsOf ((orderedSets p).map (setResource p)),
      IsPart p p.statementKeys part :=
    Item.forall_mem_partsOf.mpr
      (List.forall_mem_map.mpr fun b hb ↦ parts_setResource (plain_setLabel h.references hb))
  simp only [allBlocks, Item.partsOf_append, Item.partsOf_singleton, List.forall_mem_append]
  exact ⟨⟨⟨⟨parts_providerBlocks, hresources⟩, parts_aclBlock (parts_rules h hrules)⟩,
    parts_associationResources⟩, parts_loggingResources⟩

end Parts

theorem forall_label {P : String → Prop} (hall : ∀ k : Category, ∀ label ∈ label? k, P label)
    {b : BackingSet} (hb : ∃ k, label? k = some (setLabel b)) : P (setLabel b) :=
  hb.elim fun k hk ↦ hall k _ hk

theorem isWord_of_vocabulary {s : String} (h : s ∈ vocabulary) : IsWord s.toList := by
  have hall : ∀ s ∈ vocabulary, IsWord s.toList := by decide +kernel
  exact hall s h

theorem plain_of_fixedTexts {s : String} (h : s ∈ fixedTexts) : Plain s.toList := by
  have hall : ∀ s ∈ fixedTexts, Plain s.toList := by decide +kernel
  exact hall s h

def isReferenceChar (c : Char) : Bool :=
  c.isLower || c.isDigit || c == '_' || c == '.'

theorem forall_mem_setReference {b : BackingSet} (hb : ∃ k, label? k = some (setLabel b)) :
    ∀ c ∈ (setReference b).toList, isReferenceChar c = true := by
  have hlabel : ∀ c ∈ (setLabel b).toList, isReferenceChar c = true :=
    forall_label (P := fun label ↦ ∀ c ∈ label.toList, isReferenceChar c = true)
      (by intro k; cases k <;> decide) hb
  have htype : ∀ c ∈ (setType b).toList, isReferenceChar c = true := by
    cases b with
    | ip set => exact show ∀ c ∈ "aws_wafv2_ip_set".toList, _ by decide
    | regex set => exact show ∀ c ∈ "aws_wafv2_regex_pattern_set".toList, _ by decide
  simp only [setReference, String.toList_append, List.forall_mem_append]
  exact ⟨⟨⟨htype, by decide⟩, hlabel⟩, by decide⟩

theorem forall_mem_aclReference (name : String) {part : String} (h : part ∈ ["arn", "id"]) :
    ∀ c ∈ ("aws_wafv2_web_acl." ++ aclLabel name ++ "." ++ part).toList,
      isReferenceChar c = true := by
  have hkept : ∀ cs : List Char, ∀ c ∈ cs.filter fun c ↦ c.isLower || c.isDigit || c == '_',
      isReferenceChar c = true := by
    intro cs c hc
    rw [isReferenceChar, (List.mem_filter.mp hc).2, Bool.true_or]
  have hlabel : ∀ c ∈ (aclLabel name).toList, isReferenceChar c = true := by
    simp only [aclLabel, String.toList_ofList]
    split
    · exact hkept _
    · exact List.forall_mem_append.mpr ⟨by decide, hkept _⟩
  have hpart : ∀ c ∈ part.toList, isReferenceChar c = true := by
    revert part
    decide
  simp only [String.toList_append, List.forall_mem_append]
  exact ⟨⟨⟨by decide, hlabel⟩, by decide⟩, hpart⟩

theorem isWord_of_references {cs : List Char} (hne : cs ≠ [])
    (h : ∀ c ∈ cs, isReferenceChar c = true) : IsWord cs :=
  ⟨hne, fun c hc ↦ isWordChar_of (by decide) (h c hc)⟩

theorem isWord_setReference {b : BackingSet} (hb : ∃ k, label? k = some (setLabel b)) :
    IsWord (setReference b).toList :=
  isWord_of_references (by simp [setReference]) (forall_mem_setReference hb)

theorem isWord_aclReference (name : String) {part : String} (h : part ∈ ["arn", "id"]) :
    IsWord ("aws_wafv2_web_acl." ++ aclLabel name ++ "." ++ part).toList :=
  isWord_of_references (by simp) (forall_mem_aclReference name h)

theorem not_mem_of_isWord {cs : List Char} (h : IsWord cs) : '"' ∉ cs :=
  fun hmem ↦ absurd (h.2 _ hmem) (by decide)

end Terraform

theorem Hcl.Part.IsOfData.tidy {keys : List String} (hkeys : ∀ key ∈ keys, '"' ∉ key.toList)
    {part : Part} (h : part.IsOfData keys) : part.Tidy := by
  cases part with
  | name s =>
    obtain ⟨key, hkey, rfl⟩ := h
    exact not_mem_snakeCase (by decide) (hkeys key hkey)
  | header s =>
    obtain ⟨key, hkey, rfl | rfl⟩ := h
    · exact tidy_header (not_mem_snakeCase (by decide) (hkeys key hkey))
    · exact tidy_header (not_mem_singular (not_mem_snakeCase (by decide) (hkeys key hkey)))
  | word s => exact h.elim
  | bare s => exact Terraform.not_mem_of_isWord h.isWord

namespace Terraform

section

variable {sets : List BackingSet} {keys : List String} {part : Part}
  (hsets : ∀ b ∈ sets, ∃ k, label? k = some (setLabel b))

include hsets

theorem IsRulePart.tidy (hkeys : ∀ key ∈ keys, '"' ∉ key.toList)
    (h : IsRulePart sets keys part) : part.Tidy := by
  cases h with
  | name mem => exact not_mem_of_isWord (isWord_of_vocabulary mem)
  | header mem => exact Part.tidy_header (not_mem_of_isWord (isWord_of_vocabulary mem))
  | word mem => exact plain_of_fixedTexts mem
  | scalar h => exact not_mem_of_isWord h.isWord
  | reference mem => exact not_mem_of_isWord (isWord_setReference (hsets _ mem))
  | data h => exact h.tidy hkeys

theorem IsRulePart.readable_or (h : IsRulePart sets keys part) :
    part.Readable ∨ part.IsOfData keys := by
  cases h with
  | name mem => exact .inl (isWord_of_vocabulary mem)
  | header mem => exact .inl (Part.readable_header (isWord_of_vocabulary mem).2)
  | word mem => exact .inl (plain_of_fixedTexts mem).inside
  | scalar h => exact .inl h.isWord
  | reference mem => exact .inl (isWord_setReference (hsets _ mem))
  | data h => exact .inr h

theorem IsRulePart.readable (hkeys : ∀ key ∈ keys, IsName key)
    (h : IsRulePart sets keys part) : part.Readable :=
  (h.readable_or hsets).elim id (·.readable hkeys)

end

theorem readLines_labels {labels : List String} (h : ∀ l ∈ labels, Plain l.toList) :
    ReadLines (labels.map fun l ↦ "\"" ++ l ++ "\"") (labels.map fun l ↦ "\"" ++ l ++ "\"")
      (labels.map String.toList) := by
  induction labels with
  | nil => exact .nil
  | cons l labels ih =>
    obtain ⟨hl, hlabels⟩ := List.forall_mem_cons.mp h
    have hquoted : Reads ("\"" ++ l ++ "\"").toList ("\"" ++ l ++ "\"").toList [l.toList] := by
      simpa using Reads.quoted hl.inside hl.inside
    exact .cons hquoted (ih hlabels)

theorem tidy_header {kind : String} {labels : List String} (hkind : '"' ∉ kind.toList)
    (h : ∀ l ∈ labels, Plain l.toList) : (Part.header (header kind labels)).Tidy := by
  have hlines := ReadLines.cons (.of_not_mem hkind) (readLines_labels h)
  have hreads := hlines.intercalate (show '"' ∉ " ".toList by decide)
  refine ⟨hreads.closed_left, ?_⟩
  rw [header, hreads.literals_eq]
  simpa using h

theorem readable_header {kind : String} {labels : List String} (hkind : IsWord kind.toList)
    (h : ∀ l ∈ labels, Plain l.toList) : (Part.header (header kind labels)).Readable := by
  have hlexes := lexes_header hkind fun l hl ↦ (h l hl).inside
  refine ⟨hlexes.closed, .inl ?_⟩
  rw [hlexes.tokens_eq]
  exact List.forall_mem_cons.mpr ⟨trivial, List.forall_mem_map.mpr fun _ _ ↦ trivial⟩

namespace IsPart

variable {p : Policy} {keys : List String} {part : Part} (h : p.ReferencesByCategory)

include h

theorem tidy (hkeys : ∀ key ∈ keys, '"' ∉ key.toList) (hpart : IsPart p keys part) :
    part.Tidy := by
  cases hpart with
  | rule hrule =>
    exact hrule.tidy (fun b hb ↦ (label?_setLabel h hb).imp fun _ ↦ And.right) hkeys
  | provider => exact Part.tidy_header (by decide)
  | labelled hkind hplain =>
    refine Terraform.tidy_header ?_ hplain
    clear hplain
    revert hkind
    decide +revert
  | region => exact Part.tidy_bare_iff.mpr (by decide)
  | acl mem => exact not_mem_of_isWord (isWord_aclReference p.name mem)
  | logs => exact Part.tidy_bare_iff.mpr (by decide)

/-- What does not come from data of the user can be read. -/
theorem readable_or (hpart : IsPart p keys part) :
    part.Readable ∨ part.IsOfData keys := by
  cases hpart with
  | rule hrule => exact hrule.readable_or fun b hb ↦ (label?_setLabel h hb).imp fun _ ↦ And.right
  | provider => exact .inl ⟨closed_of_not_mem (by decide), .inr ⟨"aws".toList, by decide⟩⟩
  | labelled hkind hplain =>
    refine .inl (Terraform.readable_header ?_ hplain)
    clear hplain
    decide +revert
  | region => exact .inl (show IsWord "var.aws_region".toList by decide)
  | acl mem => exact .inl (isWord_aclReference p.name mem)
  | logs => exact .inl (show IsWord "aws_cloudwatch_log_group.waf_logs.arn".toList by decide)

theorem readable (hkeys : ∀ key ∈ keys, IsName key) (hpart : IsPart p keys part) :
    part.Readable :=
  (hpart.readable_or h).elim id (·.readable hkeys)

/-- Whatever a word of a policy refers to is one of its resources. -/
theorem target_mem {s : String} (hpart : IsPart p keys (.bare s)) {type label : List Char}
    (htarget : target? s.toList = some (type, label)) :
    ∃ a ∈ addresses p, a.1.toList = type ∧ a.2.toList = label := by
  have hscalar : ¬ IsScalarText s := fun hs ↦ by
    simp [target?_eq_none hs.head?_ne] at htarget
  cases hpart with
  | rule hrule =>
    cases hrule with
    | scalar hs | data hs => exact absurd hs hscalar
    | @reference b hb =>
      have htype : '.' ∉ (setType b).toList ∧ "aws_".toList <+: (setType b).toList := by
        cases b <;> simp [setType]
      have hset : (setReference b).toList =
          (setType b).toList ++ '.' :: ((setLabel b).toList ++ '.' :: "arn".toList) := by
        simp [setReference]
      rw [hset, target?_eq_some htype.1 (not_mem_setLabel h hb) htype.2] at htarget
      obtain ⟨rfl, rfl⟩ := Prod.mk.inj (Option.some.inj htarget)
      refine ⟨(setType b, setLabel b), ?_, rfl, rfl⟩
      simp only [addresses, List.mem_append, List.mem_map]
      exact .inl (.inl (.inl ⟨b, hb, rfl⟩))
  | region =>
    have hnone : target? "var.aws_region".toList = none := target?_eq_none (by decide)
    rw [hnone] at htarget
    cases htarget
  | @acl part mem =>
    have hacl : ("aws_wafv2_web_acl." ++ aclLabel p.name ++ "." ++ part).toList =
        "aws_wafv2_web_acl".toList ++ '.' :: ((aclLabel p.name).toList ++ '.' :: part.toList) := by
      simp
    rw [hacl, target?_eq_some (by decide) (not_mem_aclLabel p.name) (by decide)] at htarget
    obtain ⟨rfl, rfl⟩ := Prod.mk.inj (Option.some.inj htarget)
    exact ⟨("aws_wafv2_web_acl", aclLabel p.name), by simp [addresses], rfl, rfl⟩
  | logs enabled =>
    rw [show target? "aws_cloudwatch_log_group.waf_logs.arn".toList =
      some ("aws_cloudwatch_log_group".toList, "waf_logs".toList) by decide] at htarget
    obtain ⟨rfl, rfl⟩ := Prod.mk.inj (Option.some.inj htarget)
    exact ⟨("aws_cloudwatch_log_group", "waf_logs"), by simp [addresses, enabled], rfl, rfl⟩

end IsPart

theorem tidy_mainBlocks [Machine] {p : Policy} (h : p.IsRegular)
    (hkeys : ∀ key ∈ p.statementKeys, '"' ∉ key.toList) {main : List Item}
    (hmain : mainBlocks p = .ok main) : ∀ part ∈ Item.partsOf main, part.Tidy :=
  fun part hpart ↦ (parts_mainBlocks h hmain part hpart).tidy h.references hkeys

theorem tidy_outputBlocks {p : Policy} (h : p.IsRegular) :
    ∀ part ∈ Item.partsOf (outputBlocks p), part.Tidy := by
  have hkeys : ∀ key ∈ ([] : List String), '"' ∉ key.toList := List.forall_mem_nil _
  exact fun part hpart ↦ (parts_outputBlocks h part hpart).tidy h.references hkeys

end Terraform

namespace Config

variable [Machine] {registry : Registry} {c : Config} {p : Policy}

theorem hasFixedPosition_of_compile (h : c.compile registry = .ok p) {r : Rule}
    (hr : r ∈ p.rules) : r.statement.HasFixedPosition := by
  by_cases hkind : r.statement.kind = "custom"
  · generalize r.statement = st at hkind
    cases st <;> first
      | trivial
      | simp [Statement.kind] at hkind
  · exact (isBuiltIn_of_compile h hr hkind).statement.hasFixedPosition

theorem isRegular_of_compile (h : c.compile registry = .ok p) : p.IsRegular where
  references := referencesByCategory_of_compile h
  positions _ := hasFixedPosition_of_compile h

end Config

end WebAcl
