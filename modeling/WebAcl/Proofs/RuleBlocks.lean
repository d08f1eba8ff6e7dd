import WebAcl.Proofs.HclReader
import WebAcl.Proofs.LineBreaks
import WebAcl.Proofs.MadeStatements
import WebAcl.Proofs.PlainData
import WebAcl.Proofs.Reports

namespace WebAcl

open Hcl Outcome Text

theorem Rule.HasOneOutcome.cases {r : Rule} (h : r.HasOneOutcome) :
    (∃ a, r.action = some a ∧ r.override = none) ∨
      ∃ o, r.action = none ∧ r.override = some o := by
  unfold HasOneOutcome at h
  cases ha : r.action <;> cases ho : r.override <;> simp [ha, ho] at h ⊢

theorem Aggregation.eq_of_text_eq {a b : Aggregation} (h : Choice.text a = Choice.text b) :
    a = b := by
  have hall : ∀ a b : Aggregation, Choice.text a = Choice.text b → a = b := by
    intro a b
    cases a <;> cases b <;> decide
  exact hall a b h

/-- Statements that refer to the same set, whatever it holds, and say the same otherwise. -/
inductive Statement.Agree : Statement → Statement → Prop
  | ipSet {s t : IpSet} (id_eq : s.logicalId = t.logicalId) (forwarded : Option ForwardedIp) :
    Agree (.ipSet s forwarded) (.ipSet t forwarded)
  | regexSet {s t : RegexSet} (id_eq : s.logicalId = t.logicalId) (field : MatchField)
      (headerName : Option String) :
    Agree (.regexSet s field headerName) (.regexSet t field headerName)
  | managedGroup (name vendor : String) (excluded : List String) :
    Agree (.managedGroup name vendor excluded) (.managedGroup name vendor excluded)
  | rateBased (limit : Int) (aggregation : Aggregation) (forwarded : Option ForwardedIp) :
    Agree (.rateBased limit aggregation forwarded) (.rateBased limit aggregation forwarded)

structure Rule.Agree (r s : Rule) : Prop where
  name : r.name = s.name
  priority : r.priority = s.priority
  statement : r.statement.Agree s.statement
  action : r.action = s.action
  override : r.override = s.override
  visibility : r.visibility = s.visibility

namespace Statement.Agree

variable {st st' : Statement}

theorem toValue_eq (h : st.Agree st') :
    st.toValue Resolver.byLogicalId = st'.toValue Resolver.byLogicalId := by
  cases h with
  | ipSet h forwarded =>
    simp only [toValue, Resolver.byLogicalId, BackingSet.logicalId, h]
  | regexSet h field headerName =>
    simp only [toValue, Resolver.byLogicalId, BackingSet.logicalId, h]
  | managedGroup | rateBased => rfl

theorem statementItems_eq [Machine] (h : st.Agree st') :
    Terraform.statementItems st = Terraform.statementItems st' := by
  cases h with
  | ipSet h forwarded =>
    simp only [Terraform.statementItems, Terraform.ipSetItems, Terraform.setReference,
      Terraform.setType, Terraform.setLabel, BackingSet.logicalId, h]
  | regexSet h field headerName =>
    simp only [Terraform.statementItems, Terraform.regexSetItems, Terraform.setReference,
      Terraform.setType, Terraform.setLabel, BackingSet.logicalId, h]
  | managedGroup | rateBased => rfl

end Statement.Agree

namespace Rule.Agree

variable {r s : Rule}

theorem toValue_eq (h : r.Agree s) :
    r.toValue Resolver.byLogicalId = s.toValue Resolver.byLogicalId := by
  rw [toValue, toValue, h.name, h.priority, h.statement.toValue_eq, h.action, h.override,
    h.visibility]

theorem ruleItems_eq [Machine] (h : r.Agree s) : Terraform.ruleItems r = Terraform.ruleItems s := by
  simp only [Terraform.ruleItems, Terraform.outcomeBlock, h.name, h.priority,
    h.statement.statementItems_eq, h.action, h.override, h.visibility]

end Rule.Agree

namespace Terraform

theorem tokens_name {s : String} (h : s ∈ vocabulary) : Hcl.tokens s.toList = [.word s.toList] :=
  tokens_of_isWord (isWord_of_vocabulary h)

theorem label?_of_madeBy {c : Config} {k : Category} {st : Statement} (hmade : st.MadeBy c k) :
    ∀ b ∈ st.references, ∃ k, label? k = some (setLabel b) := by
  cases hmade with
  | forwardedSet id | sourceSet id | paths id | userAgents id =>
    exact List.forall_mem_singleton.mpr ⟨k, setLabel_eq id⟩
  | _ => exact List.forall_mem_nil _

theorem readable_statementItems [Machine] {c : Config} {k : Category} {st : Statement}
    {items : List Item} (hmade : st.MadeBy c k) (h : statementItems st = .ok items) :
    ∀ part ∈ Item.partsOf items, part.Readable := by
  have hparts := parts_statementItems (hmade.hasFixedPosition) h
  rw [hmade.keys_eq] at hparts
  exact fun part hpart ↦
    (hparts part hpart).readable (label?_of_madeBy hmade) (List.forall_mem_nil _)

theorem readable_ruleItems [Machine] {c : Config} {r : Rule} {items : List Item}
    (hr : r.IsBuiltIn c) (h : ruleItems r = .ok items) :
    ∀ part ∈ Item.partsOf items, part.Readable := by
  have hparts := parts_ruleItems (hr.statement.hasFixedPosition) h
  rw [hr.statement.keys_eq] at hparts
  exact fun part hpart ↦
    (hparts part hpart).readable (label?_of_madeBy hr.statement) (List.forall_mem_nil _)

def exclusionNode (name : String) : Node :=
  .block [.word "rule_action_override".toList] [
    .attribute "name".toList (.literal (escape name.toList)),
    .block [.word "action_to_use".toList] [.block [.word "count".toList] []]]

theorem nodesOf_exclusions (excluded : List String) :
    Item.nodesOf (excluded.flatMap exclusionItems) = excluded.map exclusionNode := by
  induction excluded with
  | nil => rfl
  | cons name excluded ih =>
    simp (disch := decide) only [List.flatMap_cons, exclusionItems, List.cons_append,
      List.nil_append, Item.nodesOf, Item.nodes, Item.single, tokens_name, ih]
    rfl

theorem exclusionNode_injective : Function.Injective exclusionNode := by
  intro name name' h
  simpa [exclusionNode, escape_toList_inj] using h

theorem logicalId_eq_of_setReference_eq (b b' : BackingSet) {k k' : Category}
    (hk : k.setId? = some b.logicalId) (hk' : k'.setId? = some b'.logicalId)
    (htype : setType b = setType b') (h : (setReference b).toList = (setReference b').toList) :
    b.logicalId = b'.logicalId := by
  have hlabel : setLabel b = setLabel b' :=
    String.toList_inj.mp (by simpa [setReference, htype] using h)
  obtain rfl := eq_of_label? (setLabel_eq hk) (hlabel ▸ setLabel_eq hk')
  exact Option.some.inj (hk.symm.trans hk')

theorem tokens_conditions :
    Hcl.tokens "ip_set_reference_statement".toList =
      [.word "ip_set_reference_statement".toList] ∧
    Hcl.tokens "regex_pattern_set_reference_statement".toList =
      [.word "regex_pattern_set_reference_statement".toList] ∧
    Hcl.tokens "managed_rule_group_statement".toList =
      [.word "managed_rule_group_statement".toList] ∧
    Hcl.tokens "rate_based_statement".toList = [.word "rate_based_statement".toList] :=
  ⟨tokens_name (by decide), tokens_name (by decide), tokens_name (by decide),
    tokens_name (by decide)⟩

theorem agree_of_nodesOf_eq [Machine] {c c' : Config} {k k' : Category} {st st' : Statement}
    {items items' : List Item} (hmade : st.MadeBy c k) (hmade' : st'.MadeBy c' k')
    (h : statementItems st = .ok items) (h' : statementItems st' = .ok items')
    (heq : Item.nodesOf items = Item.nodesOf items') : st.Agree st' := by
  -- conditions of different kinds have different names
  cases hmade <;> cases hmade' <;>
    obtain rfl := Except.ok.inj h <;> obtain rfl := Except.ok.inj h' <;>
    simp only [ipSetItems, regexSetItems, rateBasedItems, managedGroupItems, Item.nodesOf,
      Item.nodes, List.cons_append, List.nil_append, List.cons.injEq, Node.block.injEq,
      tokens_conditions, Token.word.injEq, String.toList_inj, String.reduceEq, false_and,
      and_true, true_and] at heq
  case forwardedSet.forwardedSet set id set' id' | sourceSet.sourceSet set id set' id' =>
    have hreference : (setReference (.ip set)).toList = (setReference (.ip set')).toList := by
      simpa [Item.single, Item.nodes, Expr.term] using heq
    exact .ipSet (logicalId_eq_of_setReference_eq (.ip set) (.ip set') id id' rfl hreference) _
  case forwardedSet.sourceSet | sourceSet.forwardedSet => simp [Item.single, Item.nodes] at heq
  case paths.paths set id set' id' | userAgents.userAgents set id set' id' =>
    have hreference : (setReference (.regex set)).toList = (setReference (.regex set')).toList := by
      simpa [Item.single, Item.nodes, Expr.term] using heq
    exact .regexSet
      (logicalId_eq_of_setReference_eq (.regex set) (.regex set') id id' rfl hreference) _ _
  case paths.userAgents | userAgents.paths =>
    simp [fieldItem, Item.single, Item.nodes, Item.nodesOf] at heq
  case managedGroup.managedGroup =>
    simp [Expr.term, nodesOf_exclusions, escape_toList_inj] at heq
    obtain ⟨rfl, rfl, hexcluded⟩ := heq
    obtain rfl := List.map_injective_iff.mpr exclusionNode_injective hexcluded
    exact .managedGroup _ _ _
  case rateBased.rateBased limit _ limit' _ =>
    simp [Expr.term] at heq
    obtain ⟨hthreshold, haggregation, -⟩ := heq
    have hthreshold : limit.threshold = limit'.threshold :=
      Number.eq_of_toString_eq (String.toList_inj.mp hthreshold)
    have haggregation : limit.aggregation = limit'.aggregation :=
      Aggregation.eq_of_text_eq (String.toList_inj.mp haggregation)
    rw [Config.RateLimit.forwarded, Config.RateLimit.forwarded, hthreshold, haggregation]
    exact .rateBased _ _ _

theorem outcome_eq_of_nodes_eq {r s : Rule} (hr : r.HasOneOutcome) (hs : s.HasOneOutcome)
    {outcome outcome' : Item} (h : outcomeBlock r = .ok outcome)
    (h' : outcomeBlock s = .ok outcome') (heq : outcome.nodes = outcome'.nodes) :
    r.action = s.action ∧ r.override = s.override := by
  have haction : ∀ a b : RuleAction, (lowered a).toList = (lowered b).toList → a = b := by
    intro a b
    cases a <;> cases b <;> decide
  have hoverride : ∀ a b : OverrideAction, (lowered a).toList = (lowered b).toList → a = b := by
    intro a b
    cases a <;> cases b <;> decide
  have hheaders : Hcl.tokens "action".toList ≠ Hcl.tokens "override_action".toList := by
    rw [tokens_name (by decide), tokens_name (by decide)]
    decide
  unfold outcomeBlock at h h'
  obtain ⟨a, ha, ho⟩ | ⟨o, ha, ho⟩ := hr.cases <;>
    obtain ⟨b, hb, hp⟩ | ⟨q, hb, hp⟩ := hs.cases <;>
    simp only [ha, ho, hb, hp, Except.ok.injEq] at h h' <;> subst h h' <;>
    simp only [Item.nodes, Item.nodesOf, List.append_nil, List.cons.injEq, Node.block.injEq,
      Token.word.injEq, and_true, true_and] at heq
  · rw [ha, ho, hb, hp, haction a b heq]
    exact ⟨rfl, rfl⟩
  · exact absurd heq.1 hheaders
  · exact absurd heq.1.symm hheaders
  · rw [ha, ho, hb, hp, hoverride o q heq]
    exact ⟨rfl, rfl⟩

theorem visibility_eq_of_nodes_eq {v w : Visibility}
    (h : (visibilityBlock v).nodes = (visibilityBlock w).nodes) : v = w := by
  have htruth : ∀ a b : Bool, (truth a).term = (truth b).term → a = b := by
    intro a b
    cases a <;> cases b <;> simp [truth, Expr.term]
  have hfields : (truth v.metricsEnabled).term = (truth w.metricsEnabled).term ∧
      v.metricName = w.metricName ∧
      (truth v.samplingEnabled).term = (truth w.samplingEnabled).term := by
    simpa [visibilityBlock, Item.nodes, Item.nodesOf, Expr.term, escape_toList_inj] using h
  obtain ⟨hmetrics, hname, hsampling⟩ := hfields
  cases v
  cases w
  rw [Visibility.mk.injEq]
  exact ⟨hname, htruth _ _ hmetrics, htruth _ _ hsampling⟩

theorem length_outcome {r : Rule} {outcome : Item} (h : outcomeBlock r = .ok outcome) :
    outcome.nodes.length = 1 := by
  unfold outcomeBlock at h
  split at h <;> simp at h <;> subst h <;> rfl

/-- Rules with the same block agree. -/
theorem agree_of_nodesOf_ruleItems_eq [Machine] {c c' : Config} {r s : Rule} (hr : r.IsBuiltIn c)
    (hs : s.IsBuiltIn c') {items items' : List Item} (h : ruleItems r = .ok items)
    (h' : ruleItems s = .ok items') (heq : Item.nodesOf items = Item.nodesOf items') :
    r.Agree s := by
  obtain ⟨outcome, statement, houtcome, hstatement, -, rfl⟩ := ruleItems_eq_ok_iff.mp h
  obtain ⟨outcome', statement', houtcome', hstatement', -, rfl⟩ := ruleItems_eq_ok_iff.mp h'
  have hparts : r.name = s.name ∧ (toString r.priority).toList = (toString s.priority).toList ∧
      outcome.nodes ++ (.block (Hcl.tokens "statement".toList) (Item.nodesOf statement) ::
        (visibilityBlock r.visibility).nodes) =
      outcome'.nodes ++ (.block (Hcl.tokens "statement".toList) (Item.nodesOf statement') ::
        (visibilityBlock s.visibility).nodes) := by
    simpa [ruleBlock, Item.nodesOf, Item.nodes, Expr.term, Item.nodesOf_orBlank,
      escape_toList_inj] using heq
  obtain ⟨hname, hpriority, hrest⟩ := hparts
  obtain ⟨hnodes, hrest⟩ := List.append_inj hrest
    ((length_outcome houtcome).trans (length_outcome houtcome').symm)
  obtain ⟨hcondition, hvisibility⟩ := List.cons.inj hrest
  obtain ⟨-, hcondition⟩ := Node.block.inj hcondition
  obtain ⟨haction, hoverride⟩ :=
    outcome_eq_of_nodes_eq hr.hasOneOutcome hs.hasOneOutcome houtcome houtcome' hnodes
  exact {
    name := hname
    priority := Number.eq_of_toString_eq (String.toList_inj.mp hpriority)
    statement := agree_of_nodesOf_eq hr.statement hs.statement hstatement hstatement' hcondition
    action := haction
    override := hoverride
    visibility := visibility_eq_of_nodes_eq hvisibility }

theorem exists_outcomeBlock {r : Rule} (h : r.HasOneOutcome) :
    ∃ outcome, outcomeBlock r = .ok outcome := by
  unfold outcomeBlock
  obtain ⟨a, ha, ho⟩ | ⟨o, ha, ho⟩ := h.cases <;> rw [ha, ho] <;> exact ⟨_, rfl⟩

theorem exists_ruleItems [Machine] {c : Config} {r : Rule} (hr : r.IsBuiltIn c) :
    ∃ items, ruleItems r = .ok items := by
  have hstatement : ∃ statement, statementItems r.statement = .ok statement := by
    have hmade := hr.statement
    generalize r.statement = st at hmade
    cases hmade <;> exact ⟨_, rfl⟩
  have hpriority := Number.isWritable_of_small hr.priority.1 hr.priority.2
  exact exists_ruleItems_iff.mpr ⟨exists_outcomeBlock hr.hasOneOutcome, hstatement, hpriority⟩

theorem agree_of_ruleText_eq [Machine] {c c' : Config} {r s : Rule} (hr : r.IsBuiltIn c)
    (hs : s.IsBuiltIn c') (heq : ruleText r = ruleText s) : r.Agree s := by
  obtain ⟨items, h⟩ := exists_ruleItems hr
  obtain ⟨items', h'⟩ := exists_ruleItems hs
  rw [ruleText, ruleText, h, h'] at heq
  refine agree_of_nodesOf_ruleItems_eq hr hs h h' ?_
  exact nodesOf_eq_of_render_eq (readable_ruleItems hr h) (readable_ruleItems hs h')
    (Except.ok.inj heq)

end Terraform

theorem Statement.agree_of_same {c c' : Config} {k k' : Category} {st st' : Statement}
    (hmade : st.MadeBy c k) (hmade' : st'.MadeBy c' k')
    (h : (st.toValue Resolver.byLogicalId).same (st'.toValue Resolver.byLogicalId) = true) :
    st.Agree st' := by
  -- statements of different kinds have different names
  cases hmade <;> cases hmade' <;>
    simp only [Statement.toValue, Value.same_single, String.reduceEq, false_and, true_and,
      Resolver.byLogicalId, BackingSet.logicalId] at h
  case forwardedSet.forwardedSet set _ set' _ | sourceSet.sourceSet set _ set' _ =>
    have hid : (Value.str set.logicalId).same (.str set'.logicalId) = true :=
      Value.same_of_mem h (by simp) "Arn" (by simp) (by simp)
    exact .ipSet (by simpa [Value.same_str] using hid) _
  case paths.paths set _ set' _ | userAgents.userAgents set _ set' _ =>
    have hid : (Value.str set.logicalId).same (.str set'.logicalId) = true :=
      Value.same_of_mem h (by simp) "Arn" (by simp) (by simp)
    exact .regexSet (by simpa [Value.same_str] using hid) _ _
  case forwardedSet.sourceSet | sourceSet.forwardedSet =>
    simpa using (Value.same_record h).1
  case paths.userAgents | userAgents.paths =>
    have hfield := Value.same_of_mem h (by simp) "FieldToMatch"
      (List.mem_cons_of_mem _ List.mem_cons_self) (List.mem_cons_of_mem _ List.mem_cons_self)
    simp [fieldToMatch, Value.same_single] at hfield
  case managedGroup.managedGroup name vendor excluded name' vendor' excluded' =>
    have hname : (Value.str name).same (.str name') = true :=
      Value.same_of_mem h (by simp) "Name" (by simp) (by simp)
    have hvendor : (Value.str vendor).same (.str vendor') = true :=
      Value.same_of_mem h (by simp) "VendorName" (by simp) (by simp)
    have hexcluded : (Value.list (excluded.map fun n ↦ .record [("Name", .str n)])).same
        (.list (excluded'.map fun n ↦ .record [("Name", .str n)])) = true :=
      Value.same_of_mem h (by simp) "ExcludedRules" (by simp) (by simp)
    rw [Value.same_str, beq_iff_eq] at hname hvendor
    rw [Value.same] at hexcluded
    subst hname hvendor
    obtain rfl := Value.sameItems_map (by simp [Value.same_single, Value.same_str]) hexcluded
    exact .managedGroup _ _ _
  case rateBased.rateBased limit hlimit limit' hlimit' =>
    have hnodup : ∀ f : Option ForwardedIp, (([("AggregateKeyType",
        Value.str (Choice.text limit'.aggregation)), ("Limit", .int limit'.threshold)] ++
          (f.map fun f ↦ ("ForwardedIPConfig", f.toValue)).toList).map (·.1)).Nodup := by
      intro f
      cases f <;> simp
    have haggregation : (Value.str (Choice.text limit.aggregation)).same
        (.str (Choice.text limit'.aggregation)) = true :=
      Value.same_of_mem h (hnodup _) "AggregateKeyType" (by simp) (by simp)
    have hthreshold : (Value.int limit.threshold).same (.int limit'.threshold) = true :=
      Value.same_of_mem h (hnodup _) "Limit" (by simp) (by simp)
    rw [Value.same_str, beq_iff_eq] at haggregation
    rw [Config.RateLimit.forwarded, Config.RateLimit.forwarded, Value.same_int.mp hthreshold,
      Aggregation.eq_of_text_eq haggregation]
    exact .rateBased _ _ _

open Value in
theorem Statement.isPlain_toValue {c : Config} {k : Category} {st : Statement}
    (hmade : st.MadeBy c k) (resolve : Resolver) (hresolve : ∀ b, (resolve b).IsPlain IsName) :
    (st.toValue resolve).IsPlain IsName := by
  have hleaf : (∀ s, (str s).IsPlain IsName) ∧ ∀ i, (int i).IsPlain IsName :=
    ⟨fun _ ↦ trivial, fun _ ↦ trivial⟩
  cases hmade with
  | rateBased =>
    unfold Config.RateLimit.forwarded
    split <;> simp +decide [toValue, ForwardedIp.toValue, isPlain_record, hleaf]
  | _ =>
    simp +decide [toValue, ForwardedIp.toValue, fieldToMatch, isPlain_record, isPlain_list,
      hresolve, hleaf]

theorem Visibility.eq_of_same {v w : Visibility} (h : v.toValue.same w.toValue = true) : v = w := by
  have hmetrics : (Value.bool v.metricsEnabled).same (.bool w.metricsEnabled) = true :=
    Value.same_of_mem h (by simp) "CloudWatchMetricsEnabled" (by simp) (by simp)
  have hname : (Value.str v.metricName).same (.str w.metricName) = true :=
    Value.same_of_mem h (by simp) "MetricName" (by simp) (by simp)
  have hsampling : (Value.bool v.samplingEnabled).same (.bool w.samplingEnabled) = true :=
    Value.same_of_mem h (by simp) "SampledRequestsEnabled" (by simp) (by simp)
  rw [Value.same_bool] at hmetrics hsampling
  rw [Value.same_str, beq_iff_eq] at hname
  cases v
  cases w
  simp_all

namespace Rule

/-- The fields of a rule as the firewall's API takes it. -/
def fields (resolve : Resolver) (r : Rule) : List (String × Value) :=
  [("Name", .str r.name), ("Priority", .int r.priority),
      ("Statement", r.statement.toValue resolve)]
    ++ (r.action.map fun a ↦ ("Action", .record [(a.title, .record [])])).toList
    ++ (r.override.map fun o ↦ ("OverrideAction", .record [(o.title, .record [])])).toList
    ++ [("VisibilityConfig", r.visibility.toValue)]

theorem toValue_eq_record (resolve : Resolver) (r : Rule) :
    r.toValue resolve = .record (r.fields resolve) :=
  rfl

theorem nodup_fields (resolve : Resolver) (r : Rule) :
    ((r.fields resolve).map (·.1)).Nodup := by
  unfold fields
  cases r.action <;> cases r.override <;> simp

theorem outcome_eq_of_same {resolve : Resolver} {r s : Rule} (hr : r.HasOneOutcome)
    (hs : s.HasOneOutcome) (h : (r.toValue resolve).same (s.toValue resolve) = true) :
    r.action = s.action ∧ r.override = s.override := by
  have haction : ∀ a b : RuleAction, a.title = b.title → a = b := by
    intro a b
    cases a <;> cases b <;> decide
  have hoverride : ∀ a b : OverrideAction, a.title = b.title → a = b := by
    intro a b
    cases a <;> cases b <;> decide
  rw [toValue_eq_record, toValue_eq_record] at h
  obtain ⟨a, ha, hra⟩ | ⟨o, hro, ho⟩ := hr.cases
  · obtain ⟨w, hw, hsame⟩ := (Value.same_record h).2 "Action" (.record [(a.title, .record [])])
      (by simp [fields, ha])
    obtain ⟨b, hb, rfl⟩ : ∃ b, s.action = some b ∧ .record [(b.title, .record [])] = w := by
      simpa [fields] using hw
    have hsb : s.override = none := by simpa [HasOneOutcome, hb] using hs
    rw [ha, hb, hra, hsb, haction a b (Value.same_single.mp hsame).1]
    exact ⟨rfl, rfl⟩
  · obtain ⟨w, hw, hsame⟩ := (Value.same_record h).2 "OverrideAction"
      (.record [(o.title, .record [])]) (by simp [fields, ho])
    obtain ⟨p, hp, rfl⟩ : ∃ p, s.override = some p ∧ .record [(p.title, .record [])] = w := by
      simpa [fields] using hw
    have hsp : s.action = none := by simpa [HasOneOutcome, hp] using hs
    rw [hro, hsp, ho, hp, hoverride o p (Value.same_single.mp hsame).1]
    exact ⟨rfl, rfl⟩

theorem agree_of_same {c c' : Config} {r s : Rule} (hr : r.IsBuiltIn c) (hs : s.IsBuiltIn c')
    (h : (r.toValue Resolver.byLogicalId).same (s.toValue Resolver.byLogicalId) = true) :
    r.Agree s := by
  have houtcome := outcome_eq_of_same hr.hasOneOutcome hs.hasOneOutcome h
  rw [toValue_eq_record, toValue_eq_record] at h
  have hnodup := s.nodup_fields Resolver.byLogicalId
  have hname : (Value.str r.name).same (.str s.name) = true :=
    Value.same_of_mem h hnodup "Name" (by simp [fields]) (by simp [fields])
  have hpriority : (Value.int r.priority).same (.int s.priority) = true :=
    Value.same_of_mem h hnodup "Priority" (by simp [fields]) (by simp [fields])
  have hstatement : (r.statement.toValue Resolver.byLogicalId).same
      (s.statement.toValue Resolver.byLogicalId) = true :=
    Value.same_of_mem h hnodup "Statement" (by simp [fields]) (by simp [fields])
  have hvisibility : r.visibility.toValue.same s.visibility.toValue = true :=
    Value.same_of_mem h hnodup "VisibilityConfig" (by simp [fields]) (by simp [fields])
  exact {
    name := by simpa [Value.same_str] using hname
    priority := Value.same_int.mp hpriority
    statement := Statement.agree_of_same hr.statement hs.statement hstatement
    action := houtcome.1
    override := houtcome.2
    visibility := Visibility.eq_of_same hvisibility }

open Value in
theorem isPlain_toValue {c : Config} {r : Rule} (hr : r.IsBuiltIn c) :
    (r.toValue Resolver.byLogicalId).IsPlain IsName := by
  have hstatement := Statement.isPlain_toValue hr.statement Resolver.byLogicalId fun _ ↦ trivial
  have htitles : (∀ a : RuleAction, IsName a.title) ∧ ∀ o : OverrideAction, IsName o.title := by
    constructor <;> intro a <;> cases a <;> decide
  have hleaf : (∀ s, (str s).IsPlain IsName) ∧ (∀ i, (int i).IsPlain IsName) ∧
      ∀ b, (Value.bool b).IsPlain IsName :=
    ⟨fun _ ↦ trivial, fun _ ↦ trivial, fun _ ↦ trivial⟩
  rw [toValue_eq_record, isPlain_record, fields]
  cases r.action <;> cases r.override <;>
    simp +decide [Visibility.toValue, isPlain_record, hstatement, htitles, hleaf]

end Rule

namespace Config

variable {registry registry' : Registry} {c c' : Config} {p q : Policy} {r s : Rule}

/-- The texts of two rules that the user did not write are the same exactly if the firewall's API
takes the same data for them, and then the rules agree in all that they say. -/
theorem ruleText_eq_iff_same [Machine] (h : c.compile registry = .ok p)
    (h' : c'.compile registry' = .ok q)
    (hr : r ∈ p.rules) (hs : s ∈ q.rules) (hkind : r.statement.kind ≠ "custom")
    (hkind' : s.statement.kind ≠ "custom") :
    ∃ text text', Terraform.ruleText r = .ok text ∧ Terraform.ruleText s = .ok text' ∧
      (text = text' ↔
        (r.toValue Resolver.byLogicalId).same (s.toValue Resolver.byLogicalId) = true) ∧
      (text = text' ↔ r.Agree s) := by
  have hr := isBuiltIn_of_compile h hr hkind
  have hs := isBuiltIn_of_compile h' hs hkind'
  obtain ⟨items, hitems⟩ := Terraform.exists_ruleItems hr
  obtain ⟨items', hitems'⟩ := Terraform.exists_ruleItems hs
  have htext : Terraform.ruleText r = .ok (render 1 items) := by
    rw [Terraform.ruleText, hitems]
    rfl
  have htext' : Terraform.ruleText s = .ok (render 1 items') := by
    rw [Terraform.ruleText, hitems']
    rfl
  have hagree : render 1 items = render 1 items' ↔ r.Agree s := by
    constructor
    · intro heq
      exact Terraform.agree_of_ruleText_eq hr hs (by rw [htext, htext', heq])
    · intro hagree
      rw [hagree.ruleItems_eq, hitems'] at hitems
      rw [Except.ok.inj hitems]
  refine ⟨_, _, htext, htext', hagree.trans ⟨fun hagree ↦ ?_, Rule.agree_of_same hr hs⟩, hagree⟩
  rw [hagree.toValue_eq]
  exact Value.same_self (Rule.isPlain_toValue hs)

section

open UsualMachine

theorem ruleText_eq_iff_same_letting : ∃ p q r s,
    (letting "^/a").compile .builtIn = .ok p ∧ (letting "^/b").compile .builtIn = .ok q ∧
    r ∈ p.rules ∧ s ∈ q.rules ∧ r.statement.kind ≠ "custom" ∧ s.statement.kind ≠ "custom" ∧
    ∃ text text', Terraform.ruleText r = .ok text ∧ Terraform.ruleText s = .ok text' ∧
      (text = text' ↔
        (r.toValue Resolver.byLogicalId).same (s.toValue Resolver.byLogicalId) = true) ∧
      (text = text' ↔ r.Agree s) := by
  have hp := compile_letting (show PatternList.checkPattern _ "^/a" = .ok "^/a" by decide)
  have hq := compile_letting (show PatternList.checkPattern _ "^/b" = .ok "^/b" by decide)
  have hr : lettingRule "^/a" ∈ lettingRule "^/a" :: mandatoryRules := List.mem_cons_self
  have hs : lettingRule "^/b" ∈ lettingRule "^/b" :: mandatoryRules := List.mem_cons_self
  have hkind : (lettingRule "^/a").statement.kind ≠ "custom" := by decide
  have hkind' : (lettingRule "^/b").statement.kind ≠ "custom" := by decide
  exact ⟨_, _, _, _, hp, hq, hr, hs, hkind, hkind',
    ruleText_eq_iff_same hp hq hr hs hkind hkind'⟩

end

end Config

end WebAcl
