import WebAcl.Proofs.LogDestination
import WebAcl.Proofs.OrdinaryDepth
import WebAcl.Proofs.RuleBlocks
import WebAcl.Proofs.StatementContents

namespace WebAcl

open Hcl Outcome Text

namespace Hcl

/-- Nodes that differ in the order of attributes only. -/
inductive Rearranged : List Node → List Node → Prop
  | nil : Rearranged [] []
  | keep (name : List Char) (value : Term) {ns ms : List Node} (h : Rearranged ns ms) :
    Rearranged (.attribute name value :: ns) (.attribute name value :: ms)
  | block (header : List Token) {body body' ns ms : List Node} (hbody : Rearranged body body')
      (h : Rearranged ns ms) : Rearranged (.block header body :: ns) (.block header body' :: ms)
  | swap (name name' : List Char) (value value' : Term) (ns : List Node) :
    Rearranged (.attribute name value :: .attribute name' value' :: ns)
      (.attribute name' value' :: .attribute name value :: ns)
  | trans {ns ms ls : List Node} (h : Rearranged ns ms) (h' : Rearranged ms ls) : Rearranged ns ls

mutual

def Node.size : Node → Nat
  | .attribute .. => 1
  | .block _ body => Node.sizeOf body + 1

def Node.sizeOf : List Node → Nat
  | [] => 0
  | n :: ns => n.size + Node.sizeOf ns

end

theorem Rearranged.sizeOf_eq {ns ms : List Node} (h : Rearranged ns ms) :
    Node.sizeOf ns = Node.sizeOf ms := by
  induction h with
  | nil => rfl
  | keep name value h ih => rw [Node.sizeOf, Node.sizeOf, ih]
  | block header hbody h ihbody ih =>
    rw [Node.sizeOf, Node.sizeOf, Node.size, Node.size, ihbody, ih]
  | swap => simp only [Node.sizeOf, Node.size]
  | trans h h' ih ih' => exact ih.trans ih'

theorem sizeOf_map {α : Type} {f : α → Node} {n : Nat} (hf : ∀ a, (f a).size = n)
    (as : List α) : Node.sizeOf (as.map f) = n * as.length := by
  induction as with
  | nil => rfl
  | cons a as ih => rw [List.map_cons, Node.sizeOf, hf, ih, List.length_cons, Nat.mul_succ]; omega

end Hcl

namespace Terraform

/-- A statement becomes HCL, and the HCL is read as the given nodes. -/
def ReadsAs [Machine] (st : Statement) (nodes : List Node) : Prop :=
  ∃ items, statementItems st = .ok items ∧ ∀ depth, read (render depth items).toList = some nodes

variable {c : Config} {k : Category} {st : Statement}

theorem readsAs_of_madeBy [Machine] {items : List Item} (hmade : st.MadeBy c k)
    (h : statementItems st = .ok items) : ReadsAs st (Item.nodesOf items) :=
  ⟨items, h, fun depth ↦ read_render depth (readable_statementItems hmade h)⟩

theorem readsAs_ofBody [Machine] [Machine.IsRoomy] {es : List (Value × Value)}
    (hplain : (Value.map es).IsPlain IsName) (hwritable : (Value.map es).isWritable = true)
    (hnested : (Value.map es).nestedIn 16 = true) :
    ReadsAs (.ofBody (.map es)) (Content.nodes (contentsOf es)) := by
  have hthaw : Machine.thawing.fits 0 (Value.map es).freeze = true :=
    Machine.IsRoomy.thawing.fits ((Value.nestedIn_freeze 16 _).trans hnested)
  obtain ⟨items, hbody⟩ := exists_bodyOf_iff.mpr
    ⟨fits_of_nestedIn hnested, accepts_of_isPlain hplain hwritable⟩
  have hitems := bodyOf_eq_ok hbody
  have hread : ∀ depth, read (render depth items).toList = some (Content.nodes (contentsOf es)) :=
    fun depth ↦ by
      rw [read_render depth (readable_itemsOf hplain hitems), nodesOf_itemsOf hplain hitems]
  have hstatement : statementItems (.ofBody (.map es)) = .ok items := by
    rw [Statement.ofBody, statementItems, if_pos hthaw, Value.thaw_freeze hplain]
    exact hbody
  exact ⟨items, hstatement, hread⟩

def groupNode (name vendor : String) (rest : List Node) : Node :=
  .block [.word "managed_rule_group_statement".toList]
    (.attribute "name".toList (.literal (escape name.toList)) ::
      .attribute "vendor_name".toList (.literal (escape vendor.toList)) :: rest)

/-- How a rule was excluded before an override could let it count. -/
def formerExclusion (name : String) : Node :=
  .block [.word "excluded_rule".toList] [.attribute "name".toList (.literal (escape name.toList))]

def formerExclusions (excluded : List String) : List Node :=
  if excluded = [] then [.attribute "excluded_rules".toList (.list [])]
  else excluded.map formerExclusion

theorem nodesOf_managedGroupItems (name vendor : String) (excluded : List String) :
    Item.nodesOf (managedGroupItems name vendor excluded) =
      [groupNode name vendor (excluded.map exclusionNode)] := by
  simp only [managedGroupItems, Item.nodesOf, Item.nodes, tokens_conditions, nodesOf_exclusions]
  rfl

theorem blockContents_map {α : Type} (name : String) (f : α → List (Value × Value))
    (as : List α) : blockContents name (as.map fun a ↦ .map (f a)) =
      as.map fun a ↦ .block name (contentsOf (f a)) := by
  induction as with
  | nil => rfl
  | cons a as ih => rw [List.map_cons, blockContents, ih, List.map_cons]

theorem nodes_map {α : Type} (f : α → Content) (as : List α) :
    Content.nodes (as.map f) = as.map fun a ↦ (f a).node := by
  induction as with
  | nil => rfl
  | cons a as ih => rw [List.map_cons, Content.nodes, ih, List.map_cons]

theorem snakeCase_keys : snakeCase "ManagedRuleGroupStatement" = "managed_rule_group_statement" ∧
    snakeCase "Name" = "name" ∧ snakeCase "VendorName" = "vendor_name" ∧
    snakeCase "ExcludedRules" = "excluded_rules" ∧ singular "excluded_rules" = "excluded_rule" ∧
    snakeCase "RateBasedStatement" = "rate_based_statement" ∧
    snakeCase "AggregateKeyType" = "aggregate_key_type" ∧ snakeCase "Limit" = "limit" ∧
    snakeCase "ForwardedIPConfig" = "forwarded_ip_config" ∧
    snakeCase "HeaderName" = "header_name" ∧
    snakeCase "FallbackBehavior" = "fallback_behavior" := by
  decide

theorem nodes_excludedRules (excluded : List String) : Content.nodes (entryContents
    "excluded_rules" (.list (excluded.map fun n ↦ .record [("Name", .str n)]))) =
      formerExclusions excluded := by
  cases excluded with
  | nil => rfl
  | cons name excluded =>
    have hmaps : (!((name :: excluded).map fun n ↦ Value.record [("Name", .str n)]).isEmpty &&
        ((name :: excluded).map fun n ↦ Value.record [("Name", .str n)]).all isMap) = true := by
      simp [Value.record, isMap]
    have hblocks := blockContents_map "excluded_rule" (fun n : String ↦ [(.str "Name", .str n)])
      (name :: excluded)
    have hname : ∀ n : String,
        contentsOf [(.str "Name", .str n)] = [.attribute "name" (.str n)] := by
      intro n
      rw [← snakeCase_keys.2.1]
      rfl
    rw [entryContents, if_pos hmaps, snakeCase_keys.2.2.2.2.1]
    refine (congrArg Content.nodes hblocks).trans ?_
    rw [nodes_map, formerExclusions, if_neg (List.cons_ne_nil _ _)]
    simp only [hname]
    rfl

def groupEntries (name vendor : String) (excluded : List String) : List (Value × Value) :=
  [(.str "ManagedRuleGroupStatement", .record [
    ("Name", .str name), ("VendorName", .str vendor),
    ("ExcludedRules", .list (excluded.map fun n ↦ .record [("Name", .str n)]))])]

theorem nodes_groupEntries (name vendor : String) (excluded : List String) :
    Content.nodes (contentsOf (groupEntries name vendor excluded)) =
      [groupNode name vendor (formerExclusions excluded)] := by
  obtain ⟨hgroup, hname, hvendor, hexcluded, -⟩ := snakeCase_keys
  have hcontents : contentsOf (groupEntries name vendor excluded) =
      [.block (snakeCase "ManagedRuleGroupStatement") (.attribute (snakeCase "Name") (.str name) ::
        .attribute (snakeCase "VendorName") (.str vendor) ::
          (entryContents (snakeCase "ExcludedRules")
            (.list (excluded.map fun n ↦ .record [("Name", .str n)])) ++ []))] := rfl
  rw [hcontents, hgroup, hname, hvendor, hexcluded, List.append_nil, ← nodes_excludedRules]
  rfl

def limitNode (fields : List Node) : Node :=
  .block [.word "rate_based_statement".toList] fields

def forwardedNode (fields : List Node) : Node :=
  .block [.word "forwarded_ip_config".toList] fields

def textNode (name value : String) : Node :=
  .attribute name.toList (.literal (escape value.toList))

theorem escape_text_aggregation (a : Aggregation) :
    escape (Choice.text a).toList = (Choice.text a).toList := by
  cases a <;> decide

theorem escape_text_fallback (a : Fallback) :
    escape (Choice.text a).toList = (Choice.text a).toList := by
  cases a <;> decide

theorem nodesOf_rateBasedItems (limit : Int) (aggregation : Aggregation)
    (forwarded : Option ForwardedIp) :
    Item.nodesOf (rateBasedItems limit aggregation forwarded) = [limitNode (
      .attribute "limit".toList (.word (toString limit).toList) ::
      textNode "aggregate_key_type" (Choice.text aggregation) ::
      (forwarded.map fun f ↦ forwardedNode [
        textNode "fallback_behavior" (Choice.text f.fallback),
        textNode "header_name" f.headerName]).toList)] := by
  unfold rateBasedItems
  rw [Item.nodesOf, Item.nodes, tokens_conditions.2.2.2, textNode, escape_text_aggregation]
  cases forwarded with
  | none => rfl
  | some f =>
    have hheader : Hcl.tokens "forwarded_ip_config".toList =
        [.word "forwarded_ip_config".toList] := tokens_name (by decide)
    simp only [Option.map_some, textNode, escape_text_fallback, forwardedNode, ← hheader]
    rfl

def limitEntries (limit : Int) (aggregation : Aggregation) (forwarded : Option ForwardedIp) :
    List (Value × Value) :=
  [(.str "RateBasedStatement", .record ([
    ("AggregateKeyType", .str (Choice.text aggregation)), ("Limit", .int limit)] ++
      (forwarded.map fun f ↦ ("ForwardedIPConfig", f.toValue)).toList))]

theorem nodes_limitEntries (limit : Int) (aggregation : Aggregation)
    {forwarded : Option ForwardedIp} (h : ∀ f ∈ forwarded, f.position = none) :
    Content.nodes (contentsOf (limitEntries limit aggregation forwarded)) = [limitNode (
      textNode "aggregate_key_type" (Choice.text aggregation) ::
      .attribute "limit".toList (.word (toString limit).toList) ::
      (forwarded.map fun f ↦ forwardedNode [
        textNode "header_name" f.headerName,
        textNode "fallback_behavior" (Choice.text f.fallback)]).toList)] := by
  obtain ⟨-, -, -, -, -, hrate, haggregation, hlimit, hforwarded, hheader, hfallback⟩ :=
    snakeCase_keys
  have hcontents : contentsOf (limitEntries limit aggregation forwarded) =
      [.block (snakeCase "RateBasedStatement") (
        .attribute (snakeCase "AggregateKeyType") (.str (Choice.text aggregation)) ::
        .attribute (snakeCase "Limit") (.int limit) ::
        (forwarded.map fun f ↦ Content.block (snakeCase "ForwardedIPConfig") [
          .attribute (snakeCase "HeaderName") (.str f.headerName),
          .attribute (snakeCase "FallbackBehavior") (.str (Choice.text f.fallback))]).toList)] := by
    cases forwarded with
    | none => rfl
    | some f =>
      obtain ⟨fallback, headerName, position⟩ := f
      obtain rfl : position = none := h _ rfl
      rfl
  rw [hcontents, hrate, haggregation, hlimit, hforwarded, hheader, hfallback]
  cases forwarded <;> rfl

theorem rearranged_limit (limit : Int) (aggregation : Aggregation)
    {forwarded : Option ForwardedIp} (h : ∀ f ∈ forwarded, f.position = none) :
    Rearranged (Item.nodesOf (rateBasedItems limit aggregation forwarded))
      (Content.nodes (contentsOf (limitEntries limit aggregation forwarded))) := by
  rw [nodesOf_rateBasedItems, nodes_limitEntries limit aggregation h]
  refine .block _ (.trans (.swap _ _ _ _ _) (.keep _ _ (.keep _ _ ?_))) .nil
  cases forwarded with
  | none => exact .nil
  | some f => exact .block _ (.swap _ _ _ _ _) .nil

theorem not_rearranged_group (name vendor : String) (excluded : List String) :
    ¬ Rearranged [groupNode name vendor (excluded.map exclusionNode)]
      [groupNode name vendor (formerExclusions excluded)] := by
  intro h
  have hsize := h.sizeOf_eq
  have hoverrides := sizeOf_map (f := exclusionNode) (n := 4) (fun _ ↦ rfl) excluded
  have hformer : Node.sizeOf (formerExclusions excluded) =
      if excluded = [] then 1 else 2 * excluded.length := by
    unfold formerExclusions
    split
    · rfl
    · exact sizeOf_map (f := formerExclusion) (fun _ ↦ rfl) excluded
  simp only [groupNode, Node.sizeOf, Node.size, hoverrides, hformer] at hsize
  cases excluded with
  | nil => simp at hsize
  | cons name excluded =>
    rw [if_neg (List.cons_ne_nil _ _), List.length_cons] at hsize
    omega

theorem isWritable_groupEntries (name vendor : String) (excluded : List String) :
    (Value.map (groupEntries name vendor excluded)).isWritable = true := by
  have hexcluded : Value.itemsWritable
      (excluded.map fun n ↦ Value.record [("Name", .str n)]) = true := by
    induction excluded with
    | nil => rfl
    | cons name excluded ih => exact ih
  simpa [groupEntries, Value.record, Value.isWritable, Value.entriesWritable] using hexcluded

theorem nestedIn_groupEntries (name vendor : String) (excluded : List String) :
    (Value.map (groupEntries name vendor excluded)).nestedIn 16 = true := by
  simp [groupEntries, Value.record, Value.nestedIn]

theorem nestedIn_limitEntries (limit : Int) (aggregation : Aggregation)
    {forwarded : Option ForwardedIp} (hposition : ∀ f ∈ forwarded, f.position = none) :
    (Value.map (limitEntries limit aggregation forwarded)).nestedIn 16 = true := by
  cases forwarded with
  | none => simp [limitEntries, Value.record, Value.nestedIn]
  | some f =>
    simp [limitEntries, ForwardedIp.toValue, hposition f rfl, Value.record, Value.nestedIn]

theorem isWritable_limitEntries {limit : Int} (h : Number.isWritable limit = true)
    (aggregation : Aggregation) {forwarded : Option ForwardedIp}
    (hposition : ∀ f ∈ forwarded, f.position = none) :
    (Value.map (limitEntries limit aggregation forwarded)).isWritable = true := by
  cases forwarded with
  | none => simpa [limitEntries, Value.record, Value.isWritable, Value.entriesWritable] using h
  | some f =>
    simpa [limitEntries, ForwardedIp.toValue, hposition f rfl, Value.record, Value.isWritable,
      Value.entriesWritable] using h

theorem readsAs_group [Machine] [Machine.IsRoomy] (name vendor : String) (excluded : List String)
    (resolve : Resolver) : ReadsAs (.managedGroup name vendor excluded)
      [groupNode name vendor (excluded.map exclusionNode)] ∧
    ReadsAs (.ofBody ((Statement.managedGroup name vendor excluded).toValue resolve))
      [groupNode name vendor (formerExclusions excluded)] := by
  have hmade : (Statement.managedGroup name vendor excluded).MadeBy { name := "" } .managed :=
    .managedGroup name vendor excluded
  have hplain : (Value.map (groupEntries name vendor excluded)).IsPlain IsName :=
    Statement.isPlain_toValue hmade Resolver.byLogicalId fun _ ↦ trivial
  have hwritable := isWritable_groupEntries name vendor excluded
  have hnested := nestedIn_groupEntries name vendor excluded
  have hcopied := readsAs_ofBody hplain hwritable hnested
  have hread := readsAs_of_madeBy hmade rfl
  rw [nodesOf_managedGroupItems] at hread
  rw [nodes_groupEntries] at hcopied
  exact ⟨hread, hcopied⟩

theorem exists_readsAs_limit [Machine] [Machine.IsRoomy] {limit : Int}
    {aggregation : Aggregation} {forwarded : Option ForwardedIp}
    (hmade : (Statement.rateBased limit aggregation forwarded).MadeBy c k)
    (hposition : ∀ f ∈ forwarded, f.position = none) (hlimit : Number.isWritable limit = true)
    (resolve : Resolver) : ∃ nodes copied,
    ReadsAs (.rateBased limit aggregation forwarded) nodes ∧
    ReadsAs (.ofBody ((Statement.rateBased limit aggregation forwarded).toValue resolve)) copied ∧
    Rearranged nodes copied := by
  have hplain : (Value.map (limitEntries limit aggregation forwarded)).IsPlain IsName :=
    Statement.isPlain_toValue hmade Resolver.byLogicalId fun _ ↦ trivial
  have hwritable := isWritable_limitEntries hlimit aggregation hposition
  have hnested := nestedIn_limitEntries limit aggregation hposition
  have hcopied := readsAs_ofBody hplain hwritable hnested
  exact ⟨_, _, readsAs_of_madeBy hmade rfl, hcopied, rearranged_limit limit aggregation hposition⟩

end Terraform

namespace Config

variable {registry : Registry} {c : Config} {p : Policy} {r : Rule}

theorem RateLimit.position_of_forwarded (limit : RateLimit) :
    ∀ f ∈ limit.forwarded, f.position = none := by
  intro f hf
  obtain ⟨threshold, aggregation⟩ := limit
  cases aggregation with
  | forwardedIp =>
    obtain rfl := Option.some.inj hf
    rfl
  | sourceIp => simp [forwarded] at hf

/-- A statement that a user copies from a limit of a feature comes out like it, up to the order of
attributes. A copy of a group does not: it has the exclusions in their former place. -/
theorem copy_rearranged_iff [Machine] [Machine.IsRoomy] (hc : c.Validated)
    (h : c.compile registry = .ok p) (hr : r ∈ p.rules)
    (hkind : r.statement.kind = "managed_group" ∨ r.statement.kind = "rate_based")
    (resolve : Resolver) : ∃ nodes copied,
    Terraform.ReadsAs r.statement nodes ∧
    Terraform.ReadsAs (.ofBody (r.statement.toValue resolve)) copied ∧
    (Rearranged nodes copied ↔ r.statement.kind = "rate_based") ∧
    ∀ name vendor excluded, r.statement = .managedGroup name vendor excluded →
      nodes = [Terraform.groupNode name vendor (excluded.map Terraform.exclusionNode)] ∧
      copied = [Terraform.groupNode name vendor (Terraform.formerExclusions excluded)] := by
  have hcustom : r.statement.kind ≠ "custom" := by
    obtain hkind | hkind := hkind <;> rw [hkind] <;> decide
  have hmade := (isBuiltIn_of_compile h hr hcustom).statement
  generalize r.statement = st at hkind hmade
  have hcases := hmade
  cases hcases with
  | managedGroup name vendor excluded =>
    obtain ⟨hread, hcopied⟩ := Terraform.readsAs_group name vendor excluded resolve
    refine ⟨_, _, hread, hcopied, ?_, ?_⟩
    · have hnot := Terraform.not_rearranged_group name vendor excluded
      simp [Statement.kind, hnot]
    · rintro _ _ _ ⟨⟩
      exact ⟨rfl, rfl⟩
  | @rateBased limit limit_eq =>
    obtain ⟨hleast, hgreatest⟩ := hc.threshold limit limit_eq
    have hlimit : Number.isWritable limit.threshold = true :=
      Number.isWritable_of_lt (n := 10) (by decide) (by
        unfold leastThreshold at hleast
        unfold greatestThreshold at hgreatest
        omega)
    obtain ⟨nodes, copied, hread, hcopied, hsame⟩ :=
      Terraform.exists_readsAs_limit hmade limit.position_of_forwarded hlimit resolve
    exact ⟨nodes, copied, hread, hcopied, by simp [Statement.kind, hsame], by simp⟩
  | _ => simp [Statement.kind] at hkind

def limiting : Config where
  name := "acme"
  rateLimit := some { threshold := 2000 }

def limitingRule : Rule :=
  RateLimit.rule { threshold := 2000 } false

theorem compile_limiting [Machine] :
    limiting.compile .builtIn = .ok (limiting.toPolicy (mandatoryRules ++ [limitingRule])) := by
  let out (k : Category) : List Rule :=
    if k = .managed then mandatoryRules else if k = .rateLimit then [limitingRule] else []
  refine compile_of_ascending out (show strip "acme" ≠ "" by decide) (fun k ↦ ?_) rfl
    (by decide) (by decide) (by decide)
  cases k with
  | managed => exact alone_mandatory rfl rfl rfl
  | rateLimit => rfl
  | _ => rfl

section

open UsualMachine

theorem copy_rearranged_iff_limiting : limiting.Validated ∧ ∃ p r nodes copied,
    limiting.compile .builtIn = .ok p ∧ r ∈ p.rules ∧
    (r.statement.kind = "managed_group" ∨ r.statement.kind = "rate_based") ∧
    Terraform.ReadsAs r.statement nodes ∧
    Terraform.ReadsAs (.ofBody (r.statement.toValue Resolver.byLogicalId)) copied ∧
    (Rearranged nodes copied ↔ r.statement.kind = "rate_based") ∧
    ∀ name vendor excluded, r.statement = .managedGroup name vendor excluded →
      nodes = [Terraform.groupNode name vendor (excluded.map Terraform.exclusionNode)] ∧
      copied = [Terraform.groupNode name vendor (Terraform.formerExclusions excluded)] := by
  have hvalidated : limiting.Validated := by
    refine ⟨by decide, fun limit h ↦ ?_, by decide⟩
    obtain rfl := Option.some.inj h
    decide
  have hmem : limitingRule ∈ mandatoryRules ++ [limitingRule] := by simp
  have hkind : limitingRule.statement.kind = "managed_group" ∨
      limitingRule.statement.kind = "rate_based" := .inr rfl
  obtain ⟨nodes, copied, hcopy⟩ := copy_rearranged_iff hvalidated compile_limiting hmem hkind
    Resolver.byLogicalId
  exact ⟨hvalidated, _, _, nodes, copied, compile_limiting, hmem, hkind, hcopy⟩

/-- No group that is always on can be copied. -/
theorem mandatory_copies_differ : (named "acme").Validated ∧ ∃ p,
    (named "acme").compile .builtIn = .ok p ∧ p.rules ≠ [] ∧ ∀ r ∈ p.rules,
      r.statement.kind = "managed_group" ∧ ∃ nodes copied,
        Terraform.ReadsAs r.statement nodes ∧
        Terraform.ReadsAs (.ofBody (r.statement.toValue Resolver.byLogicalId)) copied ∧
        ¬ Rearranged nodes copied := by
  refine ⟨⟨by decide, by decide, by decide⟩, _, compile_named (by decide), by decide,
    fun r hr ↦ ?_⟩
  obtain ⟨g, -, excluded, -, rfl⟩ := ManagedGroups.mem_placed.mp hr
  have hreads := fun rules ↦
    Terraform.readsAs_group g.vendorRuleSet g.vendor rules Resolver.byLogicalId
  exact ⟨rfl, _, _, (hreads _).1, (hreads _).2, Terraform.not_rearranged_group _ _ _⟩

end

end Config

end WebAcl
