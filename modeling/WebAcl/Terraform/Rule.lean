import WebAcl.Hcl.OfValue
import WebAcl.Policy.Rule

namespace WebAcl.Terraform

open Hcl Text

def setType : BackingSet → String
  | .ip _ => "aws_wafv2_ip_set"
  | .regex _ => "aws_wafv2_regex_pattern_set"

def setLabel (s : BackingSet) : String :=
  snakeCase s.logicalId

def setReference (s : BackingSet) : String :=
  setType s ++ "." ++ setLabel s ++ ".arn"

def truth (b : Bool) : Expr :=
  .bare (if b then "true" else "false")

def lowered {α : Type} [Choice α] (a : α) : String :=
  lower (Choice.text a)

def visibilityBlock (v : Visibility) : Item :=
  .block "visibility_config" [.attributes [
    ("cloudwatch_metrics_enabled", truth v.metricsEnabled),
    ("metric_name", .text v.metricName),
    ("sampled_requests_enabled", truth v.samplingEnabled)]]

def forwardedFields (f : ForwardedIp) : List (String × Expr) := [
  ("fallback_behavior", .word (Choice.text f.fallback)),
  ("header_name", .text f.headerName)]

def ipSetItems (s : IpSet) (forwarded : Option ForwardedIp) : List Item :=
  let reference := Item.single "arn" (.bare (setReference (.ip s)))
  match forwarded with
  | none => [.block "ip_set_reference_statement" [reference]]
  | some f =>
    let position := match f.position with
      | none | some "" => "ANY"
      | some p => p
    [.block "ip_set_reference_statement" [
      reference,
      .blank,
      .block "ip_set_forwarded_ip_config" [
        .attributes (forwardedFields f ++ [("position", .word position)])]]]

def fieldItem (field : MatchField) (headerName : Option String) : Item :=
  match field with
  | .uriPath => .flag "uri_path"
  | .singleHeader =>
    .block "single_header" [.single "name" (.text (lower (headerName.getD "")))]

def regexSetItems (s : RegexSet) (field : MatchField) (headerName : Option String) : List Item :=
  [.block "regex_pattern_set_reference_statement" [
    .single "arn" (.bare (setReference (.regex s))),
    .blank,
    .block "field_to_match" [fieldItem field headerName],
    .blank,
    .block "text_transformation" [
      .attributes [("priority", .bare "0"), ("type", .word "NONE")]]]]

/-- A rule of a group is excluded by letting it count only. -/
def exclusionItems (name : String) : List Item :=
  [.blank,
    .block "rule_action_override" [
      .single "name" (.text name),
      .blank,
      .block "action_to_use" [.flag "count"]]]

def managedGroupItems (name vendor : String) (excluded : List String) : List Item :=
  [.block "managed_rule_group_statement"
    (.attributes [("name", .text name), ("vendor_name", .text vendor)] ::
      excluded.flatMap exclusionItems)]

def rateBasedItems (limit : Int) (aggregation : Aggregation) (forwarded : Option ForwardedIp) :
    List Item :=
  let address := match forwarded with
    | none => []
    | some f => [.blank, .block "forwarded_ip_config" [.attributes (forwardedFields f)]]
  [.block "rate_based_statement" (.attributes [
    ("limit", .bare (toString limit)),
    ("aggregate_key_type", .word (Choice.text aggregation))] :: address)]

def statementItems [Machine] : Statement → Except Crash (List Item)
  | .ipSet s forwarded => .ok (ipSetItems s forwarded)
  | .regexSet s field headerName => .ok (regexSetItems s field headerName)
  | .managedGroup name vendor excluded => .ok (managedGroupItems name vendor excluded)
  | .rateBased limit aggregation forwarded => .ok (rateBasedItems limit aggregation forwarded)
  | .custom body =>
    if Machine.thawing.fits 0 body then
      match body.thaw with
      | .map entries => bodyOf 0 entries
      | v => .error (.noSuchPart v.kindName "items")
    else .error .nestedTooDeep

def outcomeBlock (r : Rule) : Except Crash Item :=
  match r.override, r.action with
  | some o, _ => .ok (.block "override_action" [.flag (lowered o)])
  | none, some a => .ok (.block "action" [.flag (lowered a)])
  | none, none => .error (.noSuchPart Value.null.kindName "value")

def ruleItems [Machine] (r : Rule) : Except Crash (List Item) := do
  let outcome ← outcomeBlock r
  let statement ← statementItems r.statement
  unless Number.isWritable r.priority do throw .hugeInteger
  return [
    .blank,
    .block "rule" [
      .attributes [("name", .text r.name), ("priority", .bare (toString r.priority))],
      .blank,
      outcome,
      .blank,
      .block "statement" (Item.orBlank statement),
      .blank,
      visibilityBlock r.visibility]]

def ruleText [Machine] (r : Rule) : Except Crash String :=
  (ruleItems r).map (render 1)

end WebAcl.Terraform
