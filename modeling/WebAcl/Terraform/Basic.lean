import WebAcl.Policy.Basic
import WebAcl.Terraform.Rule

namespace WebAcl.Terraform

open Hcl Text

/-- A label starts with a letter and consists of lower case letters, digits and underscores. -/
def aclLabel (name : String) : String :=
  let cs := (dashed name).toList.map fun c ↦ if c = '-' then '_' else c
  let kept := cs.filter fun c ↦ c.isLower || c.isDigit || c == '_'
  String.ofList (if kept.head?.any Char.isLower then kept else "waf_".toList ++ kept)

def header (kind : String) (labels : List String) : String :=
  " ".intercalate (kind :: labels.map fun l ↦ "\"" ++ l ++ "\"")

def resource (type label : String) (body : List Item) : Item :=
  .block (header "resource" [type, label]) body

def aclReference (p : Policy) (part : String) : Expr :=
  .bare ("aws_wafv2_web_acl." ++ aclLabel p.name ++ "." ++ part)

def providerBlocks : List Item := [
  .block "terraform" [
    .block "required_providers" [
      .block "aws =" [.attributes [
        ("source", .word "hashicorp/aws"),
        ("version", .word "~> 5.0")]]]],
  .block (header "provider" ["aws"]) [.single "region" (.bare "var.aws_region")]]

def setName (p : Policy) (logicalId : String) : Expr :=
  .text (p.name ++ "-" ++ dashed logicalId)

def setResource (p : Policy) (s : BackingSet) : Item :=
  let scope := Expr.word (Choice.text p.scope)
  resource (setType s) (setLabel s) (match s with
    | .ip s => [.attributes [
        ("name", setName p s.logicalId),
        ("description", .text s.description),
        ("scope", scope),
        ("ip_address_version", .word (Choice.text s.version)),
        ("addresses", .column s.addresses)]]
    | .regex s =>
      .attributes [
        ("name", setName p s.logicalId),
        ("description", .text s.description),
        ("scope", scope)] ::
      Item.orBlank (s.patterns.flatMap fun pattern ↦
        [.blank, .block "regular_expression" [.single "regex_string" (.text pattern)]]))

def aclResource [Machine] (p : Policy) : Except Crash Item := do
  let rules ← p.rules.mapM ruleItems
  return resource "aws_wafv2_web_acl" (aclLabel p.name) ([
      .attributes [("name", .text p.name), ("scope", .word (Choice.text p.scope))],
      .blank,
      .block "default_action" [.flag (lowered p.defaultAction)]]
    ++ Item.orBlank rules.flatten
    ++ [visibilityBlock p.visibility])

def associationResources (p : Policy) : List Item :=
  p.associations.mapIdx fun i arn ↦
    resource "aws_wafv2_web_acl_association" s!"association_{i}" [.attributes [
      ("resource_arn", .text arn),
      ("web_acl_arn", aclReference p "arn")]]

def lifecycleItems : RemovalPolicy → List Item
  | .retain => [.blank, .block "lifecycle" [.single "prevent_destroy" (.bare "true")]]
  | .destroy => []

def loggingResources (p : Policy) : List Item :=
  if p.logSink.enabled then [
    resource "aws_cloudwatch_log_group" "waf_logs" (
      .attributes [
        ("name", .text (LogSink.groupName p.name)),
        ("retention_in_days", .bare (toString p.logSink.retentionDays))] ::
      lifecycleItems p.logSink.removalPolicy),
    resource "aws_wafv2_web_acl_logging_configuration" "waf_logs" [.attributes [
      ("log_destination_configs", .inline [.bare "aws_cloudwatch_log_group.waf_logs.arn"]),
      ("resource_arn", aclReference p "arn")]]]
  else []

def orderedSets (p : Policy) : List BackingSet :=
  p.ipSets.map .ip ++ p.regexSets.map .regex

def mainBlocks [Machine] (p : Policy) : Except Crash (List Item) := do
  let acl ← aclResource p
  return providerBlocks ++ (orderedSets p).map (setResource p) ++ [acl] ++
    associationResources p ++ loggingResources p

def variableBlocks : List Item := [
  .block (header "variable" ["aws_region"]) [.attributes [
    ("description", .text "AWS region for WAF resources (us-east-1 for CLOUDFRONT scope)"),
    ("type", .bare "string"),
    ("default", .word "us-east-1")]]]

def output (label description : String) (value : Expr) : Item :=
  .block (header "output" [label]) [.attributes [
    ("description", .text description),
    ("value", value)]]

def setOutput (s : BackingSet) : Item :=
  let description := if s.description = "" then s.logicalId else s.description
  output (setLabel s ++ "_arn") description (.bare (setReference s))

def outputBlocks (p : Policy) : List Item :=
  [output "web_acl_arn" "ARN of the WAF Web ACL" (aclReference p "arn"),
    output "web_acl_id" "ID of the WAF Web ACL" (aclReference p "id")] ++
  (orderedSets p).map setOutput

def files [Machine] (p : Policy) : Except Crash (List (String × String)) := do
  let blocks ← mainBlocks p
  return [("main.tf", file blocks), ("variables.tf", file variableBlocks),
    ("outputs.tf", file (outputBlocks p))]

end WebAcl.Terraform
