import WebAcl.Config.Lax
import WebAcl.Policy.Basic

namespace WebAcl

namespace Config

structure RateLimit where
  threshold : Int
  aggregation : Aggregation := .forwardedIp
  deriving DecidableEq, Repr

structure GroupToggle where
  name : String
  enabled : Bool := true
  excludedRules : List String := []
  deriving DecidableEq, Repr

/-- A rule written by the user. The statement is passed on as it is. -/
structure CustomRule where
  name : String
  priority : Int
  statement : List (String × Value)
  action : Option RuleAction := none
  override : Option OverrideAction := none
  metricName : Option String := none
  metricsEnabled : Bool := true
  samplingEnabled : Bool := true

end Config

structure Config where
  version : Int := 1
  name : String
  scope : Scope := .regional
  defaultAction : DefaultAction := .allow
  enforce : Bool := false
  blockedV4 : Option (List String) := none
  blockedV6 : Option (List String) := none
  allowedV4 : Option (List String) := none
  allowedV6 : Option (List String) := none
  allowedPaths : Option (List String) := none
  allowedUserAgents : Option (List String) := none
  managedGroups : List Config.GroupToggle := []
  excludedCommonRules : List String := []
  rateLimit : Option Config.RateLimit := none
  preRules : List Config.CustomRule := []
  postRules : List Config.CustomRule := []
  logSink : LogSink := {}
  associations : List String := []

namespace Config

open Lax

def leastThreshold : Int := 10

def greatestThreshold : Int := 2000000000

def RateLimit.ofValue : Value → Checked RateLimit :=
  record "RateLimitConfig" ["threshold", "aggregation"] fun es ↦
    RateLimit.mk
      <$> field es "threshold" (boundedInteger leastThreshold greatestThreshold) none
      <*> field es "aggregation" (choiceOr "SOURCE_IP" Aggregation.sourceIp)
        (some .forwardedIp)

def GroupToggle.ofValue : Value → Checked GroupToggle :=
  record "ManagedGroupConfig" ["name", "enabled", "excluded_rules"] fun es ↦
    GroupToggle.mk
      <$> field es "name" text none
      <*> field es "enabled" truth (some true)
      <*> field es "excluded_rules" (list text) (some [])

def CustomRule.checkOutcome (r : CustomRule) : Checked CustomRule :=
  if r.action.isNone = r.override.isNone then
    .fail (.refused
      s!"custom rule '{r.name}' must set exactly one of action or override_action")
  else .valid r

def CustomRule.withFields : Value → Checked CustomRule :=
  record "CustomRuleConfig" ["name", "priority", "statement", "action", "override_action",
      "metric_name", "cloudwatch_metrics_enabled", "sampled_requests_enabled"] fun es ↦
    CustomRule.mk
      <$> field es "name" text none
      <*> field es "priority" integer none
      <*> field es "statement" textMap none
      <*> field es "action" (optional fun v ↦ choice RuleAction (normalized v)) (some none)
      <*> field es "override_action" (optional fun v ↦ choice OverrideAction (normalized v))
        (some none)
      <*> field es "metric_name" (optional text) (some none)
      <*> field es "cloudwatch_metrics_enabled" truth (some true)
      <*> field es "sampled_requests_enabled" truth (some true)

def CustomRule.ofValue (v : Value) : Checked CustomRule :=
  (withFields v).andThen checkOutcome

def retentionPeriods : List Int := [
  1, 3, 5, 7, 14, 30, 60, 90, 120, 150, 180, 365, 400, 545, 731, 1096, 1827, 2192, 2557, 2922,
  3288, 3653]

def retention (v : Value) : Checked Int :=
  (integer v).andThen fun days ↦
    if retentionPeriods.contains days then .valid days
    else .fail (.refused ("retention_days must be one of: [" ++
      ", ".intercalate (retentionPeriods.map toString) ++ "]"))

def logSinkOfValue : Value → Checked LogSink :=
  record "LoggingConfig" ["enabled", "retention_days", "removal_policy"] fun es ↦
    LogSink.mk
      <$> field es "enabled" truth (some true)
      <*> field es "retention_days" retention (some 365)
      <*> field es "removal_policy" (fun v ↦ choice RemovalPolicy (normalized v)) (some .retain)

def fieldNames : List String := [
  "version", "name", "scope", "default_action", "enforce", "blocked_ipv4", "blocked_ipv6",
  "allowed_ipv4", "allowed_ipv6", "allowed_paths", "allowed_user_agents", "managed_groups",
  "excluded_common_rules", "rate_limit", "pre_rules", "post_rules", "logging", "associations"]

def ofValue : Value → Checked Config :=
  record "PolicyConfig" fieldNames fun es ↦
    let texts := fun name ↦ field es name (optional (list text)) (some none)
    Config.mk
      <$> field es "version" integer (some 1)
      <*> field es "name" text none
      <*> field es "scope" (choiceOr "EDGE" Scope.edge) (some .regional)
      <*> field es "default_action" (fun v ↦ choice DefaultAction (normalized v)) (some .allow)
      <*> field es "enforce" truth (some false)
      <*> texts "blocked_ipv4"
      <*> texts "blocked_ipv6"
      <*> texts "allowed_ipv4"
      <*> texts "allowed_ipv6"
      <*> texts "allowed_paths"
      <*> texts "allowed_user_agents"
      <*> field es "managed_groups" (list GroupToggle.ofValue) (some [])
      <*> field es "excluded_common_rules" (list text) (some [])
      <*> field es "rate_limit" (optional RateLimit.ofValue) (some none)
      <*> field es "pre_rules" (list CustomRule.ofValue) (some [])
      <*> field es "post_rules" (list CustomRule.ofValue) (some [])
      <*> field es "logging" logSinkOfValue (some {})
      <*> field es "associations" (list text) (some [])

end Config

end WebAcl
