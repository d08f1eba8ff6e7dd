import WebAcl.Config.Basic
import WebAcl.Problem

namespace WebAcl

namespace Value

def textOfBytes (bs : List UInt8) : Except Crash String :=
  match Text.Utf8.decode? bs with
  | some s => .ok s
  | none => .error .notText

def plainKey : Value → Except Crash String
  | null => .ok "None"
  | bool b => .ok (if b then "true" else "false")
  | int i => if Number.isWritable i then .ok (toString i) else .error .hugeInteger
  | float x => .ok (if x.toRatio?.isSome then x.toText else "None")
  | str s => .ok (Text.replaceHalves s)
  | bytes bs => textOfBytes bs
  | date d => .ok d.toText
  | timestamp t => .ok t.toIsoText
  | v => .ok v.toText

/-- The entries of a map that has a text for every key. Of several keys with one text the first one
gives the place and the last one the value. -/
def gathered (entries : List (String × Value)) : List (Value × Value) :=
  entries.foldl (fun es e ↦ insert (str e.1) e.2 es) []

/-- The number of values that can be open at once: a rule and what is inside its statement. -/
def plainDepth : Nat := 255

def circular : Crash := .badValue "Circular reference detected (id repeated)"

mutual

def plain (depth : Nat) (v : Value) : Except Crash Value :=
  if plainDepth ≤ depth + 1 then .error circular
  else match v with
    | null => .ok null
    | bool b => .ok (bool b)
    | int i => .ok (int i)
    | float x => .ok (if x.toRatio?.isSome then float x else null)
    | str s => .ok (str s)
    | bytes bs => (textOfBytes bs).map str
    | date d => .ok (str d.toText)
    | timestamp t => .ok (str t.toIsoText)
    | list xs => (plainItems (depth + 1) xs).map list
    | tuple xs => (plainItems (depth + 1) xs).map list
    | set xs => (plainItems (depth + 1) xs).map list
    | map es => (plainEntries (depth + 1) es).map fun es ↦ map (gathered es)
    | frozenMap es => (plainEntries (depth + 1) es).map fun es ↦ map (gathered es)
    | endless => .error circular

def plainItems (depth : Nat) : List Value → Except Crash (List Value)
  | [] => .ok []
  | x :: xs => do
    let x ← plain depth x
    let xs ← plainItems depth xs
    return x :: xs

def plainEntries (depth : Nat) : List (Value × Value) → Except Crash (List (String × Value))
  | [] => .ok []
  | (k, v) :: es => do
    let k ← plainKey k
    let v ← plain depth v
    let es ← plainEntries depth es
    return (k, v) :: es

end

end Value

namespace Config

def optionalTexts : Option (List String) → Value
  | none => .null
  | some ss => .strings ss

def choiceText {α : Type} [Choice α] : Option α → Value
  | none => .null
  | some a => .str (Choice.text a)

def RateLimit.toValue (r : RateLimit) : Value :=
  .record [("threshold", .int r.threshold), ("aggregation", .str (Choice.text r.aggregation))]

def GroupToggle.toValue (g : GroupToggle) : Value :=
  .record [("name", .str g.name), ("enabled", .bool g.enabled),
    ("excluded_rules", .strings g.excludedRules)]

def CustomRule.body (r : CustomRule) : Value :=
  .record r.statement

def CustomRule.plainStatement (r : CustomRule) : Except Crash Value :=
  (Value.plainEntries 0 (r.statement.map fun e ↦ (.str e.1, e.2))).map fun es ↦
    .map (Value.gathered es)

def CustomRule.fields (r : CustomRule) (statement : Value) : List (String × Value) := [
  ("name", .str r.name),
  ("priority", .int r.priority),
  ("statement", statement),
  ("action", choiceText r.action),
  ("override_action", choiceText r.override),
  ("metric_name", (r.metricName.map .str).getD .null),
  ("cloudwatch_metrics_enabled", .bool r.metricsEnabled),
  ("sampled_requests_enabled", .bool r.samplingEnabled)]

def CustomRule.toPlain (r : CustomRule) : Except Crash Value := do
  return .record (r.fields (← r.plainStatement))

def logSinkToValue (l : LogSink) : Value :=
  .record [("enabled", .bool l.enabled), ("retention_days", .int l.retentionDays),
    ("removal_policy", .str (Choice.text l.removalPolicy))]

def fields (c : Config) (preRules postRules : List Value) : List (String × Value) := [
  ("version", .int c.version),
  ("name", .str c.name),
  ("scope", .str (Choice.text c.scope)),
  ("default_action", .str (Choice.text c.defaultAction)),
  ("enforce", .bool c.enforce),
  ("blocked_ipv4", optionalTexts c.blockedV4),
  ("blocked_ipv6", optionalTexts c.blockedV6),
  ("allowed_ipv4", optionalTexts c.allowedV4),
  ("allowed_ipv6", optionalTexts c.allowedV6),
  ("allowed_paths", optionalTexts c.allowedPaths),
  ("allowed_user_agents", optionalTexts c.allowedUserAgents),
  ("managed_groups", .list (c.managedGroups.map (·.toValue))),
  ("excluded_common_rules", .strings c.excludedCommonRules),
  ("rate_limit", (c.rateLimit.map (·.toValue)).getD .null),
  ("pre_rules", .list preRules),
  ("post_rules", .list postRules),
  ("logging", logSinkToValue c.logSink),
  ("associations", .strings c.associations)]

def toPlain (c : Config) : Except Crash Value := do
  return .record (c.fields (← c.preRules.mapM (·.toPlain)) (← c.postRules.mapM (·.toPlain)))

end Config

end WebAcl
