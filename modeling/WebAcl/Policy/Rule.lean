import WebAcl.Policy.Statement

namespace WebAcl

structure Visibility where
  metricName : String
  metricsEnabled : Bool := true
  samplingEnabled : Bool := true
  deriving DecidableEq, Repr

def Visibility.toValue (v : Visibility) : Value :=
  .record [("CloudWatchMetricsEnabled", .bool v.metricsEnabled), ("MetricName", .str v.metricName),
    ("SampledRequestsEnabled", .bool v.samplingEnabled)]

/-- A well-formed rule has exactly one of `action` and `override`. The action or override of a
mode-sensitive rule depends on whether the policy enforces or only observes. -/
structure Rule where
  name : String
  priority : Int
  statement : Statement
  category : Category
  visibility : Visibility
  action : Option RuleAction := none
  override : Option OverrideAction := none
  modeSensitive : Bool := false

def RuleAction.title : RuleAction → String
  | .allow => "Allow"
  | .block => "Block"
  | .count => "Count"

def OverrideAction.title : OverrideAction → String
  | .none => "None"
  | .count => "Count"

def DefaultAction.title : DefaultAction → String
  | .allow => "Allow"
  | .block => "Block"

namespace Rule

def references (r : Rule) : List BackingSet :=
  r.statement.references

def toValue (resolve : Resolver) (r : Rule) : Value :=
  .record ([
      ("Name", .str r.name),
      ("Priority", .int r.priority),
      ("Statement", r.statement.toValue resolve)]
    ++ (r.action.map fun a ↦ ("Action", .record [(a.title, .record [])])).toList
    ++ (r.override.map fun o ↦ ("OverrideAction", .record [(o.title, .record [])])).toList
    ++ [("VisibilityConfig", r.visibility.toValue)])

def same (r s : Rule) : Bool :=
  r.name == s.name && r.priority == s.priority && r.statement.same s.statement &&
    r.category == s.category && r.visibility == s.visibility && r.action == s.action &&
    r.override == s.override && r.modeSensitive == s.modeSensitive

def outcome? (r : Rule) : Option String :=
  (r.action.map Choice.text).or (r.override.map Choice.text)

end Rule

end WebAcl
