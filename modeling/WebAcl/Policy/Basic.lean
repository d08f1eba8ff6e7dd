import WebAcl.Policy.Rule

namespace WebAcl

structure LogSink where
  enabled : Bool := true
  retentionDays : Int := 365
  removalPolicy : RemovalPolicy := .retain
  deriving DecidableEq, Repr

/-- Logs are only delivered to groups whose name starts like this. -/
def LogSink.groupName (policyName : String) : String :=
  "aws-waf-logs-" ++ policyName

structure Policy where
  name : String
  scope : Scope
  defaultAction : DefaultAction
  enforce : Bool
  rules : List Rule
  logSink : LogSink := {}
  associations : List String := []
  visibility : Visibility := { metricName := "WebAcl" }

def BackingSet.addNew (sets : List BackingSet) (s : BackingSet) : List BackingSet :=
  if sets.any (·.logicalId == s.logicalId) then sets else sets ++ [s]

namespace Policy

/-- The sets that rules refer to, in order of first reference. Of sets with one name only the first
counts. -/
def backingSets (p : Policy) : List BackingSet :=
  (p.rules.flatMap Rule.references).foldl BackingSet.addNew []

def ipSets (p : Policy) : List IpSet :=
  p.backingSets.filterMap fun
    | .ip s => some s
    | .regex _ => none

def regexSets (p : Policy) : List RegexSet :=
  p.backingSets.filterMap fun
    | .ip _ => none
    | .regex s => some s

def rule? (p : Policy) (name : String) : Option Rule :=
  p.rules.find? (·.name == name)

def rulesIn (p : Policy) (category : Category) : List Rule :=
  p.rules.filter (·.category == category)

def rulesToValue (resolve : Resolver) (p : Policy) : List Value :=
  p.rules.map (Rule.toValue resolve)

def toValue (resolve : Resolver) (p : Policy) : Value :=
  .record [
    ("Name", .str p.name),
    ("Scope", .str (Choice.text p.scope)),
    ("DefaultAction", .record [(p.defaultAction.title, .record [])]),
    ("VisibilityConfig", p.visibility.toValue),
    ("Rules", .list (p.rulesToValue resolve))]

/-- The rules without repetitions, or the first part of a statement that rules out comparing them
by hash. -/
def distinctRules (p : Policy) : Except Value (List Rule) :=
  p.rules.foldlM (fun seen r ↦
    match r.statement with
    | .custom body =>
      match body.changeablePart? with
      | some part => .error part
      | none => .ok (if seen.any (·.same r) then seen else seen ++ [r])
    | _ => .ok (if seen.any (·.same r) then seen else seen ++ [r])) []

def modeName (enforce : Bool) : String :=
  if enforce then "enforce" else "observe"

end Policy

end WebAcl
