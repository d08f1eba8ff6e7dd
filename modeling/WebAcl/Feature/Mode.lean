import WebAcl.Policy.Choice

namespace WebAcl.Mode

def action (enforce : Bool) : RuleAction :=
  if enforce then .block else .count

/-- Rules inside a group keep their own actions unless they are overridden. -/
def override (enforce : Bool) : OverrideAction :=
  if enforce then .none else .count

end WebAcl.Mode
