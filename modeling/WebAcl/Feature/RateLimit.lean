import WebAcl.Compile.Session
import WebAcl.Config.Basic
import WebAcl.Feature.Mode

namespace WebAcl.Config.RateLimit

def ruleName : String := "rate_limit_rule"

/-- A request without the forwarding header is counted by the address of the peer. -/
def forwarded (r : RateLimit) : Option ForwardedIp :=
  match r.aggregation with
  | .forwardedIp => some { fallback := .isMatch }
  | .sourceIp => none

def build (limit : Option RateLimit) (enforce : Bool) : Compiling (List Rule) := do
  match limit with
  | none => return []
  | some r =>
    let taken ← Compiling.allocate .rateLimit (some 1)
    return [{
      name := ruleName
      priority := taken.getD 0 0
      statement := .rateBased r.threshold r.aggregation r.forwarded
      category := .rateLimit
      visibility := { metricName := ruleName }
      action := some (Mode.action enforce)
      modeSensitive := true }]

end WebAcl.Config.RateLimit
