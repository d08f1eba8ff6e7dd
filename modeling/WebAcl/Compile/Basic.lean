import WebAcl.Compile.Order
import WebAcl.Feature.AddressList
import WebAcl.Feature.CustomRules
import WebAcl.Feature.ManagedGroups
import WebAcl.Feature.PatternList
import WebAcl.Feature.RateLimit

namespace WebAcl.Config

def buildRules [Machine] (registry : Registry) (c : Config) (name : String) :
    Compiling (List Rule) := do
  let pre ← Compiling.ofExcept (CustomRule.build .preCustom c.preRules)
  let blockV4 ← AddressList.build .blockV4 c.blockedV4 name
  let blockV6 ← AddressList.build .blockV6 c.blockedV6 name
  let allowPath ← PatternList.build .allowPath c.allowedPaths name
  let allowV4 ← AddressList.build .allowV4 c.allowedV4 name
  let allowV6 ← AddressList.build .allowV6 c.allowedV6 name
  let allowUserAgent ← PatternList.build .allowUserAgent c.allowedUserAgents name
  let managed ← ManagedGroups.build c.managedGroups c.excludedCommonRules c.enforce registry
  let rateLimit ← RateLimit.build c.rateLimit c.enforce
  let post ← Compiling.ofExcept (CustomRule.build .postCustom c.postRules)
  return pre ++ blockV4 ++ blockV6 ++ allowPath ++ allowV4 ++ allowV6 ++ allowUserAgent ++
    managed ++ rateLimit ++ post

def compiling [Machine] (registry : Registry) (c : Config) : Compiling Policy := do
  let name := Text.strip c.name
  if name = "" then
    Compiling.fail { cause := .emptyField "name", advice := "Every web ACL needs a name." }
  let rules ← buildRules registry c name
  let ordered ← Compiling.ofExcept (RuleList.arrange rules c.enforce)
  let policy : Policy := {
    name := name
    scope := c.scope
    defaultAction := c.defaultAction
    enforce := c.enforce
    rules := ordered
    logSink := c.logSink
    associations := c.associations }
  Compiling.log .info "wafpolicy.waf.assembler"
    (s!"Compiled policy {policy.name}: {policy.rules.length} rules, " ++
      s!"{Policy.modeName policy.enforce} mode")
  return policy

/-- Compiles a configuration from scratch; the second result is the log. -/
def compileLogged [Machine] (registry : Registry) (c : Config) :
    Except Failure Policy × List Log.Record :=
  let (result, session) := (compiling registry c).run.run {}
  (result, session.log)

def compile [Machine] (registry : Registry) (c : Config) : Except Failure Policy :=
  (compileLogged registry c).1

end WebAcl.Config
