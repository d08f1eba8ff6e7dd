import WebAcl.Compile.Session
import WebAcl.Network.Cidr
import WebAcl.Policy.Rule
import WebAcl.Text.Blank

namespace WebAcl

structure AddressList where
  field : String
  version : IpVersion
  action : RuleAction
  logicalId : String
  purpose : String
  forwardedRule : String
  forwardedMetric : String
  sourceRule : String
  sourceMetric : String

namespace AddressList

def of? : Category → Option AddressList
  | .blockV4 => some {
      field := "blocked_ipv4"
      version := .v4
      action := .block
      logicalId := "BlockedIPSetIPv4"
      purpose := "Blocked IPv4 addresses"
      forwardedRule := "block_xff_ip_rule_v4"
      forwardedMetric := "BlockXFFIPRuleV4"
      sourceRule := "block_src_ip_rule_v4"
      sourceMetric := "BlockSrcIPRuleV4" }
  | .blockV6 => some {
      field := "blocked_ipv6"
      version := .v6
      action := .block
      logicalId := "BlockedIPSetIPv6"
      purpose := "Blocked IPv6 addresses"
      forwardedRule := "block_xff_ip_rule_v6"
      forwardedMetric := "BlockXFFIPRuleV6"
      sourceRule := "block_src_ip_rule_v6"
      sourceMetric := "BlockSrcIPRuleV6" }
  | .allowV4 => some {
      field := "allowed_ipv4"
      version := .v4
      action := .allow
      logicalId := "AllowedIPSetIPv4"
      purpose := "Allowed IPv4 addresses"
      forwardedRule := "allow_xff_ip_rule"
      forwardedMetric := "AllowXFFIPRule"
      sourceRule := "allow_src_ip_rule"
      sourceMetric := "AllowSrcIPRule" }
  | .allowV6 => some {
      field := "allowed_ipv6"
      version := .v6
      action := .allow
      logicalId := "AllowedIPSetIPv6"
      purpose := "Allowed IPv6 addresses"
      forwardedRule := "allow_xff_ip_rule_ipv6"
      forwardedMetric := "AllowXFFIPRuleV6"
      sourceRule := "allow_src_ip_rule_ipv6"
      sourceMetric := "AllowSrcIPRuleV6" }
  | _ => none

def fault? (version : IpVersion) (candidate : String) : Option String :=
  if !candidate.toList.contains '/' then some "missing CIDR prefix length"
  else match Cidr.read? candidate.toList with
    | none =>
      some (Text.quoted candidate ++ " does not appear to be an IPv4 or IPv6 network")
    | some block =>
      if block.version = version then none
      else some ("expected an " ++ (match version with
        | .v4 => "IPv4"
        | .v6 => "IPv6") ++ " network")

def checkAddress (field : String) (version : IpVersion) (address : String) :
    Except Problem String :=
  let candidate := Text.strip address
  match fault? version candidate with
  | some reason => .error { cause := .invalidAddress field address reason }
  | none => .ok candidate

def checkAddresses (field : String) (version : IpVersion) (addresses : List String) :
    Except Problem (List String) :=
  addresses.mapM (checkAddress field version)

/-- The place of the client's address in the header that proxies write. -/
def forwardedPosition : String := "ANY"

def rules (d : AddressList) (category : Category) (set : IpSet) (forwarded source : Int) :
    List Rule := [
  { name := d.forwardedRule
    priority := forwarded
    statement := .ipSet set (some { fallback := .noMatch, position := some forwardedPosition })
    category := category
    visibility := { metricName := d.forwardedMetric }
    action := some d.action },
  { name := d.sourceRule
    priority := source
    statement := .ipSet set none
    category := category
    visibility := { metricName := d.sourceMetric }
    action := some d.action }]

def build (category : Category) (addresses : Option (List String)) (policyName : String) :
    Compiling (List Rule) := do
  match addresses, of? category with
  | none, _ => return []
  | some _, none => throw (.crash (.noSuchKey (Choice.text category)))
  | some addresses, some d =>
    let checked ← Compiling.ofProblem (checkAddresses d.field d.version addresses)
    if checked.isEmpty then
      Compiling.note .warning s!"{d.field} is empty; creating a zero-match IP set"
    let set : IpSet := ⟨d.logicalId, d.version, checked, s!"{policyName} - {d.purpose}"⟩
    let taken ← Compiling.allocate category (some 2)
    let built := d.rules category set (taken.getD 0 0) (taken.getD 1 0)
    Compiling.note .debug
      s!"Built {built.length} {Choice.text category} rules for {checked.length} addresses"
    return built

end AddressList

end WebAcl
