import WebAcl.Text.Blank
import WebAcl.Text.LetterCase

namespace WebAcl

/-- A managed rule group. Its slot fixes its priority. A mandatory group is part of every policy;
one that is always enforced ignores whether the policy enforces or observes. -/
structure ManagedGroup where
  key : String
  vendorRuleSet : String
  ruleName : String
  slot : Int
  description : String := ""
  mandatory : Bool := false
  alwaysEnforced : Bool := false
  curatedExclusions : List String := []
  vendor : String := "AWS"
  deriving DecidableEq, Repr

namespace ManagedGroup

/-- Keys are compared without regard to case, to surrounding white space and to the choice between
`_` and `-`. -/
def normalizeKey (key : String) : String :=
  String.ofList ((Text.lower (Text.strip key)).toList.map fun c ↦ if c = '_' then '-' else c)

def builtIn : List ManagedGroup := [
  { key := "bad-actors"
    vendorRuleSet := "AWSManagedRulesKnownBadInputsRuleSet"
    ruleName := "bad_actors_rule"
    slot := 0
    description := "Request patterns known to be invalid and associated with exploitation"
    mandatory := true
    alwaysEnforced := true
    curatedExclusions :=
      ["Host_localhost_HEADER", "PROPFIND_METHOD", "ExploitablePaths_URIPATH"] },
  { key := "common"
    vendorRuleSet := "AWSManagedRulesCommonRuleSet"
    ruleName := "common_rule_set"
    slot := 1
    description := "General protection against common web exploits (OWASP)"
    mandatory := true },
  { key := "php"
    vendorRuleSet := "AWSManagedRulesPHPRuleSet"
    ruleName := "php_rule_set"
    slot := 2
    description := "PHP-specific injection and exploitation patterns" },
  { key := "ip-reputation"
    vendorRuleSet := "AWSManagedRulesAmazonIpReputationList"
    ruleName := "ip_reputation_list"
    slot := 3
    description := "Addresses flagged by Amazon threat intelligence" },
  { key := "anonymous-ip"
    vendorRuleSet := "AWSManagedRulesAnonymousIpList"
    ruleName := "anonymous_ip_list"
    slot := 4
    description := "VPNs, proxies, Tor nodes and hosting providers" },
  { key := "sql-injection"
    vendorRuleSet := "AWSManagedRulesSQLiRuleSet"
    ruleName := "sql_injection_rule_set"
    slot := 5
    description := "SQL injection attacks" },
  { key := "bot-control"
    vendorRuleSet := "AWSManagedRulesBotControlRuleSet"
    ruleName := "bot_control_rule_set"
    slot := 6
    description := "Automated bot traffic (billed separately)" }]

end ManagedGroup

end WebAcl
