namespace WebAcl.Config

def sampleLines : List String := [
  "# wafpolicy configuration",
  "",
  "version: 1",
  "",
  "# Web ACL name, unique within its scope",
  "name: my-app-waf",
  "",
  "# REGIONAL (load balancers, API gateways) or EDGE (CloudFront)",
  "scope: REGIONAL",
  "",
  "# Action when no rule matches: ALLOW or BLOCK",
  "default_action: ALLOW",
  "",
  "# false = count only (observe), true = block",
  "enforce: false",
  "",
  "# Leave a list out to disable the feature.",
  "# An empty list still creates a zero-match IP or regex set.",
  "blocked_ipv4:",
  "  - 192.0.2.0/24",
  "# blocked_ipv6: []",
  "# allowed_ipv4: []",
  "# allowed_ipv6: []",
  "",
  "allowed_paths:",
  "  - ^/health$",
  "",
  "# allowed_user_agents:",
  "#   - ^Amazon-Route53-Health-Check-Service",
  "",
  "# bad-actors and common are always enabled.",
  "# Optional: php, ip-reputation, anonymous-ip, sql-injection, bot-control",
  "managed_groups:",
  "  - name: sql-injection",
  "  - name: ip-reputation",
  "",
  "excluded_common_rules:",
  "  - SizeRestrictions_BODY",
  "",
  "rate_limit:",
  "  threshold: 2000",
  "  aggregation: FORWARDED_IP  # or SOURCE_IP",
  "",
  "# Custom rules: pre_rules use priorities 0 or 5-9, post_rules above 30",
  "# pre_rules:",
  "#   - name: allow_office",
  "#     priority: 5",
  "#     action: ALLOW",
  "#     statement:",
  "#       IPSetReferenceStatement:",
  "#         Arn: arn:aws:wafv2:...",
  "",
  "logging:",
  "  enabled: true",
  "  retention_days: 365",
  "  removal_policy: RETAIN",
  "",
  "# associations:",
  "#   - arn:aws:elasticloadbalancing:..."]

def sample : String :=
  String.join (sampleLines.map (· ++ "\n"))

end WebAcl.Config
