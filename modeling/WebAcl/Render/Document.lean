import WebAcl.Json.Printer
import WebAcl.Policy.Basic

namespace WebAcl.Policy

def ipSetDocument (s : IpSet) : Value :=
  .record [
    ("LogicalId", .str s.logicalId),
    ("IPAddressVersion", .str (Choice.text s.version)),
    ("Addresses", .strings s.addresses),
    ("Description", .str s.description)]

def regexSetDocument (s : RegexSet) : Value :=
  .record [
    ("LogicalId", .str s.logicalId),
    ("RegularExpressionList", .strings s.patterns),
    ("Description", .str s.description)]

def logSinkDocument (p : Policy) : Value :=
  .record [
    ("Enabled", .bool p.logSink.enabled),
    ("LogGroupName", .str (LogSink.groupName p.name)),
    ("RetentionInDays", .int p.logSink.retentionDays),
    ("RemovalPolicy", .str (Choice.text p.logSink.removalPolicy))]

def document (p : Policy) : Value :=
  .record [
    ("WebACL", p.toValue Resolver.byLogicalId),
    ("IPSets", .list (p.ipSets.map ipSetDocument)),
    ("RegexPatternSets", .list (p.regexSets.map regexSetDocument)),
    ("Logging", p.logSinkDocument),
    ("Associations", .strings p.associations)]

end WebAcl.Policy
