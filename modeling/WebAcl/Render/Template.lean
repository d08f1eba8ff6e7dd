import WebAcl.Policy.Basic

namespace WebAcl.Template

def aclKey : String := "WebAcl"

def logGroupKey : String := "WafLogGroup"

def loggingKey : String := "WafLoggingConfiguration"

def attributeOf (key name : String) : Value :=
  .record [("Fn::GetAtt", .strings [key, name])]

def arnOf (key : String) : Value :=
  attributeOf key "Arn"

def resolver : Resolver := fun s ↦ arnOf s.logicalId

def resource (type : String) (settings : List (String × Value))
    (properties : Value) : Value :=
  .record ([("Type", .str type)] ++ settings ++ [("Properties", properties)])

def ipSetResource (scope : Scope) (s : IpSet) : Value :=
  resource "AWS::WAFv2::IPSet" [] (.record [
    ("Addresses", .strings s.addresses),
    ("IPAddressVersion", .str (Choice.text s.version)),
    ("Scope", .str (Choice.text scope)),
    ("Description", .str s.description)])

def regexSetResource (scope : Scope) (s : RegexSet) : Value :=
  resource "AWS::WAFv2::RegexPatternSet" [] (.record [
    ("RegularExpressionList", .strings s.patterns),
    ("Scope", .str (Choice.text scope)),
    ("Description", .str s.description)])

def associationResource (arn : String) : Value :=
  resource "AWS::WAFv2::WebACLAssociation" [] (.record [
    ("ResourceArn", .str arn),
    ("WebACLArn", arnOf aclKey)])

def logGroupResource (p : Policy) : Value :=
  let fate := Value.str (match p.logSink.removalPolicy with
    | .retain => "Retain"
    | .destroy => "Delete")
  let properties := Value.record [
    ("LogGroupName", .str (LogSink.groupName p.name)),
    ("RetentionInDays", .int p.logSink.retentionDays)]
  resource "AWS::Logs::LogGroup" [("DeletionPolicy", fate), ("UpdateReplacePolicy", fate)]
    properties

/-- The destination of the logs. The identifier that the log group itself reports ends in `:*`,
which is no destination, so the identifier is put together here; names between `${` and a brace are
replaced on deployment. -/
def logDestination (p : Policy) : String :=
  "arn:$\x7bAWS::Partition\x7d:logs:$\x7bAWS::Region\x7d:$\x7bAWS::AccountId\x7d:log-group:" ++
    LogSink.groupName p.name

def loggingResource (p : Policy) : Value :=
  resource "AWS::WAFv2::LoggingConfiguration" [("DependsOn", .strings [logGroupKey])] (.record [
    ("ResourceArn", arnOf aclKey),
    ("LogDestinationConfigs", .list [.record [("Fn::Sub", .str (logDestination p))]])])

def resources (p : Policy) : List (String × Value) :=
  p.ipSets.map (fun s ↦ (s.logicalId, ipSetResource p.scope s)) ++
  p.regexSets.map (fun s ↦ (s.logicalId, regexSetResource p.scope s)) ++
  [(aclKey, resource "AWS::WAFv2::WebACL" [] (p.toValue resolver))] ++
  p.associations.mapIdx (fun i arn ↦ (s!"WebAclAssociation{i}", associationResource arn)) ++
  if p.logSink.enabled then
    [(logGroupKey, logGroupResource p), (loggingKey, loggingResource p)]
  else []

def outputs (p : Policy) : List (String × Value) :=
  let output := fun v ↦ Value.record [("Value", v)]
  (p.ipSets.map (·.logicalId) ++ p.regexSets.map (·.logicalId)).map
    (fun key ↦ (key ++ "Arn", output (arnOf key))) ++
  [("WebAclArn", output (arnOf aclKey)), ("WebAclId", output (attributeOf aclKey "Id"))]

def ofPolicy (p : Policy) : Value :=
  .record [
    ("AWSTemplateFormatVersion", .str "2010-09-09"),
    ("Description", .str s!"Web ACL {p.name}"),
    ("Resources", .ofFields (resources p)),
    ("Outputs", .ofFields (outputs p))]

end WebAcl.Template
