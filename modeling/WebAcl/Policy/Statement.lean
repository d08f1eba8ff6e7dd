import WebAcl.Machine
import WebAcl.Policy.Choice
import WebAcl.Value.Frozen

namespace WebAcl

structure IpSet where
  logicalId : String
  version : IpVersion
  addresses : List String
  description : String
  deriving DecidableEq, Repr, Inhabited

structure RegexSet where
  logicalId : String
  patterns : List String
  description : String
  deriving DecidableEq, Repr, Inhabited

inductive BackingSet where
  | ip (set : IpSet)
  | regex (set : RegexSet)
  deriving DecidableEq, Repr

def BackingSet.logicalId : BackingSet → String
  | ip s => s.logicalId
  | regex s => s.logicalId

def BackingSet.description : BackingSet → String
  | ip s => s.description
  | regex s => s.description

abbrev Resolver := BackingSet → Value

def Resolver.byLogicalId : Resolver := fun s ↦ .str s.logicalId

structure ForwardedIp where
  fallback : Fallback
  headerName : String := "X-Forwarded-For"
  position : Option String := none
  deriving DecidableEq, Repr

inductive Statement where
  | ipSet (set : IpSet) (forwarded : Option ForwardedIp)
  | regexSet (set : RegexSet) (field : MatchField) (headerName : Option String)
  | managedGroup (name vendor : String) (excluded : List String)
  | rateBased (limit : Int) (aggregation : Aggregation) (forwarded : Option ForwardedIp)
  | custom (body : Value)

def ForwardedIp.toValue (f : ForwardedIp) : Value :=
  .record ([("HeaderName", .str f.headerName), ("FallbackBehavior", .str (Choice.text f.fallback))]
    ++ (f.position.map fun p ↦ ("Position", .str p)).toList)

namespace Statement

def references : Statement → List BackingSet
  | ipSet s _ => [.ip s]
  | regexSet s .. => [.regex s]
  | _ => []

def kind : Statement → String
  | ipSet .. => "ip_set"
  | regexSet .. => "regex_set"
  | managedGroup .. => "managed_group"
  | rateBased .. => "rate_based"
  | custom _ => "custom"

/-- A statement written by the user, detached from the data it came from. -/
def ofBody (body : Value) : Statement :=
  custom body.freeze

def copyOfBody [Machine] (body : Value) : Except Crash Statement :=
  if Machine.copying.fits 0 body then .ok (ofBody body) else .error .nestedTooDeep

def isCopyable [Machine] : Statement → Bool
  | custom body => Machine.thawing.fits 0 body
  | _ => true

def fieldToMatch (field : MatchField) (headerName : Option String) : Value :=
  match field with
  | .singleHeader =>
    .record [("SingleHeader", .record [("Name", (headerName.map .str).getD .null)])]
  | .uriPath => .record [("UriPath", .record [])]

def toValue (resolve : Resolver) : Statement → Value
  | ipSet s forwarded =>
    .record [("IPSetReferenceStatement", .record (("Arn", resolve (.ip s)) ::
      (forwarded.map fun f ↦ ("IPSetForwardedIPConfig", f.toValue)).toList))]
  | regexSet s field headerName =>
    .record [("RegexPatternSetReferenceStatement", .record [
      ("Arn", resolve (.regex s)),
      ("FieldToMatch", fieldToMatch field headerName),
      ("TextTransformations", .list [.record [("Priority", .int 0), ("Type", .str "NONE")]])])]
  | managedGroup name vendor excluded =>
    .record [("ManagedRuleGroupStatement", .record [
      ("Name", .str name),
      ("VendorName", .str vendor),
      ("ExcludedRules", .list (excluded.map fun n ↦ .record [("Name", .str n)]))])]
  | rateBased limit aggregation forwarded =>
    .record [("RateBasedStatement", .record ([
      ("AggregateKeyType", .str (Choice.text aggregation)),
      ("Limit", .int limit)] ++ (forwarded.map fun f ↦ ("ForwardedIPConfig", f.toValue)).toList))]
  | custom body => body.thaw

def same : Statement → Statement → Bool
  | ipSet s f, ipSet t g => s == t && f == g
  | regexSet s m h, regexSet t n i => s == t && m == n && h == i
  | managedGroup a b c, managedGroup d e f => a == d && b == e && c == f
  | rateBased a b c, rateBased d e f => a == d && b == e && c == f
  | custom b, custom c => b.same c
  | _, _ => false

end Statement

end WebAcl
