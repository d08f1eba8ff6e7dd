namespace WebAcl

/-- A closed vocabulary: its members in order, and the text of each. -/
class Choice (α : Type) where
  all : List α
  text : α → String

def Choice.parse? {α : Type} [Choice α] (s : String) : Option α :=
  (Choice.all (α := α)).find? fun a ↦ Choice.text a == s

def Choice.texts (α : Type) [Choice α] : List String :=
  (Choice.all (α := α)).map Choice.text

inductive Scope where
  | regional
  | edge
  deriving DecidableEq, Repr, Inhabited

instance : Choice Scope where
  all := [.regional, .edge]
  text
    | .regional => "REGIONAL"
    | .edge => "CLOUDFRONT"

inductive DefaultAction where
  | allow
  | block
  deriving DecidableEq, Repr, Inhabited

instance : Choice DefaultAction where
  all := [.allow, .block]
  text
    | .allow => "ALLOW"
    | .block => "BLOCK"

inductive RuleAction where
  | allow
  | block
  | count
  deriving DecidableEq, Repr, Inhabited

instance : Choice RuleAction where
  all := [.allow, .block, .count]
  text
    | .allow => "ALLOW"
    | .block => "BLOCK"
    | .count => "COUNT"

/-- What replaces the actions inside a rule group: nothing, or counting only. -/
inductive OverrideAction where
  | none
  | count
  deriving DecidableEq, Repr, Inhabited

instance : Choice OverrideAction where
  all := [.none, .count]
  text
    | .none => "NONE"
    | .count => "COUNT"

inductive IpVersion where
  | v4
  | v6
  deriving DecidableEq, Repr, Inhabited

instance : Choice IpVersion where
  all := [.v4, .v6]
  text
    | .v4 => "IPV4"
    | .v6 => "IPV6"

inductive Aggregation where
  | forwardedIp
  | sourceIp
  deriving DecidableEq, Repr, Inhabited

instance : Choice Aggregation where
  all := [.forwardedIp, .sourceIp]
  text
    | .forwardedIp => "FORWARDED_IP"
    | .sourceIp => "IP"

/-- Outcome when the header with the forwarded address is missing or malformed. -/
inductive Fallback where
  | isMatch
  | noMatch
  deriving DecidableEq, Repr, Inhabited

instance : Choice Fallback where
  all := [.isMatch, .noMatch]
  text
    | .isMatch => "MATCH"
    | .noMatch => "NO_MATCH"

inductive MatchField where
  | uriPath
  | singleHeader
  deriving DecidableEq, Repr, Inhabited

instance : Choice MatchField where
  all := [.uriPath, .singleHeader]
  text
    | .uriPath => "uri_path"
    | .singleHeader => "single_header"

inductive RemovalPolicy where
  | retain
  | destroy
  deriving DecidableEq, Repr, Inhabited

instance : Choice RemovalPolicy where
  all := [.retain, .destroy]
  text
    | .retain => "RETAIN"
    | .destroy => "DESTROY"

/-- The feature a rule comes from; each owns a band of priorities. -/
inductive Category where
  | preCustom
  | blockV4
  | blockV6
  | allowPath
  | allowV4
  | allowV6
  | allowUserAgent
  | managed
  | rateLimit
  | postCustom
  deriving DecidableEq, Repr, Inhabited

instance : Choice Category where
  all := [.preCustom, .blockV4, .blockV6, .allowPath, .allowV4, .allowV6, .allowUserAgent,
    .managed, .rateLimit, .postCustom]
  text
    | .preCustom => "pre-custom"
    | .blockV4 => "block-v4"
    | .blockV6 => "block-v6"
    | .allowPath => "allow-path"
    | .allowV4 => "allow-v4"
    | .allowV6 => "allow-v6"
    | .allowUserAgent => "allow-ua"
    | .managed => "managed"
    | .rateLimit => "rate-limit"
    | .postCustom => "post-custom"

end WebAcl
