import WebAcl.Number.Literal
import WebAcl.Text.Utf8

namespace WebAcl

/-- Kinds of problems. Every kind but the most general one is a special case of another. -/
inductive Problem.Kind where
  | general
  | configFile
  | compilation
  | configuration
  | invalidPattern
  | invalidAddress
  | emptyField
  | mandatoryGroup
  | priorityCollision
  | duplicatePriority
  | duplicateName
  | bandExhausted
  | brokenInvariant
  deriving DecidableEq, Repr

namespace Problem.Kind

def parent? : Kind → Option Kind
  | general => none
  | configFile | compilation => some general
  | configuration | bandExhausted | brokenInvariant => some compilation
  | _ => some configuration

def ancestry (k : Kind) : List Kind :=
  let up := fun k : Kind ↦ k.parent?.toList
  let second := up k
  let third := second.flatMap up
  k :: (second ++ third ++ third.flatMap up)

end Problem.Kind

inductive Problem.Cause where
  | general
  | configFile (path : String)
  | compilation
  | configuration
  | invalidPattern (field pattern reason : String)
  | invalidAddress (field address reason : String)
  | emptyField (field : String)
  | mandatoryGroup (group : String)
  | priorityCollision (ruleName : String) (priority : Int) (band : String)
  | duplicatePriority (priority : Int) (ruleNames : List String)
  | duplicateName (name : String)
  | bandExhausted (band : String) (requested available : Int)
  | brokenInvariant
  deriving DecidableEq, Repr

namespace Problem.Cause

open Text

def kind : Cause → Kind
  | general => .general
  | configFile _ => .configFile
  | compilation => .compilation
  | configuration => .configuration
  | invalidPattern .. => .invalidPattern
  | invalidAddress .. => .invalidAddress
  | emptyField _ => .emptyField
  | mandatoryGroup _ => .mandatoryGroup
  | priorityCollision .. => .priorityCollision
  | duplicatePriority .. => .duplicatePriority
  | duplicateName _ => .duplicateName
  | bandExhausted .. => .bandExhausted
  | brokenInvariant => .brokenInvariant

def detail (s : String) : String :=
  if s = "" then "" else ": " ++ s

def message : Cause → String
  | general | compilation | configuration | brokenInvariant => ""
  | configFile path =>
    if path = "" then "Invalid configuration file" else s!"Invalid configuration file '{path}'"
  | invalidPattern field pattern reason =>
    "Invalid pattern " ++ quoted pattern ++ s!" in '{field}'" ++ detail reason
  | invalidAddress field address reason =>
    "Invalid address " ++ quoted address ++ s!" in '{field}'" ++ detail reason
  | emptyField field => s!"Required field '{field}' is empty"
  | mandatoryGroup group => s!"Managed rule group '{group}' is mandatory and cannot be disabled"
  | priorityCollision ruleName priority band =>
    s!"Rule '{ruleName}' priority {priority} is not allowed in band '{band}'"
  | duplicatePriority priority ruleNames =>
    s!"Priority {priority} is used by more than one rule" ++
      if ruleNames.isEmpty then "" else ": " ++ ", ".intercalate ruleNames
  | duplicateName name => s!"Rule name '{name}' is used by more than one rule"
  | bandExhausted band requested available =>
    s!"Priority band '{band}' cannot fit {requested} rule(s); {available} slot(s) available"

def hint : Cause → String
  | configFile _ => "Run 'wafpolicy config init' for an annotated example."
  | invalidPattern .. =>
    "Patterns must be non-empty regular expressions of at most 200 characters."
  | invalidAddress .. => "Use CIDR notation, e.g. 192.0.2.44/32 or 2001:db8::/32."
  | mandatoryGroup _ => "Exclude individual rules with 'excluded_rules' instead."
  | priorityCollision .. => "Pre-rules use priorities 0 or 5-9; post-rules use priorities above 30."
  | duplicatePriority .. => "Give every custom rule its own priority."
  | duplicateName _ => "Custom rules must not reuse each other's names or the built-in rule names."
  | brokenInvariant => "This is a bug in wafpolicy; please report it with your configuration."
  | _ => ""

end Problem.Cause

/-- A problem. An empty `note` or `advice` stands for the message or hint of the cause. -/
structure Problem where
  cause : Problem.Cause
  note : String := ""
  advice : String := ""
  deriving DecidableEq, Repr

namespace Problem

def message (p : Problem) : String :=
  if p.note = "" then p.cause.message else p.note

def hint (p : Problem) : String :=
  if p.advice = "" then p.cause.hint else p.advice

def display (p : Problem) : String :=
  if p.hint = "" then p.message else p.message ++ "\nHint: " ++ p.hint

def isCompilation (p : Problem) : Bool :=
  p.cause.kind.ancestry.contains .compilation

end Problem

/-- Failures that are not reported as problems of the configuration. -/
inductive Crash where
  | undecodable (fault : Text.Utf8.Fault)
  | isDirectory
  | noSuchFile
  | notDirectory
  | alreadyThere
  | noSuchKey (key : String)
  | noSuchIndex
  | noSuchPart (owner part : String)
  | overflow (message : String)
  | unencodable
  | nestedTooDeep
  | behindTooFar
  | notText
  | badValue (message : String)
  | badType (message : String)
  deriving DecidableEq, Repr

def Crash.hugeCode : Crash :=
  overflow "Python int too large to convert to C int"

def Crash.hugeInteger : Crash :=
  badValue (s!"Exceeds the limit ({Text.digitLimit} digits) for integer string conversion; " ++
    "use sys.set_int_max_str_digits() to increase the limit")

def Crash.hugeCount : Crash :=
  overflow "the repetition number is too large"

/-- What is shown of a failure. Failures of the file system are described by the system. -/
def Crash.message : Crash → String
  | undecodable fault => fault.message
  | isDirectory => "Is a directory"
  | noSuchFile => "No such file or directory"
  | notDirectory => "Not a directory"
  | alreadyThere => "File exists"
  | noSuchKey key => Text.quoted key
  | noSuchIndex => "string index out of range"
  | noSuchPart owner part => s!"'{owner}' object has no attribute '{part}'"
  | unencodable => "surrogates not allowed"
  | notText => "a statement holds bytes that are no text"
  | nestedTooDeep => "maximum recursion depth exceeded"
  | behindTooFar => "invalid SRE code"
  | overflow message | badValue message | badType message => message

inductive Failure where
  | problem (p : Problem)
  | crash (c : Crash)
  deriving DecidableEq, Repr

def Problem.Cause.isWritable : Problem.Cause → Bool
  | priorityCollision _ priority _ | duplicatePriority priority _ => Number.isWritable priority
  | bandExhausted _ requested available =>
    Number.isWritable requested && Number.isWritable available
  | _ => true

/-- A problem fails on its own account if its message cannot be written. -/
def Failure.ofProblem (p : Problem) : Failure :=
  if p.cause.isWritable then .problem p else .crash .hugeInteger

end WebAcl
