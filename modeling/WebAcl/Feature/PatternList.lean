import WebAcl.Compile.Session
import WebAcl.Machine
import WebAcl.Policy.Rule
import WebAcl.Regex.Parser

namespace WebAcl

structure PatternList where
  field : String
  logicalId : String
  purpose : String
  matchField : MatchField
  headerName : Option String
  ruleName : String
  metricName : String

namespace PatternList

def of? : Category → Option PatternList
  | .allowPath => some {
      field := "allowed_paths"
      logicalId := "AllowedPathSet"
      purpose := "Allowed URI paths"
      matchField := .uriPath
      headerName := none
      ruleName := "allow_path_rule"
      metricName := "AllowPathRule" }
  | .allowUserAgent => some {
      field := "allowed_user_agents"
      logicalId := "AllowedUserAgentSet"
      purpose := "Allowed user agents"
      matchField := .singleHeader
      headerName := some "User-Agent"
      ruleName := "allow_user_agent_rule"
      metricName := "AllowUserAgentRule" }
  | _ => none

def maxLength : Nat := 200

def checkPattern [Machine] (field pattern : String) : Except Failure String :=
  let refuse := fun reason ↦ .error (.problem { cause := .invalidPattern field pattern reason })
  let cs := pattern.toList
  if cs.isEmpty then refuse "pattern is empty"
  else if maxLength < (Text.codesOf cs).length then refuse s!"longer than {maxLength} characters"
  else match Regex.check Machine.release cs with
    | .ok () => .ok pattern
    | .error (.malformed message position) => refuse (Regex.faultText cs message position)
    | .error .hugeCode => .error (.crash .hugeCode)
    | .error .hugeCount => .error (.crash .hugeCount)
    | .error .behindTooFar => .error (.crash .behindTooFar)
    | .error .flagConflict =>
      .error (.crash (.badValue "ASCII and UNICODE flags are incompatible"))

def checkPatterns [Machine] (field : String) (patterns : List String) :
    Except Failure (List String) :=
  patterns.mapM (checkPattern field)

def build [Machine] (category : Category) (patterns : Option (List String)) (policyName : String) :
    Compiling (List Rule) := do
  match patterns, of? category with
  | none, _ => return []
  | some _, none => throw (.crash (.noSuchKey (Choice.text category)))
  | some patterns, some d =>
    let checked ← Compiling.ofExcept (checkPatterns d.field patterns)
    if checked.isEmpty then
      Compiling.note .warning s!"{d.field} is empty; creating a zero-match regex set"
    let set : RegexSet := ⟨d.logicalId, checked, s!"{policyName} - {d.purpose}"⟩
    let taken ← Compiling.allocate category (some 1)
    Compiling.note .debug
      s!"Built {Choice.text category} rule for {checked.length} patterns"
    return [{
      name := d.ruleName
      priority := taken.getD 0 0
      statement := .regexSet set d.matchField d.headerName
      category := category
      visibility := { metricName := d.metricName }
      action := some .allow }]

end PatternList

end WebAcl
