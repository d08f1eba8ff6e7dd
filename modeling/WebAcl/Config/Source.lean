import WebAcl.Config.Basic
import WebAcl.Files.Host
import WebAcl.Log
import WebAcl.Yaml.Document

namespace WebAcl.Config

def sourceNames : List String := [".wafpolicy.yml", ".wafpolicy.yaml"]

/-- The configuration file of the nearest directory, going outwards. -/
def findFrom? (tree : FileTree) : Location → Option Location
  -- the root directory is not searched
  | [] => none
  | name :: outer =>
    ((sourceNames.map (· :: name :: outer)).find? tree.has).or (findFrom? tree outer)

def find? (host : Host) (start : Path) : Option Location :=
  findFrom? host.tree (host.resolve start)

structure Overrides where
  enforce : Option Bool := none
  scope : Option String := none
  deriving DecidableEq, Repr

namespace Overrides

/-- A truth value in the environment. Case and surrounding white space do not count. -/
def truth (name text : String) : Except Problem Bool :=
  let word := Text.lower (Text.strip text)
  if ["1", "true", "yes", "on"].contains word then .ok true
  else if ["0", "false", "no", "off"].contains word then .ok false
  else .error {
    cause := .configFile ""
    note := s!"Environment variable {name} must be a boolean, got " ++ Text.quoted text
    advice := "Use true/false, yes/no, on/off or 1/0." }

/-- The overrides in an environment. An empty scope counts as absent. -/
def ofHost (host : Host) (stem : String) : Except Problem Overrides := do
  let enforce ← (host.lookup? (stem ++ "ENFORCE")).mapM (truth (stem ++ "ENFORCE"))
  return ⟨enforce, (host.lookup? (stem ++ "SCOPE")).filter (· != "")⟩

def apply (o : Overrides) (entries : List (Value × Value)) : List (Value × Value) :=
  let entries := match o.enforce with
    | some b => Value.insert (.str "enforce") (.bool b) entries
    | none => entries
  match o.scope with
  | some s => Value.insert (.str "scope") (.str s) entries
  | none => entries

def records (o : Overrides) : List Log.Record :=
  let record := fun name text ↦
    ⟨.debug, "wafpolicy.config", s!"{name} overridden from environment: {text}"⟩
  (o.enforce.map fun b ↦ record "enforce" (Value.bool b).toText).toList ++
    (o.scope.map (record "scope")).toList

end Overrides

def sourceProblem (path : Path) (note : String) : Failure :=
  .problem { cause := .configFile path.toText, note := note }

/-- A configuration is looked into down to this level. What the statement of a rule holds is below
it. -/
def levels : Nat := 4

def readEntries [Machine] (host : Host) (path : Path) : Except Failure (List (Value × Value)) := do
  let bytes ← (host.read path).mapError .crash
  match Yaml.load levels (.ofBytes bytes) with
  | .error .malformed => throw (sourceProblem path s!"Failed to parse {path.toText}")
  | .error (.crash c) => throw (.crash c)
  | .ok (.map entries) => return entries
  | .ok _ => throw (sourceProblem path s!"Configuration in {path.toText} must be a mapping")

def refusal (path : Path) (issues : List Issue) : Failure :=
  if issues.any (·.complaint.isUnencodable) then .crash .unencodable
  else sourceProblem path (s!"Invalid configuration in {path.toText}: " ++
    "; ".intercalate (issues.map Issue.summary))

def ofEntries (path : Path) (entries : List (Value × Value)) : Except Failure Config :=
  match ofValue (.map entries) with
  | .valid c => .ok c
  | .invalid issues => .error (refusal path issues)

def source (host : Host) (given : Option Path) : Except Failure Path :=
  match given.or ((find? host {}).map Path.ofLocation) with
  | none => .error (.problem { cause := .configFile "", note := absent })
  | some path => if host.has path then .ok path else .error (sourceProblem path absent)
where
  absent := "No policy configuration file found"

def variableStem : String := "WAFPOLICY_"

def loadLogged [Machine] (host : Host) (given : Option Path) (stem : String) :
    Except Failure Config × List Log.Record :=
  let prepared := do
    let path ← source host given
    let entries ← readEntries host path
    let overrides ← (Overrides.ofHost host stem).mapError .problem
    return (path, entries, overrides)
  match prepared with
  | .error f => (.error f, [])
  | .ok (path, entries, overrides) =>
    (ofEntries path (overrides.apply entries), overrides.records)

def load [Machine] (host : Host) (given : Option Path) (stem : String) : Except Failure Config :=
  (loadLogged host given stem).1

end WebAcl.Config
