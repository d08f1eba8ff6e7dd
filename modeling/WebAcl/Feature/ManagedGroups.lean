import WebAcl.Compile.Session
import WebAcl.Config.Basic
import WebAcl.Feature.Mode
import WebAcl.Managed.Registry

namespace WebAcl.ManagedGroups

/-- The groups that are on, by key, each with the rules excluded so far. -/
abbrev Selection := List (String × List String)

namespace Selection

def switchOff (s : Selection) (key : String) : Selection :=
  s.filter (·.1 != key)

def switchOn (s : Selection) (key : String) (excluded : List String) : Selection :=
  if s.any (·.1 == key) then s.map fun e ↦ if e.1 == key then (e.1, e.2 ++ excluded) else e
  else s ++ [(key, excluded)]

end Selection

def applyToggle (registry : Registry) (s : Selection) (index : Nat) (t : Config.GroupToggle) :
    Except Problem Selection :=
  match registry.group? t.name with
  | none => .error
      { cause := .emptyField s!"managed_groups[{index}].name"
        note := s!"Unknown managed rule group '{t.name}'"
        advice := "Known groups: " ++ ", ".intercalate registry.keys }
  | some g =>
    if t.enabled then .ok (s.switchOn g.key t.excludedRules)
    else if g.mandatory then .error { cause := .mandatoryGroup g.key }
    else .ok (s.switchOff g.key)

def applyToggles (registry : Registry) (s : Selection) (index : Nat) :
    List Config.GroupToggle → Except Problem Selection
  | [] => .ok s
  | t :: ts => do
    let s ← applyToggle registry s index t
    applyToggles registry s (index + 1) ts

/-- The key of the group with exclusions of its own in the configuration. -/
def commonKey : String := "common"

def select (registry : Registry) (toggles : List Config.GroupToggle)
    (excludedCommon : List String) : Except Problem Selection := do
  let s ← applyToggles registry (registry.mandatory.map fun g ↦ (g.key, [])) 0 toggles
  return s.map fun e ↦ if e.1 == commonKey then (e.1, excludedCommon ++ e.2) else e

def unique (names : List String) : List String :=
  names.foldl (fun seen n ↦ if seen.contains n then seen else seen ++ [n]) []

def rule (g : ManagedGroup) (excluded : List String) (enforce : Bool) (priority : Int) : Rule where
  name := g.ruleName
  priority := priority
  statement :=
    .managedGroup g.vendorRuleSet g.vendor (unique (g.curatedExclusions ++ excluded))
  category := .managed
  visibility := { metricName := g.ruleName }
  override := some (if g.alwaysEnforced then .none else Mode.override enforce)
  modeSensitive := !g.alwaysEnforced

def rules (s : Selection) (enforce : Bool) : List ManagedGroup → Compiling (List Rule)
  | [] => return []
  | g :: gs => do
    match s.lookup g.key with
    | none => rules s enforce gs
    | some excluded =>
      let priority ← Compiling.slot .managed g.slot
      return rule g excluded enforce priority :: (← rules s enforce gs)

def build (toggles : List Config.GroupToggle) (excludedCommon : List String) (enforce : Bool)
    (registry : Registry) : Compiling (List Rule) := do
  let s ← Compiling.ofProblem (select registry toggles excludedCommon)
  let built ← rules s enforce registry.inOrder
  Compiling.note .debug s!"Built {built.length} managed group rules"
  return built

end WebAcl.ManagedGroups
