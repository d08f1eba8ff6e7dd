import WebAcl.Feature.Mode
import WebAcl.Policy.Basic
import WebAcl.Priority.Band
import WebAcl.Problem

namespace WebAcl.RuleList

def repeatedName? (seen : List String) : List Rule → Option String
  | [] => none
  | r :: rs => if seen.contains r.name then some r.name else repeatedName? (seen ++ [r.name]) rs

def namesAt (rules : List Rule) (priority : Int) : List String :=
  (rules.filter (·.priority == priority)).map (·.name)

def repeatedPriority? (rules : List Rule) : Option (Int × List String) :=
  (rules.find? fun r ↦ 1 < (namesAt rules r.priority).length).map fun r ↦
    (r.priority, namesAt rules r.priority)

def invariantProblem (message : String) : Problem :=
  { cause := .brokenInvariant, note := message }

/-- How a rule fails that breaks an invariant which its maker guarantees. -/
def breach? (enforce : Bool) (r : Rule) : Option Failure :=
  let band := Band.of r.category
  let refused := fun message ↦ some (.problem (invariantProblem message))
  let mismatch := fun kind text ↦
    refused s!"Rule '{r.name}' {kind} {text} does not match mode"
  if !band.contains r.priority then
    if Number.isWritable r.priority then
      refused (s!"Rule '{r.name}' priority {r.priority} is outside band " ++
        s!"'{Choice.text r.category}' ({band.label})")
    else some (.crash .hugeInteger)
  else match r.action, r.override with
    | none, none | some _, some _ =>
      refused s!"Rule '{r.name}' must have exactly one of action or override action"
    | some a, none =>
      if r.modeSensitive && a != Mode.action enforce then mismatch "action" (Choice.text a)
      else none
    | none, some o =>
      if r.modeSensitive && o != Mode.override enforce then mismatch "override" (Choice.text o)
      else none

def sorted (rules : List Rule) : List Rule :=
  rules.mergeSort fun r s ↦ r.priority ≤ s.priority

def descent? : List Rule → Option (Rule × Rule)
  | r :: s :: rest => if s.priority ≤ r.priority then some (r, s) else descent? (s :: rest)
  | _ => none

def arrange (rules : List Rule) (enforce : Bool) : Except Failure (List Rule) := do
  if let some name := repeatedName? [] rules then
    throw (.problem { cause := .duplicateName name })
  if let some (priority, names) := repeatedPriority? rules then
    throw (.ofProblem { cause := .duplicatePriority priority names })
  if let some failure := rules.findSome? (breach? enforce) then
    throw failure
  let ordered := sorted rules
  if let some (r, s) := descent? ordered then
    throw (.problem (invariantProblem
      s!"Rules '{r.name}' and '{s.name}' are not in ascending priority order"))
  return ordered

end WebAcl.RuleList
