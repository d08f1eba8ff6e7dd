import WebAcl.Config.Plain
import WebAcl.Priority.Allocator

namespace WebAcl.Config.CustomRule

open Text

def fieldOf (category : Category) : String :=
  if category = .preCustom then "pre_rules" else "post_rules"

def toRule [Machine] (category : Category) (index : Nat) (r : CustomRule) :
    Except Failure Rule := do
  let field := s!"{fieldOf category}[{index}]"
  if strip r.name = "" then throw (.problem { cause := .emptyField s!"{field}.name" })
  if r.statement.isEmpty then throw (.problem { cause := .emptyField s!"{field}.statement" })
  let priority ← (Allocator.checkCustom category r.priority r.name).mapError .ofProblem
  let statement ← (Statement.copyOfBody r.body).mapError .crash
  let metricName := match r.metricName with
    | none | some "" => r.name
    | some name => name
  return {
    name := r.name
    priority := priority
    statement := statement
    category := category
    visibility := ⟨metricName, r.metricsEnabled, r.samplingEnabled⟩
    action := r.action
    override := r.override }

def toRules [Machine] (category : Category) (index : Nat) :
    List CustomRule → Except Failure (List Rule)
  | [] => .ok []
  | r :: rs => do
    let head ← r.toRule category index
    let tail ← toRules category (index + 1) rs
    return head :: tail

def build [Machine] (category : Category) (rules : List CustomRule) : Except Failure (List Rule) :=
  toRules category 0 rules

end WebAcl.Config.CustomRule
