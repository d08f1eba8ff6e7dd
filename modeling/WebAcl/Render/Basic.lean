import WebAcl.Render.Document
import WebAcl.Render.Template
import WebAcl.Terraform.Basic

namespace WebAcl

inductive Format where
  | json
  | cloudFormation
  | terraform
  deriving DecidableEq, Repr, Inhabited

instance : Choice Format where
  all := [.json, .cloudFormation, .terraform]
  text
    | .json => "json"
    | .cloudFormation => "cloudformation"
    | .terraform => "terraform"

def Choice.ofValue {α : Type} [Choice α] (vocabulary : String) (v : Value) : Except Crash α :=
  let found : Option α := match v with
    | .str s => Choice.parse? s
    | _ => none
  match found with
  | some a => .ok a
  | none => .error (.badValue s!"{v.inspect} is not a valid {vocabulary}")

def Format.ofValue (v : Value) : Except Crash Format :=
  Choice.ofValue "RenderFormat" v

structure RenderedFile where
  name : String
  content : String
  deriving DecidableEq, Repr

def Crash.ofJson : Json.Fault → Crash
  | .longInteger => .hugeInteger
  | f => .badType f.message

namespace Policy

def jsonFile [Machine] (p : Policy) (name : String) (v : Value) :
    Except Crash (List RenderedFile) :=
  if p.rules.all (·.statement.isCopyable) then
    match Json.render .indented v with
    | .ok text => .ok [⟨name, text ++ "\n"⟩]
    | .error f => .error (.ofJson f)
  else .error .nestedTooDeep

def render [Machine] (format : Format) (p : Policy) : Except Crash (List RenderedFile) :=
  match format with
  | .json => p.jsonFile "policy.json" p.document
  | .cloudFormation => p.jsonFile "template.json" (Template.ofPolicy p)
  | .terraform => (Terraform.files p).map fun files ↦ files.map fun f ↦ ⟨f.1, f.2⟩

end Policy

end WebAcl
