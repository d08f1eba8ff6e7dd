import WebAcl.Number.Literal
import WebAcl.Value.Text

namespace WebAcl

inductive Issue.Step where
  | field (name : String)
  | item (index : Int)
  deriving DecidableEq, Repr

inductive Issue.Complaint where
  | missing
  | unexpected
  | keyNotText
  | notText
  | notUnicode
  | notInteger
  | notIntegerText
  | integerTooLong
  | notFinite
  | fractional
  | notTruth
  | notTruthText
  | notList
  | notMap
  | notRecord (name : String)
  | notChoice (texts : List String)
  | below (least : Int)
  | above (most : Int)
  | refused (message : String)
  deriving DecidableEq, Repr

structure Issue where
  path : List Issue.Step
  complaint : Issue.Complaint
  deriving DecidableEq, Repr

namespace Issue

def Step.text : Step → String
  | field name => name
  | item i => toString i

def Step.ofKey : Value → Step
  | .str s => field s
  | .bool b => item (if b then 1 else 0)
  | .int i =>
    if Number.isShort i then item i
    else field (if Number.isWritable i then toString i else "<unprintable int object>")
  | v => field v.inspect

def Complaint.alternatives (texts : List String) : String :=
  let quotes := texts.map fun t ↦ s!"'{t}'"
  match quotes.reverse with
  | [] => ""
  | [only] => only
  | last :: before => ", ".intercalate before.reverse ++ " or " ++ last

namespace Complaint

def code : Complaint → String
  | missing => "missing"
  | unexpected => "extra_forbidden"
  | keyNotText => "invalid_key"
  | notText => "string_type"
  | notUnicode => "string_unicode"
  | notInteger => "int_type"
  | notIntegerText => "int_parsing"
  | integerTooLong => "int_parsing_size"
  | notFinite => "finite_number"
  | fractional => "int_from_float"
  | notTruth => "bool_type"
  | notTruthText => "bool_parsing"
  | notList => "list_type"
  | notMap => "dict_type"
  | notRecord _ => "model_type"
  | notChoice _ => "enum"
  | below _ => "greater_than_equal"
  | above _ => "less_than_equal"
  | refused _ => "value_error"

def message : Complaint → String
  | missing => "Field required"
  | unexpected => "Extra inputs are not permitted"
  | keyNotText => "Keys should be strings"
  | notText => "Input should be a valid string"
  | notUnicode => "Input should be a valid string, unable to parse raw data as a unicode string"
  | notInteger => "Input should be a valid integer"
  | notIntegerText => "Input should be a valid integer, unable to parse string as an integer"
  | integerTooLong => "Unable to parse input string as an integer, exceeded maximum size"
  | notFinite => "Input should be a finite number"
  | fractional => "Input should be a valid integer, got a number with a fractional part"
  | notTruth => "Input should be a valid boolean"
  | notTruthText => "Input should be a valid boolean, unable to interpret input"
  | notList => "Input should be a valid list"
  | notMap => "Input should be a valid dictionary"
  | notRecord name => s!"Input should be a valid dictionary or instance of {name}"
  | notChoice texts => "Input should be " ++ alternatives texts
  | below least => s!"Input should be greater than or equal to {least}"
  | above most => s!"Input should be less than or equal to {most}"
  | refused message => "Value error, " ++ message

/-- A complaint that cannot be handed on, as its text holds half of a surrogate pair. -/
def isUnencodable : Complaint → Bool
  | refused message => Text.holdsHalf message
  | _ => false

end Complaint

def under (step : Step) (i : Issue) : Issue :=
  { i with path := step :: i.path }

def summary (i : Issue) : String :=
  let path := ".".intercalate (i.path.map Step.text)
  (if path = "" then "<root>" else path) ++ ": " ++ i.complaint.message

end Issue

/-- A result, or all issues that were found. -/
inductive Checked (α : Type) where
  | valid (a : α)
  | invalid (issues : List Issue)

namespace Checked

def map {α β : Type} (f : α → β) : Checked α → Checked β
  | valid a => valid (f a)
  | invalid is => invalid is

def apply {α β : Type} : Checked (α → β) → Checked α → Checked β
  | valid f, valid a => valid (f a)
  | valid _, invalid is => invalid is
  | invalid is, valid _ => invalid is
  | invalid is, invalid js => invalid (is ++ js)

instance : Applicative Checked where
  pure := valid
  map := map
  seq f x := f.apply (x ())

def issues {α : Type} : Checked α → List Issue
  | valid _ => []
  | invalid is => is

def also {α : Type} (x : Checked α) : List Issue → Checked α
  | [] => x
  | i :: is => invalid (x.issues ++ i :: is)

/-- A further check of a result, made only if there are no issues. -/
def andThen {α β : Type} : Checked α → (α → Checked β) → Checked β
  | valid a, f => f a
  | invalid is, _ => invalid is

def fail {α : Type} (c : Issue.Complaint) : Checked α := invalid [⟨[], c⟩]

def under {α : Type} (step : Issue.Step) : Checked α → Checked α
  | valid a => valid a
  | invalid is => invalid (is.map (·.under step))

def all {α : Type} : List (Checked α) → Checked (List α)
  | [] => valid []
  | x :: xs => (x.map List.cons).apply (all xs)

end Checked

end WebAcl
