import WebAcl.Hcl.Quoted

namespace WebAcl.Hcl

inductive Expr where
  | text (s : String)
  /-- A word of a fixed vocabulary, which needs no escapes. -/
  | word (s : String)
  | bare (s : String)
  | inline (items : List Expr)
  | column (items : List String)

inductive Item where
  | blank
  | attributes (fields : List (String × Expr))
  | flag (name : String)
  | block (header : String) (body : List Item)

def margin (depth : Nat) : String :=
  String.ofList (List.replicate (2 * depth) ' ')

mutual

def Expr.toText (depth : Nat) : Expr → String
  | text s => quote s
  | word s => "\"" ++ s ++ "\""
  | bare s => s
  | inline items => "[" ++ ", ".intercalate (Expr.texts depth items) ++ "]"
  | column [] => "[]"
  | column items =>
    let lines := items.map fun s ↦ margin (depth + 1) ++ quote s ++ ","
    "[\n" ++ "\n".intercalate lines ++ "\n" ++ margin depth ++ "]"

def Expr.texts (depth : Nat) : List Expr → List String
  | [] => []
  | e :: es => e.toText depth :: Expr.texts depth es

end

namespace Item

def attributeLines (depth : Nat) (fields : List (String × Expr)) : List String :=
  let width := (fields.map (·.1.length)).foldl max 0
  fields.map fun (name, value) ↦
    margin depth ++ name ++ String.ofList (List.replicate (width - name.length) ' ') ++ " = " ++
      value.toText depth

mutual

def lines (depth : Nat) : Item → List String
  | blank => [""]
  | attributes fields => attributeLines depth fields
  | flag name => [margin depth ++ name ++ " \x7b\x7d"]
  | block header body =>
    (margin depth ++ header ++ " \x7b") :: (allLines (depth + 1) body ++ [margin depth ++ "\x7d"])

def allLines (depth : Nat) : List Item → List String
  | [] => []
  | item :: items => item.lines depth ++ allLines depth items

end

def single (name : String) (value : Expr) : Item :=
  attributes [(name, value)]

/-- Items of which none are written as an empty line. -/
def orBlank (items : List Item) : List Item :=
  if items.isEmpty then [blank] else items

end Item

def render (depth : Nat) (items : List Item) : String :=
  "\n".intercalate (Item.allLines depth items)

def file (blocks : List Item) : String :=
  "\n".intercalate (blocks.map fun b ↦ render 0 [b] ++ "\n")

end WebAcl.Hcl
