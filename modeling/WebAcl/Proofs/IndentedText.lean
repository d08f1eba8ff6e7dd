import WebAcl.Hcl.Basic

namespace WebAcl.Hcl

mutual

def Expr.textFrom (indent : String) : Expr → String
  | text s => quote s
  | word s => "\"" ++ s ++ "\""
  | bare s => s
  | inline items => "[" ++ ", ".intercalate (Expr.textsFrom indent items) ++ "]"
  | column [] => "[]"
  | column items =>
    let lines := items.map fun s ↦ indent ++ "  " ++ quote s ++ ","
    "[\n" ++ "\n".intercalate lines ++ "\n" ++ indent ++ "]"

def Expr.textsFrom (indent : String) : List Expr → List String
  | [] => []
  | e :: es => e.textFrom indent :: Expr.textsFrom indent es

end

namespace Item

def attributeLinesFrom (indent : String) (fields : List (String × Expr)) : List String :=
  let width := (fields.map (·.1.length)).foldl max 0
  fields.map fun (name, value) ↦
    indent ++ name ++ String.ofList (List.replicate (width - name.length) ' ') ++ " = " ++
      value.textFrom indent

mutual

def linesFrom (indent : String) : Item → List String
  | blank => [""]
  | attributes fields => attributeLinesFrom indent fields
  | flag name => [indent ++ name ++ " \x7b\x7d"]
  | block header body =>
    (indent ++ header ++ " \x7b") :: (allLinesFrom (indent ++ "  ") body ++ [indent ++ "\x7d"])

def allLinesFrom (indent : String) : List Item → List String
  | [] => []
  | item :: items => item.linesFrom indent ++ allLinesFrom indent items

end

@[simp] theorem allLinesFrom_append (indent : String) (items items' : List Item) :
    allLinesFrom indent (items ++ items') =
      allLinesFrom indent items ++ allLinesFrom indent items' := by
  induction items with
  | nil => rfl
  | cons item items ih => simp [allLinesFrom, ih]

@[simp] theorem allLinesFrom_singleton (indent : String) (item : Item) :
    allLinesFrom indent [item] = item.linesFrom indent :=
  List.append_nil _

@[simp] theorem linesFrom_single (indent name : String) (value : Expr) :
    (single name value).linesFrom indent = [indent ++ name ++ " = " ++ value.textFrom indent] := by
  simp [single, linesFrom, attributeLinesFrom]

end Item

def renderFrom (indent : String) (items : List Item) : String :=
  "\n".intercalate (Item.allLinesFrom indent items)

theorem margin_succ (depth : Nat) : margin (depth + 1) = margin depth ++ "  " := by
  rw [← String.toList_inj, String.toList_append]
  simp only [margin, String.toList_ofList, Nat.mul_succ, ← List.replicate_append_replicate]
  rfl

mutual

theorem Expr.textFrom_margin (depth : Nat) : ∀ e : Expr, e.textFrom (margin depth) = e.toText depth
  | .text _ | .word _ | .bare _ | .column [] => rfl
  | .column (s :: ss) => by rw [textFrom, toText, margin_succ] <;> simp
  | .inline es => by rw [textFrom, toText, textsFrom_margin depth es]

theorem Expr.textsFrom_margin (depth : Nat) : ∀ es : List Expr,
    Expr.textsFrom (margin depth) es = Expr.texts depth es
  | [] => rfl
  | e :: es => by rw [textsFrom, texts, textFrom_margin depth e, textsFrom_margin depth es]

end

namespace Item

mutual

theorem linesFrom_margin : ∀ (depth : Nat) (item : Item),
    item.linesFrom (margin depth) = item.lines depth
  | _, .blank | _, .flag _ => rfl
  | depth, .attributes fields => by
    simp only [linesFrom, lines, attributeLinesFrom, attributeLines, Expr.textFrom_margin]
  | depth, .block header body => by
    rw [linesFrom, lines, ← margin_succ, allLinesFrom_margin (depth + 1) body]

theorem allLinesFrom_margin : ∀ (depth : Nat) (items : List Item),
    allLinesFrom (margin depth) items = allLines depth items
  | _, [] => rfl
  | depth, item :: items => by
    rw [allLinesFrom, allLines, linesFrom_margin depth item, allLinesFrom_margin depth items]

end

end Item

end WebAcl.Hcl
