import WebAcl.Hcl.Basic
import WebAcl.Machine
import WebAcl.Text.Naming
import WebAcl.Value.Text

namespace WebAcl.Hcl

def isMap : Value → Bool
  | .map _ => true
  | _ => false

section

variable [Machine]

mutual

/-- A value as an expression, where `used` is taken up of the stack. Lists stay lists; other values
that are no numbers are written as texts. -/
def exprOf (used : Nat) (v : Value) : Except Crash Expr := do
  Machine.expressions.enter used v.kindName
  match v with
  | .bool b => return .bare (if b then "true" else "false")
  | .int i => if Number.isWritable i then return .bare (toString i) else .error .hugeInteger
  | .float x => return .bare x.toText
  | .list xs => return .inline (← exprsOf (used + Machine.expressions.step "list") xs)
  | v => if v.isWritable then return .text v.toText else .error .hugeInteger

def exprsOf (used : Nat) : List Value → Except Crash (List Expr)
  | [] => .ok []
  | x :: xs => do
    let head ← exprOf used x
    let tail ← exprsOf used xs
    return head :: tail

end

end

def fullKindName : Value → String
  | .date d => "datetime." ++ (Value.date d).kindName
  | .timestamp t => "datetime." ++ (Value.timestamp t).kindName
  | v => v.kindName

/-- The name for a key. Only texts can be keys. -/
def nameOf : Value → Except Crash String
  | .str s => .ok (Text.snakeCase s)
  | .bytes _ => .error (.badType "cannot use a string pattern on a bytes-like object")
  | v => .error (.badType s!"expected string or bytes-like object, got '{fullKindName v}'")

def singular (name : String) : String :=
  if name.toList.getLast? = some 's' then String.ofList name.toList.dropLast else name

section

variable [Machine]

mutual

def itemsOf (used : Nat) : List (Value × Value) → Except Crash (List Item)
  | [] => .ok []
  | (k, v) :: es => do
    Machine.blocks.enter used k.kindName
    let name ← nameOf k
    let items ← entryItems used name v
    return items ++ (← itemsOf used es)

def entryItems (used : Nat) (name : String) : Value → Except Crash (List Item)
  | .map es => do
    Machine.blocks.enter used "dict"
    let body ← itemsOf (used + Machine.blocks.step "dict") es
    return [if body.isEmpty then .flag name else .block name body]
  | .list xs =>
    if !xs.isEmpty && xs.all isMap then blocksOf used (singular name) xs
    else do
      let value ← exprOf used (.list xs)
      return [.single name value]
  | v => do
    let value ← exprOf used v
    return [.single name value]

def blocksOf (used : Nat) (name : String) : List Value → Except Crash (List Item)
  | [] => .ok []
  | .map es :: xs => do
    Machine.blocks.enter used "dict"
    let body ← itemsOf (used + Machine.blocks.step "dict") es
    return .block name (Item.orBlank body) :: (← blocksOf used name xs)
  | _ :: xs => blocksOf used name xs

end

def bodyOf (used : Nat) (es : List (Value × Value)) : Except Crash (List Item) := do
  Machine.blocks.enter used "dict"
  itemsOf (used + Machine.blocks.step "dict") es

end

end WebAcl.Hcl
