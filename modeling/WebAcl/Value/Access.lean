import WebAcl.Problem
import WebAcl.Value.Frozen
import WebAcl.Value.Text

namespace WebAcl.Value

open Text

/-- An item by its position; a negative one counts from the end. -/
def itemAt? {α : Type} (items : List α) (i : Int) : Option α :=
  if 0 ≤ i then items[i.toNat]?
  else if i.natAbs ≤ items.length then items[items.length - i.natAbs]?
  else none

def position? : Value → Option Int
  | int i => some i
  | bool b => some (if b then 1 else 0)
  | _ => none

def unhashable (part : Value) : Crash :=
  .badType s!"unhashable type: '{part.kindName}'"

/-- The part of a value under a key. Maps are read by key, tuples and texts by position. -/
def part (v key : Value) : Except Crash Value :=
  match v with
  | map es | frozenMap es =>
    match key.changeablePart? with
    | some bad => .error (unhashable bad)
    | none =>
      match lookup? key es with
      | some w => .ok w
      | none => .error (.noSuchKey key.toText)
  | list xs | tuple xs =>
    let kind := v.kindName
    match key.position? with
    | none => .error (.badType s!"{kind} indices must be integers or slices, not {key.kindName}")
    | some i => ((itemAt? xs i).map .ok).getD (.error .noSuchIndex)
  | str s =>
    match key.position? with
    | none => .error (.badType s!"string indices must be integers, not '{key.kindName}'")
    | some i =>
      ((itemAt? (codesOf s.toList) i).map fun n ↦ .ok (str (ofCodes [n]))).getD
        (.error .noSuchIndex)
  | _ => .error (.badType s!"'{v.kindName}' object is not subscriptable")

def partAt (v : Value) (path : List Value) : Except Crash Value :=
  path.foldlM part v

end WebAcl.Value
