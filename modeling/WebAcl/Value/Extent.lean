import WebAcl.Number.Literal
import WebAcl.Value.Basic

namespace WebAcl

/-- The stack of calls that a recursive function on data finds left, and what its calls take up of
it. Kinds of values go by their names. -/
structure Recursion where
  room : Nat
  /-- What a call takes up for a value without parts. -/
  own : String → Nat
  /-- What a call takes up while the parts of a value are handled. -/
  step : String → Nat

namespace Recursion

def hasRoom (r : Recursion) (used : Nat) (kind : String) : Bool :=
  used + r.own kind ≤ r.room

mutual

/-- All parts of a value can be reached. Data that lies inside itself has no end. -/
def fits (r : Recursion) (used : Nat) (v : Value) : Bool :=
  r.hasRoom used v.kindName && match v with
    | .endless => false
    | .list xs => itemsFit r (used + r.step "list") xs
    | .tuple xs => itemsFit r (used + r.step "tuple") xs
    | .map es => entriesFit r (used + r.step "dict") es
    | .frozenMap es => entriesFit r (used + r.step "FrozenMapping") es
    | _ => true

def itemsFit (r : Recursion) (used : Nat) : List Value → Bool
  | [] => true
  | x :: xs => fits r used x && itemsFit r used xs

def entriesFit (r : Recursion) (used : Nat) : List (Value × Value) → Bool
  | [] => true
  | (_, v) :: es => fits r used v && entriesFit r used es

end

end Recursion

namespace Value

mutual

def isWritable : Value → Bool
  | int i => Number.isWritable i
  | list xs | tuple xs | set xs => itemsWritable xs
  | map es | frozenMap es => entriesWritable es
  | _ => true

def itemsWritable : List Value → Bool
  | [] => true
  | x :: xs => isWritable x && itemsWritable xs

def entriesWritable : List (Value × Value) → Bool
  | [] => true
  | (k, v) :: es => isWritable k && isWritable v && entriesWritable es

end

end Value

end WebAcl
