import WebAcl.Number.Shortest
import WebAcl.Text.Quoted
import WebAcl.Value.Basic

namespace WebAcl

open Text

def inspectByte (q : Char) (b : UInt8) : List Char :=
  let c := Char.ofNat b.toNat
  if c = q ∨ c = '\\' then ['\\', c]
  else if c = '\t' then ['\\', 't']
  else if c = '\n' then ['\\', 'n']
  else if c = '\r' then ['\\', 'r']
  else if 0x20 ≤ b.toNat ∧ b.toNat ≤ 0x7e then [c]
  else '\\' :: 'x' :: hexDigits 2 b.toNat

def inspectBytes (bs : List UInt8) : String :=
  let q := if bs.contains 0x27 && !bs.contains 0x22 then '"' else '\''
  String.ofList ('b' :: q :: (bs.flatMap (inspectByte q) ++ [q]))

namespace Value

/-- A tuple of one item is told from a parenthesised item by a comma. -/
def tupleText : List String → String
  | [x] => "(" ++ x ++ ",)"
  | xs => "(" ++ ", ".intercalate xs ++ ")"

/-- The empty set is written by name, since empty braces denote a map. -/
def setText : List String → String
  | [] => "set()"
  | xs => "\x7b" ++ ", ".intercalate xs ++ "\x7d"

mutual

def inspect : Value → String
  | null => "None"
  | bool b => if b then "True" else "False"
  | int i => toString i
  | float x => x.toText
  | str s => quoted s
  | bytes bs => inspectBytes bs
  | date d => d.inspect
  | timestamp t => t.inspect
  | list xs => "[" ++ ", ".intercalate (inspectItems xs) ++ "]"
  | tuple xs => tupleText (inspectItems xs)
  | set xs => setText (inspectItems xs)
  | map es => "\x7b" ++ ", ".intercalate (inspectEntries es) ++ "\x7d"
  | frozenMap es => "FrozenMapping(\x7b" ++ ", ".intercalate (inspectEntries es) ++ "\x7d)"
  | endless => "\x7b...\x7d"

def inspectItems : List Value → List String
  | [] => []
  | x :: xs => inspect x :: inspectItems xs

def inspectEntries : List (Value × Value) → List String
  | [] => []
  | (k, v) :: es => (inspect k ++ ": " ++ inspect v) :: inspectEntries es

end

def toText : Value → String
  | str s => s
  | date d => d.toText
  | timestamp t => t.toText
  | v => v.inspect

end Value

end WebAcl
