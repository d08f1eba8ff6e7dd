import WebAcl.Number.Literal
import WebAcl.Text.Quoted
import WebAcl.Value.Text

namespace WebAcl.Json

open Text

inductive Fault where
  | value (kind : String)
  | key (kind : String)
  | longInteger
  deriving DecidableEq, Repr

def Fault.message : Fault → String
  | value kind => "Object of type " ++ kind ++ " is not JSON serializable"
  | key kind => "keys must be str, int, float, bool or None, not " ++ kind
  | longInteger => "an integer has too many digits"

def writtenCode (n : Nat) : List Char :=
  if n = 0x22 ∨ n = 0x5c then ['\\', Char.ofNat n]
  else if n = 10 then ['\\', 'n']
  else if n = 13 then ['\\', 'r']
  else if n = 9 then ['\\', 't']
  else if n = 8 then ['\\', 'b']
  else if n = 12 then ['\\', 'f']
  else if 0x20 ≤ n ∧ n ≤ 0x7e then [Char.ofNat n]
  else (utf16Units n).flatMap fun u ↦ '\\' :: 'u' :: hexDigits 4 u

def quote (s : String) : String :=
  String.ofList ('"' :: ((codesOf s.toList).flatMap writtenCode ++ ['"']))

def number (x : Number.Binary64) : String :=
  match x with
  | .nan => "NaN"
  | .infinite negative => if negative then "-Infinity" else "Infinity"
  | .finite .. => x.toText

structure Layout where
  multiline : Bool := false
  /-- Integers may have any number of digits. -/
  anyLength : Bool := false

def Layout.oneLine : Layout := {}

def Layout.indented : Layout := { multiline := true }

def integer (layout : Layout) (i : Int) : Except Fault String :=
  if layout.anyLength || Number.isWritable i then .ok (toString i) else .error .longInteger

def keyText (layout : Layout) : Value → Except Fault String
  | .str s => .ok s
  | .float x => .ok (number x)
  | .bool b => .ok (if b then "true" else "false")
  | .null => .ok "null"
  | .int i => integer layout i
  | v => .error (.key v.kindName)

/-- Parts between brackets. The indented layout puts each on a line of its own, one step deeper than
the brackets. -/
def enclose (layout : Layout) (depth : Nat) (left right : String) (parts : List String) : String :=
  if parts.isEmpty then left ++ right
  else if !layout.multiline then left ++ ", ".intercalate parts ++ right
  else
    let margin := "\n" ++ String.ofList (List.replicate (2 * (depth + 1)) ' ')
    left ++ margin ++ ("," ++ margin).intercalate parts ++ "\n" ++
      String.ofList (List.replicate (2 * depth) ' ') ++ right

mutual

def write (layout : Layout) (depth : Nat) : Value → Except Fault String
  | .null => .ok "null"
  | .bool b => .ok (if b then "true" else "false")
  | .int i => integer layout i
  | .float x => .ok (number x)
  | .str s => .ok (quote s)
  | .list xs => (writeItems layout (depth + 1) xs).map (enclose layout depth "[" "]")
  | .tuple xs => (writeItems layout (depth + 1) xs).map (enclose layout depth "[" "]")
  | .map es => (writeEntries layout (depth + 1) es).map (enclose layout depth "\x7b" "\x7d")
  | v => .error (.value v.kindName)

def writeItems (layout : Layout) (depth : Nat) : List Value → Except Fault (List String)
  | [] => .ok []
  | x :: xs => do
    let head ← write layout depth x
    let tail ← writeItems layout depth xs
    return head :: tail

def writeEntries (layout : Layout) (depth : Nat) :
    List (Value × Value) → Except Fault (List String)
  | [] => .ok []
  | (k, v) :: es => do
    let key ← keyText layout k
    let head ← write layout depth v
    let tail ← writeEntries layout depth es
    return (quote key ++ ": " ++ head) :: tail

end

def render (layout : Layout) (v : Value) : Except Fault String :=
  write layout 0 v

end WebAcl.Json
