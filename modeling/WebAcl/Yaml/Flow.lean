import WebAcl.Value.Text
import WebAcl.Yaml.Pen

namespace WebAcl.Yaml

open Text

/-- A float is told from an integer by its point. -/
def floatText (x : Number.Binary64) : List Char :=
  let cs := x.toText.toList
  if cs.contains '.' then cs
  else cs.flatMap fun c ↦ if c = 'e' then ['.', '0', 'e'] else [c]

def greatestKey : Nat := 122

def isSimpleKey (s : String) : Bool :=
  s != "" && (codesOf s.toList).length ≤ greatestKey && !s.toList.any isBreak

namespace Pen

def item (p : Pen) (margin : Nat) (isFirst : Bool) : Pen :=
  let p := if isFirst then p else p.token false [',']
  if p.isFull then p.indent margin else p

def key (p : Pen) (margin : Nat) (s : String) : Pen :=
  if isSimpleKey s then (p.text (margin + 2) true s).token false [':']
  else
    let p := (p.token true ['?']).text (margin + 2) false s
    (if p.isFull then p.indent margin else p).token true [':']

mutual

def value (p : Pen) (margin : Nat) : Value → Pen
  | .null => p.plain (margin + 2) true "null".toList
  | .bool b => p.plain (margin + 2) true (if b then "true" else "false").toList
  | .int i => p.plain (margin + 2) true (toString i).toList
  | .float x => p.plain (margin + 2) true (floatText x)
  | .list xs => ((p.bracket '[').items (margin + 2) true xs).token false [']']
  | .map es =>
    let writers := (entryWriters (margin + 2) es).mergeSort fun e f ↦ inCodeOrder e.1 f.1
    let written := writers.foldl (fun (isFirst, p) e ↦ (false, e.2 isFirst p))
      (true, p.bracket '\x7b')
    written.2.token false ['\x7d']
  | v => p.text (margin + 2) false v.toText

def items (p : Pen) (margin : Nat) (isFirst : Bool) : List Value → Pen
  | [] => p
  | x :: xs => ((p.item margin isFirst).value margin x).items margin false xs

def entryWriters (margin : Nat) : List (Value × Value) → List (String × (Bool → Pen → Pen))
  | [] => []
  | (k, v) :: es =>
    let s := k.toText
    (s, fun isFirst p ↦ ((p.item margin isFirst).key margin s).value margin v) ::
      entryWriters margin es

end

end Pen

def flow (v : Value) : String :=
  String.ofList (Pen.value {} 0 v).written.reverse

end WebAcl.Yaml
