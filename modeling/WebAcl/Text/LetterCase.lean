import WebAcl.Text.CaseTable

namespace WebAcl.Text

def lookupRun (runs : List CaseRun) (n : Nat) : Option Nat :=
  runs.findSome? (·.image? n)

def upperChars (c : Char) : List Char :=
  if c.toNat < 0x80 then [c.toUpper]
  else match upperSequences.find? (·.1 == c.toNat) with
    | some (_, ns) => ns.map Char.ofNat
    | none => [Char.ofNat ((lookupRun upperRuns c.toNat).getD c.toNat)]

def lowerChars (c : Char) : List Char :=
  if c.toNat < 0x80 then [c.toLower]
  else if c.toNat = 0x130 then ['i', Char.ofNat 0x307]
  else [Char.ofNat ((lookupRun lowerRuns c.toNat).getD c.toNat)]

def isCased (c : Char) : Bool :=
  if c.toNat < 0x80 then c.isAlpha else casedIntervals.has c.toNat

def isCaseIgnorable (c : Char) : Bool :=
  if c.toNat < 0x80 then c == '\'' || c == '.' || c == ':' || c == '^' || c == '\x60'
  else caseIgnorableIntervals.has c.toNat

def meetsCased (cs : List Char) : Bool :=
  match cs.dropWhile isCaseIgnorable with
  | [] => false
  | c :: _ => isCased c

/-- Lower case of the characters in `rest`, where `before` holds those already passed, the nearest
first. -/
def lowerFrom (before : List Char) : List Char → List Char
  | [] => []
  | c :: rest =>
    let image :=
      if c.toNat = 0x3a3 then
        if meetsCased before && !meetsCased rest then [Char.ofNat 0x3c2] else [Char.ofNat 0x3c3]
      else lowerChars c
    image ++ lowerFrom (c :: before) rest

def upper (s : String) : String :=
  String.ofList (s.toList.flatMap upperChars)

def lower (s : String) : String :=
  String.ofList (lowerFrom [] s.toList)

end WebAcl.Text
