import WebAcl.Yaml.Lexeme

namespace WebAcl.Yaml

open Text Scan

def quotedBreaks (breaks : List Char) : Nat → Scan (List Char)
  | 0 => return breaks
  | fuel + 1 => do
    require (!(← get).atDocumentMarker)
    let _ ← span fun c ↦ c == ' ' || c == '\t'
    if isBreak (← peek) then
      let b ← lineBreak
      quotedBreaks (breaks ++ b) fuel
    else return breaks

def fold (first breaks : List Char) : List Char :=
  if first != ['\n'] then first ++ breaks
  else if breaks.isEmpty then [' ']
  else breaks

def quotedSpaces : Scan (List Char) := do
  let spaces ← span fun c ↦ c == ' ' || c == '\t'
  let next ← peek
  require (next != nul)
  if isBreak next then
    let first ← lineBreak
    let breaks ← quotedBreaks [] ((← get).size + 1)
    return fold first breaks
  else return spaces

def simpleEscapes : List (Char × Nat) := [
  ('0', 0), ('a', 7), ('b', 8), ('t', 9), ('\t', 9), ('n', 10), ('v', 11), ('f', 12), ('r', 13),
  ('e', 0x1b), (' ', 0x20), ('"', 0x22), ('\\', 0x5c), ('/', 0x2f), ('N', 0x85), ('_', 0xa0),
  ('L', 0x2028), ('P', 0x2029)]

def escapeWidth? : Char → Option Nat
  | 'x' => some 2
  | 'u' => some 4
  | 'U' => some 8
  | _ => none

def escape : Scan (List Char) := do
  let c ← peek
  match simpleEscapes.lookup c, escapeWidth? c with
  | some code, _ =>
    advance 1
    return [Char.ofNat code]
  | none, some width =>
    advance 1
    let ds := (← get).rest.take width
    require (ds.length == width && ds.all isHexDigit)
    let code := numeral 16 ds
    if 0x80000000 ≤ code then throw (.crash .hugeCode)
    if 0x110000 ≤ code then
      throw (.crash (.badValue "chr() arg not in range(0x110000)"))
    advance width
    return charsOfCode code
  | none, none =>
    require (isBreak c)
    let _ ← lineBreak
    quotedBreaks [] ((← get).size + 1)

def quotedChars (double : Bool) (read : List Char) : Nat → Scan (List Char)
  | 0 => return read
  | fuel + 1 => do
    let cs ← span fun c ↦ !isGap c && c != '\'' && c != '"' && c != '\\'
    let read := (held cs).reverse ++ read
    let c ← get
    let d := c.peek
    if !double && d == '\'' && c.ahead 1 == '\'' then
      advance 2
      quotedChars double (d :: read) fuel
    else if (double && d == '\'') || (!double && (d == '"' || d == '\\')) then
      advance 1
      quotedChars double (d :: read) fuel
    else if double && d == '\\' then
      advance 1
      quotedChars double ((← escape).reverse ++ read) fuel
    else return read

def quotedRest (quote : Char) (read : List Char) : Nat → Scan (List Char)
  | 0 => refuse
  | fuel + 1 => do
    if (← peek) == quote then
      advance 1
      return read
    else
      let spaces ← quotedSpaces
      let read ← quotedChars (quote == '"') (spaces.reverse ++ read) (fuel + 1)
      quotedRest quote read fuel

def quotedScalar (quote : Char) : Scan String := do
  let fuel := (← get).size + 1
  advance 1
  let read ← quotedChars (quote == '"') [] fuel
  let read ← quotedRest quote read fuel
  return String.ofList read.reverse

inductive Chomping where
  | clip
  | strip
  | keep
  deriving DecidableEq

def chomping? : Char → Option Chomping
  | '+' => some .keep
  | '-' => some .strip
  | _ => none

def indentDigit : Scan (Option Nat) := do
  let c ← peek
  if c.isDigit then
    require (c != '0')
    advance 1
    return some (digitOf c)
  else return none

def blockHeader : Scan (Chomping × Option Nat) := do
  let result ← match chomping? (← peek) with
    | some chomping => do
      advance 1
      pure (chomping, ← indentDigit)
    | none => do
      let width ← indentDigit
      if width.isSome then
        match chomping? (← peek) with
        | some chomping => do
          advance 1
          pure (chomping, width)
        | none => pure (.clip, width)
      else pure (.clip, none)
  require (isSpaceOrEnd (← peek))
  restOfLine
  return result

/-- Empty lines at the start of a block whose indentation is not given, with the greatest number of
spaces met. -/
def blockIndent (breaks : List Char) (most : Nat) : Nat → Scan (List Char × Nat)
  | 0 => return (breaks, most)
  | fuel + 1 => do
    let c ← peek
    if c == ' ' then
      advance 1
      blockIndent breaks (max most (← get).column) fuel
    else if isBreak c then
      let b ← lineBreak
      blockIndent (breaks ++ b) most fuel
    else return (breaks, most)

def skipToColumn (column : Nat) : Scan Unit := do
  let c ← get
  let spaces := (c.rest.take (column - c.column)).takeWhile (· == ' ')
  advance spaces.length

def blockBreaks (indent : Nat) (breaks : List Char) : Nat → Scan (List Char)
  | 0 => return breaks
  | fuel + 1 => do
    skipToColumn indent
    if isBreak (← peek) then
      let b ← lineBreak
      blockBreaks indent (breaks ++ b) fuel
    else return breaks

/-- What has been read of a block: its text, the last character first, then the last line break and
the breaks after it. -/
structure BlockText where
  text : List Char
  last : List Char
  breaks : List Char

/-- The lines of a block. In a folded block the break between two lines that do not begin with white
space is folded. -/
def blockLines (folded : Bool) (indent : Nat) (read : BlockText) : Nat → Scan BlockText
  | 0 => return read
  | fuel + 1 => do
    let c ← get
    if c.column != indent || c.peek == nul then return read
    else
      let flush := !(c.peek == ' ' || c.peek == '\t')
      let line ← span fun d ↦ !isLineEnd d
      let text := (held line).reverse ++ (read.breaks.reverse ++ read.text)
      let last ← lineBreak
      let breaks ← blockBreaks indent [] fuel
      let c ← get
      if c.column == indent && c.peek != nul then
        let foldable := folded && last == ['\n'] && flush && !(c.peek == ' ' || c.peek == '\t')
        let joint := if !foldable then last else if breaks.isEmpty then [' '] else []
        blockLines folded indent ⟨joint ++ text, last, breaks⟩ fuel
      else return ⟨text, last, breaks⟩

/-- A block scalar inside a collection that is indented by `outer`, which is negative at the top
level. -/
def blockScalar (folded : Bool) (outer : Int) : Scan String := do
  let fuel := (← get).size + 1
  advance 1
  let (chomping, width) ← blockHeader
  let least := (max (outer + 1) 1).toNat
  let (indent, breaks) ← match width with
    | none => do
      let (breaks, most) ← blockIndent [] 0 fuel
      pure (max least most, breaks)
    | some w => do
      let indent := least + w - 1
      pure (indent, ← blockBreaks indent [] fuel)
  let block ← blockLines folded indent ⟨[], [], breaks⟩ fuel
  let ending := match chomping with
    | .clip => block.last
    | .strip => []
    | .keep => block.last ++ block.breaks
  return String.ofList (block.text.reverse ++ ending)

def endsPlain (flow : Bool) (c : Cursor) : Bool :=
  let d := c.peek
  let next := c.ahead 1
  isGap d ||
    (d == ':' && (isGap next || (flow && ",[]\x7b\x7d".toList.contains next))) ||
    (flow && ",?[]\x7b\x7d".toList.contains d)

def plainChars (flow : Bool) : Nat → Scan (List Char)
  | 0 => return []
  | fuel + 1 => do
    let c ← get
    if endsPlain flow c then return []
    else
      advance 1
      return hold c.peek ++ (← plainChars flow fuel)

def plainBreaks (breaks : List Char) : Nat → Scan (Option (List Char))
  | 0 => return some breaks
  | fuel + 1 => do
    let c ← peek
    if c == ' ' then
      advance 1
      plainBreaks breaks fuel
    else if isBreak c then
      let b ← lineBreak
      if (← get).atDocumentMarker then return none
      else plainBreaks (breaks ++ b) fuel
    else return some breaks

/-- The gap after a part of a plain scalar, and whether it holds a line break. An empty gap ends the
scalar. -/
def plainGap : Scan (List Char × Bool) := do
  let spaces ← span (· == ' ')
  if isBreak (← peek) then
    let first ← lineBreak
    if (← get).atDocumentMarker then return ([], true)
    match ← plainBreaks [] ((← get).size + 1) with
    | none => return ([], true)
    | some breaks => return (fold first breaks, true)
  else return (spaces, false)

/-- The parts of a plain scalar. The second result tells whether the text goes on in a new line
behind it. -/
def plainParts (flow : Bool) (indent : Nat) (gap : List Char) (broken : Bool) :
    Nat → Scan (List Char × Bool)
  | 0 => return ([], broken)
  | fuel + 1 => do
    if (← peek) == '#' then return ([], broken)
    let part ← plainChars flow (fuel + 1)
    if part.isEmpty then return ([], broken)
    let (next, broken) ← plainGap
    let c ← get
    if next.isEmpty || c.peek == '#' || (!flow && c.column < indent) then
      return (gap ++ part, broken)
    else
      let (more, broken) ← plainParts flow indent next broken fuel
      return (gap ++ part ++ more, broken)

def plainScalar (flow : Bool) (outer : Int) : Scan (String × Bool) := do
  let fuel := (← get).size + 1
  let (text, broken) ← plainParts flow (outer + 1).toNat [] false fuel
  return (String.ofList text, broken)

end WebAcl.Yaml
