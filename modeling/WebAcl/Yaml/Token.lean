import WebAcl.Yaml.ScalarText
import WebAcl.Yaml.Source

namespace WebAcl.Yaml

inductive Token where
  | directive (d : Directive)
  | documentStart
  | documentEnd
  | blockListStart
  | blockMapStart
  | blockEnd
  | flowListStart
  | flowListEnd
  | flowMapStart
  | flowMapEnd
  | blockEntry
  | flowEntry
  | key
  | value
  | alias (name : String)
  | anchor (name : String)
  | tag (name : TagName)
  | scalar (text : String) (plain : Bool)
  | textEnd
  deriving DecidableEq, Repr

/-- A token that may turn out to begin a key, because a colon follows it on the same line. It must
be one if it stands where only a key can stand. -/
structure PossibleKey where
  place : Nat
  required : Bool
  index : Nat
  line : Nat
  column : Nat

/-- State of reading tokens: the tokens read, the last one first, and their number, the depth of
brackets, the indentation of the current block and of those around it, and a possible key for each
depth. -/
structure Lexer where
  cursor : Cursor
  tokens : List Token := []
  count : Nat := 0
  depth : Nat := 0
  indent : Int := -1
  outer : List Int := []
  keyAllowed : Bool := true
  keys : List (Nat × PossibleKey) := []

abbrev Lexing := ExceptT Fault (StateM Lexer)

namespace Lexing

def refuse {α : Type} : Lexing α := throw .malformed

def read {α : Type} (x : Scan α) : Lexing α := do
  let s ← get
  let (result, c) := x.run.run s.cursor
  set { s with cursor := c }
  match result with
  | .ok a => return a
  | .error f => throw f

def emit (t : Token) : Lexing Unit := modify fun s ↦
  { s with tokens := t :: s.tokens, count := s.count + 1 }

def insertAt (place : Nat) (t : Token) : Lexing Unit := modify fun s ↦
  let later := s.count - place
  { s with tokens := s.tokens.take later ++ t :: s.tokens.drop later, count := s.count + 1 }

def setKeyAllowed (b : Bool) : Lexing Unit := modify fun s ↦ { s with keyAllowed := b }

def keyReach : Nat := 1024

def dropStaleKeys : Lexing Unit := do
  let s ← get
  let stale := fun k : PossibleKey ↦
    k.line != s.cursor.line || keyReach < s.cursor.index - k.index
  if s.keys.any fun k ↦ stale k.2 && k.2.required then refuse
  set { s with keys := s.keys.filter fun k ↦ !stale k.2 }

def dropKey : Lexing Unit := do
  let s ← get
  if s.keys.any fun k ↦ k.1 == s.depth && k.2.required then refuse
  set { s with keys := s.keys.filter fun k ↦ k.1 != s.depth }

def noteKey : Lexing Unit := do
  if (← get).keyAllowed then
    dropKey
    modify fun s ↦
      let c := s.cursor
      let required := s.depth == 0 && s.indent == c.column
      { s with keys := (s.depth, ⟨s.count, required, c.index, c.line, c.column⟩) :: s.keys }

def closeBlocks (column : Int) : List Int → Lexing Unit
  | [] => pure ()
  | indent :: outer => do
    let s ← get
    if column < s.indent then
      set { s with indent := indent, outer := outer }
      emit .blockEnd
      closeBlocks column outer

/-- Inside brackets indentation does not count. -/
def unwind (column : Int) : Lexing Unit := do
  let s ← get
  if s.depth == 0 then closeBlocks column s.outer

def openBlock (column : Nat) : Lexing Bool := do
  let s ← get
  if s.indent < column then
    set { s with outer := s.indent :: s.outer, indent := column }
    return true
  else return false

def skipToToken : Nat → Lexing Unit
  | 0 => pure ()
  | fuel + 1 => do
    modify fun s ↦ { s with cursor := s.cursor.skipSpaces.skipComment }
    let s ← get
    if isBreak s.cursor.peek then
      let _ ← read Scan.lineBreak
      if s.depth == 0 then setKeyAllowed true
      skipToToken fuel

def endBlocks : Lexing Unit := do
  unwind (-1)
  dropKey
  setKeyAllowed false

def documentMarker (t : Token) : Lexing Unit := do
  endBlocks
  read (Scan.advance 3)
  emit t

def flowStart (t : Token) : Lexing Unit := do
  noteKey
  modify fun s ↦ { s with depth := s.depth + 1, keyAllowed := true }
  read (Scan.advance 1)
  emit t

def flowEnd (t : Token) : Lexing Unit := do
  dropKey
  let s ← get
  if s.depth == 0 then refuse
  set { s with depth := s.depth - 1, keyAllowed := false }
  read (Scan.advance 1)
  emit t

def flowEntry : Lexing Unit := do
  setKeyAllowed true
  dropKey
  read (Scan.advance 1)
  emit .flowEntry

def startBlock (t : Token) : Lexing Unit := do
  let s ← get
  if s.depth == 0 then
    if !s.keyAllowed then refuse
    if ← openBlock s.cursor.column then emit t

def blockEntry : Lexing Unit := do
  startBlock .blockListStart
  setKeyAllowed true
  dropKey
  read (Scan.advance 1)
  emit .blockEntry

def key : Lexing Unit := do
  startBlock .blockMapStart
  setKeyAllowed ((← get).depth == 0)
  dropKey
  read (Scan.advance 1)
  emit .key

/-- The colon before a value. What precedes it becomes a key if it can be one. -/
def value : Lexing Unit := do
  let s ← get
  match s.keys.lookup s.depth with
  | some k =>
    set { s with keys := s.keys.filter fun k ↦ k.1 != s.depth }
    insertAt k.place .key
    if s.depth == 0 then
      if ← openBlock k.column then insertAt k.place .blockMapStart
    setKeyAllowed false
  | none =>
    startBlock .blockMapStart
    setKeyAllowed (s.depth == 0)
    dropKey
  read (Scan.advance 1)
  emit .value

def item (x : Scan Token) : Lexing Unit := do
  noteKey
  setKeyAllowed false
  emit (← read x)

def plain : Lexing Unit := do
  noteKey
  let s ← get
  let (text, broken) ← read (plainScalar (s.depth != 0) s.indent)
  setKeyAllowed broken
  emit (.scalar text true)

def block (folded : Bool) : Lexing Unit := do
  setKeyAllowed true
  dropKey
  let text ← read (blockScalar folded (← get).indent)
  emit (.scalar text false)

def indicators : List Char := "-?:,[]\x7b\x7d#&*!|>'\"%@\x60".toList

def startsPlain (flow : Bool) (c : Cursor) : Bool :=
  let d := c.peek
  (!isGap d && !indicators.contains d) ||
    (!isGap (c.ahead 1) && (d == '-' || (!flow && (d == '?' || d == ':'))))

/-- Reads the token that begins at the cursor and those that it makes necessary. Tells whether the
text has ended. -/
def token : Lexing Bool := do
  let s ← get
  let c := s.cursor
  let d := c.peek
  let flow := s.depth != 0
  let gapNext := isGap (c.ahead 1)
  if d == nul then
    endBlocks
    emit .textEnd
    return true
  if d == '%' && c.column == 0 then
    endBlocks
    emit (.directive (← read directive))
  else if c.column == 0 && c.atMarker '-' then documentMarker .documentStart
  else if c.column == 0 && c.atMarker '.' then documentMarker .documentEnd
  else if d == '[' then flowStart .flowListStart
  else if d == '\x7b' then flowStart .flowMapStart
  else if d == ']' then flowEnd .flowListEnd
  else if d == '\x7d' then flowEnd .flowMapEnd
  else if d == ',' then flowEntry
  else if d == '-' && gapNext then blockEntry
  else if d == '?' && (flow || gapNext) then key
  else if d == ':' && (flow || gapNext) then value
  else if d == '*' then item (return .alias (← anchorName))
  else if d == '&' then item (return .anchor (← anchorName))
  else if d == '!' then item (return .tag (← tagName))
  else if d == '|' && !flow then block false
  else if d == '>' && !flow then block true
  else if d == '\'' || d == '"' then item (return .scalar (← quotedScalar d) false)
  else if startsPlain flow c then plain
  else refuse
  return false

def next : Lexing Bool := do
  skipToToken ((← get).cursor.size + 1)
  dropStaleKeys
  unwind (← get).cursor.column
  token

end Lexing

/-- The tokens of a text, and what is wrong behind the last of them. Tokens of which it was not yet
known whether they begin a key are left out when the text turns out to be faulty. -/
structure Tokens where
  list : List Token
  fault : Fault := .malformed

def Lexer.settled (s : Lexer) : List Token :=
  match (s.keys.map (·.2.place)).min? with
  | some place => (s.tokens.reverse).take place
  | none => s.tokens.reverse

/-- At most one character is left, so that the next step has to look behind the text. -/
def Lexer.isAtEnd (s : Lexer) : Bool :=
  match s.cursor.rest with
  | [] | [_] => true
  | _ => false

/-- The tokens that a state leads to. A fault behind the text counts once its end is reached. -/
def Lexer.run (beyond : Option Fault) (s : Lexer) : Nat → Tokens
  | 0 => ⟨s.tokens.reverse, .malformed⟩
  | fuel + 1 =>
    match Lexing.dropStaleKeys.run.run s with
    | (.error f, _) => ⟨s.settled, f⟩
    | (.ok _, s) =>
      let (result, next) := Lexing.next.run.run s
      match if next.isAtEnd then beyond else none, result with
      | some f, _ => ⟨s.settled, f⟩
      | none, .error f => ⟨s.settled, f⟩
      | none, .ok true => ⟨next.tokens.reverse, .malformed⟩
      | none, .ok false => next.run beyond fuel

def Tokens.ofSource (source : Source) : Tokens :=
  let c := Cursor.ofText source.text
  let start := if c.peek == byteOrderMark then c.step else c
  ({ cursor := start : Lexer }).run source.fault (c.size + 2)

end WebAcl.Yaml
