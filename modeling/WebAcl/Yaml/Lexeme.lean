import WebAcl.Text.Digit
import WebAcl.Yaml.Cursor

namespace WebAcl.Yaml

open Text

/-- A step of reading; the cursor is known even if the step fails. -/
abbrev Scan := ExceptT Fault (StateM Cursor)

namespace Scan

def refuse {α : Type} : Scan α := throw .malformed

def require (b : Bool) : Scan Unit := if b then pure () else refuse

def peek : Scan Char := return (← get).peek

def advance (n : Nat) : Scan Unit := modify (·.skip n)

def span (p : Char → Bool) : Scan (List Char) := do
  let (cs, c) := (← get).span p
  set c
  return cs

def skipSpaces : Scan Unit := modify (·.skipSpaces)

def lineBreak : Scan (List Char) := do
  let (cs, c) := (← get).lineBreak
  set c
  return cs

def restOfLine : Scan Unit := do
  modify fun c ↦ c.skipSpaces.skipComment
  require (isLineEnd (← peek))
  let _ ← lineBreak

end Scan

open Scan

def isWordChar (c : Char) : Bool := c.isAlphanum || c == '-' || c == '_'

def isUriChar (c : Char) : Bool :=
  c.isAlphanum || "-;/?:@&=+$,_.!~*'()[]%".toList.contains c

def anchorName : Scan String := do
  advance 1
  let name ← span isWordChar
  require (!name.isEmpty)
  let next ← peek
  require (isGap next || "?:,]\x7d%@\x60".toList.contains next)
  return String.ofList name

/-- A tag as written: in full, or as a suffix under a handle. -/
inductive TagName where
  | verbatim (name : String)
  | under (handle suffix : String)
  deriving DecidableEq, Repr

/-- One exclamation mark, two, or a word between two. -/
def tagHandle : Scan String := do
  require ((← peek) == '!')
  let c ← get
  if c.ahead 1 == ' ' then
    advance 1
    return "!"
  else
    let word := c.step.rest.takeWhile isWordChar
    require (c.ahead (1 + word.length) == '!')
    advance (2 + word.length)
    return String.ofList ('!' :: word ++ ['!'])

def uriBytes : List Char → Except Fault (List UInt8)
  | '%' :: a :: b :: rest =>
    if isHexDigit a && isHexDigit b then
      return UInt8.ofNat (numeral 16 [a, b]) :: (← uriBytes rest)
    else throw .malformed
  | '%' :: _ => throw .malformed
  | _ => return []

def uriChars (read : List Char) : Nat → Scan (List Char)
  | 0 => return read
  | fuel + 1 => do
    let read := read ++ (← span fun c ↦ isUriChar c && c != '%')
    if (← peek) == '%' then
      let c ← get
      let bytes ← uriBytes c.rest
      advance (3 * bytes.length)
      match Text.Utf8.decode? bytes with
      | some s => uriChars (read ++ s.toList) fuel
      | none => refuse
    else return read

def tagUri : Scan String := do
  let start ← get
  let read ← uriChars [] (start.size + 1)
  require (start.index < (← get).index)
  return String.ofList read

def tagName : Scan TagName := do
  let c ← get
  let name ←
    if c.ahead 1 == '<' then do
      advance 2
      let uri ← tagUri
      require ((← peek) == '>')
      advance 1
      pure (.verbatim uri)
    else if isGap (c.ahead 1) then do
      advance 1
      pure (.verbatim "!")
    else do
      let word := c.step.rest.takeWhile fun d ↦ !isSpaceOrEnd d
      let handle ← if word.contains '!' then tagHandle else do
        advance 1
        pure "!"
      pure (.under handle (← tagUri))
  require (isSpaceOrEnd (← peek))
  return name

inductive Directive where
  | version (major : Int)
  | tag (handle expansion : String)
  | other
  deriving DecidableEq, Repr

def versionNumber : Scan Int := do
  let ds ← span Char.isDigit
  require (!ds.isEmpty)
  match Number.readInteger 10 ds with
  | .ok i => return i
  | .error f => throw (.crash (.badValue (f.message 10 ds)))

def directive : Scan Directive := do
  advance 1
  let name ← span isWordChar
  require (!name.isEmpty && isSpaceOrEnd (← peek))
  let result ←
    if name == "YAML".toList then do
      skipSpaces
      let major ← versionNumber
      require ((← peek) == '.')
      advance 1
      let _ ← versionNumber
      require (isSpaceOrEnd (← peek))
      pure (.version major)
    else if name == "TAG".toList then do
      skipSpaces
      let handle ← tagHandle
      require ((← peek) == ' ')
      skipSpaces
      let expansion ← tagUri
      require (isSpaceOrEnd (← peek))
      pure (.tag handle expansion)
    else do
      let _ ← span fun c ↦ !isLineEnd c
      pure .other
  restOfLine
  return result

end WebAcl.Yaml
