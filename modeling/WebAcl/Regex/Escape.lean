import WebAcl.Regex.Reader
import WebAcl.Text.CharacterName
import WebAcl.Text.Digit
import WebAcl.Text.Quoted

namespace WebAcl.Regex

open Text Parse

inductive Escape where
  | literal (code : Nat)
  | charClass
  | anchor
  | backreference (group : Nat)

def controlEscape? : Char → Option Nat
  | 'a' => some 7
  | 'b' => some 8
  | 'f' => some 12
  | 'n' => some 10
  | 'r' => some 13
  | 't' => some 9
  | 'v' => some 11
  | '\\' => some 0x5c
  | _ => none

def isClassLetter (c : Char) : Bool :=
  ['d', 'D', 's', 'S', 'w', 'W'].contains c

def hexEscape (letter : Char) (width : Nat) : Parse Escape := do
  let ds ← takeWhile isHexDigit width
  let escape := '\\' :: letter :: ds
  if ds.length ≠ width then
    fail ("incomplete escape " ++ String.ofList escape) escape.length
  else
    let code := numeral 16 ds
    if 0x80000000 ≤ code then throw .hugeCode
    else if 0x10ffff < code then
      fail ("bad escape " ++ String.ofList escape) escape.length
    else return .literal code

/-- The escape `\N` takes the name of a character in braces. No name is looked up that cannot be
encoded. -/
def namedEscape : Parse Escape := do
  if !(← accept '\x7b') then fail "missing \x7b" 0
  let name ← takeName '\x7d' "character name" [] (← tokensLeft)
  if name.any isHalfCode then fail "bad escape \\N" 2
  match characterNamed? (name.map Char.ofNat) with
  | some code => return .literal code
  | none => fail ("undefined character name " ++ quoted (ofCodes name)) (name.length + 4)

def octalLiteral (escape : List Char) : Parse Escape := do
  let code := numeral 8 (escape.drop 1)
  if 0o377 < code then
    fail ("octal escape value " ++ String.ofList escape ++ " outside of range 0-0o377")
      escape.length
  else return .literal code

/-- A backslash before a character without a special meaning. Letters and digits are reserved. -/
def plainEscape (t : Token) : Parse Escape :=
  if t.char.isAlphanum then fail ("bad escape \\" ++ String.ofList [t.char]) 2
  else return .literal t.code

def classEscape (t : Token) : Parse Escape :=
  let c := t.char
  match controlEscape? c with
  | some code => return .literal code
  | none =>
    if isClassLetter c then return .charClass
    else if c = 'x' then hexEscape c 2
    else if c = 'u' then hexEscape c 4
    else if c = 'U' then hexEscape c 8
    else if c = 'N' then namedEscape
    else if isOctalDigit c then do
      octalLiteral ('\\' :: c :: (← takeWhile isOctalDigit 2))
    else plainEscape t

/-- A look-behind must not refer to a group of its own. -/
def checkBehind (group : Nat) : Parse Unit := do
  let s ← get
  match s.behind with
  | none => pure ()
  | some first =>
    if (s.closedWidth? group).isNone then fail "cannot refer to an open group" 0
    else if first ≤ group then
      fail "cannot refer to group defined in the same lookbehind subpattern" 0
    else pure ()

def groupReference (ds : List Char) : Parse Escape := do
  let s ← get
  let group := numeral 10 ds
  if group < s.nextGroup then
    if (s.closedWidth? group).isNone then fail "cannot refer to an open group" (ds.length + 1)
    checkBehind group
    return .backreference group
  else fail s!"invalid group reference {group}" ds.length

/-- A backslash and a digit other than zero: three octal digits are a character, anything else is a
reference to a group. -/
def numberedEscape (c : Char) : Parse Escape := do
  match ← peek? with
  | some t =>
    if !t.escaped && t.char.isDigit then
      advance
      let d := t.char
      match ← peek? with
      | some u =>
        if isOctalDigit c && isOctalDigit d && !u.escaped && isOctalDigit u.char then
          advance
          octalLiteral ['\\', c, d, u.char]
        else groupReference [c, d]
      | none => groupReference [c, d]
    else groupReference [c]
  | none => groupReference [c]

def itemEscape (t : Token) : Parse Escape :=
  let c := t.char
  if ['A', 'b', 'B', 'Z'].contains c then return .anchor
  else if isClassLetter c then return .charClass
  else match controlEscape? c with
    | some code => return .literal code
    | none =>
      if c = 'x' then hexEscape c 2
      else if c = 'u' then hexEscape c 4
      else if c = 'U' then hexEscape c 8
      else if c = 'N' then namedEscape
      else if c = '0' then do
        octalLiteral ('\\' :: c :: (← takeWhile isOctalDigit 2))
      else if c.isDigit then numberedEscape c
      else plainEscape t

def classMember (t : Token) : Parse Escape :=
  if t.escaped then classEscape t else return .literal t.code

def classMembers (start : Nat) (first : Bool) : Nat → Parse Unit
  | 0 => failAt start "unterminated character set"
  | fuel + 1 => do
    match ← next? with
    | none => failAt start "unterminated character set"
    | some this =>
      -- a closing bracket that comes first is a member
      if this.is ']' && !first then return
      let low ← classMember this
      if ← accept '-' then
        match ← next? with
        | none => failAt start "unterminated character set"
        | some that =>
          if that.is ']' then return
          let high ← classMember that
          let bad : Parse Unit :=
            fail ("bad character range " ++ ofCodes (this.codes ++ '-'.toNat :: that.codes))
              (this.codes.length + 1 + that.codes.length)
          match low, high with
          | .literal lo, .literal hi => if hi < lo then bad
          | _, _ => bad
      classMembers start false fuel

end WebAcl.Regex
