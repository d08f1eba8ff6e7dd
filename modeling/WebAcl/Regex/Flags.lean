import WebAcl.Regex.Reader
import WebAcl.Text.Identifier

namespace WebAcl.Regex

open Text Parse

def flagLetters : List Char := ['i', 'L', 'm', 's', 'x', 'a', 't', 'u']

/-- Flags that choose the meaning of classes; at most one of them can be set. -/
def isTypeFlag (c : Char) : Bool := ['a', 'L', 'u'].contains c

def unknownFlag {α : Type} (t : Token) (otherwise : String) : Parse α :=
  fail (if !t.escaped && isLetter t.char then "unknown flag" else otherwise) t.codes.length

/-- Flags to switch on, from the letter `c` on. Gives the letters and the character after them. -/
def flagsOn (c : Char) (on : List Char) : Nat → Parse (List Char × Char)
  | 0 => fail "missing -, : or )" 0
  | fuel + 1 => do
    if c = 'L' then fail "bad inline flags: cannot use 'L' flag with a str pattern" 0
    if isTypeFlag c && on.any (fun d ↦ isTypeFlag d && d != c) then
      fail "bad inline flags: flags 'a', 'u' and 'L' are incompatible" 0
    let on := on ++ [c]
    match ← next? with
    | none => fail "missing -, : or )" 0
    | some t =>
      if t.isIn [')', '-', ':'] then return (on, t.char)
      else if t.isIn flagLetters then flagsOn t.char on fuel
      else unknownFlag t "missing -, : or )"

def flagsOff (c : Char) (off : List Char) : Nat → Parse (List Char)
  | 0 => fail "missing :" 0
  | fuel + 1 => do
    if isTypeFlag c then fail "bad inline flags: cannot turn off flags 'a', 'u' and 'L'" 0
    let off := off ++ [c]
    match ← next? with
    | none => fail "missing :" 0
    | some t =>
      if t.is ':' then return off
      else if t.isIn flagLetters then flagsOff t.char off fuel
      else unknownFlag t "missing :"

def groupFlags (c : Char) : Parse (Option (List Char × List Char)) := do
  let fuel ← tokensLeft
  let (on, closing) ← if c = '-' then pure ([], '-') else flagsOn c [] fuel
  -- these flags are for the whole expression, not for a group
  if closing = ')' then
    modify fun s ↦
      let f := s.flags
      { s with flags := ⟨f.verbose || on.contains 'x', f.template || on.contains 't',
          f.ascii || on.contains 'a', f.unicode || on.contains 'u'⟩ }
    return none
  if on.contains 't' then fail "bad inline flags: cannot turn on global flag" 1
  let off ← if closing = ':' then pure [] else do
    match ← next? with
    | none => fail "missing flag" 0
    | some t =>
      if t.isIn flagLetters then flagsOff t.char [] fuel else unknownFlag t "missing flag"
  if off.contains 't' then fail "bad inline flags: cannot turn off global flag" 1
  if on.any off.contains then fail "bad inline flags: flag turned on and off" 1
  return some (on, off)

def skipComment (start : Nat) : Nat → Parse Unit
  | 0 => failAt start "missing ), unterminated comment"
  | fuel + 1 => do
    match ← peek? with
    | none => failAt start "missing ), unterminated comment"
    | some t =>
      advance
      if t.is ')' then return else skipComment start fuel

def skipLine : Nat → Parse Unit
  | 0 => pure ()
  | fuel + 1 => do
    match ← next? with
    | none => pure ()
    | some t => if t.is '\n' then pure () else skipLine fuel

def isVerboseBlank (t : Token) : Bool :=
  t.isIn [' ', '\t', '\n', '\r', Char.ofNat 11, Char.ofNat 12]

end WebAcl.Regex
