import WebAcl.Number.Literal
import WebAcl.Regex.Escape
import WebAcl.Regex.Flags
import WebAcl.Regex.Node
import WebAcl.Text.Identifier
import WebAcl.Text.Quoted

namespace WebAcl.Regex

open Text Parse

def isName (name : List Nat) : Bool := isIdentifier (name.map Char.ofNat)

def checkGroupName (name : List Nat) : Parse Unit :=
  if isName name then pure ()
  else fail ("bad character in group name " ++ quoted (ofCodes name)) (name.length + 1)

def groupNamed (name : List Nat) : Parse Nat := do
  match (← get).names.lookup name with
  | some group => return group
  | none => fail ("unknown group name " ++ quoted (ofCodes name)) (name.length + 1)

def openGroup (name : Option (List Nat)) : Parse Nat := do
  let s ← get
  let group := s.nextGroup
  match name with
  | none => set { s with groups := s.groups ++ [none] }
  | some n =>
    match s.names.lookup n with
    | some earlier =>
      fail ("redefinition of group name " ++ quoted (ofCodes n) ++
        s!" as group {group}; was group {earlier}") (n.length + 1)
    | none =>
      set { s with groups := s.groups ++ [none], names := (n, group) :: s.names }
  return group

def closeGroup (group : Nat) (body : List Node) : Parse Unit :=
  modify fun s ↦ { s with groups := s.groups.set (group - 1) (some (widthOf s.release body)) }

def groupLimit : Nat := 1073741823

def conditionGroup : Parse Nat := do
  let name ← takeName ')' "group name" [] (← tokensLeft)
  if isName name then groupNamed name
  else
    match Number.readInteger 10 (name.map Char.ofNat) with
    | .ok (.ofNat group) =>
      if group = 0 then fail "bad group number" (name.length + 1)
      if groupLimit ≤ group then fail s!"invalid group reference {group}" (name.length + 1)
      let first := (← position) - name.length - 1
      modify fun s ↦
        if s.conditions.any (·.1 == group) then s
        else { s with conditions := s.conditions ++ [(group, first)] }
      return group
    | _ => fail ("bad character in group name " ++ quoted (ofCodes name)) (name.length + 1)

inductive Opening where
  | capture (name : Option (List Nat))
  | plain (verbose : Bool)
  | look (behind : Bool)
  | condition
  | item (node : Node)
  | nothing
  | globalFlags

def namedReference : Parse Opening := do
  let name ← takeName ')' "group name" [] (← tokensLeft)
  checkGroupName name
  let group ← groupNamed name
  match (← get).closedWidth? group with
  | none => fail "cannot refer to an open group" (name.length + 1)
  | some (lo, hi) =>
    checkBehind group
    return .item (.backreference lo hi)

def extension (start : Nat) (verbose : Bool) : Parse Opening := do
  match ← next? with
  | none => fail "unexpected end of pattern" 0
  | some t =>
    if t.is 'P' then
      if ← accept '<' then
        let name ← takeName '>' "group name" [] (← tokensLeft)
        checkGroupName name
        return .capture (some name)
      else if ← accept '=' then namedReference
      else
        match ← next? with
        | none => fail "unexpected end of pattern" 0
        | some u =>
          fail ("unknown extension ?P" ++ ofCodes u.codes) (u.codes.length + 2)
    else if t.is ':' || t.is '>' then return .plain verbose
    else if t.is '#' then
      skipComment start (← tokensLeft)
      return .nothing
    else if t.is '=' || t.is '!' then return .look false
    else if t.is '<' then
      match ← next? with
      | none => fail "unexpected end of pattern" 0
      | some u =>
        if u.is '=' || u.is '!' then return .look true
        else fail ("unknown extension ?<" ++ ofCodes u.codes) (u.codes.length + 2)
    else if t.is '(' then return .condition
    else if t.isIn flagLetters || t.is '-' then
      match ← groupFlags t.char with
      | none => return .globalFlags
      | some (on, off) => return .plain ((verbose || on.contains 'x') && !off.contains 'x')
    else fail ("unknown extension ?" ++ ofCodes t.codes) (t.codes.length + 1)

def closeParen (start : Nat) : Parse Unit := do
  if !(← accept ')') then failAt start "missing ), unterminated subpattern"

end WebAcl.Regex
