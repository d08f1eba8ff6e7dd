import WebAcl.Regex.Group
import WebAcl.Regex.Repeat

namespace WebAcl.Regex

open Parse

mutual

/-- Alternatives up to a closing parenthesis or the end. At the top level the verbose flag may
change with the first alternative. -/
def alternatives (top verbose : Bool) (read : List (List Node)) : Nat → Parse (List Node)
  | 0 => return []
  | fuel + 1 => do
    let items ← sequence (top && read.isEmpty) verbose [] fuel
    let read := read ++ [items]
    if ← accept '|' then
      let flags := (← get).flags
      alternatives top (if top then flags.verbose else verbose) read fuel
    else
      match read with
      | [only] => return only
      | _ => return [.branch read]

/-- Items up to a bar, a closing parenthesis or the end. Those already read are listed last first;
`first` tells that flags for the whole expression may still be set. -/
def sequence (first verbose : Bool) (items : List Node) : Nat → Parse (List Node)
  | 0 => return items.reverse
  | fuel + 1 => do
    match ← peek? with
    | none => return items.reverse
    | some this =>
      if this.is '|' || this.is ')' then return items.reverse
      advance
      if verbose && isVerboseBlank this then sequence first verbose items fuel
      else if verbose && this.is '#' then
        skipLine (← tokensLeft)
        sequence first verbose items fuel
      else if this.escaped then
        match ← itemEscape this with
        | .literal _ | .charClass => sequence first verbose (.unit :: items) fuel
        | .anchor => sequence first verbose (.anchor :: items) fuel
        | .backreference group =>
          let (lo, hi) := ((← get).closedWidth? group).getD (0, 0)
          sequence first verbose (.backreference lo hi :: items) fuel
      else if this.is '[' then
        let start := (← position) - 1
        let _ ← accept '^'
        classMembers start true (← tokensLeft)
        sequence first verbose (.unit :: items) fuel
      else if this.is '?' then
        sequence first verbose (← repeatLast (← position) 0 (some 1) items) fuel
      else if this.is '*' then
        sequence first verbose (← repeatLast (← position) 0 none items) fuel
      else if this.is '+' then
        sequence first verbose (← repeatLast (← position) 1 none items) fuel
      else if this.is '\x7b' then
        let before := (← get).cursor
        if (before.peek?).any (·.is '\x7d') then sequence first verbose (.unit :: items) fuel
        else
          match ← repeatBounds? before.position with
          | some (least, most) =>
            sequence first verbose (← repeatLast before.position least most items) fuel
          | none =>
            modify fun s ↦ { s with cursor := before }
            sequence first verbose (.unit :: items) fuel
      else if this.is '^' || this.is '$' then
        sequence first verbose (.anchor :: items) fuel
      else if this.is '(' then
        match ← parenthesis first verbose items.isEmpty fuel with
        | some node => sequence first verbose (node :: items) fuel
        | none =>
          let flags := (← get).flags
          sequence first (verbose || first && flags.verbose) items fuel
      else sequence first verbose (.unit :: items) fuel

def parenthesis (first verbose empty : Bool) : Nat → Parse (Option Node)
  | 0 => return none
  | fuel + 1 => do
    let start := (← position) - 1
    let opening ← if ← accept '?' then extension start verbose else pure (.capture none)
    match opening with
    | .item node => return some node
    | .nothing => return none
    | .globalFlags =>
      if first && empty then return none
      else failAt start "global flags not at the start of the expression"
    | .plain verbose =>
      let body ← alternatives false verbose [] fuel
      closeParen start
      return some (.group body)
    | .capture name =>
      let group ← openGroup name
      let body ← alternatives false verbose [] fuel
      closeParen start
      closeGroup group body
      return some (.group body)
    | .look behind =>
      let outer := (← get).behind
      if behind && outer.isNone then
        modify fun s ↦ { s with behind := some s.nextGroup }
      let body ← alternatives false verbose [] fuel
      if behind && outer.isNone then
        modify fun s ↦ { s with behind := none }
      closeParen start
      return some (.look behind body)
    | .condition =>
      let group ← conditionGroup
      checkBehind group
      let yes ← sequence false verbose [] fuel
      let no ← if ← accept '|' then
          let no ← sequence false verbose [] fuel
          if ((← peek?).any (·.is '|')) then
            fail "conditional backref with more than two branches" 0
          pure (some no)
        else pure none
      closeParen start
      return some (.conditional yes no)

end

def expression (fuel : Nat) : Parse (List Node) := do
  let nodes ← alternatives true false [] fuel
  let s ← get
  if s.flags.ascii && s.flags.unicode then throw .flagConflict
  if (← peek?).isSome then fail "unbalanced parenthesis" 0
  match s.conditions.find? fun c ↦ s.nextGroup ≤ c.1 with
  | some (group, position) => failAt position s!"invalid group reference {group}"
  | none => return nodes

def check (release : Release) (pattern : List Char) : Except Fault Unit := do
  let codes := Text.codesOf pattern
  let cursor ← Cursor.start codes
  let (nodes, s) ← (expression (3 * codes.length + 3)).run { release := release, cursor := cursor }
  match lateFaultOf? release s.flags.template nodes with
  | some fault => throw (.malformed fault.message none)
  | none => if looksTooFarIn release nodes then throw .behindTooFar

def lineAndColumn (pattern : List Char) (position : Nat) : Nat × Nat :=
  let before := (Text.codesOf pattern).take position
  (before.count 10 + 1, (before.reverse.takeWhile (· != 10)).length + 1)

def faultText (pattern : List Char) (message : String) : Option Nat → String
  | none => message
  | some position =>
    let (line, column) := lineAndColumn pattern position
    message ++ s!" at position {position}" ++
      (if pattern.contains '\n' then s!" (line {line}, column {column})" else "")

end WebAcl.Regex
