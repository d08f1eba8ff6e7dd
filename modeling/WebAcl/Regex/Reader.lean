import WebAcl.Regex.Node
import WebAcl.Regex.Cursor

namespace WebAcl.Regex

structure Flags where
  verbose : Bool := false
  template : Bool := false
  ascii : Bool := false
  unicode : Bool := false
  deriving DecidableEq, Repr

/-- State of reading. The width of a group is absent while the group is open; groups are numbered
from 1 in the order of their opening. Inside a look-behind, `behind` is the number of the first
group that was not yet open when it began. -/
structure State where
  release : Release
  cursor : Cursor
  flags : Flags := {}
  groups : List (Option (Nat × Nat)) := []
  names : List (List Nat × Nat) := []
  behind : Option Nat := none
  conditions : List (Nat × Nat) := []

namespace State

def nextGroup (s : State) : Nat := s.groups.length + 1

def closedWidth? (s : State) (group : Nat) : Option (Nat × Nat) :=
  if group = 0 then none else (s.groups[group - 1]?).join

end State

abbrev Parse := StateT State (Except Fault)

namespace Parse

def position : Parse Nat := return (← get).cursor.position

def failAt {α : Type} (position : Nat) (message : String) : Parse α :=
  throw (.malformed message (some position))

def fail {α : Type} (message : String) (offset : Nat) : Parse α := do
  failAt ((← position) - offset) message

def peek? : Parse (Option Token) := return (← get).cursor.peek?

def advance : Parse Unit := do
  let s ← get
  set { s with cursor := ← s.cursor.advance }

def next? : Parse (Option Token) := do
  let t ← peek?
  advance
  return t

def accept (c : Char) : Parse Bool := do
  match ← peek? with
  | some t => if t.is c then advance *> pure true else pure false
  | none => pure false

def takeWhile (p : Char → Bool) : Nat → Parse (List Char)
  | 0 => pure []
  | n + 1 => do
    match ← peek? with
    | some t =>
      if !t.escaped && p t.char then
        advance
        return t.char :: (← takeWhile p n)
      else return []
    | none => return []

/-- Reads up to a closing character, which is read as well. The text before it is a name of some
sort, described by `what`, and must not be empty. -/
def takeName (closing : Char) (what : String) (read : List Nat) : Nat → Parse (List Nat)
  | 0 => fail ("missing " ++ what) 0
  | fuel + 1 => do
    match ← next? with
    | none =>
      if read.isEmpty then fail ("missing " ++ what) 0
      else fail ("missing " ++ String.ofList [closing] ++ ", unterminated name") read.length
    | some t =>
      if t.is closing then
        if read.isEmpty then fail ("missing " ++ what) 1 else return read
      else takeName closing what (read ++ t.codes) fuel

def tokensLeft : Parse Nat := return (← get).cursor.rest.length + 1

end Parse

end WebAcl.Regex
