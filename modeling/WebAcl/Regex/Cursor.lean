namespace WebAcl.Regex

/-- Why an expression is refused. A position counts characters from the start. -/
inductive Fault where
  | malformed (message : String) (position : Option Nat)
  | hugeCode
  | hugeCount
  | flagConflict
  | behindTooFar
  deriving DecidableEq, Repr

structure Token where
  escaped : Bool
  code : Nat
  deriving DecidableEq, Repr

namespace Token

def codes (t : Token) : List Nat :=
  if t.escaped then [0x5c, t.code] else [t.code]

/-- A half, which is no character, is seen as the character NUL. -/
def char (t : Token) : Char := Char.ofNat t.code

def is (t : Token) (c : Char) : Bool :=
  !t.escaped && t.char == c

def isIn (t : Token) (cs : List Char) : Bool :=
  !t.escaped && cs.contains t.char

end Token

structure Cursor where
  rest : List Nat
  position : Nat
  deriving DecidableEq, Repr

namespace Cursor

def peek? (c : Cursor) : Option Token :=
  match c.rest with
  | [] => none
  | 0x5c :: n :: _ => some ⟨true, n⟩
  | n :: _ => some ⟨false, n⟩

def check (c : Cursor) : Except Fault Cursor :=
  match c.rest with
  | [0x5c] => .error (.malformed "bad escape (end of pattern)" (some c.position))
  | _ => .ok c

def start (pattern : List Nat) : Except Fault Cursor :=
  check ⟨pattern, 0⟩

def advance (c : Cursor) : Except Fault Cursor :=
  match c.peek? with
  | none => .ok c
  | some t => check ⟨c.rest.drop t.codes.length, c.position + t.codes.length⟩

end Cursor

end WebAcl.Regex
