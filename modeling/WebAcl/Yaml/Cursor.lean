import WebAcl.Problem

namespace WebAcl.Yaml

/-- Why a text cannot be read: it breaks the rules of the language, or a scalar has a type that its
text does not fit. -/
inductive Fault where
  | malformed
  | crash (c : Crash)
  deriving DecidableEq, Repr

/-- What is left to read of a text of `size` characters, with the number of characters before it,
its line and its column. -/
structure Cursor where
  rest : List Char
  size : Nat
  index : Nat := 0
  line : Nat := 0
  column : Nat := 0

def nul : Char := Char.ofNat 0

def byteOrderMark : Char := Char.ofNat 0xfeff

def isBreak (c : Char) : Bool :=
  c == '\n' || c.toNat == 0x85 || c.toNat == 0x2028 || c.toNat == 0x2029

def isLineEnd (c : Char) : Bool := c == nul || isBreak c

def isSpaceOrEnd (c : Char) : Bool := c == ' ' || isLineEnd c

def isGap (c : Char) : Bool := c == '\t' || isSpaceOrEnd c

namespace Cursor

def ofText (cs : List Char) : Cursor := { rest := cs, size := cs.length }

def ahead (c : Cursor) (k : Nat) : Char := c.rest.getD k nul

def peek (c : Cursor) : Char := c.ahead 0

/-- Moves behind one character. A byte order mark takes no column. -/
def step (c : Cursor) : Cursor :=
  match c.rest with
  | [] => c
  | d :: rest =>
    let next := { c with rest := rest, index := c.index + 1 }
    if isBreak d then { next with line := c.line + 1, column := 0 }
    else if d == byteOrderMark then next
    else { next with column := c.column + 1 }

def skip (c : Cursor) : Nat → Cursor
  | 0 => c
  | n + 1 => c.step.skip n

def span (c : Cursor) (p : Char → Bool) : List Char × Cursor :=
  let cs := c.rest.takeWhile p
  (cs, c.skip cs.length)

def skipWhile (c : Cursor) (p : Char → Bool) : Cursor := (c.span p).2

def skipSpaces (c : Cursor) : Cursor := c.skipWhile (· == ' ')

def skipComment (c : Cursor) : Cursor :=
  if c.peek == '#' then c.skipWhile (!isLineEnd ·) else c

/-- Reads a line break, if there is one. The breaks that are not specific to text lines are kept as
they are. -/
def lineBreak (c : Cursor) : List Char × Cursor :=
  let d := c.peek
  if d == '\n' || d.toNat == 0x85 then (['\n'], c.step)
  else if isBreak d then ([d], c.step)
  else ([], c)

def atMarker (c : Cursor) (d : Char) : Bool :=
  c.ahead 0 == d && c.ahead 1 == d && c.ahead 2 == d && isGap (c.ahead 3)

def atDocumentMarker (c : Cursor) : Bool := c.atMarker '-' || c.atMarker '.'

end Cursor

end WebAcl.Yaml
